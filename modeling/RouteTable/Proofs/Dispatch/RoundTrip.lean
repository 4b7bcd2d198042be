import RouteTable.Proofs.Dispatch.Entry
import RouteTable.Proofs.Dispatch.Precedence
import RouteTable.Proofs.Pattern.Matching

/-!
# Matching and making paths

A declaration that was the first of its name is what the name stands for. The variables of a request
that it answers make the path of the request again; and where its placeholders stand for segments, a
path that is made from values has these values for its variables.

* `generate_of_woven`: a named route makes the path woven with the values of its parameters.
* `answered_cases`: what is found, from the declaration that made its entry.
* `exists_woven_of_found`: it has been woven from the pattern of the declaration.
* `find_of_woven`: where segments are apart, what has been woven is found with the values woven in.
* `generate_found`: matching, then making the path, leads back to the path.
* `found_generate`: making the path, then matching, leads back to the values.
-/

namespace RouteTable

/-! ## Tokens of declarations -/

namespace Declaration

variable {d : Declaration}

theorem isRead_tokens (d : Declaration) : ∀ t ∈ d.tokens, t.IsRead := by
  unfold tokens
  cases hread : readTokens d.pattern with
  | error fault => exact fun t ht => absurd ht List.not_mem_nil
  | ok ts => exact isRead_of_read hread

theorem keepGroups_tokens (h : d.keepsGroups = true) : keepGroups d.tokens = true := by
  unfold keepsGroups at h
  unfold tokens
  cases hread : readTokens d.pattern with
  | error fault => rfl
  | ok ts =>
    rw [hread] at h
    exact h

/-- No name occurs twice. -/
theorem nodup_names {p : CompiledPattern} (h : d.compiled? = some p) : p.names.Nodup := by
  have htokens := ofTokens_tokens h
  have hnames := (ofTokens_eq_ok htokens).2.2
  unfold CompiledPattern.ofTokens at htokens
  simp only at htokens
  split at htokens
  · exact absurd htokens (by simp)
  · rename_i hrepeated
    rw [hnames]
    exact (firstRepeated?_eq_none_iff.mp hrepeated).1

end Declaration

/-- A declaration that was taken in has a literal path or a compiled pattern. -/
theorem path_or_compiled {calls : List Declaration} {d : Declaration}
    (hd : d ∈ (RouteSet.empty.declareEach calls).1) :
    (∃ path, d.path? = some path) ∨ ∃ p, d.compiled? = some p := by
  refine run_induction (P := fun ds _ => ∀ d ∈ ds, (∃ path, d.path? = some path) ∨
    ∃ p, d.compiled? = some p) (fun d hd => absurd hd List.not_mem_nil) ?_ calls d hd
  intro ds s d s' _ hds haccepts e he
  rcases List.mem_append.mp he with he | he
  · exact hds e he
  · obtain rfl := List.mem_singleton.mp he
    cases haccepts with
    | literal hpath => exact Or.inl ⟨_, hpath⟩
    | known _ hp => exact Or.inr ⟨_, hp⟩
    | fresh _ hp => exact Or.inr ⟨_, hp⟩

theorem names_eq {calls : List Declaration} {d : Declaration}
    (hd : d ∈ (RouteSet.empty.declareEach calls).1) :
    d.names = d.tokens.filterMap Token.name? := by
  rcases path_or_compiled hd with ⟨path, hpath⟩ | ⟨p, hp⟩
  · rw [Declaration.names_of_path hpath, Declaration.tokens_of_path hpath]
    rfl
  · rw [Declaration.names_of_compiled hp, (ofTokens_eq_ok (Declaration.ofTokens_tokens hp)).2.2]

/-! ## Making paths -/

/-- A named route makes the path woven with the values of its parameters. -/
theorem generate_of_woven {named : NamedRoutes} {name : String} {d : Declaration}
    (hname : named.get? name = some d.namedRoute) {params : List (String × String)}
    {values : List String} {path : String} (h : Woven d.tokens values path.toList)
    (hvalues : (d.tokens.filterMap Token.name?).map (params.lookup ·) = values.map some) :
    named.generate name params = .ok path := by
  have htemplate : d.template.toList = d.tokens.flatMap fun t => t.template.toList := by
    rw [Declaration.template, String.toList_join, List.flatMap_map]
  rw [NamedRoutes.generate, hname]
  simp only [Declaration.namedRoute]
  rw [htemplate, fillIn_template d.isRead_tokens h hvalues]
  simp only [String.ofList_toList]

/-- The values of a list of pairs are looked up under their names, if no name occurs twice. -/
theorem lookup_zip : ∀ {names values : List String}, names.Nodup →
    names.length = values.length →
      names.map ((names.zip values).lookup ·) = values.map some
  | [], [], _, _ => rfl
  | name :: names, value :: values, hnodup, hlength => by
    rw [List.nodup_cons] at hnodup
    have ih := lookup_zip hnodup.2 (Nat.succ.inj hlength)
    rw [List.zip_cons_cons, List.map_cons, List.map_cons, List.lookup_cons, beq_self_eq_true, ← ih]
    refine congrArg _ (List.map_congr_left fun n hn => ?_)
    have hne : (n == name) = false := by
      rw [beq_eq_false_iff_ne]
      rintro rfl
      exact hnodup.1 hn
    rw [List.lookup_cons, hne]

/-! ## Matching -/

section Match

variable {ds : List Declaration} {s : RouteSet} {d : Declaration} {method path : String}

/-- The variables of a declaration are what its compiled expression finds. -/
theorem exists_captures_of_matchAlone {p : CompiledPattern} (hp : d.compiled? = some p)
    (hmatch : (matchAlone? p.regex path).isSome = true) :
    ∃ matcher c, Regex.compile (anchored p.regex) = .ok matcher ∧
      matcher.captures? path = some c ∧ d.variables path = c.variables p.names := by
  obtain ⟨c, hc⟩ := Option.isSome_iff_exists.mp hmatch
  have hvariables : d.variables path = c.variables p.names := by
    rw [Declaration.variables, Declaration.regex?_of_compiled hp, Option.bind_some, hc,
      Declaration.names_of_compiled hp]
    rfl
  unfold matchAlone? at hc
  split at hc
  · rename_i matcher hcompile
    exact ⟨matcher, c, hcompile, hc, hvariables⟩
  · exact absurd hc (by simp)

/-- What a declaration matches alone is woven from its pattern, with the values of its variables. -/
theorem exists_woven_of_matchAlone (hkeep : d.keepsGroups = true) {p : CompiledPattern}
    (hp : d.compiled? = some p) (hmatch : (matchAlone? p.regex path).isSome = true) :
    ∃ values, Woven d.tokens values path.toList ∧ d.variables path = d.names.zip values := by
  obtain ⟨matcher, c, hcompile, hc, hvariables⟩ := exists_captures_of_matchAlone hp hmatch
  rw [hvariables, Declaration.names_of_compiled hp]
  exact exists_woven_of_captures (Declaration.ofTokens_tokens hp)
    (Declaration.keepGroups_tokens hkeep) hcompile hc

/-- Only the path itself is woven from a literal path. -/
theorem eq_of_woven_literal {literal : String} (hpath : d.path? = some literal)
    {values : List String} (h : Woven d.tokens values path.toList) : path = literal := by
  rw [Declaration.tokens_of_path hpath] at h
  generalize hcs : path.toList = cs at h
  cases h with
  | literal _ h =>
    cases h
    rw [List.append_nil] at hcs
    exact String.toList_inj.mp hcs

/-- Where segments are apart, a declaration matches alone what is woven from its pattern. -/
theorem isSome_matchAlone_of_woven (h : History ds s) (hd : d ∈ ds)
    (hkeep : d.keepsGroups = true) {p : CompiledPattern} (hp : d.compiled? = some p)
    (hapart : segmentsApart d.tokens = true) {values : List String}
    (hwoven : Woven d.tokens values path.toList) : (matchAlone? p.regex path).isSome = true := by
  have hregex := Declaration.regex?_of_compiled hp
  have hmem := (h.mem_regexes p.regex).mpr (List.mem_filterMap.mpr ⟨d, hd, hregex⟩)
  obtain ⟨r, -, hr⟩ := List.mem_map.mp hmem
  have hcompile : Regex.compile (anchored p.regex) = .ok r.matcher := by rw [← hr, r.compiled]
  rw [matchAlone?, hcompile]
  exact isSome_captures_of_woven (Declaration.ofTokens_tokens hp)
    (Declaration.keepGroups_tokens hkeep) hcompile hapart hwoven

/-- What matches and is preceded by nothing that does is found first. -/
theorem find?_of_takeWhile {α : Type} [BEq α] [LawfulBEq α] {q : α → Bool} {x : α}
    (hq : q x = true) : ∀ {xs : List α}, x ∈ xs →
      (∀ y ∈ xs.takeWhile (fun y => y != x), q y = false) → xs.find? q = some x
  | y :: xs, hx, hbefore => by
    by_cases hy : y = x
    · rw [hy, List.find?_cons, hq]
    · have hne : (y != x) = true := bne_iff_ne.mpr hy
      rw [List.takeWhile_cons, if_pos hne, List.forall_mem_cons] at hbefore
      have hmem : x ∈ xs := (List.mem_cons.mp hx).resolve_left (Ne.symm hy)
      rw [List.find?_cons, hbefore.1]
      exact find?_of_takeWhile hq hmem hbefore.2

/-- An expression that matches is the first if none declared before it does. -/
theorem firstMatch?_of_takeWhile (hd : d ∈ ds) {regex : String} (hregex : d.regex? = some regex)
    (hmatch : (matchAlone? regex path).isSome = true)
    (hbefore : ∀ other ∈ (ds.filterMap Declaration.regex?).takeWhile
      (fun other => d.regex? != some other), matchAlone? other path = none) :
    firstMatch? ds path = some regex := by
  have hsame : (fun other => d.regex? != some other) = fun other => other != regex := by
    funext other
    rw [hregex, Bool.eq_iff_iff, bne_iff_ne, bne_iff_ne, Ne, Option.some.injEq, eq_comm]
  rw [hsame] at hbefore
  refine @find?_of_takeWhile _ _ _ (fun other => (matchAlone? other path).isSome) regex hmatch _
    (List.mem_filterMap.mpr ⟨d, hd, hregex⟩) fun other hother => ?_
  rw [hbefore other hother, Option.isSome_none]

/-- On record there is one declaration for the first expression that matches, and it is chosen. -/
theorem Records.chosen_of_firstMatch (h : Records ds s) (hd : d ∈ ds) {regex : String}
    (hfor : d.isForRegex regex method = true) (hfirst : firstMatch? ds path = some regex) :
    chosen? ds method path = some d := by
  rw [chosen?, hfirst, Option.bind_some]
  exact (find?_eq_some_iff_mem (h.targetsOnce regex method)).mpr ⟨hd, hfor⟩

theorem reference_of_chosen (hliteral : ds.find? (Declaration.isForPath path method) = none)
    (hchosen : chosen? ds method path = some d) :
    reference ds method path = .found ⟨d.handler, d.variables path⟩ := by
  rw [reference, hliteral, referenceByRegex, hchosen]

end Match

section Dispatchers

/-- A table has a declaration under its name, if that was the first of the name. -/
theorem get?_named {calls : List Declaration} {table : DispatchTable}
    (hbuild : (RouteSet.empty.declareEach calls).2.build = .ok table) {name : String}
    {d : Declaration}
    (hname : (RouteSet.empty.declareEach calls).1.find? (Declaration.hasName name) = some d) :
    table.named.get? name = some d.namedRoute := by
  rw [(build_eq_ok hbuild).2, named_declareEach, hname]
  rfl

/-- Without a handler in the table no declaration is for the literal path. -/
theorem find?_isForPath_eq_none {calls : List Declaration} {table : DispatchTable}
    (hbuild : (RouteSet.empty.declareEach calls).2.build = .ok table) {method path : String}
    (hnone : (table.staticRoutes.get? path).bind (·.get? method) = none) :
    (RouteSet.empty.declareEach calls).1.find? (Declaration.isForPath path method) = none := by
  rwa [(build_eq_ok hbuild).2, (history_declareEach calls).static, Option.map_eq_none_iff] at hnone

variable {calls : List Declaration} {table : DispatchTable} {disp : Dispatcher}
  {d : Declaration} {method path : String}

/-- What is found is the handler of the declaration that made its entry: alone for a literal path,
otherwise with what the declaration's expression finds when it is matched alone. -/
theorem answered_cases
    (hkeep : ∀ d ∈ (RouteSet.empty.declareEach calls).1, d.keepsGroups = true)
    (hbuild : (RouteSet.empty.declareEach calls).2.build = .ok table)
    (hload : Dispatcher.ofTable table = .ok disp)
    (hd : d ∈ (RouteSet.empty.declareEach calls).1) {f : Found}
    (hfound : disp.find method path = .found f)
    (hentry : AnsweredBy (RouteSet.empty.declareEach calls).2 disp method path d) :
    d.path? = some path ∧ f = ⟨d.handler, []⟩ ∨
      ∃ p, d.compiled? = some p ∧ (matchAlone? p.regex path).isSome = true ∧
        f = ⟨d.handler, d.variables path⟩ := by
  have h := history_declareEach calls
  obtain ⟨d', hd', hentry', hhandler, hnames⟩ := exists_answeredBy hbuild hload hfound
  obtain rfl := hentry'.unique hbuild hload hd' hd hentry
  cases hentry with
  | literal hfor =>
    rw [Declaration.isForPath_iff] at hfor
    rw [Declaration.names_of_path hfor.1, List.map_eq_nil_iff] at hnames
    refine Or.inl ⟨hfor.1, ?_⟩
    rw [← hhandler, ← hnames]
  | @expression r hnone hhit hfor =>
    have hfirst := h.hit_eq hkeep hbuild hload path
    rw [hhit, Option.map_some] at hfirst
    rw [table_of_ofTable hload] at hnone
    -- the reference chooses by the same expression: what is found are the declaration's variables
    have hchosen := (records_declareEach calls).chosen_of_firstMatch hd hfor hfirst.symm
    rw [h.find_eq hkeep hbuild hload,
      reference_of_chosen (find?_isForPath_eq_none hbuild hnone) hchosen] at hfound
    rw [Declaration.isForRegex_iff, Declaration.regex?, Option.map_eq_some_iff] at hfor
    obtain ⟨⟨p, hp, hregex⟩, -⟩ := hfor
    refine Or.inr ⟨p, hp, ?_, (Answer.found.inj hfound).symm⟩
    rw [hregex]
    exact isSome_of_firstMatch hfirst.symm

/-- What is found has been woven from the pattern of the declaration that made its entry, with the
values that are found. -/
theorem exists_woven_of_found
    (hkeep : ∀ d ∈ (RouteSet.empty.declareEach calls).1, d.keepsGroups = true)
    (hbuild : (RouteSet.empty.declareEach calls).2.build = .ok table)
    (hload : Dispatcher.ofTable table = .ok disp)
    (hd : d ∈ (RouteSet.empty.declareEach calls).1) {f : Found}
    (hfound : disp.find method path = .found f)
    (hentry : AnsweredBy (RouteSet.empty.declareEach calls).2 disp method path d) :
    ∃ values, Woven d.tokens values path.toList ∧ d.names.Nodup ∧ f.handler = d.handler ∧
      f.values = d.names.zip values := by
  rcases answered_cases hkeep hbuild hload hd hfound hentry with
    ⟨hpath, rfl⟩ | ⟨p, hp, hmatch, rfl⟩
  · have hnil := Declaration.names_of_path hpath
    refine ⟨[], ?_, hnil ▸ List.nodup_nil, rfl, by rw [hnil]; rfl⟩
    rw [Declaration.tokens_of_path hpath, ← List.append_nil path.toList]
    exact Woven.nil.literal path
  · obtain ⟨values, hwoven, hvalues⟩ := exists_woven_of_matchAlone (hkeep _ hd) hp hmatch
    refine ⟨values, hwoven, ?_, rfl, hvalues⟩
    rw [Declaration.names_of_compiled hp]
    exact Declaration.nodup_names hp

/-- **Matching, then making the path, leads back to the path.** If the entry of a declaration
answers a request, and its name is its own, the variables that are found make the path of the
request. -/
theorem generate_found
    (hkeep : ∀ d ∈ (RouteSet.empty.declareEach calls).1, d.keepsGroups = true)
    (hbuild : (RouteSet.empty.declareEach calls).2.build = .ok table)
    (hload : Dispatcher.ofTable table = .ok disp) {name : String}
    (hname : (RouteSet.empty.declareEach calls).1.find? (Declaration.hasName name) = some d)
    {f : Found} (hfound : disp.find method path = .found f)
    (hentry : AnsweredBy (RouteSet.empty.declareEach calls).2 disp method path d) :
    f.handler = d.handler ∧ f.values.map Prod.fst = d.names ∧
      table.named.generate name f.values = .ok path := by
  have hd := List.mem_of_find?_eq_some hname
  obtain ⟨values, hwoven, hnodup, hhandler, hvalues⟩ :=
    exists_woven_of_found hkeep hbuild hload hd hfound hentry
  have hlength : d.names.length = values.length := by rw [hwoven.length_eq, names_eq hd]
  refine ⟨hhandler, ?_, ?_⟩
  · rw [hvalues, List.map_fst_zip (Nat.le_of_eq hlength)]
  · refine generate_of_woven (get?_named hbuild hname) hwoven ?_
    rw [← names_eq hd, hvalues]
    exact lookup_zip hnodup hlength

/-- Declarations with names. The last name is taken. -/
def blog : List Declaration :=
  let get := Methods.ofList (Method.ofString? "GET").toList
  [⟨get, "/posts/{year:[0-9]+}/{slug}", ⟨"Posts", "show"⟩, some "post"⟩,
    ⟨get, "/posts/latest", ⟨"Posts", "latest"⟩, some "latest"⟩,
    ⟨get, "/{section}/about", ⟨"Pages", "about"⟩, some "about"⟩,
    ⟨get, "/{section}/news", ⟨"Pages", "news"⟩, some "post"⟩]

theorem declareEach_blog : (RouteSet.empty.declareEach blog).1 = blog := by decide +kernel

theorem keepsGroups_blog :
    ∀ d ∈ (RouteSet.empty.declareEach blog).1, d.keepsGroups = true := by
  rw [declareEach_blog]
  decide +kernel

theorem serves_blog : (RouteSet.empty.declareEach blog).2.serves = true := by decide +kernel

theorem generate_blog : ∃ table disp f,
    (RouteSet.empty.declareEach blog).2.build = .ok table ∧
      Dispatcher.ofTable table = .ok disp ∧
      disp.find "GET" "/posts/2024/a{b}c" = .found f ∧
      f.values = [("year", "2024"), ("slug", "a{b}c")] ∧
      table.named.generate "post" f.values = .ok "/posts/2024/a{b}c" := by
  have hanswer : reference blog "GET" "/posts/2024/a{b}c" =
      .found ⟨⟨"Posts", "show"⟩, [("year", "2024"), ("slug", "a{b}c")]⟩ := by decide +kernel
  have hname : blog.find? (Declaration.hasName "post") = some blog[0] := by decide +kernel
  have hothers : ∀ d ∈ blog, d.handler = ⟨"Posts", "show"⟩ → d = blog[0] := by decide +kernel
  obtain ⟨table, disp, hbuild, hload⟩ := exists_of_serves serves_blog
  have hfound := (history_declareEach blog).find_eq keepsGroups_blog hbuild hload
    "GET" "/posts/2024/a{b}c"
  rw [declareEach_blog, hanswer] at hfound
  obtain ⟨d, hd, hentry, hhandler, -⟩ := exists_answeredBy hbuild hload hfound
  rw [declareEach_blog] at hd
  obtain rfl := hothers d hd hhandler.symm
  obtain ⟨-, -, hpath⟩ := generate_found keepsGroups_blog hbuild hload
    (by rw [declareEach_blog]; exact hname) hfound hentry
  exact ⟨table, disp, _, hbuild, hload, hfound, rfl, hpath⟩

/-- Segments for all names make a path, and are woven into it. -/
theorem exists_path_of_params (hbuild : (RouteSet.empty.declareEach calls).2.build = .ok table)
    {name : String}
    (hname : (RouteSet.empty.declareEach calls).1.find? (Declaration.hasName name) = some d)
    {params : List (String × String)}
    (hparams : ∀ n ∈ d.names, ∃ value, params.lookup n = some value ∧ IsSegment value) :
    ∃ path, table.named.generate name params = .ok path ∧
      Woven d.tokens (d.names.map fun n => (params.lookup n).getD "") path.toList := by
  have hnames := names_eq (List.mem_of_find?_eq_some hname)
  have hsegments : ∀ value ∈ d.names.map fun n => (params.lookup n).getD "", IsSegment value := by
    intro value hvalue
    obtain ⟨n, hn, rfl⟩ := List.mem_map.mp hvalue
    obtain ⟨value, hlookup, hsegment⟩ := hparams n hn
    rwa [hlookup]
  have hvalues : (d.tokens.filterMap Token.name?).map (params.lookup ·) =
      (d.names.map fun n => (params.lookup n).getD "").map some := by
    rw [← hnames, List.map_map]
    refine List.map_congr_left fun n hn => ?_
    obtain ⟨value, hlookup, -⟩ := hparams n hn
    simp only [Function.comp, hlookup, Option.getD_some]
  obtain ⟨cs, hwoven⟩ := exists_woven (by rw [List.length_map, hnames]) hsegments
  rw [← String.toList_ofList (l := cs)] at hwoven
  exact ⟨String.ofList cs, generate_of_woven (get?_named hbuild hname) hwoven hvalues, hwoven⟩

/-- Where segments are apart, a declaration answers for the path woven from its pattern with the
values woven in, if nothing before it does. -/
theorem find_of_woven
    (hkeep : ∀ d ∈ (RouteSet.empty.declareEach calls).1, d.keepsGroups = true)
    (hbuild : (RouteSet.empty.declareEach calls).2.build = .ok table)
    (hload : Dispatcher.ofTable table = .ok disp)
    (hd : d ∈ (RouteSet.empty.declareEach calls).1) (hapart : segmentsApart d.tokens = true)
    (hlists : d.lists method = true) {values : List String}
    (hwoven : Woven d.tokens values path.toList)
    (hliteral : (RouteSet.empty.declareEach calls).1.find?
      (Declaration.isForPath path method) = none)
    (hbefore : ∀ regex ∈ ((RouteSet.empty.declareEach calls).1.filterMap
      Declaration.regex?).takeWhile (fun regex => d.regex? != some regex),
        matchAlone? regex path = none) :
    disp.find method path = .found ⟨d.handler, d.names.zip values⟩ := by
  have h := history_declareEach calls
  rcases path_or_compiled hd with ⟨literal, hpath⟩ | ⟨p, hp⟩
  · -- a literal declaration is itself for the only path woven from it
    rw [eq_of_woven_literal hpath hwoven] at hliteral
    exact absurd (Declaration.isForPath_iff.mpr ⟨hpath, hlists⟩)
      (List.find?_eq_none.mp hliteral d hd)
  · have hregex := Declaration.regex?_of_compiled hp
    have hmatch := isSome_matchAlone_of_woven h hd (hkeep d hd) hp hapart hwoven
    have hchosen := (records_declareEach calls).chosen_of_firstMatch hd
      (Declaration.isForRegex_iff.mpr ⟨hregex, hlists⟩)
      (firstMatch?_of_takeWhile hd hregex hmatch hbefore)
    -- what is matched has been woven from the same pattern, and so from the same values
    obtain ⟨values', hwoven', hvalues⟩ := exists_woven_of_matchAlone (hkeep d hd) hp hmatch
    rw [h.find_eq hkeep hbuild hload, reference_of_chosen hliteral hchosen, hvalues,
      hwoven.unique hapart hwoven']

/-- **Making the path, then matching, leads back to the values.** If the placeholders of a
declaration stand for segments that are apart, and its name is its own, then values for its
placeholders make a path; and where neither a literal path nor an earlier expression catches that
path, it is answered with the declaration's handler and these values. -/
theorem found_generate
    (hkeep : ∀ d ∈ (RouteSet.empty.declareEach calls).1, d.keepsGroups = true)
    (hbuild : (RouteSet.empty.declareEach calls).2.build = .ok table)
    (hload : Dispatcher.ofTable table = .ok disp) {name : String}
    (hname : (RouteSet.empty.declareEach calls).1.find? (Declaration.hasName name) = some d)
    (hapart : segmentsApart d.tokens = true) {params : List (String × String)}
    (hparams : ∀ n ∈ d.names, ∃ value, params.lookup n = some value ∧ IsSegment value)
    (hlists : d.lists method = true) :
    ∃ path, table.named.generate name params = .ok path ∧
      ((table.staticRoutes.get? path).bind (·.get? method) = none →
        (∀ regex ∈ ((RouteSet.empty.declareEach calls).1.filterMap
            Declaration.regex?).takeWhile (fun regex => d.regex? != some regex),
          matchAlone? regex path = none) →
          disp.find method path =
            .found ⟨d.handler, d.names.map fun n => (n, (params.lookup n).getD "")⟩) := by
  have hd := List.mem_of_find?_eq_some hname
  obtain ⟨path, hgenerate, hwoven⟩ := exists_path_of_params hbuild hname hparams
  refine ⟨path, hgenerate, fun hnone hbefore => ?_⟩
  rw [List.map_prod_left_eq_zip]
  exact find_of_woven hkeep hbuild hload hd hapart hlists hwoven
    (find?_isForPath_eq_none hbuild hnone) hbefore

theorem found_blog : ∃ table disp,
    (RouteSet.empty.declareEach blog).2.build = .ok table ∧
      Dispatcher.ofTable table = .ok disp ∧
      table.named.generate "about" [("lang", "en"), ("section", "a.b")] = .ok "/a.b/about" ∧
      disp.find "GET" "/a.b/about" = .found ⟨⟨"Pages", "about"⟩, [("section", "a.b")]⟩ := by
  have hname : (RouteSet.empty.declareEach blog).1.find? (Declaration.hasName "about") =
      some blog[2] := by decide +kernel
  have hpath : ((RouteSet.empty.declareEach blog).2.named.generate "about"
      [("lang", "en"), ("section", "a.b")]).toOption = some "/a.b/about" := by decide +kernel
  have hstatic : ((RouteSet.empty.declareEach blog).2.staticRoutes.get? "/a.b/about").bind
      (·.get? "GET") = none := by decide +kernel
  have hbefore : (((RouteSet.empty.declareEach blog).1.filterMap Declaration.regex?).takeWhile
      (fun regex => blog[2].regex? != some regex)).all
        (fun regex => (matchAlone? regex "/a.b/about").isNone) = true := by decide +kernel
  have hnames : blog[2].names = ["section"] := by decide +kernel
  have hparams : ∀ n ∈ blog[2].names, ∃ value,
      [("lang", "en"), ("section", "a.b")].lookup n = some value ∧ IsSegment value := by
    intro n hn
    rw [hnames, List.mem_singleton] at hn
    subst hn
    exact ⟨"a.b", rfl, by decide, by decide⟩
  have hlists : blog[2].lists "GET" = true := by decide +kernel
  obtain ⟨table, disp, hbuild, hload⟩ := exists_of_serves serves_blog
  obtain ⟨path, hgenerate, hfound⟩ := found_generate keepsGroups_blog hbuild hload hname
    (by decide +kernel) hparams hlists
  have htable := (build_eq_ok hbuild).2
  have hnamed : table.named = (RouteSet.empty.declareEach blog).2.named := by rw [htable]
  rw [← hnamed, hgenerate] at hpath
  obtain rfl := Option.some.inj hpath
  refine ⟨table, disp, hbuild, hload, hgenerate, ?_⟩
  rw [hfound (by rw [htable]; exact hstatic) fun regex hregex => ?_, hnames]
  · rfl
  · exact Option.isNone_iff_eq_none.mp (List.all_eq_true.mp hbefore regex hregex)

end Dispatchers

end RouteTable
