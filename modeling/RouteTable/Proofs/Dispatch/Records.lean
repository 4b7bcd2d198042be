import RouteTable.Proofs.Dispatch.Reference

/-!
# What is kept of declarations

A set of routes is three stores: nested maps for literal paths, a list of expressions with an index
beside it, and a map of names. Together they say no more and no less than the declarations that were
taken in, and the declarations that were refused in between have left nothing.

* `Records ds s`: the stores of `s` say of every path, expression and name what `ds` says.
* `once_of_accepts`: a declaration that is taken in is the only one for its paths and expressions.
* `get?_named_of_accepts`, `regexes_of_accepts`: what one declaration adds to the other two stores.
* `declareEach_accepted`: declaring once more what was taken in leads to the same set.
* `accepted_kept`: no declaration that is taken in is lost or overwritten, up to the answers.
-/

namespace RouteTable

/-! ## Declarations as they are recorded -/

namespace Declaration

/-- The tokens of the pattern. -/
def tokens (d : Declaration) : List Token := (readTokens d.pattern).toOption.getD []

/-- The pattern with only the names of its placeholders left in braces. -/
def template (d : Declaration) : String := String.join (d.tokens.map Token.template)

/-- Whether the declaration has the name. -/
def hasName (name : String) (d : Declaration) : Bool := d.name == some name

/-- What is needed to make a path of the declaration. -/
def namedRoute (d : Declaration) : NamedRoute := ⟨d.template, d.names⟩

variable {d : Declaration}

theorem tokens_of_path {path : String} (h : d.path? = some path) : d.tokens = [.literal path] := by
  rw [tokens, read_of_path h]
  rfl

theorem pattern_of_isForPath {path method : String} (h : d.isForPath path method = true) :
    path = d.pattern := by
  rw [isForPath_iff] at h
  exact text_of_read (read_of_path h.1)

theorem compiled_of_path {path : String} (h : d.path? = some path) : d.compiled? = none := by
  rw [compiled?, read_of_path h]

theorem ofTokens_tokens {p : CompiledPattern} (h : d.compiled? = some p) :
    CompiledPattern.ofTokens d.tokens = .ok p := by
  obtain ⟨ts, hread, -, hts⟩ := read_of_compiled h
  rw [tokens, hread]
  exact hts

theorem names_of_path {path : String} (h : d.path? = some path) : d.names = [] := by
  rw [names, compiled_of_path h]
  rfl

theorem namedRoute_of_path {path : String} (h : d.path? = some path) :
    d.namedRoute = ⟨path, []⟩ := by
  have htemplate : d.template = path := by
    rw [template, tokens_of_path h, List.map_singleton, String.join_cons, String.join_nil,
      String.append_empty, Token.template]
  rw [namedRoute, htemplate, names_of_path h]

theorem namedRoute_of_compiled {p : CompiledPattern} (h : d.compiled? = some p) :
    d.namedRoute = ⟨p.template, p.names⟩ := by
  rw [namedRoute, names_of_compiled h, template, (ofTokens_eq_ok (ofTokens_tokens h)).2.1]

theorem names_ne_nil {p : CompiledPattern} (h : d.compiled? = some p) : p.names ≠ [] := by
  obtain ⟨ts, hread, hliteral, hts⟩ := read_of_compiled h
  rw [(ofTokens_eq_ok hts).2.2]
  rcases exists_placeholder hread with ⟨path, rfl⟩ | hnames
  · exact absurd rfl (hliteral path)
  · exact hnames

end Declaration

/-- The stores of `s` say of every path, expression and name what the declarations `ds` say. -/
structure Records (ds : List Declaration) (s : RouteSet) : Prop where
  /-- A literal path has the handler that was declared for it, and no other. -/
  static : ∀ (path method : String) (h : Handler),
    (s.staticRoutes.get? path).bind (·.get? method) = some h ↔
      ∃ d ∈ ds, d.isForPath path method = true ∧ d.handler = h
  /-- No two declarations are for one literal path and one method. -/
  staticOnce : ∀ path method : String, (ds.filter (Declaration.isForPath path method)).length ≤ 1
  /-- The expressions are those declared, each once, as they came first. -/
  regexes : s.variableRoutes.routes.map VariableRoute.regex =
    (ds.filterMap Declaration.regex?).eraseDups
  /-- The index has for every expression its own place, and nothing else. -/
  index : ∀ (regex : String) (i : Nat), s.variableRoutes.index.get? regex = some i ↔
    (s.variableRoutes.routes.map VariableRoute.regex)[i]? = some regex
  /-- An expression leads to the handler and the variables that were declared for it. -/
  targets : ∀ (regex method : String) (t : Target),
    (s.variableRoutes.find? regex).bind (·.targets.get? method) = some t ↔
      ∃ d ∈ ds, d.isForRegex regex method = true ∧ t = ⟨d.handler, d.names⟩
  /-- No two declarations are for one expression and one method. -/
  targetsOnce : ∀ regex method : String,
    (ds.filter (Declaration.isForRegex regex method)).length ≤ 1
  /-- A name is that of the first declaration that has it. -/
  named : ∀ name : String, s.named.get? name =
    (ds.find? (Declaration.hasName name)).map Declaration.namedRoute

variable {ds : List Declaration} {s s' : RouteSet} {d : Declaration}

/-! ## One declaration -/

theorem get?_registerName (s : RouteSet) (name : Option String) (route : NamedRoute)
    (other : String) : (s.registerName name route).named.get? other =
      (s.named.get? other).or (if name == some other then some route else none) := by
  unfold RouteSet.registerName
  cases name with
  | none => simp
  | some name =>
    simp only
    split
    · rename_i hcontains
      obtain ⟨old, hold⟩ := Option.isSome_iff_exists.mp hcontains
      by_cases hname : name = other
      · rw [← hname, hold, Option.some_or]
      · simp [hname]
    · rename_i hfree
      rw [SortedMap.contains, Option.not_isSome_iff_eq_none] at hfree
      by_cases hname : name = other
      · subst hname
        rw [SortedMap.get?_insert_self, hfree]
        simp
      · rw [SortedMap.get?_insert_of_ne _ _ (Ne.symm hname)]
        simp [hname]

@[simp]
theorem variableRoutes_registerName (s : RouteSet) (name : Option String) (route : NamedRoute) :
    (s.registerName name route).variableRoutes = s.variableRoutes := by
  unfold RouteSet.registerName
  split
  · rfl
  · split <;> rfl

@[simp]
theorem staticRoutes_registerName (s : RouteSet) (name : Option String) (route : NamedRoute) :
    (s.registerName name route).staticRoutes = s.staticRoutes := by
  unfold RouteSet.registerName
  split
  · rfl
  · split <;> rfl

/-- A declaration gives its name to its route, unless the name is taken. -/
theorem get?_named_of_accepts (h : Accepts s d s') (name : String) :
    s'.named.get? name =
      (s.named.get? name).or (if d.hasName name then some d.namedRoute else none) := by
  cases h with
  | literal hpath _ =>
    rw [Declaration.namedRoute_of_path hpath]
    exact get?_registerName _ _ _ name
  | known _ hp =>
    rw [Declaration.namedRoute_of_compiled hp]
    exact get?_registerName _ _ _ name
  | fresh _ hp =>
    rw [Declaration.namedRoute_of_compiled hp]
    exact get?_registerName _ _ _ name

/-- A declaration adds its expression at the end, unless the expression is there. -/
theorem regexes_of_accepts (h : History ds s) (haccepts : Accepts s d s') :
    s'.variableRoutes.routes.map VariableRoute.regex =
      s.variableRoutes.routes.map VariableRoute.regex ++ d.regex?.toList.filter fun regex =>
        decide (regex ∉ s.variableRoutes.routes.map VariableRoute.regex) := by
  cases haccepts with
  | literal _ hnone =>
    have hregex : d.regex? = none := by rw [Declaration.regex?, hnone]; rfl
    rw [RouteSet.withStatic, variableRoutes_registerName, hregex]
    exact (List.append_nil _).symm
  | @known p _ hp _ hindex =>
    have hregex := Declaration.regex?_of_compiled hp
    have hmem := (h.indexed.contains_iff p.regex).mp hindex
    rw [RouteSet.withTargets, variableRoutes_registerName, h.indexed.map_regex_addTargets, hregex,
      Option.toList_some, List.filter_singleton, decide_eq_false (not_not_intro hmem)]
    exact (List.append_nil _).symm
  | @fresh p route _ hp _ hindex hroute =>
    have hregex := Declaration.regex?_of_compiled hp
    have hroute := (History.ofRegex_eq_ok hroute).1
    have hnew : p.regex ∉ s.variableRoutes.routes.map VariableRoute.regex := fun hmem => by
      rw [(h.indexed.contains_iff p.regex).mpr hmem] at hindex
      exact absurd hindex (by simp)
    have hpush := h.indexed.push (hroute ▸ hindex)
    rw [RouteSet.withTargets, variableRoutes_registerName]
    rw [RouteSet.withRoute, hpush.map_regex_addTargets, VariableRoutes.push, List.map_append,
      List.map_singleton, hroute, hregex, Option.toList_some, List.filter_singleton,
      decide_eq_true hnew]
    rfl

/-- A declaration that is taken in is the first for its literal path and each of its methods, and
the first for its expression and each of them. -/
theorem find?_eq_none_of_accepts (h : History ds s) (haccepts : Accepts s d s')
    (text method : String) :
    (d.isForPath text method = true → ds.find? (Declaration.isForPath text method) = none) ∧
      (d.isForRegex text method = true → ds.find? (Declaration.isForRegex text method) = none) := by
  have hreserved : ∀ {p s₁}, History.Reserved ds d p s₁ → d.path? = none → d.compiled? = some p →
      (d.isForPath text method = true → ds.find? (Declaration.isForPath text method) = none) ∧
        (d.isForRegex text method = true →
          ds.find? (Declaration.isForRegex text method) = none) := by
    intro p s₁ hreserved hpath hp
    rw [d.isForPath_eq_false hpath, Declaration.isForRegex_iff, Declaration.regex?_of_compiled hp,
      Option.some.injEq]
    refine ⟨fun hfalse => absurd hfalse (by simp), ?_⟩
    rintro ⟨rfl, hlists⟩
    exact hreserved.free method hlists
  cases haccepts with
  | literal hpath hnone hdup _ =>
    rw [d.isForRegex_eq_false hnone, Declaration.isForPath_iff, hpath, Option.some.injEq]
    refine ⟨?_, fun hfalse => absurd hfalse (by simp)⟩
    rintro ⟨rfl, hlists⟩
    exact h.static_eq_none hdup hlists
  | known hpath hp hdup hindex => exact hreserved (h.reserved_of_known hp hdup hindex) hpath hp
  | fresh hpath hp _ hindex hroute =>
    exact hreserved (h.reserved_of_fresh hp hindex hroute) hpath hp

/-! ## At most one declaration -/

theorem length_filter_append_le {p : Declaration → Bool} (h : (ds.filter p).length ≤ 1)
    (hd : p d = true → ds.find? p = none) : ((ds ++ [d]).filter p).length ≤ 1 := by
  rw [List.filter_append, List.length_append]
  by_cases hp : p d = true
  · have hnone := List.find?_eq_none.mp (hd hp)
    rw [List.filter_eq_nil_iff.mpr hnone]
    simp [hp]
  · simpa [hp] using h

/-- If at most one declaration has a property, it is the one that is found. -/
theorem find?_eq_some_iff_mem {p : Declaration → Bool} (h : (ds.filter p).length ≤ 1) :
    ds.find? p = some d ↔ d ∈ ds ∧ p d = true := by
  constructor
  · intro hfind
    exact ⟨List.mem_of_find?_eq_some hfind, List.find?_some hfind⟩
  · intro hd
    rw [← List.mem_filter] at hd
    rw [← List.head?_filter]
    cases hfilter : ds.filter p with
    | nil => rw [hfilter] at hd; exact absurd hd List.not_mem_nil
    | cons c cs =>
      rw [hfilter] at hd h
      have hcs : cs = [] := List.length_eq_zero_iff.mp (by rw [List.length_cons] at h; omega)
      rw [hcs, List.mem_singleton] at hd
      rw [List.head?_cons, hd]

/-- If at most one declaration has a property, the order of declarations does not settle which. -/
theorem find?_eq_of_perm {ds' : List Declaration} {p : Declaration → Bool} (hperm : ds.Perm ds')
    (h : (ds.filter p).length ≤ 1) : ds.find? p = ds'.find? p := by
  have h' : (ds'.filter p).length ≤ 1 := (hperm.filter p).length_eq ▸ h
  refine Option.ext fun d => ?_
  rw [find?_eq_some_iff_mem h, find?_eq_some_iff_mem h', hperm.mem_iff]

/-- No two declarations that are taken in are for one path and one method, or for one expression
and one method. -/
theorem once_of_accepts (calls : List Declaration) :
    ∀ text method : String,
      ((RouteSet.empty.declareEach calls).1.filter (Declaration.isForPath text method)).length ≤ 1 ∧
        ((RouteSet.empty.declareEach calls).1.filter
          (Declaration.isForRegex text method)).length ≤ 1 := by
  refine run_induction (P := fun ds _ => ∀ text method : String,
    (ds.filter (Declaration.isForPath text method)).length ≤ 1 ∧
      (ds.filter (Declaration.isForRegex text method)).length ≤ 1) ?_ ?_ calls
  · intro text method
    exact ⟨Nat.zero_le 1, Nat.zero_le 1⟩
  · intro ds s d s' h honce haccepts text method
    obtain ⟨hpath, hregex⟩ := find?_eq_none_of_accepts h haccepts text method
    exact ⟨length_filter_append_le (honce text method).1 hpath,
      length_filter_append_le (honce text method).2 hregex⟩

/-! ## Runs -/

theorem named_declareEach (calls : List Declaration) (name : String) :
    (RouteSet.empty.declareEach calls).2.named.get? name =
      ((RouteSet.empty.declareEach calls).1.find? (Declaration.hasName name)).map
        Declaration.namedRoute := by
  refine run_induction (P := fun ds s => s.named.get? name =
    (ds.find? (Declaration.hasName name)).map Declaration.namedRoute) rfl ?_ calls
  intro ds s d s' _ hnamed haccepts
  rw [get?_named_of_accepts haccepts, hnamed, List.find?_append, List.find?_singleton]
  cases ds.find? (Declaration.hasName name) with
  | some d' => rfl
  | none =>
    simp only [Option.map_none, Option.none_or]
    split <;> rfl

theorem eraseDups_append_toList {α : Type} [DecidableEq α] (xs : List α) (x? : Option α) :
    (xs ++ x?.toList).eraseDups = xs.eraseDups ++ x?.toList.filter fun x => decide (x ∉ xs) := by
  rw [List.eraseDups_append]
  cases x? with
  | none => simp [List.removeAll]
  | some x =>
    by_cases hx : x ∈ xs
    · simp [List.removeAll, hx]
    · simp [List.removeAll, List.eraseDups_cons, hx]

theorem regexes_declareEach (calls : List Declaration) :
    (RouteSet.empty.declareEach calls).2.variableRoutes.routes.map VariableRoute.regex =
      ((RouteSet.empty.declareEach calls).1.filterMap Declaration.regex?).eraseDups := by
  refine run_induction (P := fun ds s => s.variableRoutes.routes.map VariableRoute.regex =
    (ds.filterMap Declaration.regex?).eraseDups) rfl ?_ calls
  intro ds s d s' h hregexes haccepts
  have hlast : [d].filterMap Declaration.regex? = d.regex?.toList := by
    cases hd : d.regex? <;> simp [hd]
  rw [regexes_of_accepts h haccepts, hregexes, List.filterMap_append, hlast,
    eraseDups_append_toList]
  simp only [List.mem_eraseDups]

/-- The target of an expression is looked up through the index. -/
theorem History.get?_target (h : History ds s) (regex method : String) :
    (s.variableRoutes.find? regex).bind (·.targets.get? method) =
      (ds.find? (Declaration.isForRegex regex method)).bind Declaration.target? := by
  rw [VariableRoutes.find?]
  cases hi : s.variableRoutes.index.get? regex with
  | none =>
    have hnew : regex ∉ s.variableRoutes.routes.map VariableRoute.regex := fun hmem => by
      have hcontains := (h.indexed.contains_iff regex).mpr hmem
      rw [SortedMap.contains, hi] at hcontains
      exact absurd hcontains (by simp)
    rw [h.find?_isForRegex_eq_none hnew method]
    rfl
  | some i =>
    have hplace := (h.indexed.index regex i).mp hi
    rw [List.getElem?_map, Option.map_eq_some_iff] at hplace
    obtain ⟨r, hr, rfl⟩ := hplace
    rw [Option.bind_some, hr, Option.bind_some]
    exact h.targets r (List.mem_of_getElem? hr) method

theorem target?_eq_some {regex method : String} (hd : d.isForRegex regex method = true) :
    d.target? = some ⟨d.handler, d.names⟩ := by
  obtain ⟨t, ht⟩ := History.exists_target hd
  obtain ⟨p, hp, rfl⟩ := Option.map_eq_some_iff.mp ht
  rw [ht, Declaration.names_of_compiled hp]

/-- The stores that a run leads to record what it has taken in. -/
theorem records_declareEach (calls : List Declaration) :
    Records (RouteSet.empty.declareEach calls).1 (RouteSet.empty.declareEach calls).2 := by
  have h := history_declareEach calls
  have honce := once_of_accepts calls
  refine ⟨fun path method handler => ?_, fun path method => (honce path method).1,
    regexes_declareEach calls, h.indexed.index, fun regex method t => ?_,
    fun regex method => (honce regex method).2, named_declareEach calls⟩
  · rw [h.static, Option.map_eq_some_iff]
    refine exists_congr fun d => ?_
    rw [find?_eq_some_iff_mem (honce path method).1, and_assoc]
  · rw [h.get?_target, Option.bind_eq_some_iff]
    refine exists_congr fun d => ?_
    rw [find?_eq_some_iff_mem (honce regex method).2, and_assoc]
    refine and_congr_right fun _ => and_congr_right fun hd => ?_
    rw [target?_eq_some hd, Option.some.injEq, eq_comm]

/-- Declaring once more what was taken in leads to the same set, and everything is taken in. -/
theorem declareEach_accepted : ∀ (calls : List Declaration) (s : RouteSet),
    s.declareEach (s.declareEach calls).1 = s.declareEach calls := by
  intro calls
  induction calls with
  | nil => intro s; rfl
  | cons d calls ih =>
    intro s
    rcases hrun : (declare d).run s with ⟨_ | _, s'⟩
    · obtain rfl := eq_of_error hrun
      have hskip : s'.declareEach (d :: calls) = s'.declareEach calls := by
        rw [RouteSet.declareEach, hrun]
      rw [hskip, ih s']
    · have htake : ∀ ds, s.declareEach (d :: ds) =
          (d :: (s'.declareEach ds).1, (s'.declareEach ds).2) := by
        intro ds
        rw [RouteSet.declareEach, hrun]
      rw [htake, htake, ih s']

/-! ## Tables -/

/-- Every route has a group, and so has every route of a chunk. -/
theorem History.groupCount_pos (h : History ds s) :
    ∀ piece ∈ s.variableRoutes.pieces, ∀ r ∈ piece, r ∈ s.variableRoutes.routes ∧
      0 < r.groupCount := by
  intro piece hpiece r hr
  have hmem : r ∈ s.variableRoutes.routes := by
    rw [← (pieces_eq s.variableRoutes).1]
    exact List.mem_flatten_of_mem hpiece hr
  obtain ⟨d, -, p, hp, -, hcount⟩ := h.source r hmem
  rw [← hcount]
  exact ⟨hmem, List.length_pos_iff.mpr (Declaration.names_ne_nil hp)⟩

/-- The route maps of the chunks are those of the routes, in order. -/
theorem History.values_chunks (h : History ds s) :
    (s.variableRoutes.pieces.map Chunk.ofRoutes).flatMap (fun c => c.routeMap.values) =
      s.variableRoutes.routes.map VariableRoute.targets := by
  have hvalues : ∀ piece ∈ s.variableRoutes.pieces,
      (Chunk.ofRoutes piece).routeMap.values = piece.map VariableRoute.targets :=
    fun piece hpiece => values_routeMap fun r hr => (h.groupCount_pos piece hpiece r hr).2
  rw [List.flatMap_map, List.flatMap_congr hvalues, List.flatMap_def, ← List.map_flatten,
    (pieces_eq s.variableRoutes).1]

/-- A literal path has an answer as soon as there is a dispatcher. -/
theorem find_of_static {table : DispatchTable} {disp : Dispatcher}
    (hload : Dispatcher.ofTable table = .ok disp) {path method : String} {h : Handler}
    (hstatic : (table.staticRoutes.get? path).bind (·.get? method) = some h) :
    disp.find method path = .found ⟨h, []⟩ := by
  obtain ⟨handlers, hpath, hmethod⟩ := Option.bind_eq_some_iff.mp hstatic
  unfold Dispatcher.find
  rw [table_of_ofTable hload]
  simp only [hpath, hmethod]

/-- **No declaration that is taken in is lost or overwritten.** The set that declarations lead to
records those that are taken in and depends on nothing else; a table that is built from it has the
same stores, cut into chunks; and a dispatcher of the table answers every literal path with the
handler that was declared for it. -/
theorem accepted_kept (calls : List Declaration) :
    Records (RouteSet.empty.declareEach calls).1 (RouteSet.empty.declareEach calls).2 ∧
      (∀ calls' : List Declaration,
        (RouteSet.empty.declareEach calls').1 = (RouteSet.empty.declareEach calls).1 →
          (RouteSet.empty.declareEach calls').2 = (RouteSet.empty.declareEach calls).2) ∧
      ∀ table : DispatchTable, (RouteSet.empty.declareEach calls).2.build = .ok table →
        table.staticRoutes = (RouteSet.empty.declareEach calls).2.staticRoutes ∧
        table.named = (RouteSet.empty.declareEach calls).2.named ∧
        table.chunks = (RouteSet.empty.declareEach calls).2.variableRoutes.pieces.map
          Chunk.ofRoutes ∧
        (RouteSet.empty.declareEach calls).2.variableRoutes.pieces.flatten =
          (RouteSet.empty.declareEach calls).2.variableRoutes.routes ∧
        table.chunks.flatMap (fun c => c.routeMap.values) =
          (RouteSet.empty.declareEach calls).2.variableRoutes.routes.map VariableRoute.targets ∧
        ∀ disp : Dispatcher, Dispatcher.ofTable table = .ok disp →
          ∀ d ∈ (RouteSet.empty.declareEach calls).1, ∀ path method : String,
            d.isForPath path method = true →
              path = d.pattern ∧ disp.find method path = .found ⟨d.handler, []⟩ := by
  have hrecords := records_declareEach calls
  refine ⟨hrecords, fun calls' heq => ?_, fun table hbuild => ?_⟩
  · rw [← declareEach_accepted calls', heq, declareEach_accepted]
  · obtain ⟨-, rfl⟩ := build_eq_ok hbuild
    refine ⟨rfl, rfl, rfl, (pieces_eq _).1, (history_declareEach calls).values_chunks, ?_⟩
    intro disp hload d hd path method hfor
    refine ⟨Declaration.pattern_of_isForPath hfor, find_of_static hload ?_⟩
    exact (hrecords.static path method d.handler).mpr ⟨d, hd, hfor, rfl⟩

/-- Declarations of which two are refused, a duplicate and a shadowed path. Two of the others have
one name. -/
def withRefusals : List Declaration :=
  let get := Methods.ofList (Method.ofString? "GET").toList
  [⟨get, "/about", ⟨"Pages", "about"⟩, some "page"⟩,
    ⟨get, "/about", ⟨"Pages", "again"⟩, some "again"⟩,
    ⟨get, "/{page}", ⟨"Pages", "show"⟩, some "page"⟩,
    ⟨get, "/team", ⟨"Pages", "team"⟩, some "team"⟩]

theorem kept_withRefusals : ∃ table disp,
    (RouteSet.empty.declareEach withRefusals).2.build = .ok table ∧
      Dispatcher.ofTable table = .ok disp ∧
      disp.find "GET" "/about" = .found ⟨⟨"Pages", "about"⟩, []⟩ ∧
      table.named.get? "page" = some ⟨"/about", []⟩ ∧
      table.named.get? "again" = none ∧
      (RouteSet.empty.declareEach withRefusals).2.variableRoutes.routes.map VariableRoute.regex =
        ["/([^/]+)"] := by
  have haccepted : (RouteSet.empty.declareEach withRefusals).1 =
      [withRefusals[0], withRefusals[2]] := by decide +kernel
  have hserves : (RouteSet.empty.declareEach withRefusals).2.serves = true := by decide +kernel
  obtain ⟨table, disp, hbuild, hload⟩ := exists_of_serves hserves
  obtain ⟨hrecords, -, htable⟩ := accepted_kept withRefusals
  obtain ⟨-, hnamed, -, -, -, hfind⟩ := htable table hbuild
  refine ⟨table, disp, hbuild, hload, ?_, ?_, ?_, ?_⟩
  · refine (hfind disp hload withRefusals[0] ?_ "/about" "GET" (by decide +kernel)).2
    rw [haccepted]
    exact List.mem_cons_self
  · rw [hnamed, hrecords.named, haccepted]
    decide +kernel
  · rw [hnamed, hrecords.named, haccepted]
    decide +kernel
  · rw [hrecords.regexes, haccepted]
    decide +kernel

end RouteTable
