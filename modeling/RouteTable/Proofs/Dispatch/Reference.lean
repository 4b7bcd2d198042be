import RouteTable.Proofs.Pattern.Reading
import RouteTable.Proofs.RouteSet.Chunks
import RouteTable.Proofs.RouteSet.History

/-!
# What a dispatcher answers

The answer to a request in terms of the declarations that were taken in, with neither chunks nor
group numbers nor positions: every expression is matched alone, in the order of declaration.

* `reference`: the answer to which a request is entitled.
* `Declaration.keepsGroups`: the condition on declarations. Without it a chunk may have groups that
  no placeholder accounts for, and then the positions of the routes behind them are wrong.
* `find_of_history`: the dispatcher of a set of routes answers as the declarations in its history.
* `find_eq_reference`: the dispatcher that declarations lead to answers as `reference`.
-/

namespace RouteTable

open Regex

/-! ## The reference -/

namespace Declaration

/-- Whether every placeholder of the pattern is one group of the expression, with none inside. -/
def keepsGroups (d : Declaration) : Bool :=
  match readTokens d.pattern with
  | .ok tokens => keepGroups tokens
  | .error _ => true

/-- The names of the placeholders. -/
def names (d : Declaration) : List String := d.compiled?.elim [] CompiledPattern.names

/-- The names of the methods. -/
def methodNames (d : Declaration) : List String := d.methods.toList.map Method.name

theorem names_of_compiled {d : Declaration} {p : CompiledPattern} (h : d.compiled? = some p) :
    d.names = p.names := by
  rw [names, h]
  rfl

end Declaration

/-- What an expression finds on the whole path when it is matched alone. -/
def matchAlone? (regex path : String) : Option Captures :=
  match Regex.compile (anchored regex) with
  | .ok r => r.captures? path
  | .error _ => none

/-- The variables of a declaration: each placeholder with the text that its group has when the
expression is matched alone. -/
def Declaration.variables (d : Declaration) (path : String) : List (String × String) :=
  (d.regex?.bind fun regex => matchAlone? regex path).elim [] fun c => c.variables d.names

variable (ds : List Declaration) (method path : String)

/-- The first expression declared that matches the whole path. -/
def firstMatch? : Option String :=
  (ds.filterMap Declaration.regex?).find? fun regex => (matchAlone? regex path).isSome

/-- The declaration of the first expression that matches, for the method. -/
def chosen? : Option Declaration :=
  (firstMatch? ds path).bind fun regex => ds.find? (Declaration.isForRegex regex method)

/-- The methods for which the literal path was declared. -/
def methodsForPath : List String :=
  (ds.filter fun d => d.path? == some path).flatMap Declaration.methodNames

/-- The methods for which the expression was declared. -/
def methodsForRegex (regex : String) : List String :=
  (ds.filter fun d => d.regex? == some regex).flatMap Declaration.methodNames

/-- The methods for which the path, or the first expression that matches it, was declared. -/
def methodsFor : List String :=
  methodsForPath ds path ++ (firstMatch? ds path).elim [] (methodsForRegex ds)

/-- The answer if nothing was declared for the method: the other methods sorted, each once. -/
def refusal (allowed : List String) : Answer :=
  if allowed = [] then .notFound else .methodNotAllowed allowed.dedup.mergeSort

/-- The answer for a path that has no literal declaration for the method. The first expression that
matches decides alone. -/
def referenceByRegex : Answer :=
  match chosen? ds method path with
  | some d => .found ⟨d.handler, d.variables path⟩
  | none => refusal (methodsFor ds path)

/-- The answer to a request: a literal declaration comes before all expressions. -/
def reference : Answer :=
  match ds.find? (Declaration.isForPath path method) with
  | some d => .found ⟨d.handler, []⟩
  | none => referenceByRegex ds method path

theorem mem_methods {p : Declaration → Bool} {m : String} :
    m ∈ (ds.filter p).flatMap Declaration.methodNames ↔
      ∃ d ∈ ds, p d = true ∧ d.lists m = true := by
  simp [Declaration.methodNames, Declaration.lists, and_assoc]

theorem ofAllowed_eq_refusal (allowed : List String) :
    Answer.ofAllowed allowed = refusal allowed := by
  rw [Answer.ofAllowed, refusal, sortedDistinct_eq]

variable {ds method path}

theorem refusal_ne_found (allowed : List String) (f : Found) : refusal allowed ≠ .found f :=
  ofAllowed_eq_refusal allowed ▸ ofAllowed_ne_found allowed f

theorem referenceByRegex_eq_found {f : Found} (h : referenceByRegex ds method path = .found f) :
    ∃ d, chosen? ds method path = some d ∧ f = ⟨d.handler, d.variables path⟩ := by
  unfold referenceByRegex at h
  split at h
  · rename_i d hd
    exact ⟨d, hd, (Answer.found.inj h).symm⟩
  · exact absurd h (refusal_ne_found _ f)

/-! ## The routes of a history -/

theorem isMatch_eq_matchAlone (r : VariableRoute) :
    r.isMatch path = (matchAlone? r.regex path).isSome := by
  rw [VariableRoute.isMatch, Regex.isMatch, matchAlone?, r.compiled]

theorem variables_eq_matchAlone (r : VariableRoute) (names : List String) :
    r.variables path names = (matchAlone? r.regex path).elim [] fun c => c.variables names := by
  rw [VariableRoute.variables, matchAlone?, r.compiled]

/-- What a target of a route leads to is what its declaration leads to. -/
theorem target_eq {d : Declaration} {regex : String} (hd : d.isForRegex regex method = true)
    {t : Target} (ht : d.target? = some t) (r : VariableRoute) (hr : r.regex = regex)
    (path : String) : t.handler = d.handler ∧ r.variables path t.names = d.variables path := by
  rw [Declaration.isForRegex_iff] at hd
  obtain ⟨p, hp, rfl⟩ := Option.map_eq_some_iff.mp ht
  refine ⟨rfl, ?_⟩
  rw [variables_eq_matchAlone, Declaration.variables, hd.1, hr, Declaration.names_of_compiled hp]
  rfl

/-- The pattern of a declaration that keeps its groups compiles to a branch. -/
theorem exists_branch_of_compiled {d : Declaration} (hkeep : d.keepsGroups = true)
    {p : CompiledPattern} (hp : d.compiled? = some p) {matcher : Regex}
    (hcompile : Regex.compile (anchored p.regex) = .ok matcher) :
    ∃ b : Branch, b.text = p.regex.toList ∧ matcher.expr = Expr.anchored [b.expr] ∧
      b.size = p.names.length ∧ 0 < p.names.length := by
  obtain ⟨tokens, hread, hliteral, htokens⟩ := read_of_compiled hp
  rw [Declaration.keepsGroups, hread] at hkeep
  obtain ⟨b, htext, -, hexpr, hsize⟩ := exists_branch htokens hkeep hcompile
  refine ⟨b, htext, hexpr, hsize, ?_⟩
  rw [(ofTokens_eq_ok htokens).2.2]
  rcases exists_placeholder hread with ⟨path, rfl⟩ | hnames
  · exact absurd rfl (hliteral path)
  · exact List.length_pos_iff.mpr hnames

/-- The number of groups of an anchored branch is its size, so it settles the number of names. -/
theorem groupCount_of_anchored {b : Branch} {matcher : Regex} (hb : 0 < b.size)
    (h : matcher.expr = Expr.anchored [b.expr]) : matcher.groupCount = b.size := by
  rw [Regex.groupCount, h, Branch.groupCount_anchored, Expr.groupCountAll, Expr.groupCountAll,
    ← b.exprAt_zero, Branch.groupCount_exprAt hb, Nat.zero_add, Nat.max_zero]

namespace History

variable {s : RouteSet}

/-- The routes are branches with a name for each group, if the declarations keep their groups. -/
theorem fits (h : History ds s) (hkeep : ∀ d ∈ ds, d.keepsGroups = true) :
    ∀ r ∈ s.variableRoutes.routes, r.Fits := by
  intro r hr
  obtain ⟨d, hd, p, hp, hregex, hcount⟩ := h.source r hr
  have hcompile : Regex.compile (anchored p.regex) = .ok r.matcher := by rw [hregex, r.compiled]
  obtain ⟨b, htext, hexpr, hsize, hpositive⟩ := exists_branch_of_compiled (hkeep d hd) hp hcompile
  rw [hcount] at hsize hpositive
  refine ⟨⟨⟨r, b, by rw [htext, hregex], hexpr, hsize, hpositive⟩, rfl⟩, fun m t ht => ?_⟩
  rw [h.targets r hr m, Option.bind_eq_some_iff] at ht
  obtain ⟨d', hfind, htarget⟩ := ht
  obtain ⟨p', hp', rfl⟩ := Option.map_eq_some_iff.mp htarget
  have hfor := List.find?_some hfind
  rw [Declaration.isForRegex_iff, Declaration.regex?_of_compiled hp', Option.some.injEq] at hfor
  rw [← hfor.1.trans hregex.symm] at hcompile
  obtain ⟨b', -, hexpr', hsize', hpositive'⟩ :=
    exists_branch_of_compiled (hkeep d' (List.mem_of_find?_eq_some hfind)) hp' hcompile
  rw [← hsize', ← groupCount_of_anchored (hsize' ▸ hpositive') hexpr', ← hsize,
    groupCount_of_anchored (hsize ▸ hpositive) hexpr]

/-- The first route that matches has the first expression that matches alone. -/
theorem find?_isMatch (h : History ds s) (path : String) :
    (s.variableRoutes.routes.find? fun r => r.isMatch path).map VariableRoute.regex =
      firstMatch? ds path := by
  rw [firstMatch?, ← h.order, List.find?_map]
  congr 2
  exact funext fun r => isMatch_eq_matchAlone r

/-- The methods that have a target were declared for the expression. -/
theorem mem_keys_targets (h : History ds s) {r : VariableRoute}
    (hr : r ∈ s.variableRoutes.routes) (m : String) :
    m ∈ r.targets.keys ↔ m ∈ methodsForRegex ds r.regex := by
  rw [SortedMap.mem_keys, h.targets r hr m, methodsForRegex, mem_methods]
  constructor
  · intro hsome
    obtain ⟨t, ht⟩ := Option.isSome_iff_exists.mp hsome
    obtain ⟨d, hd, -⟩ := Option.bind_eq_some_iff.mp ht
    have hfor := List.find?_some hd
    rw [Declaration.isForRegex, Bool.and_eq_true] at hfor
    exact ⟨d, List.mem_of_find?_eq_some hd, hfor⟩
  · rintro ⟨d, hd, hfor⟩
    rw [← Bool.and_eq_true] at hfor
    obtain ⟨d', hd'⟩ := Option.isSome_iff_exists.mp
      (List.find?_isSome.mpr ⟨d, hd, hfor⟩ : (ds.find? (Declaration.isForRegex r.regex m)).isSome)
    obtain ⟨t, ht⟩ := exists_target (List.find?_some hd')
    rw [hd', Option.bind_some, ht]
    rfl

/-- The methods that have a handler were declared for the literal path. -/
theorem mem_keys_static (h : History ds s) {handlers : SortedMap String Handler}
    (hget : s.staticRoutes.get? path = some handlers) (m : String) :
    m ∈ handlers.keys ↔ m ∈ methodsForPath ds path := by
  have hstatic := congrArg Option.isSome (h.static path m)
  rw [hget, Option.bind_some, Option.isSome_map] at hstatic
  rw [SortedMap.mem_keys, hstatic, methodsForPath, mem_methods, List.find?_isSome]
  simp only [Declaration.isForPath, Bool.and_eq_true]

/-- A path without handlers was not declared as it is. -/
theorem not_mem_methodsForPath (h : History ds s) (hget : s.staticRoutes.get? path = none)
    (m : String) : m ∉ methodsForPath ds path := by
  have hstatic := congrArg Option.isSome (h.static path m)
  rw [hget, Option.bind_none, Option.isSome_map, Option.isSome_none, eq_comm,
    ← Bool.not_eq_true, List.find?_isSome] at hstatic
  rw [methodsForPath, mem_methods]
  simpa only [Declaration.isForPath, Bool.and_eq_true] using hstatic

/-! ## Answers -/

/-- The routes answer as the expressions do that were declared. -/
theorem findInRoutes_eq (h : History ds s) {allowed : List String}
    (hallowed : ∀ m, m ∈ allowed ↔ m ∈ methodsForPath ds path) :
    findInRoutes method path allowed s.variableRoutes.routes =
      referenceByRegex ds method path := by
  have hfirst := h.find?_isMatch path
  unfold findInRoutes referenceByRegex chosen? methodsFor
  cases hfind : s.variableRoutes.routes.find? fun r => r.isMatch path with
  | none =>
    rw [hfind, Option.map_none] at hfirst
    rw [← hfirst, Option.elim_none, List.append_nil]
    exact (ofAllowed_congr hallowed).trans (ofAllowed_eq_refusal _)
  | some r =>
    rw [hfind, Option.map_some] at hfirst
    rw [← hfirst, Option.bind_some, Option.elim_some]
    have hr := List.mem_of_find?_eq_some hfind
    have htargets := h.targets r hr method
    simp only
    cases hd : ds.find? (Declaration.isForRegex r.regex method) with
    | none =>
      rw [hd, Option.bind_none] at htargets
      rw [htargets]
      refine (ofAllowed_congr fun m => ?_).trans (ofAllowed_eq_refusal _)
      rw [List.mem_append, List.mem_append, hallowed, h.mem_keys_targets hr]
    | some d =>
      obtain ⟨t, ht⟩ := exists_target (List.find?_some hd)
      rw [hd, Option.bind_some, ht] at htargets
      rw [htargets]
      obtain ⟨hhandler, hvariables⟩ := target_eq (List.find?_some hd) ht r rfl path
      simp only [hhandler, hvariables]

end History

/-- What a table consists of. -/
theorem build_eq_ok {s : RouteSet} {table : DispatchTable} (h : s.build = .ok table) :
    checkChunks 0 (s.variableRoutes.pieces.map Chunk.ofRoutes) = .ok () ∧
      table = ⟨s.staticRoutes, s.variableRoutes.pieces.map Chunk.ofRoutes, s.named⟩ := by
  unfold RouteSet.build at h
  simp only at h
  cases hcheck : checkChunks 0 (s.variableRoutes.pieces.map Chunk.ofRoutes) with
  | error e => rw [hcheck] at h; exact absurd h (by simp [bind, Except.bind])
  | ok u =>
    rw [hcheck] at h
    exact ⟨rfl, (Except.ok.inj h).symm⟩

theorem table_of_ofTable {table : DispatchTable} {disp : Dispatcher}
    (h : Dispatcher.ofTable table = .ok disp) : disp.table = table := by
  unfold Dispatcher.ofTable at h
  split at h
  · rw [← Except.ok.inj h]
  · exact absurd h (by simp)

/-- The routes are cut into pieces that fit. -/
theorem History.fits_pieces {s : RouteSet} (h : History ds s)
    (hkeep : ∀ d ∈ ds, d.keepsGroups = true) :
    ∀ piece ∈ s.variableRoutes.pieces, piece ≠ [] ∧ ∀ r ∈ piece, r.Fits := by
  obtain ⟨hflatten, hne⟩ := pieces_eq s.variableRoutes
  refine fun piece hpiece => ⟨hne piece hpiece, fun r hr => h.fits hkeep r ?_⟩
  rw [← hflatten]
  exact List.mem_flatten_of_mem hpiece hr

/-- The dispatcher of a set of routes answers as the declarations in its history. -/
theorem History.find_eq {s : RouteSet} (h : History ds s)
    (hkeep : ∀ d ∈ ds, d.keepsGroups = true) {table : DispatchTable} {disp : Dispatcher}
    (hbuild : s.build = .ok table) (hload : Dispatcher.ofTable table = .ok disp)
    (method path : String) : disp.find method path = reference ds method path := by
  obtain ⟨-, rfl⟩ := build_eq_ok hbuild
  have hcompiled := disp.compiled
  have hchunks : ∀ allowed, findInChunks method path allowed (disp.table.chunks.zip disp.regexes) =
      findInRoutes method path allowed s.variableRoutes.routes := by
    intro allowed
    rw [table_of_ofTable hload] at hcompiled ⊢
    rw [findInChunks_eq method path allowed (h.fits_pieces hkeep) hcompiled,
      (pieces_eq s.variableRoutes).1]
  have hstatic := h.static path method
  unfold Dispatcher.find reference
  simp only [hchunks]
  rw [table_of_ofTable hload]
  simp only
  cases hget : s.staticRoutes.get? path with
  | none =>
    rw [hget, Option.bind_none, eq_comm, Option.map_eq_none_iff] at hstatic
    rw [hstatic]
    refine h.findInRoutes_eq fun m => ?_
    simp [h.not_mem_methodsForPath hget m]
  | some handlers =>
    rw [hget, Option.bind_some] at hstatic
    simp only [hstatic]
    cases ds.find? (Declaration.isForPath path method) with
    | none => exact h.findInRoutes_eq (h.mem_keys_static hget)
    | some d => rfl

/-! ## Dispatchers of declarations -/

/-- Whether the table of the routes builds and loads. -/
def RouteSet.serves (s : RouteSet) : Bool :=
  match s.build with
  | .ok table => (Dispatcher.ofTable table).toOption.isSome
  | .error _ => false

theorem exists_of_serves {s : RouteSet} (h : s.serves = true) :
    ∃ table disp, s.build = .ok table ∧ Dispatcher.ofTable table = .ok disp := by
  unfold RouteSet.serves at h
  split at h
  · rename_i table hbuild
    cases hload : Dispatcher.ofTable table with
    | error e => rw [hload] at h; exact absurd h (by simp [Except.toOption])
    | ok disp => exact ⟨table, disp, hbuild, hload⟩
  · exact absurd h (by simp)

theorem exists_of_ofDeclarations (ds : List Declaration)
    (h : (RouteSet.ofDeclarations ds).toOption.any RouteSet.serves = true) :
    ∃ s table disp, RouteSet.ofDeclarations ds = .ok s ∧ s.build = .ok table ∧
      Dispatcher.ofTable table = .ok disp := by
  cases hds : RouteSet.ofDeclarations ds with
  | error e =>
    rw [hds] at h
    exact absurd h (by simp [Except.toOption])
  | ok s =>
    rw [hds] at h
    obtain ⟨table, disp, hbuild, hload⟩ := exists_of_serves (s := s) h
    exact ⟨s, table, disp, rfl, hbuild, hload⟩

/-- Declarations with overlapping expressions. The last two are refused: the one is a duplicate, the
other is shadowed. -/
def overlapping : List Declaration :=
  let get := Methods.ofList [⟨"GET", by decide⟩]
  let post := Methods.ofList [⟨"POST", by decide⟩]
  [⟨get, "/users/{id:[0-9]+}", ⟨"Users", "show"⟩, none⟩,
    ⟨post, "/{kind}/{name}", ⟨"Any", "create"⟩, none⟩,
    ⟨post, "/users/{key:[0-9]+}", ⟨"Users", "update"⟩, none⟩,
    ⟨get, "/{group}/{member}", ⟨"Any", "show"⟩, none⟩,
    ⟨post, "/users/{n:[0-9]+}", ⟨"Users", "again"⟩, none⟩,
    ⟨get, "/users/7", ⟨"Users", "seven"⟩, none⟩]

theorem declareEach_overlapping :
    (RouteSet.empty.declareEach overlapping).1 = overlapping.take 4 := by decide +kernel

theorem keepsGroups_overlapping :
    ∀ d ∈ (RouteSet.empty.declareEach overlapping).1, d.keepsGroups = true := by
  rw [declareEach_overlapping]
  decide +kernel

theorem serves_overlapping : (RouteSet.empty.declareEach overlapping).2.serves = true := by
  decide +kernel

/-- **The dispatcher that declarations lead to answers as the reference.** -/
theorem find_eq_reference {calls : List Declaration}
    (hkeep : ∀ d ∈ (RouteSet.empty.declareEach calls).1, d.keepsGroups = true)
    {table : DispatchTable} {disp : Dispatcher}
    (hbuild : (RouteSet.empty.declareEach calls).2.build = .ok table)
    (hload : Dispatcher.ofTable table = .ok disp) (method path : String) :
    disp.find method path = reference (RouteSet.empty.declareEach calls).1 method path :=
  (history_declareEach calls).find_eq hkeep hbuild hload method path

theorem find_overlapping : ∃ table disp,
    (RouteSet.empty.declareEach overlapping).2.build = .ok table ∧
      Dispatcher.ofTable table = .ok disp ∧
      disp.find "GET" "/posts/12" =
        .found ⟨⟨"Any", "show"⟩, [("group", "posts"), ("member", "12")]⟩ := by
  have hanswer : reference (RouteSet.empty.declareEach overlapping).1 "GET" "/posts/12" =
      .found ⟨⟨"Any", "show"⟩, [("group", "posts"), ("member", "12")]⟩ := by
    rw [declareEach_overlapping]
    decide +kernel
  obtain ⟨table, disp, hbuild, hload⟩ := exists_of_serves serves_overlapping
  refine ⟨table, disp, hbuild, hload, ?_⟩
  exact (find_eq_reference keepsGroups_overlapping hbuild hload "GET" "/posts/12").trans hanswer

end RouteTable
