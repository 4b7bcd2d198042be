import RouteTable.Proofs.RouteSet.Declare
import RouteTable.Proofs.SortedMap

/-!
# What a set of routes says of its declarations

* `RouteSet.declareEach` runs declarations one after the other; those that are refused are dropped.
* `History ds s` says of the parts of `s` what they owe to the declarations `ds` that were taken in.
* `history_declareEach`: every set that declarations lead to keeps the history of those taken in.
* `declareEach_of_declareAll`: where all declarations are taken in, none is dropped.
-/

namespace RouteTable

/-! ## Declarations -/

namespace Declaration

/-- Whether the declaration is for the method. -/
def lists (d : Declaration) (method : String) : Bool :=
  d.methods.toList.any fun m => m.name == method

/-- Whether the declaration is for the literal path and the method. -/
def isForPath (path method : String) (d : Declaration) : Bool :=
  d.path? == some path && d.lists method

/-- Whether the declaration is for the expression and the method. -/
def isForRegex (regex method : String) (d : Declaration) : Bool :=
  d.regex? == some regex && d.lists method

theorem isForPath_iff {d : Declaration} {path method : String} :
    d.isForPath path method = true ↔ d.path? = some path ∧ d.lists method = true := by
  rw [isForPath, Bool.and_eq_true, beq_iff_eq]

theorem isForRegex_iff {d : Declaration} {regex method : String} :
    d.isForRegex regex method = true ↔ d.regex? = some regex ∧ d.lists method = true := by
  rw [isForRegex, Bool.and_eq_true, beq_iff_eq]

/-- What the pattern of the declaration leads to. -/
def target? (d : Declaration) : Option Target :=
  d.compiled?.map fun p => ⟨d.handler, p.names⟩

theorem isForRegex_eq_false {d : Declaration} (h : d.compiled? = none) (regex method : String) :
    d.isForRegex regex method = false := by
  simp [isForRegex, regex?, h]

theorem isForPath_eq_false {d : Declaration} (h : d.path? = none) (path method : String) :
    d.isForPath path method = false := by
  simp [isForPath, h]

end Declaration

/-- Runs declarations in order, and gives those that are taken in with the set after all. -/
def RouteSet.declareEach (s : RouteSet) : List Declaration → List Declaration × RouteSet
  | [] => ([], s)
  | d :: ds =>
    match (declare d).run s with
    | (.ok (), s') => (d :: (s'.declareEach ds).1, (s'.declareEach ds).2)
    | (.error _, s') => s'.declareEach ds

/-! ## Lookups -/

theorem get?_foldl_insert {α : Type} (v : α) (method : String) : ∀ (ms : List Method)
    (t : SortedMap String α),
      (ms.foldl (fun t m => t.insert m.name v) t).get? method =
        if ms.any (fun m => m.name == method) then some v else t.get? method
  | [], t => rfl
  | m :: ms, t => by
    rw [List.foldl_cons, get?_foldl_insert v method ms, List.any_cons]
    by_cases hm : m.name = method
    · subst hm
      simp
    · rw [SortedMap.get?_insert_of_ne t v (Ne.symm hm), beq_eq_false_iff_ne.mpr hm, Bool.false_or]

theorem get?_insertAll (t : StaticTable) (path : String) (methods : Methods) (h : Handler)
    (path' method : String) :
    ((t.insertAll path methods h).get? path').bind (·.get? method) =
      if path' = path ∧ methods.toList.any (fun m => m.name == method) then some h
      else (t.get? path').bind (·.get? method) := by
  unfold StaticTable.insertAll
  by_cases hpath : path' = path
  · subst hpath
    rw [SortedMap.get?_insert_self, Option.bind_some, get?_foldl_insert]
    cases t.get? path' with
    | none => simp
    | some handlers => simp
  · rw [SortedMap.get?_insert_of_ne t _ hpath, if_neg fun h => hpath h.1]

theorem get?_addTargets (r : VariableRoute) (methods : Methods) (target : Target)
    (method : String) :
    (r.addTargets methods target).targets.get? method =
      if methods.toList.any (fun m => m.name == method) then some target
      else r.targets.get? method :=
  get?_foldl_insert target method methods.toList r.targets

/-! ## The index of expressions -/

/-- The expressions are all different, and the index has the place of each. -/
structure VariableRoutes.Indexed (rs : VariableRoutes) : Prop where
  nodup : (rs.routes.map VariableRoute.regex).Nodup
  index : ∀ (regex : String) (i : Nat), rs.index.get? regex = some i ↔
    (rs.routes.map VariableRoute.regex)[i]? = some regex

theorem modify_eq_map {α β : Type} [DecidableEq β] (f : α → β) (g : α → α) :
    ∀ {xs : List α} {i : Nat} {b : β}, (xs.map f).Nodup → (xs.map f)[i]? = some b →
      xs.modify i g = xs.map fun x => if f x = b then g x else x
  | [], i, b, _, h => absurd h (by simp)
  | x :: xs, 0, b, hnodup, h => by
    rw [List.map_cons, List.nodup_cons] at hnodup
    obtain rfl := Option.some.inj h
    have hrest : xs.map (fun y => if f y = f x then g y else y) = xs := by
      refine (List.map_congr_left fun y hy => if_neg fun hyx => ?_).trans (List.map_id xs)
      exact hnodup.1 (hyx ▸ List.mem_map_of_mem hy)
    rw [List.map_cons, if_pos rfl, hrest]
    rfl
  | x :: xs, i + 1, b, hnodup, h => by
    rw [List.map_cons, List.nodup_cons] at hnodup
    rw [List.map_cons, List.getElem?_cons_succ] at h
    have hne : f x ≠ b := fun hx => hnodup.1 (hx ▸ List.mem_of_getElem? h)
    rw [List.map_cons, if_neg hne, ← modify_eq_map f g hnodup.2 h]
    rfl

namespace VariableRoutes.Indexed

variable {rs : VariableRoutes}

theorem contains_iff (h : rs.Indexed) (regex : String) :
    rs.index.contains regex = true ↔ regex ∈ rs.routes.map VariableRoute.regex := by
  rw [SortedMap.contains, Option.isSome_iff_exists, List.mem_iff_getElem?]
  exact exists_congr fun i => h.index regex i

theorem routes_addTargets (h : rs.Indexed) (regex : String) (methods : Methods) (target : Target) :
    (rs.addTargets regex methods target).routes =
      rs.routes.map fun r => if r.regex = regex then r.addTargets methods target else r := by
  unfold VariableRoutes.addTargets
  split
  · rename_i i hi
    exact modify_eq_map VariableRoute.regex _ h.nodup ((h.index regex i).mp hi)
  · rename_i hnone
    refine ((List.map_congr_left fun r hr => if_neg fun hregex => ?_).trans (List.map_id _)).symm
    have hmem := (h.contains_iff regex).mpr (hregex ▸ List.mem_map_of_mem hr)
    rw [SortedMap.contains, hnone] at hmem
    exact absurd hmem (by simp)

theorem map_regex_addTargets (h : rs.Indexed) (regex : String) (methods : Methods)
    (target : Target) :
    (rs.addTargets regex methods target).routes.map VariableRoute.regex =
      rs.routes.map VariableRoute.regex := by
  rw [h.routes_addTargets, List.map_map]
  refine List.map_congr_left fun r _ => ?_
  simp only [Function.comp]
  split <;> rfl

theorem addTargets (h : rs.Indexed) (regex : String) (methods : Methods) (target : Target) :
    (rs.addTargets regex methods target).Indexed := by
  have hindex : (rs.addTargets regex methods target).index = rs.index := by
    unfold VariableRoutes.addTargets
    split <;> rfl
  refine ⟨?_, fun regex' i => ?_⟩
  · rw [h.map_regex_addTargets]
    exact h.nodup
  · rw [h.map_regex_addTargets, hindex]
    exact h.index regex' i

theorem push (h : rs.Indexed) {r : VariableRoute} (hr : rs.index.contains r.regex = false) :
    (rs.push r).Indexed := by
  have hnew : r.regex ∉ rs.routes.map VariableRoute.regex := fun hmem => by
    rw [(h.contains_iff r.regex).mpr hmem] at hr
    exact absurd hr (by simp)
  refine ⟨?_, fun regex i => ?_⟩
  · rw [VariableRoutes.push, List.map_append, List.nodup_append]
    refine ⟨h.nodup, by simp, ?_⟩
    intro x hx y hy
    rw [List.map_singleton, List.mem_singleton] at hy
    exact fun hxy => hnew (hy ▸ hxy ▸ hx)
  · have hlength : (rs.routes.map VariableRoute.regex).length = rs.routes.length :=
      List.length_map _
    rw [VariableRoutes.push, List.map_append, List.map_singleton, List.getElem?_append,
      List.getElem?_singleton, hlength]
    by_cases hregex : regex = r.regex
    · subst hregex
      rw [SortedMap.get?_insert_self]
      split
      · rename_i hi
        refine ⟨fun heq => absurd (Option.some.inj heq) (by omega), fun heq => ?_⟩
        exact absurd (List.mem_of_getElem? heq) hnew
      · rename_i hi
        constructor
        · intro heq
          rw [if_pos (by rw [← Option.some.inj heq]; omega)]
        · intro heq
          split at heq
          · rw [Option.some.injEq]; omega
          · exact absurd heq (by simp)
    · rw [SortedMap.get?_insert_of_ne rs.index _ hregex, h.index]
      split
      · exact Iff.rfl
      · rename_i hi
        rw [List.getElem?_eq_none (by omega)]
        refine ⟨fun heq => absurd heq (by simp), fun heq => ?_⟩
        split at heq
        · exact absurd (Option.some.inj heq).symm hregex
        · exact absurd heq (by simp)

end VariableRoutes.Indexed

/-! ## History -/

/-- What the parts of `s` owe to the declarations `ds`. -/
structure History (ds : List Declaration) (s : RouteSet) : Prop where
  /-- A literal path has the handler of its declaration. -/
  static : ∀ path method : String, (s.staticRoutes.get? path).bind (·.get? method) =
    (ds.find? (Declaration.isForPath path method)).map Declaration.handler
  /-- The expressions are in the order in which they were first declared. -/
  order : ∀ q : String → Bool, (s.variableRoutes.routes.map VariableRoute.regex).find? q =
    (ds.filterMap Declaration.regex?).find? q
  indexed : s.variableRoutes.Indexed
  /-- An expression has the target of its declaration. -/
  targets : ∀ r ∈ s.variableRoutes.routes, ∀ method : String, r.targets.get? method =
    (ds.find? (Declaration.isForRegex r.regex method)).bind Declaration.target?
  /-- An expression comes from a declaration. -/
  source : ∀ r ∈ s.variableRoutes.routes, ∃ d ∈ ds, ∃ p, d.compiled? = some p ∧
    p.regex = r.regex ∧ p.names.length = r.groupCount

namespace History

theorem empty : History [] .empty where
  static _ _ := rfl
  order _ := rfl
  indexed := ⟨List.nodup_nil, fun regex i => by simp [RouteSet.empty, VariableRoutes.empty]⟩
  targets r hr := absurd hr List.not_mem_nil
  source r hr := absurd hr List.not_mem_nil

variable {ds : List Declaration} {s s' : RouteSet} {d : Declaration}

/-- Names make no difference to paths and expressions. -/
theorem registerName (h : History ds s) (name : Option String) (route : NamedRoute) :
    History ds (s.registerName name route) := by
  unfold RouteSet.registerName
  split
  · exact h
  · split
    · exact h
    · exact ⟨h.static, h.order, h.indexed, h.targets, h.source⟩

theorem find?_append_singleton (p : Declaration → Bool) :
    (ds ++ [d]).find? p = (ds.find? p).or (if p d then some d else none) := by
  rw [List.find?_append, List.find?_singleton]

/-- A literal path that is taken in had no handler for the methods. -/
theorem static_eq_none (h : History ds s) {methods : Methods} {path : String}
    (hdup : s.staticDuplicate? methods path = none) {method : String}
    (hmethod : methods.toList.any (fun m => m.name == method) = true) :
    ds.find? (Declaration.isForPath path method) = none := by
  rw [RouteSet.staticDuplicate?, Option.map_eq_none_iff, List.find?_eq_none] at hdup
  obtain ⟨m, hm, hname⟩ := List.any_eq_true.mp hmethod
  have hnone := hdup m hm
  rw [eq_of_beq hname, StaticTable.hasRoute] at hnone
  rw [← Option.map_eq_none_iff, ← h.static path method]
  cases hget : s.staticRoutes.get? path with
  | none => rfl
  | some handlers =>
    rw [hget] at hnone
    simpa [SortedMap.contains] using hnone

theorem withStatic (h : History ds s) {path : String} (hpath : d.path? = some path)
    (hnone : d.compiled? = none) (hdup : s.staticDuplicate? d.methods path = none) :
    History (ds ++ [d]) (s.withStatic d.methods path d.handler d.name) := by
  unfold RouteSet.withStatic
  apply registerName
  refine ⟨fun path' method => ?_, fun q => ?_, h.indexed, fun r hr method => ?_, fun r hr => ?_⟩
  · rw [get?_insertAll, find?_append_singleton, h.static]
    have hfor : d.isForPath path' method = true ↔
        path' = path ∧ d.methods.toList.any (fun m => m.name == method) = true := by
      rw [Declaration.isForPath_iff, hpath, Option.some.injEq, eq_comm]
      rfl
    split
    · rename_i hd
      rw [if_pos (hfor.mpr hd), hd.1, h.static_eq_none hdup hd.2]
      rfl
    · rename_i hd
      rw [if_neg fun h => hd (hfor.mp h), Option.or_none]
  · rw [List.filterMap_append, List.filterMap_cons, Declaration.regex?, hnone]
    simpa using h.order q
  · rw [find?_append_singleton, d.isForRegex_eq_false hnone]
    simpa using h.targets r hr method
  · obtain ⟨d', hd', p, hp⟩ := h.source r hr
    exact ⟨d', List.mem_append_left _ hd', p, hp⟩

/-- What holds of `s` when the expression of `d` has its place there, but not yet its targets. -/
structure Reserved (ds : List Declaration) (d : Declaration) (p : CompiledPattern) (s : RouteSet) :
    Prop where
  static : ∀ path method : String, (s.staticRoutes.get? path).bind (·.get? method) =
    (ds.find? (Declaration.isForPath path method)).map Declaration.handler
  order : ∀ q : String → Bool, (s.variableRoutes.routes.map VariableRoute.regex).find? q =
    ((ds ++ [d]).filterMap Declaration.regex?).find? q
  indexed : s.variableRoutes.Indexed
  targets : ∀ r ∈ s.variableRoutes.routes, ∀ method : String, r.targets.get? method =
    (ds.find? (Declaration.isForRegex r.regex method)).bind Declaration.target?
  source : ∀ r ∈ s.variableRoutes.routes, ∃ d' ∈ ds ++ [d], ∃ p, d'.compiled? = some p ∧
    p.regex = r.regex ∧ p.names.length = r.groupCount
  free : ∀ method : String, d.lists method = true →
    ds.find? (Declaration.isForRegex p.regex method) = none

theorem withTargets {p : CompiledPattern} (h : Reserved ds d p s) (hpath : d.path? = none)
    (hp : d.compiled? = some p) :
    History (ds ++ [d]) (s.withTargets d.methods p d.handler d.name) := by
  have hfor : ∀ regex method, d.isForRegex regex method = true ↔
      regex = p.regex ∧ d.lists method = true := fun regex method => by
    rw [Declaration.isForRegex_iff, Declaration.regex?_of_compiled hp, Option.some.injEq, eq_comm]
  unfold RouteSet.withTargets
  apply registerName
  refine ⟨fun path method => ?_, fun q => ?_, h.indexed.addTargets _ _ _, fun r hr method => ?_,
    fun r hr => ?_⟩
  · rw [find?_append_singleton, d.isForPath_eq_false hpath]
    simpa using h.static path method
  · rw [h.indexed.map_regex_addTargets]
    exact h.order q
  · rw [h.indexed.routes_addTargets] at hr
    obtain ⟨r₀, hr₀, rfl⟩ := List.mem_map.mp hr
    rw [find?_append_singleton]
    split
    · rename_i hregex
      rw [get?_addTargets, h.targets r₀ hr₀]
      have hregex' : (r₀.addTargets d.methods ⟨d.handler, p.names⟩).regex = r₀.regex := rfl
      rw [hregex', hregex]
      by_cases hlists : d.lists method = true
      · rw [if_pos ((hfor p.regex method).mpr ⟨rfl, hlists⟩), h.free method hlists, Option.none_or,
          Option.bind_some, Declaration.target?, hp]
        exact if_pos hlists
      · rw [if_neg fun hd => hlists ((hfor p.regex method).mp hd).2, Option.or_none]
        exact if_neg hlists
    · rename_i hregex
      rw [if_neg fun hd => hregex ((hfor _ _).mp hd).1, Option.or_none]
      exact h.targets r₀ hr₀ method
  · rw [h.indexed.routes_addTargets] at hr
    obtain ⟨r₀, hr₀, rfl⟩ := List.mem_map.mp hr
    obtain ⟨d', hd', p', hp'⟩ := h.source r₀ hr₀
    refine ⟨d', hd', p', ?_⟩
    split <;> exact hp'

/-- An expression that is taken in had no targets for the methods. -/
theorem targets_eq_none (h : History ds s) {methods : Methods} {regex : String}
    (hdup : s.variableDuplicate? methods regex = none) {method : String}
    (hmethod : methods.toList.any (fun m => m.name == method) = true)
    {r : VariableRoute} (hr : r ∈ s.variableRoutes.routes) (hregex : r.regex = regex) :
    r.targets.get? method = none := by
  rw [RouteSet.variableDuplicate?, Option.map_eq_none_iff, List.find?_eq_none] at hdup
  obtain ⟨m, hm, hname⟩ := List.any_eq_true.mp hmethod
  have hnone := hdup m hm
  obtain ⟨i, hi⟩ := List.mem_iff_getElem?.mp hr
  have hindex : s.variableRoutes.index.get? regex = some i := by
    rw [h.indexed.index, List.getElem?_map, hi, Option.map_some, hregex]
  rw [eq_of_beq hname, VariableRoutes.hasRoute, VariableRoutes.find?, hindex, Option.bind_some, hi]
    at hnone
  simpa [SortedMap.contains] using hnone

theorem exists_target {d : Declaration} {regex method : String}
    (h : d.isForRegex regex method = true) : ∃ t, d.target? = some t := by
  rw [Declaration.isForRegex_iff, Declaration.regex?, Option.map_eq_some_iff] at h
  obtain ⟨⟨p, hp, -⟩, -⟩ := h
  exact ⟨⟨d.handler, p.names⟩, by rw [Declaration.target?, hp]; rfl⟩

/-- The declared expressions are those that have a place. -/
theorem mem_regexes (h : History ds s) (regex : String) :
    regex ∈ s.variableRoutes.routes.map VariableRoute.regex ↔
      regex ∈ ds.filterMap Declaration.regex? := by
  have horder := congrArg Option.isSome (h.order fun x => x == regex)
  rw [Bool.eq_iff_iff, List.find?_isSome, List.find?_isSome] at horder
  simpa using horder

theorem find?_isForRegex_eq_none (h : History ds s) {regex : String}
    (hnew : regex ∉ s.variableRoutes.routes.map VariableRoute.regex) (method : String) :
    ds.find? (Declaration.isForRegex regex method) = none := by
  rw [List.find?_eq_none]
  intro d hd hfor
  rw [Declaration.isForRegex_iff] at hfor
  exact hnew ((h.mem_regexes regex).mpr (List.mem_filterMap.mpr ⟨d, hd, hfor.1⟩))

theorem reserved_of_known (h : History ds s) {p : CompiledPattern} (hp : d.compiled? = some p)
    (hdup : s.variableDuplicate? d.methods p.regex = none)
    (hindex : s.variableRoutes.index.contains p.regex = true) : Reserved ds d p s where
  static := h.static
  order q := by
    have hmem := (h.mem_regexes p.regex).mp ((h.indexed.contains_iff p.regex).mp hindex)
    rw [h.order q, List.filterMap_append, List.find?_append]
    cases hfind : (ds.filterMap Declaration.regex?).find? q with
    | some regex => rfl
    | none =>
      have hq : q p.regex = false := by simpa using List.find?_eq_none.mp hfind p.regex hmem
      simp [Declaration.regex?_of_compiled hp, hq]
  indexed := h.indexed
  targets := h.targets
  source r hr := by
    obtain ⟨d', hd', p', hp'⟩ := h.source r hr
    exact ⟨d', List.mem_append_left _ hd', p', hp'⟩
  free method hmethod := by
    obtain ⟨r, hr, hregex⟩ := List.mem_map.mp ((h.indexed.contains_iff p.regex).mp hindex)
    have htargets := h.targets r hr method
    rw [h.targets_eq_none hdup hmethod hr hregex, hregex] at htargets
    cases hfind : ds.find? (Declaration.isForRegex p.regex method) with
    | none => rfl
    | some d' =>
      obtain ⟨t, ht⟩ := exists_target (List.find?_some hfind)
      rw [hfind, Option.bind_some, ht] at htargets
      exact absurd htargets (by simp)

theorem ofRegex_eq_ok {regex : String} {groupCount : Nat} {route : VariableRoute}
    (h : VariableRoute.ofRegex regex groupCount = .ok route) :
    route.regex = regex ∧ route.groupCount = groupCount ∧ route.targets = .empty := by
  unfold VariableRoute.ofRegex at h
  split at h
  · obtain rfl := Except.ok.inj h
    exact ⟨rfl, rfl, rfl⟩
  · exact absurd h (by simp)

theorem reserved_of_fresh (h : History ds s) {p : CompiledPattern} {route : VariableRoute}
    (hp : d.compiled? = some p) (hindex : s.variableRoutes.index.contains p.regex = false)
    (hroute : VariableRoute.ofRegex p.regex p.names.length = .ok route) :
    Reserved ds d p (s.withRoute route) := by
  obtain ⟨hregex, hcount, htargets⟩ := ofRegex_eq_ok hroute
  have hnew : p.regex ∉ s.variableRoutes.routes.map VariableRoute.regex := fun hmem => by
    rw [(h.indexed.contains_iff p.regex).mpr hmem] at hindex
    exact absurd hindex (by simp)
  refine ⟨h.static, fun q => ?_, h.indexed.push (hregex ▸ hindex), fun r hr method => ?_,
    fun r hr => ?_, fun method _ => h.find?_isForRegex_eq_none hnew method⟩
  · rw [RouteSet.withRoute, VariableRoutes.push, List.map_append, List.find?_append, h.order q,
      List.filterMap_append, List.find?_append, List.map_singleton, hregex]
    simp [Declaration.regex?_of_compiled hp]
  · rcases List.mem_append.mp hr with hr | hr
    · exact h.targets r hr method
    · obtain rfl := List.mem_singleton.mp hr
      rw [htargets, hregex, h.find?_isForRegex_eq_none hnew method]
      rfl
  · rcases List.mem_append.mp hr with hr | hr
    · obtain ⟨d', hd', p', hp'⟩ := h.source r hr
      exact ⟨d', List.mem_append_left _ hd', p', hp'⟩
    · obtain rfl := List.mem_singleton.mp hr
      exact ⟨d, by simp, p, hp, hregex.symm, hcount.symm⟩

/-- A declaration that is taken in is added to the history. -/
theorem accepts (h : History ds s) (haccepts : Accepts s d s') : History (ds ++ [d]) s' := by
  cases haccepts with
  | literal hpath hnone hdup _ => exact h.withStatic hpath hnone hdup
  | known hpath hp hdup hindex => exact withTargets (h.reserved_of_known hp hdup hindex) hpath hp
  | fresh hpath hp _ hindex hroute =>
    exact withTargets (h.reserved_of_fresh hp hindex hroute) hpath hp

end History

/-! ## Runs -/

section Run

variable {P : List Declaration → RouteSet → Prop}

/-- What holds of a set and is kept with every declaration that is taken in holds after a run. -/
theorem declareEach_induction
    (step : ∀ {ds s d s'}, P ds s → Accepts s d s' → P (ds ++ [d]) s') :
    ∀ {ds : List Declaration} {s : RouteSet}, P ds s → ∀ calls : List Declaration,
      P (ds ++ (s.declareEach calls).1) (s.declareEach calls).2 := by
  intro ds s h calls
  induction calls generalizing ds s with
  | nil => simpa [RouteSet.declareEach] using h
  | cons d calls ih =>
    unfold RouteSet.declareEach
    split
    · rename_i s' hrun
      have hnext := ih (step h (accepts_of_ok hrun))
      rwa [List.append_assoc, List.singleton_append] at hnext
    · rename_i e s' hrun
      obtain rfl := eq_of_error hrun
      exact ih h

end Run

/-- Declarations are all taken in if the first is and then the others are. -/
theorem run_declareAll_cons {d : Declaration} {ds : List Declaration} {s s' : RouteSet} :
    (declareAll (d :: ds)).run s = (.ok (), s') ↔
      ∃ s₁, (declare d).run s = (.ok (), s₁) ∧ (declareAll ds).run s₁ = (.ok (), s') := by
  rw [declareAll, run_bind]
  rcases (declare d).run s with ⟨_ | _, s₁⟩
  · refine ⟨fun h => absurd (Prod.mk.inj h).1 (by simp), ?_⟩
    rintro ⟨_, h, -⟩
    exact absurd (Prod.mk.inj h).1 (by simp)
  · refine ⟨fun h => ⟨s₁, rfl, h⟩, ?_⟩
    rintro ⟨_, h, hds⟩
    obtain ⟨-, rfl⟩ := Prod.mk.inj h
    exact hds

theorem run_declareAll_append {ds later : List Declaration} {s s' s'' : RouteSet}
    (h : (declareAll ds).run s = (.ok (), s'))
    (hlater : (declareAll later).run s' = (.ok (), s'')) :
    (declareAll (ds ++ later)).run s = (.ok (), s'') := by
  induction ds generalizing s with
  | nil =>
    obtain ⟨-, rfl⟩ := Prod.mk.inj h
    exact hlater
  | cons d ds ih =>
    obtain ⟨s₁, hd, hds⟩ := run_declareAll_cons.mp h
    rw [List.cons_append, run_declareAll_cons]
    exact ⟨s₁, hd, ih hds⟩

/-- Where all declarations are taken in, none is dropped. -/
theorem declareEach_of_declareAll {ds : List Declaration} {s s' : RouteSet}
    (h : (declareAll ds).run s = (.ok (), s')) : s.declareEach ds = (ds, s') := by
  induction ds generalizing s with
  | nil =>
    obtain ⟨-, rfl⟩ := Prod.mk.inj h
    rfl
  | cons d ds ih =>
    obtain ⟨s₁, hd, hds⟩ := run_declareAll_cons.mp h
    simp only [RouteSet.declareEach, hd, ih hds]

theorem ofDeclarations_eq_ok {ds : List Declaration} {s : RouteSet} :
    RouteSet.ofDeclarations ds = .ok s ↔ (declareAll ds).run .empty = (.ok (), s) := by
  rw [RouteSet.ofDeclarations]
  rcases (declareAll ds).run .empty with ⟨_ | _, s'⟩
  · exact ⟨fun h => absurd h (by simp), fun h => absurd (Prod.mk.inj h).1 (by simp)⟩
  · exact ⟨fun h => Prod.ext rfl (Except.ok.inj h), fun h => congrArg _ (Prod.mk.inj h).2⟩

/-- Running declarations adds those that are taken in to the history. -/
theorem History.declareEach {ds : List Declaration} {s : RouteSet} (h : History ds s)
    (calls : List Declaration) :
    History (ds ++ (s.declareEach calls).1) (s.declareEach calls).2 :=
  declareEach_induction (fun h haccepts => h.accepts haccepts) h calls

/-- **Every set that declarations lead to keeps the history of those that are taken in.** -/
theorem history_declareEach (calls : List Declaration) :
    History (RouteSet.empty.declareEach calls).1 (RouteSet.empty.declareEach calls).2 :=
  History.empty.declareEach calls

/-- Declarations that are all taken in are the history of the set they lead to. -/
theorem history_of_declareAll {ds : List Declaration} {s : RouteSet}
    (h : (declareAll ds).run .empty = (.ok (), s)) : History ds s := by
  have hhistory := history_declareEach ds
  rwa [declareEach_of_declareAll h] at hhistory

/-- What is kept with every declaration that a set with a history takes in holds after all runs. -/
theorem run_induction {P : List Declaration → RouteSet → Prop} (start : P [] .empty)
    (step : ∀ {ds s d s'}, History ds s → P ds s → Accepts s d s' → P (ds ++ [d]) s')
    (calls : List Declaration) :
    P (RouteSet.empty.declareEach calls).1 (RouteSet.empty.declareEach calls).2 :=
  (declareEach_induction (P := fun ds s => History ds s ∧ P ds s)
    (fun h haccepts => ⟨h.1.accepts haccepts, step h.1 h.2 haccepts⟩)
    ⟨History.empty, start⟩ calls).2

end RouteTable
