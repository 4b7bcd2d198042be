import RouteTable.Proofs.Dispatch.Loading

/-!
# Growing sets of routes

A declaration that is taken in changes no answer that was found: a literal path is refused where an
expression already answers, and an expression comes after those that were declared before it. Where
the method was not allowed, it may become allowed, and no method is lost.

* `Answer.Grows`: how the answer to a request may change.
* `isForPath_eq_false_of_chosen`: the check against shadowing keeps answers found by an expression.
* `reference_grows`: the reference grows with the declarations.
* `find_grows`: so do the answers of dispatchers.
-/

namespace RouteTable

open Regex

/-- How an answer may change: what is found stays, and a method that is not allowed may become
allowed, while all methods listed stay. -/
def Answer.Grows : Answer → Answer → Prop
  | .found f, a => a = .found f
  | .methodNotAllowed allowed, a =>
    (∃ f, a = .found f) ∨ ∃ allowed', a = .methodNotAllowed allowed' ∧ allowed ⊆ allowed'
  | .notFound, _ => True

variable {ds : List Declaration} {s s' : RouteSet} {d : Declaration} {method path : String}

/-! ## Longer histories -/

theorem firstMatch?_append {regex : String} (h : firstMatch? ds path = some regex) :
    firstMatch? (ds ++ [d]) path = some regex := by
  unfold firstMatch? at h ⊢
  rw [List.filterMap_append, List.find?_append, h, Option.some_or]

theorem find?_append_of_some {p : Declaration → Bool} {c : Declaration} (h : ds.find? p = some c) :
    (ds ++ [d]).find? p = some c := by
  rw [List.find?_append, h, Option.some_or]

theorem chosen?_append {c : Declaration} (h : chosen? ds method path = some c) :
    chosen? (ds ++ [d]) method path = some c := by
  obtain ⟨regex, hfirst, hc⟩ := Option.bind_eq_some_iff.mp h
  rw [chosen?, firstMatch?_append hfirst, Option.bind_some]
  exact find?_append_of_some hc

theorem methods_append {p : Declaration → Bool} {m : String}
    (h : m ∈ (ds.filter p).flatMap Declaration.methodNames) :
    m ∈ ((ds ++ [d]).filter p).flatMap Declaration.methodNames := by
  rw [List.filter_append, List.flatMap_append]
  exact List.mem_append_left _ h

theorem methodsFor_append {m : String} (h : m ∈ methodsFor ds path) :
    m ∈ methodsFor (ds ++ [d]) path := by
  unfold methodsFor at h ⊢
  rw [List.mem_append] at h ⊢
  rcases h with h | h
  · exact Or.inl (methods_append h)
  · cases hfirst : firstMatch? ds path with
    | none =>
      rw [hfirst, Option.elim_none] at h
      exact absurd h List.not_mem_nil
    | some regex =>
      rw [hfirst, Option.elim_some] at h
      rw [firstMatch?_append hfirst, Option.elim_some]
      exact Or.inr (methods_append h)

/-! ## Shadowing -/

/-- Where a declaration is chosen, an expression catches the path for the method. -/
theorem exists_shadowing (h : History ds s) {c : Declaration}
    (hc : chosen? ds method path = some c) :
    (s.variableRoutes.shadowing? path method).isSome = true := by
  obtain ⟨regex, hfirst, hfind⟩ := Option.bind_eq_some_iff.mp hc
  have hroute := h.find?_isMatch path
  rw [hfirst, Option.map_eq_some_iff] at hroute
  obtain ⟨r, hr, rfl⟩ := hroute
  have hmem := List.mem_of_find?_eq_some hr
  obtain ⟨t, ht⟩ := History.exists_target (List.find?_some hfind)
  have htarget := h.targets r hmem method
  rw [hfind, Option.bind_some, ht] at htarget
  rw [VariableRoutes.shadowing?, Option.isSome_map, List.find?_isSome]
  have hmatch := List.find?_some hr
  refine ⟨r, List.mem_filter.mpr ⟨hmem, ?_⟩, hmatch⟩
  rw [SortedMap.contains, htarget]
  rfl

/-- A literal path is not taken in for a method for which an expression answers. -/
theorem isForPath_eq_false_of_chosen (h : History ds s) (haccepts : Accepts s d s')
    {c : Declaration} (hc : chosen? ds method path = some c) :
    d.isForPath path method = false := by
  rw [← Bool.not_eq_true]
  intro hfor
  rw [Declaration.isForPath_iff] at hfor
  obtain ⟨hpath, hlists⟩ := hfor
  have hshadowing := exists_shadowing h hc
  cases haccepts with
  | @literal path' hpath' _ _ hshadow =>
    obtain rfl := Option.some.inj (hpath.symm.trans hpath')
    rw [RouteSet.shadowed?, List.findSome?_eq_none_iff] at hshadow
    obtain ⟨m, hm, hname⟩ := List.any_eq_true.mp hlists
    have hnone := hshadow m hm
    rw [eq_of_beq hname, Option.map_eq_none_iff] at hnone
    rw [hnone] at hshadowing
    exact absurd hshadowing (by simp)
  | known hpath' => exact absurd (hpath.symm.trans hpath') (by simp)
  | fresh hpath' => exact absurd (hpath.symm.trans hpath') (by simp)

/-! ## Answers -/

/-- A refusal grows to whatever lists the same methods. -/
theorem refusal_grows {allowed : List String} (h : ∀ m ∈ allowed, m ∈ methodsFor ds path) :
    (refusal allowed).Grows (reference ds method path) := by
  unfold refusal
  split
  · exact trivial
  · rename_i hne
    obtain ⟨m, hm⟩ := List.exists_mem_of_ne_nil allowed hne
    unfold reference referenceByRegex
    split
    · exact Or.inl ⟨_, rfl⟩
    · split
      · exact Or.inl ⟨_, rfl⟩
      · refine Or.inr ⟨(methodsFor ds path).dedup.mergeSort, ?_, fun m' hm' => ?_⟩
        · exact if_neg (List.ne_nil_of_mem (h m hm))
        · rw [List.mem_mergeSort, List.mem_dedup] at hm' ⊢
          exact h m' hm'

/-- **The reference grows with the declarations that are taken in.** -/
theorem reference_grows (h : History ds s) (haccepts : Accepts s d s') (method path : String) :
    (reference ds method path).Grows (reference (ds ++ [d]) method path) := by
  cases hliteral : ds.find? (Declaration.isForPath path method) with
  | some c =>
    rw [reference, reference, hliteral, find?_append_of_some hliteral]
    rfl
  | none =>
    rw [reference, hliteral, referenceByRegex]
    cases hc : chosen? ds method path with
    | some c =>
      have hnone : (ds ++ [d]).find? (Declaration.isForPath path method) = none := by
        rw [List.find?_append, hliteral, List.find?_singleton,
          isForPath_eq_false_of_chosen h haccepts hc]
        rfl
      rw [reference, hnone, referenceByRegex, chosen?_append hc]
      rfl
    | none => exact refusal_grows fun m hm => methodsFor_append hm

/-- **A declaration that is taken in keeps what requests find**, and takes no method from those that
are refused. -/
theorem find_grows {calls : List Declaration} {d : Declaration} {s' : RouteSet}
    (hkeep : ∀ a ∈ (RouteSet.empty.declareEach calls).1 ++ [d], a.keepsGroups = true)
    (hrun : (declare d).run (RouteSet.empty.declareEach calls).2 = (.ok (), s'))
    {table table' : DispatchTable}
    (hbuild : (RouteSet.empty.declareEach calls).2.build = .ok table)
    (hbuild' : s'.build = .ok table') :
    ∃ disp disp', Dispatcher.ofTable table = .ok disp ∧ Dispatcher.ofTable table' = .ok disp' ∧
      ∀ method path : String, (disp.find method path).Grows (disp'.find method path) := by
  have h := history_declareEach calls
  have haccepts := accepts_of_ok hrun
  have hkeep' : ∀ a ∈ (RouteSet.empty.declareEach calls).1, a.keepsGroups = true :=
    fun a ha => hkeep a (List.mem_append_left _ ha)
  obtain ⟨disp, hload, -⟩ := h.exists_dispatcher hkeep' hbuild
  obtain ⟨disp', hload', -⟩ := (h.accepts haccepts).exists_dispatcher hkeep hbuild'
  refine ⟨disp, disp', hload, hload', fun method path => ?_⟩
  rw [h.find_eq hkeep' hbuild hload, (h.accepts haccepts).find_eq hkeep hbuild' hload']
  exact reference_grows h haccepts method path

theorem exists_of_fst_eq_ok {x : Except RouteError Unit × RouteSet} (h : x.1 = .ok ()) :
    ∃ s', x = (.ok (), s') := ⟨x.2, Prod.ext h rfl⟩

/-- One more method for an expression that is known. -/
def another : Declaration :=
  ⟨Methods.ofList [⟨"PUT", by decide⟩], "/users/{id:[0-9]+}", ⟨"Users", "put"⟩, none⟩

theorem grows_overlapping : ∃ s' table table' disp disp',
    (declare another).run (RouteSet.empty.declareEach overlapping).2 = (.ok (), s') ∧
      (RouteSet.empty.declareEach overlapping).2.build = .ok table ∧ s'.build = .ok table' ∧
      Dispatcher.ofTable table = .ok disp ∧ Dispatcher.ofTable table' = .ok disp' ∧
      disp.find "POST" "/users/7" = .found ⟨⟨"Users", "update"⟩, [("key", "7")]⟩ ∧
      disp'.find "POST" "/users/7" = .found ⟨⟨"Users", "update"⟩, [("key", "7")]⟩ := by
  have hok : ((declare another).run (RouteSet.empty.declareEach overlapping).2).1 = .ok () := by
    decide +kernel
  have hserves : ((declare another).run (RouteSet.empty.declareEach overlapping).2).2.serves =
      true := by
    decide +kernel
  have hkeep : ∀ a ∈ (RouteSet.empty.declareEach overlapping).1 ++ [another],
      a.keepsGroups = true := by
    rw [declareEach_overlapping]
    decide +kernel
  have hanswer : reference (RouteSet.empty.declareEach overlapping).1 "POST" "/users/7" =
      .found ⟨⟨"Users", "update"⟩, [("key", "7")]⟩ := by
    rw [declareEach_overlapping]
    decide +kernel
  obtain ⟨s', hrun⟩ := exists_of_fst_eq_ok hok
  rw [hrun] at hserves
  obtain ⟨table, disp₀, hbuild, hload₀⟩ := exists_of_serves serves_overlapping
  obtain ⟨table', -, hbuild', -⟩ := exists_of_serves hserves
  have hfound := (History.find_eq (history_declareEach overlapping) keepsGroups_overlapping hbuild
    hload₀ "POST" "/users/7").trans hanswer
  obtain ⟨disp, disp', hload, hload', hgrows⟩ := find_grows hkeep hrun hbuild hbuild'
  obtain rfl := Except.ok.inj (hload.symm.trans hload₀)
  have hsame := hgrows "POST" "/users/7"
  rw [hfound] at hsame
  exact ⟨s', table, table', disp, disp', hrun, hbuild, hbuild', hload, hload', hfound, hsame⟩

end RouteTable
