import RouteTable.Proofs.Dispatch.Reference

/-!
# Precedence

Expressions are tried in the order in which each was declared first, for whatever method. A request
is therefore not always answered by the earliest declaration for its method whose pattern matches:
the expression of a later one goes before it if another method brought the expression in earlier.

* `Declaration.answers`: whether a declaration is for the method and its pattern matches the path.
* `eq_earliest_iff`: of the declarations that answer, the earliest is chosen exactly if no
  expression that matches was declared before its own.
* `found_eq_earliest_iff`: the same of the dispatcher that declarations lead to.
-/

namespace RouteTable

open Regex

/-- Whether the declaration is for the method and its pattern matches the whole path. -/
def Declaration.answers (method path : String) (d : Declaration) : Bool :=
  d.lists method && d.regex?.any fun regex => (matchAlone? regex path).isSome

variable {ds : List Declaration} {method path : String} {d e : Declaration}

/-! ## The declaration chosen -/

theorem isSome_of_firstMatch {regex : String} (h : firstMatch? ds path = some regex) :
    (matchAlone? regex path).isSome = true := by
  unfold firstMatch? at h
  have hmatch := List.find?_some h
  exact hmatch

theorem chosen?_eq_some (h : chosen? ds method path = some d) :
    ∃ regex, firstMatch? ds path = some regex ∧
      ds.find? (Declaration.isForRegex regex method) = some d ∧ d.regex? = some regex ∧
      d.lists method = true := by
  obtain ⟨regex, hfirst, hd⟩ := Option.bind_eq_some_iff.mp h
  have hfor := List.find?_some hd
  rw [Declaration.isForRegex_iff] at hfor
  exact ⟨regex, hfirst, hd, hfor⟩

/-- A declaration for the first expression that matches answers. -/
theorem answers_of_regex {regex : String} (hfirst : firstMatch? ds path = some regex)
    (hregex : d.regex? = some regex) (hlists : d.lists method = true) :
    d.answers method path = true := by
  rw [Declaration.answers, hregex, hlists]
  exact isSome_of_firstMatch hfirst

/-- Where a declaration is chosen, some declaration is the earliest that answers. -/
theorem exists_earliest (h : chosen? ds method path = some d) :
    ∃ e, ds.find? (Declaration.answers method path) = some e := by
  obtain ⟨regex, hfirst, hd, hregex, hlists⟩ := chosen?_eq_some h
  rw [← Option.isSome_iff_exists, List.find?_isSome]
  exact ⟨d, List.mem_of_find?_eq_some hd, answers_of_regex hfirst hregex hlists⟩

/-- Of the declarations that answer, the earliest is chosen exactly if no expression that matches
was declared before its own. -/
theorem eq_earliest_iff (h : chosen? ds method path = some d)
    (he : ds.find? (Declaration.answers method path) = some e) :
    d = e ↔ e.regex? = firstMatch? ds path := by
  obtain ⟨regex, hfirst, hd, hdregex, -⟩ := chosen?_eq_some h
  rw [hfirst]
  constructor
  · rintro rfl
    exact hdregex
  · intro hregex
    obtain ⟨hanswers, before, after, rfl, hbefore⟩ := List.find?_eq_some_iff_append.mp he
    rw [Declaration.answers, Bool.and_eq_true] at hanswers
    have hfor : e.isForRegex regex method = true :=
      Declaration.isForRegex_iff.mpr ⟨hregex, hanswers.1⟩
    -- What stands before `e` does not answer, so it is not for the expression either.
    have hfind : (before ++ e :: after).find? (Declaration.isForRegex regex method) = some e := by
      refine List.find?_eq_some_iff_append.mpr ⟨hfor, before, after, rfl, fun a ha => ?_⟩
      rw [Bool.not_eq_true', ← Bool.not_eq_true]
      intro hafor
      rw [Declaration.isForRegex_iff] at hafor
      have hano := hbefore a ha
      rw [answers_of_regex hfirst hafor.1 hafor.2] at hano
      exact absurd hano (by simp)
    exact Option.some.inj (hd.symm.trans hfind)

theorem map_fst_variables (c : Captures) (names : List String) :
    (c.variables names).map Prod.fst = names := by
  rw [Captures.variables, List.map_map]
  exact List.zipIdx_map_fst 0 names

/-- The variables are the placeholders of the declaration chosen. -/
theorem map_fst_of_chosen (h : chosen? ds method path = some d) :
    (d.variables path).map Prod.fst = d.names := by
  obtain ⟨regex, hfirst, -, hregex, -⟩ := chosen?_eq_some h
  obtain ⟨c, hc⟩ := Option.isSome_iff_exists.mp (isSome_of_firstMatch hfirst)
  rw [Declaration.variables, hregex, Option.bind_some, hc]
  exact map_fst_variables c d.names

/-! ## Dispatchers -/

/-- **A request for a pattern is answered by a declaration of the first expression that matches, and
this is the earliest that could answer exactly if its expression is that one.** -/
theorem found_eq_earliest_iff {calls : List Declaration}
    (hkeep : ∀ d ∈ (RouteSet.empty.declareEach calls).1, d.keepsGroups = true)
    {table : DispatchTable} {disp : Dispatcher}
    (hbuild : (RouteSet.empty.declareEach calls).2.build = .ok table)
    (hload : Dispatcher.ofTable table = .ok disp) {method path : String} {f : Found}
    (hfound : disp.find method path = .found f)
    (hliteral : (RouteSet.empty.declareEach calls).1.find? (Declaration.isForPath path method) =
      none) :
    ∃ d e, d ∈ (RouteSet.empty.declareEach calls).1 ∧ d.answers method path = true ∧
      f.handler = d.handler ∧ f.values.map Prod.fst = d.names ∧
      (RouteSet.empty.declareEach calls).1.find? (Declaration.answers method path) = some e ∧
      d.regex? = firstMatch? (RouteSet.empty.declareEach calls).1 path ∧
      (d = e ↔ e.regex? = firstMatch? (RouteSet.empty.declareEach calls).1 path) := by
  have hfind := (history_declareEach calls).find_eq hkeep hbuild hload method path
  rw [hfound, reference, hliteral] at hfind
  obtain ⟨d, hchosen, rfl⟩ := referenceByRegex_eq_found hfind.symm
  obtain ⟨e, he⟩ := exists_earliest hchosen
  obtain ⟨regex, hfirst, hd, hregex, hlists⟩ := chosen?_eq_some hchosen
  refine ⟨d, e, List.mem_of_find?_eq_some hd, answers_of_regex hfirst hregex hlists, rfl,
    map_fst_of_chosen hchosen, he, by rw [hregex, hfirst], eq_earliest_iff hchosen he⟩

/-- The expression of the third declaration came first, so a later one answers than could. -/
theorem found_overlapping : ∃ table disp f d e,
    (RouteSet.empty.declareEach overlapping).2.build = .ok table ∧
      Dispatcher.ofTable table = .ok disp ∧ disp.find "POST" "/users/7" = .found f ∧
      f.handler = d.handler ∧ f.values.map Prod.fst = d.names ∧
      (RouteSet.empty.declareEach overlapping).1.find? (Declaration.answers "POST" "/users/7") =
        some e ∧
      d ≠ e ∧ d.handler = ⟨"Users", "update"⟩ ∧ e.handler = ⟨"Any", "create"⟩ := by
  have hanswer : reference (RouteSet.empty.declareEach overlapping).1 "POST" "/users/7" =
      .found ⟨⟨"Users", "update"⟩, [("key", "7")]⟩ := by
    rw [declareEach_overlapping]
    decide +kernel
  have hliteral : (RouteSet.empty.declareEach overlapping).1.find?
      (Declaration.isForPath "/users/7" "POST") = none := by
    rw [declareEach_overlapping]
    decide +kernel
  have hearliest : ((RouteSet.empty.declareEach overlapping).1.find?
      (Declaration.answers "POST" "/users/7")).map Declaration.handler =
        some ⟨"Any", "create"⟩ := by
    rw [declareEach_overlapping]
    decide +kernel
  obtain ⟨table, disp, hbuild, hload⟩ := exists_of_serves serves_overlapping
  have hfound := (History.find_eq (history_declareEach overlapping) keepsGroups_overlapping hbuild
    hload "POST" "/users/7").trans hanswer
  obtain ⟨d, e, -, -, hhandler, hnames, he, -, -⟩ :=
    found_eq_earliest_iff keepsGroups_overlapping hbuild hload hfound hliteral
  rw [he, Option.map_some, Option.some.injEq] at hearliest
  refine ⟨table, disp, _, d, e, hbuild, hload, hfound, hhandler, hnames, he, ?_, hhandler.symm,
    hearliest⟩
  rintro rfl
  rw [← hhandler] at hearliest
  exact absurd hearliest (by decide)

end RouteTable
