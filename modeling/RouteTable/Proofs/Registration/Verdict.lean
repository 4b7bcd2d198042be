import Mathlib.Data.List.Find
import RouteTable.Proofs.Dispatch.Precedence
import RouteTable.Proofs.Dispatch.Records

/-!
# Verdicts on declarations

Whether a declaration is taken in, and why it is refused if it is not, is settled by the
declarations that were taken in before. Checks are made in a fixed order, each for all methods, and
the first that fails is reported.

* `Declaration.firstTaken?`: the first method listed that an earlier declaration has taken.
* `catching?`: the first expression declared for a method that matches a path.
* `Verdict ds d result`: what becomes of `d` after the declarations `ds`, one case for each check.
* `exists_verdict`, `run_of_verdict`: there always is a verdict, and it is what a declaration gets.
* `run_iff_verdict`: a declaration gets its verdict and nothing else.
-/

namespace RouteTable

open Regex

/-! ## What is taken -/

/-- The first method listed for which a declaration of `ds` has the property. -/
def Declaration.firstTaken? (ds : List Declaration) (p : String → Declaration → Bool)
    (d : Declaration) : Option Method :=
  d.methods.toList.find? fun m => ds.any (p m.name)

/-- The first expression that was declared for the method and matches the whole path. -/
def catching? (ds : List Declaration) (method path : String) : Option String :=
  (ds.filterMap Declaration.regex?).find? fun regex =>
    ds.any (Declaration.isForRegex regex method) && (matchAlone? regex path).isSome

variable {ds : List Declaration} {s : RouteSet} {d : Declaration}

theorem firstTaken?_eq_none_iff {p : String → Declaration → Bool} :
    d.firstTaken? ds p = none ↔ ∀ m ∈ d.methods.toList, ∀ e ∈ ds, p m.name e = false := by
  simp [Declaration.firstTaken?]

/-- An expression catches the path exactly if a declaration for the method matches it. -/
theorem isSome_catching? (ds : List Declaration) (method path : String) :
    (catching? ds method path).isSome = ds.any (Declaration.answers method path) := by
  rw [catching?, Bool.eq_iff_iff, List.find?_isSome, List.any_eq_true]
  constructor
  · rintro ⟨regex, -, h⟩
    rw [Bool.and_eq_true, List.any_eq_true] at h
    obtain ⟨⟨e, he, hfor⟩, hmatch⟩ := h
    rw [Declaration.isForRegex_iff] at hfor
    refine ⟨e, he, ?_⟩
    rw [Declaration.answers, hfor.1, hfor.2]
    exact hmatch
  · rintro ⟨e, he, h⟩
    rw [Declaration.answers, Bool.and_eq_true, Option.any_eq_true] at h
    obtain ⟨hlists, regex, hregex, hmatch⟩ := h
    refine ⟨regex, List.mem_filterMap.mpr ⟨e, he, hregex⟩, ?_⟩
    rw [Bool.and_eq_true, List.any_eq_true]
    exact ⟨⟨e, he, Declaration.isForRegex_iff.mpr ⟨hregex, hlists⟩⟩, hmatch⟩

/-! ## What a set of routes knows of it -/

namespace History

/-- A literal path has a handler exactly if it was declared. -/
theorem hasRoute_static (h : History ds s) (path method : String) :
    s.staticRoutes.hasRoute path method = ds.any (Declaration.isForPath path method) := by
  have hstatic := congrArg Option.isSome (h.static path method)
  rw [Option.isSome_map, List.isSome_find?] at hstatic
  rw [← hstatic, StaticTable.hasRoute]
  cases s.staticRoutes.get? path <;> rfl

/-- An expression has a target exactly if it was declared. -/
theorem hasRoute_variable (h : History ds s) (regex method : String) :
    s.variableRoutes.hasRoute regex method = ds.any (Declaration.isForRegex regex method) := by
  have htarget := congrArg Option.isSome (h.get?_target regex method)
  have hsome : ((ds.find? (Declaration.isForRegex regex method)).bind
      Declaration.target?).isSome = (ds.find? (Declaration.isForRegex regex method)).isSome := by
    cases hfind : ds.find? (Declaration.isForRegex regex method) with
    | none => rfl
    | some e =>
      obtain ⟨t, ht⟩ := exists_target (List.find?_some hfind)
      rw [Option.bind_some, ht]
      rfl
  rw [hsome, List.isSome_find?] at htarget
  rw [← htarget, VariableRoutes.hasRoute]
  cases s.variableRoutes.find? regex <;> rfl

theorem contains_index (h : History ds s) (regex : String) :
    s.variableRoutes.index.contains regex = true ↔ ∃ e ∈ ds, e.regex? = some regex := by
  rw [h.indexed.contains_iff, h.mem_regexes, List.mem_filterMap]

/-- The expressions catch a path as those do that were declared. -/
theorem shadowing?_eq (h : History ds s) (path method : String) :
    s.variableRoutes.shadowing? path method = catching? ds method path := by
  have hroutes : ∀ r ∈ s.variableRoutes.routes,
      decide (r.targets.contains method = true ∧ r.isMatch path = true) =
        (ds.any (Declaration.isForRegex r.regex method) &&
          (matchAlone? r.regex path).isSome) := by
    intro r hr
    have hcontains : r.targets.contains method = true ↔
        ds.any (Declaration.isForRegex r.regex method) = true := by
      rw [SortedMap.contains, ← SortedMap.mem_keys, h.mem_keys_targets hr, methodsForRegex,
        mem_methods, List.any_eq_true]
      simp only [Declaration.isForRegex, Bool.and_eq_true]
    rw [← isMatch_eq_matchAlone, Bool.eq_iff_iff, decide_eq_true_eq, Bool.and_eq_true, hcontains]
  rw [VariableRoutes.shadowing?, List.find?_filter, List.find?_congr hroutes, catching?, ← h.order,
    List.find?_map]
  rfl

theorem staticDuplicate?_eq (h : History ds s) (d : Declaration) (path : String) :
    s.staticDuplicate? d.methods path =
      (d.firstTaken? ds (Declaration.isForPath path)).map fun m =>
        .duplicateRoute path m.name := by
  simp only [RouteSet.staticDuplicate?, Declaration.firstTaken?, h.hasRoute_static]

theorem variableDuplicate?_eq (h : History ds s) (d : Declaration) (regex : String) :
    s.variableDuplicate? d.methods regex =
      (d.firstTaken? ds (Declaration.isForRegex regex)).map fun m =>
        .duplicateRoute regex m.name := by
  simp only [RouteSet.variableDuplicate?, Declaration.firstTaken?, h.hasRoute_variable]

theorem findSome?_eq_bind {α β : Type} (f : α → Option β) : ∀ xs : List α,
    xs.findSome? f = (xs.find? fun x => (f x).isSome).bind f
  | [] => rfl
  | x :: xs => by
    rw [List.findSome?_cons, List.find?_cons, findSome?_eq_bind f xs]
    cases hx : f x with
    | none => rfl
    | some b => exact hx.symm

theorem shadowed?_eq (h : History ds s) (d : Declaration) (path : String) :
    s.shadowed? d.methods path =
      (d.firstTaken? ds fun method => Declaration.answers method path).bind fun m =>
        (catching? ds m.name path).map fun regex => .shadowedRoute path regex m.name := by
  rw [RouteSet.shadowed?, findSome?_eq_bind]
  simp only [Option.isSome_map, h.shadowing?_eq, isSome_catching?, Declaration.firstTaken?]

end History

/-! ## Verdicts -/

/-- What becomes of the declaration `d` after the declarations `ds`. A case states its own check and
those that come before it. -/
inductive Verdict (ds : List Declaration) (d : Declaration) : Except RouteError Unit → Prop
  /-- Without methods, any pattern is refused. -/
  | noMethods (hmethods : d.methods.isEmpty = true) : Verdict ds d (.error (.noMethods d.pattern))
  /-- The pattern is not one. -/
  | unreadable {fault : PatternFault} (hmethods : d.methods.isEmpty = false)
      (hread : readTokens d.pattern = .error fault) :
      Verdict ds d (.error (.invalidPattern d.pattern fault))
  /-- The literal path was declared for a method: the first one listed is reported. -/
  | duplicatePath {path : String} {m : Method} (hpath : d.path? = some path)
      (htaken : d.firstTaken? ds (Declaration.isForPath path) = some m) :
      Verdict ds d (.error (.duplicateRoute path m.name))
  /-- A pattern declared for a method matches the literal path: the first method listed is
  reported, with the expression that was declared first. -/
  | shadowed {path regex : String} {m : Method} (hpath : d.path? = some path)
      (hfree : d.firstTaken? ds (Declaration.isForPath path) = none)
      (htaken : (d.firstTaken? ds fun method => Declaration.answers method path) = some m)
      (hregex : catching? ds m.name path = some regex) :
      Verdict ds d (.error (.shadowedRoute path regex m.name))
  /-- The literal path is new for all methods, and none of them has a pattern that matches it. -/
  | literal {path : String} (hmethods : d.methods.isEmpty = false) (hpath : d.path? = some path)
      (hfree : d.firstTaken? ds (Declaration.isForPath path) = none)
      (hclear : (d.firstTaken? ds fun method => Declaration.answers method path) = none) :
      Verdict ds d (.ok ())
  /-- A placeholder has the name of one before it: the first such is reported. -/
  | duplicatePlaceholder {tokens : List Token} {name : String} {before after : List String}
      (hmethods : d.methods.isEmpty = false) (hread : readTokens d.pattern = .ok tokens)
      (hnames : tokens.filterMap Token.name? = before ++ name :: after) (hname : name ∈ before)
      (hbefore : before.Nodup) : Verdict ds d (.error (.duplicatePlaceholder name d.pattern))
  /-- The expression was declared for a method: the first one listed is reported. -/
  | duplicateRegex {regex : String} {m : Method} (hregex : d.regex? = some regex)
      (htaken : d.firstTaken? ds (Declaration.isForRegex regex) = some m) :
      Verdict ds d (.error (.duplicateRoute regex m.name))
  /-- The expression is new and does not compile. -/
  | notCompiled {regex : String} {e : RegexError} (hmethods : d.methods.isEmpty = false)
      (hregex : d.regex? = some regex) (hnew : ∀ c ∈ ds, c.regex? ≠ some regex)
      (hcompile : Regex.compile (anchored regex) = .error e) :
      Verdict ds d (.error (.invalidPattern regex (.expression e)))
  /-- The expression is new for all methods, and it is known or it compiles. -/
  | expression {regex : String} (hmethods : d.methods.isEmpty = false)
      (hregex : d.regex? = some regex)
      (hfree : d.firstTaken? ds (Declaration.isForRegex regex) = none)
      (hcompile : (∃ c ∈ ds, c.regex? = some regex) ∨
        ∃ matcher, Regex.compile (anchored regex) = .ok matcher) : Verdict ds d (.ok ())

/-- A literal path has a verdict. -/
theorem exists_verdict_of_path (hmethods : d.methods.isEmpty = false) {path : String}
    (hpath : d.path? = some path) : ∃ result, Verdict ds d result := by
  cases htaken : d.firstTaken? ds (Declaration.isForPath path) with
  | some m => exact ⟨_, .duplicatePath hpath htaken⟩
  | none =>
    cases hanswers : d.firstTaken? ds fun method => Declaration.answers method path with
    | none => exact ⟨_, .literal hmethods hpath htaken hanswers⟩
    | some m =>
      have hm := List.find?_some hanswers
      rw [← isSome_catching?, Option.isSome_iff_exists] at hm
      obtain ⟨regex, hregex⟩ := hm
      exact ⟨_, .shadowed hpath htaken hanswers hregex⟩

/-- An expression has a verdict. -/
theorem exists_verdict_of_regex (hmethods : d.methods.isEmpty = false) {regex : String}
    (hregex : d.regex? = some regex) : ∃ result, Verdict ds d result := by
  cases htaken : d.firstTaken? ds (Declaration.isForRegex regex) with
  | some m => exact ⟨_, .duplicateRegex hregex htaken⟩
  | none =>
    by_cases hknown : ∃ c ∈ ds, c.regex? = some regex
    · exact ⟨_, .expression hmethods hregex htaken (Or.inl hknown)⟩
    · cases hcompile : Regex.compile (anchored regex) with
      | ok matcher => exact ⟨_, .expression hmethods hregex htaken (Or.inr ⟨matcher, hcompile⟩)⟩
      | error e =>
        refine ⟨_, .notCompiled hmethods hregex (fun c hc heq => hknown ⟨c, hc, heq⟩) hcompile⟩

/-- There is a verdict on every declaration. -/
theorem exists_verdict (ds : List Declaration) (d : Declaration) :
    ∃ result, Verdict ds d result := by
  cases hmethods : d.methods.isEmpty with
  | true => exact ⟨_, .noMethods hmethods⟩
  | false =>
    cases hread : readTokens d.pattern with
    | error fault => exact ⟨_, .unreadable hmethods hread⟩
    | ok tokens =>
      by_cases hliteral : ∃ path, tokens = [.literal path]
      · obtain ⟨path, rfl⟩ := hliteral
        exact exists_verdict_of_path hmethods (by rw [Declaration.path?, hread])
      · have hcompiled := (compiled_of_tokens hread fun path h => hliteral ⟨path, h⟩).2
        cases htokens : CompiledPattern.ofTokens tokens with
        | error name =>
          obtain ⟨before, after, hnames, hname, hbefore⟩ := ofTokens_eq_error.mp htokens
          exact ⟨_, .duplicatePlaceholder hmethods hread hnames hname hbefore⟩
        | ok p =>
          rw [htokens] at hcompiled
          exact exists_verdict_of_regex hmethods (Declaration.regex?_of_compiled hcompiled)

/-! ## Running declarations -/

theorem isEmpty_of_firstTaken {p : String → Declaration → Bool} {m : Method}
    (h : d.firstTaken? ds p = some m) : d.methods.isEmpty = false := by
  rw [Methods.isEmpty, List.isEmpty_eq_false_iff]
  exact List.ne_nil_of_mem (List.mem_of_find?_eq_some h)

/-- A declaration of a literal path runs into the checks of the path. -/
theorem History.run_of_path (h : History ds s) (hmethods : d.methods.isEmpty = false)
    {path : String} (hpath : d.path? = some path) :
    ((declare d).run s).1 =
      match ((d.firstTaken? ds (Declaration.isForPath path)).map fun m =>
          RouteError.duplicateRoute path m.name).or
        ((d.firstTaken? ds fun method => Declaration.answers method path).bind fun m =>
          (catching? ds m.name path).map fun regex => .shadowedRoute path regex m.name) with
      | some e => .error e
      | none => .ok () := by
  rw [run_declare_of_path s hmethods hpath, run_declareStatic, h.staticDuplicate?_eq,
    h.shadowed?_eq]
  generalize Option.or _ _ = failed
  cases failed <;> rfl

/-- A declaration of an expression runs into the checks of the expression. -/
theorem History.run_of_regex (h : History ds s) (hmethods : d.methods.isEmpty = false)
    {regex : String} (hregex : d.regex? = some regex) :
    ∃ groupCount, ((declare d).run s).1 =
      match d.firstTaken? ds (Declaration.isForRegex regex) with
      | some m => .error (.duplicateRoute regex m.name)
      | none => ((reserve regex groupCount).run s).1 := by
  obtain ⟨p, hp, rfl⟩ := Option.map_eq_some_iff.mp hregex
  obtain ⟨tokens, hread, hliteral, htokens⟩ := read_of_compiled hp
  refine ⟨p.names.length, ?_⟩
  rw [run_declare_of_tokens s hmethods hread hliteral, run_declareVariable, htokens]
  simp only [h.variableDuplicate?_eq]
  cases d.firstTaken? ds (Declaration.isForRegex p.regex) with
  | some m => rfl
  | none =>
    simp only [Option.map_none]
    rcases (reserve p.regex p.names.length).run s with ⟨_ | _, _⟩ <;> rfl

/-- A declaration gets its verdict. -/
theorem run_of_verdict (h : History ds s) {result : Except RouteError Unit}
    (hverdict : Verdict ds d result) : ((declare d).run s).1 = result := by
  cases hverdict with
  | noMethods hmethods => rw [run_declare, if_pos hmethods]
  | unreadable hmethods hread => rw [run_declare, hmethods, if_neg Bool.false_ne_true, hread]
  | duplicatePath hpath htaken =>
    rw [h.run_of_path (isEmpty_of_firstTaken htaken) hpath, htaken]
    rfl
  | shadowed hpath hfree htaken hregex =>
    rw [h.run_of_path (isEmpty_of_firstTaken htaken) hpath, hfree, htaken, Option.bind_some, hregex]
    rfl
  | literal hmethods hpath hfree hclear =>
    rw [h.run_of_path hmethods hpath, hfree, hclear]
    rfl
  | @duplicatePlaceholder tokens name before after hmethods hread hnames hname hbefore =>
    have hliteral : ∀ path, tokens ≠ [.literal path] := by
      rintro path rfl
      have hnil : before ++ name :: after = [] := hnames.symm
      exact absurd hnil (by simp)
    rw [run_declare_of_tokens s hmethods hread hliteral, run_declareVariable,
      ofTokens_eq_error.mpr ⟨before, after, hnames, hname, hbefore⟩]
  | duplicateRegex hregex htaken =>
    obtain ⟨groupCount, hrun⟩ := h.run_of_regex (isEmpty_of_firstTaken htaken) hregex
    rw [hrun, htaken]
  | @notCompiled regex e hmethods hregex hnew hcompile =>
    obtain ⟨groupCount, hrun⟩ := h.run_of_regex hmethods hregex
    have hfree : d.firstTaken? ds (Declaration.isForRegex regex) = none := by
      refine firstTaken?_eq_none_iff.mpr fun m _ c hc => ?_
      rw [← Bool.not_eq_true, Declaration.isForRegex_iff]
      exact fun hfor => hnew c hc hfor.1
    have hindex : ¬ s.variableRoutes.index.contains regex = true := by
      rw [h.contains_index]
      rintro ⟨c, hc, hregex⟩
      exact hnew c hc hregex
    simp only [hrun, hfree, run_reserve, if_neg hindex, ofRegex_eq_error hcompile]
  | @expression regex hmethods hregex hfree hcompile =>
    obtain ⟨groupCount, hrun⟩ := h.run_of_regex hmethods hregex
    rw [hrun, hfree]
    by_cases hindex : s.variableRoutes.index.contains regex = true
    · simp only [run_reserve, if_pos hindex]
    · have hnew := (h.contains_index regex).not.mp hindex
      obtain ⟨matcher, hmatcher⟩ := hcompile.resolve_left hnew
      obtain ⟨route, hroute⟩ := exists_ofRegex hmatcher groupCount
      simp only [run_reserve, if_neg hindex, hroute]

/-- **A declaration gets its verdict and no other**, whatever was taken in or refused before it. In
particular no literal path is called shadowed that was declared before for a method listed. -/
theorem run_iff_verdict (calls : List Declaration) (d : Declaration) :
    (∀ result : Except RouteError Unit,
      ((declare d).run (RouteSet.empty.declareEach calls).2).1 = result ↔
        Verdict (RouteSet.empty.declareEach calls).1 d result) ∧
      ∀ path regex method : String, ((declare d).run (RouteSet.empty.declareEach calls).2).1 =
        .error (.shadowedRoute path regex method) →
          ∀ m ∈ d.methods.toList, ∀ e ∈ (RouteSet.empty.declareEach calls).1,
            e.isForPath path m.name = false := by
  have hiff : ∀ result : Except RouteError Unit,
      ((declare d).run (RouteSet.empty.declareEach calls).2).1 = result ↔
        Verdict (RouteSet.empty.declareEach calls).1 d result := by
    intro result
    refine ⟨fun hrun => ?_, run_of_verdict (history_declareEach calls)⟩
    obtain ⟨verdict, hverdict⟩ := exists_verdict (RouteSet.empty.declareEach calls).1 d
    rwa [← hrun, run_of_verdict (history_declareEach calls) hverdict]
  refine ⟨hiff, fun path regex method hrun => ?_⟩
  rw [hiff] at hrun
  cases hrun with
  | shadowed _ hfree => exact firstTaken?_eq_none_iff.mp hfree

/-- A pattern for one method, and a literal path that it matches for another. -/
def sideBySide : List Declaration :=
  [⟨Methods.ofList (["POST"].filterMap Method.ofString?), "/{page}", ⟨"Pages", "save"⟩, none⟩,
    ⟨Methods.ofList (["GET"].filterMap Method.ofString?), "/about", ⟨"Pages", "about"⟩, none⟩]

/-- A declaration of the literal path for the methods. -/
def aboutFor (methods : List String) : Declaration :=
  ⟨Methods.ofList (methods.filterMap Method.ofString?), "/about", ⟨"Pages", "again"⟩, none⟩

/-- Where the first method listed is shadowed and the second a duplicate, the duplicate is reported;
the first alone is reported as shadowed. -/
theorem verdict_sideBySide :
    Verdict (RouteSet.empty.declareEach sideBySide).1 (aboutFor ["POST", "GET"])
        (.error (.duplicateRoute "/about" "GET")) ∧
      Verdict (RouteSet.empty.declareEach sideBySide).1 (aboutFor ["POST"])
        (.error (.shadowedRoute "/about" "/([^/]+)" "POST")) :=
  ⟨((run_iff_verdict sideBySide _).1 _).mp (by decide +kernel),
    ((run_iff_verdict sideBySide _).1 _).mp (by decide +kernel)⟩

end RouteTable
