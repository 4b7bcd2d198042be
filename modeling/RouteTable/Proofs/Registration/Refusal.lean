import Mathlib.Data.List.Basic
import RouteTable.Proofs.RouteSet.Declare
import RouteTable.RouteSet.Build

/-!
# Refused calls

Routes are declared by their patterns, or directly as literal paths and as lists of tokens. The
direct calls are not checked for what reading a pattern ensures: there may be no methods, and tokens
that no pattern is read as. Even so a call that is refused changes nothing, however far its checks
have come.

* `Call`: the ways to declare a route, with `RouteSet.perform` to run any mix of them.
* `Call.eq_of_error`: a refused call leaves the set as it was.
* `perform_append`, `perform_cons_of_error`: a run goes on after a refused call as if without it.
* `refused_leaves_nothing`: so the call can be left out of every run.
-/

namespace RouteTable

/-- A call that declares a route: by its pattern, or directly. -/
inductive Call where
  | ofDeclaration (d : Declaration)
  | ofPath (methods : Methods) (path : String) (handler : Handler) (name : Option String)
  | ofTokens (methods : Methods) (pattern : String) (tokens : List Token) (handler : Handler)
      (name : Option String)

/-- What a call does. -/
def Call.step : Call → Registration Unit
  | .ofDeclaration d => declare d
  | .ofPath methods path handler name => declareStatic methods path handler name
  | .ofTokens methods pattern tokens handler name =>
    declareVariable methods pattern tokens handler name

/-- Runs calls one after another, and gives the result of each with the set after all. -/
def RouteSet.perform (s : RouteSet) : List Call → List (Except RouteError Unit) × RouteSet
  | [] => ([], s)
  | c :: cs =>
    match c.step.run s with
    | (result, s') => (result :: (s'.perform cs).1, (s'.perform cs).2)

variable {s s' : RouteSet} {c : Call} {e : RouteError}

/-- A call that is refused leaves the set as it was. -/
theorem Call.eq_of_error (h : c.step.run s = (.error e, s')) : s' = s := by
  cases c with
  | ofDeclaration d => exact RouteTable.eq_of_error h
  | ofPath methods path handler name => exact declareStatic_eq_of_error h
  | ofTokens methods pattern tokens handler name => exact declareVariable_eq_of_error h

/-! ## Runs -/

theorem perform_cons (s : RouteSet) (c : Call) (later : List Call) :
    s.perform (c :: later) = ((c.step.run s).1 :: ((c.step.run s).2.perform later).1,
      ((c.step.run s).2.perform later).2) := rfl

theorem length_perform (s : RouteSet) (calls : List Call) :
    (s.perform calls).1.length = calls.length := by
  induction calls generalizing s with
  | nil => rfl
  | cons c calls ih => rw [perform_cons, List.length_cons, List.length_cons, ih]

/-- Later calls run from the set that the earlier ones lead to. -/
theorem perform_append (s : RouteSet) (calls later : List Call) :
    s.perform (calls ++ later) =
      ((s.perform calls).1 ++ ((s.perform calls).2.perform later).1,
        ((s.perform calls).2.perform later).2) := by
  induction calls generalizing s with
  | nil => rfl
  | cons c calls ih =>
    rw [List.cons_append, perform_cons, ih]
    rfl

/-- After a refused call a run goes on as if without it. -/
theorem perform_cons_of_error (h : (c.step.run s).1 = .error e) (later : List Call) :
    s.perform (c :: later) = (.error e :: (s.perform later).1, (s.perform later).2) := by
  have hrun : c.step.run s = (.error e, s) := by
    rcases hstep : c.step.run s with ⟨result, s'⟩
    rw [hstep] at h
    obtain rfl : result = .error e := h
    rw [Call.eq_of_error hstep]
  rw [perform_cons, hrun]

/-- **A call that is refused leaves nothing behind**, after whatever calls: all stores are as they
were, and whatever calls come later, their results and the table that is built in the end are those
of a run without the call. -/
theorem refused_leaves_nothing {calls : List Call}
    (h : (c.step.run (RouteSet.empty.perform calls).2).1 = .error e) :
    (c.step.run (RouteSet.empty.perform calls).2).2 = (RouteSet.empty.perform calls).2 ∧
      ∀ later : List Call,
        (RouteSet.empty.perform (calls ++ c :: later)).1.eraseIdx calls.length =
          (RouteSet.empty.perform (calls ++ later)).1 ∧
        (RouteSet.empty.perform (calls ++ c :: later)).2 =
          (RouteSet.empty.perform (calls ++ later)).2 ∧
        (RouteSet.empty.perform (calls ++ c :: later)).2.build =
          (RouteSet.empty.perform (calls ++ later)).2.build := by
  refine ⟨Call.eq_of_error (Prod.ext h rfl), fun later => ?_⟩
  have hset : (RouteSet.empty.perform (calls ++ c :: later)).2 =
      (RouteSet.empty.perform (calls ++ later)).2 := by
    rw [perform_append, perform_append, perform_cons_of_error h]
  refine ⟨?_, hset, congrArg RouteSet.build hset⟩
  rw [perform_append, perform_append, perform_cons_of_error h, ← length_perform .empty calls,
    List.eraseIdx_append_of_length_le (Nat.le_refl _), Nat.sub_self, List.eraseIdx_cons_zero]

/-- Calls of which no pattern is read: a literal path with braces in it and without methods, and no
tokens at all. -/
def unread : List Call :=
  let get := Methods.ofList (Method.ofString? "GET").toList
  [.ofPath (.ofList []) "/{page}" ⟨"Pages", "none"⟩ (some "page"),
    .ofTokens get "" [] ⟨"Pages", "root"⟩ none]

/-- A new expression that does not compile. -/
def unclosed : Call :=
  .ofTokens (.ofList []) "/\x7bid" [.placeholder "id" "["] ⟨"Pages", "id"⟩ (some "id")

/-- Later calls: one for the name that the refused call would have taken, and one that is refused
for what was declared before. -/
def afterwards : List Call :=
  let get := Methods.ofList (Method.ofString? "GET").toList
  [.ofDeclaration ⟨get, "/{key}", ⟨"Pages", "key"⟩, some "id"⟩,
    .ofTokens get "" [] ⟨"Pages", "other"⟩ none]

theorem refused_unclosed :
    let run := RouteSet.empty.perform (unread ++ unclosed :: afterwards)
    (unclosed.step.run (RouteSet.empty.perform unread).2).1 =
        .error (.invalidPattern "([)" (.expression .malformed)) ∧
      (unclosed.step.run (RouteSet.empty.perform unread).2).2 =
        (RouteSet.empty.perform unread).2 ∧
      (RouteSet.empty.perform unread).2.variableRoutes.routes.map VariableRoute.regex = [""] ∧
      run.1.eraseIdx 2 = [.ok (), .ok (), .ok (), .error (.duplicateRoute "" "GET")] ∧
      run.1.eraseIdx 2 = (RouteSet.empty.perform (unread ++ afterwards)).1 ∧
      run.2 = (RouteSet.empty.perform (unread ++ afterwards)).2 ∧
      run.2.build = (RouteSet.empty.perform (unread ++ afterwards)).2.build ∧
      run.2.named.get? "id" = some ⟨"/\x7bkey\x7d", ["key"]⟩ := by
  intro run
  have hrefused : (unclosed.step.run (RouteSet.empty.perform unread).2).1 =
      .error (.invalidPattern "([)" (.expression .malformed)) := by decide +kernel
  obtain ⟨hkept, hlater⟩ := refused_leaves_nothing hrefused
  obtain ⟨hresults, hset, hbuild⟩ := hlater afterwards
  exact ⟨hrefused, hkept, by decide +kernel, by decide +kernel, hresults, hset, hbuild,
    by decide +kernel⟩

end RouteTable
