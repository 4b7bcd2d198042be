import RouteTable.RouteSet.Declare

/-!
# What a declaration does

A declaration is refused and changes nothing, or it is taken in, in one of three ways: as a literal
path, for an expression that is known, or for a new expression.

* `Accepts s d s'` says that `d` is taken in and leads from `s` to `s'`.
* `accepts_of_ok`, `eq_of_error`: what running a declaration amounts to.
* `run_of_accepts`: what can be taken in and lists methods is not refused.
-/

namespace RouteTable

/-! ## Running steps -/

variable {α β : Type}

theorem run_bind (x : Registration α) (f : α → Registration β) (s : RouteSet) :
    (x >>= f).run s = match x.run s with
      | (.ok a, s') => (f a).run s'
      | (.error e, s') => (.error e, s') := by
  rw [ExceptT.run_bind]
  simp only [bind, StateT.bind]
  rcases x.run s with ⟨_ | _, _⟩ <;> rfl

theorem run_get (s : RouteSet) : (get : Registration RouteSet).run s = (.ok s, s) := rfl

theorem run_modify (f : RouteSet → RouteSet) (s : RouteSet) :
    (modify f : Registration Unit).run s = (.ok (), f s) := rfl

theorem run_refuseIf (error : Option RouteError) (s : RouteSet) :
    (refuseIf error).run s = (error.elim (.ok ()) .error, s) := by
  cases error <;> rfl

/-! ## Patterns of declarations -/

namespace Declaration

/-- The path, if the pattern is literal. -/
def path? (d : Declaration) : Option String :=
  match readTokens d.pattern with
  | .ok [.literal path] => some path
  | _ => none

/-- The compiled pattern, if the pattern has placeholders. -/
def compiled? (d : Declaration) : Option CompiledPattern :=
  match readTokens d.pattern with
  | .ok [.literal _] => none
  | .ok tokens => (CompiledPattern.ofTokens tokens).toOption
  | .error _ => none

/-- The expression of the pattern, if it has placeholders. -/
def regex? (d : Declaration) : Option String := d.compiled?.map CompiledPattern.regex

theorem regex?_of_compiled {d : Declaration} {p : CompiledPattern} (h : d.compiled? = some p) :
    d.regex? = some p.regex := by
  rw [regex?, h]
  rfl

end Declaration

/-- A literal pattern is read as its path. -/
theorem read_of_path {d : Declaration} {path : String} (h : d.path? = some path) :
    readTokens d.pattern = .ok [.literal path] := by
  unfold Declaration.path? at h
  split at h
  · rename_i hread
    rw [hread, Option.some.inj h]
  · exact absurd h (by simp)

/-- A pattern with placeholders is read as the tokens that it is compiled from. -/
theorem read_of_compiled {d : Declaration} {p : CompiledPattern} (h : d.compiled? = some p) :
    ∃ tokens, readTokens d.pattern = .ok tokens ∧ (∀ path, tokens ≠ [.literal path]) ∧
      CompiledPattern.ofTokens tokens = .ok p := by
  unfold Declaration.compiled? at h
  split at h
  · exact absurd h (by simp)
  · rename_i tokens hliteral hread
    refine ⟨tokens, hread, fun path htokens => hliteral path (by rw [htokens]), ?_⟩
    cases htokens : CompiledPattern.ofTokens tokens with
    | error repeated =>
      rw [htokens] at h
      exact absurd h (by simp [Except.toOption])
    | ok p' =>
      rw [htokens] at h
      rw [Option.some.inj h]
  · exact absurd h (by simp)

/-! ## Taking in -/

/-- The set with a literal path taken in. -/
def RouteSet.withStatic (s : RouteSet) (methods : Methods) (path : String) (handler : Handler)
    (name : Option String) : RouteSet :=
  RouteSet.registerName
    { s with staticRoutes := s.staticRoutes.insertAll path methods handler } name ⟨path, []⟩

/-- The set with targets added for an expression that has its place. -/
def RouteSet.withTargets (s : RouteSet) (methods : Methods) (p : CompiledPattern)
    (handler : Handler) (name : Option String) : RouteSet :=
  RouteSet.registerName
    { s with
      variableRoutes := s.variableRoutes.addTargets p.regex methods ⟨handler, p.names⟩ }
    name ⟨p.template, p.names⟩

/-- The set with a place for an expression. -/
def RouteSet.withRoute (s : RouteSet) (route : VariableRoute) : RouteSet :=
  { s with variableRoutes := s.variableRoutes.push route }

/-- The declaration `d` is taken in and leads from `s` to `s'`. -/
inductive Accepts (s : RouteSet) (d : Declaration) : RouteSet → Prop
  | literal {path : String} (hpath : d.path? = some path) (hnone : d.compiled? = none)
      (hdup : s.staticDuplicate? d.methods path = none)
      (hshadow : s.shadowed? d.methods path = none) :
      Accepts s d (s.withStatic d.methods path d.handler d.name)
  | known {p : CompiledPattern} (hpath : d.path? = none) (hp : d.compiled? = some p)
      (hdup : s.variableDuplicate? d.methods p.regex = none)
      (hindex : s.variableRoutes.index.contains p.regex = true) :
      Accepts s d (s.withTargets d.methods p d.handler d.name)
  | fresh {p : CompiledPattern} {route : VariableRoute} (hpath : d.path? = none)
      (hp : d.compiled? = some p) (hdup : s.variableDuplicate? d.methods p.regex = none)
      (hindex : s.variableRoutes.index.contains p.regex = false)
      (hroute : VariableRoute.ofRegex p.regex p.names.length = .ok route) :
      Accepts s d ((s.withRoute route).withTargets d.methods p d.handler d.name)

theorem run_declareStatic (methods : Methods) (path : String) (handler : Handler)
    (name : Option String) (s : RouteSet) :
    (declareStatic methods path handler name).run s =
      match (s.staticDuplicate? methods path).or (s.shadowed? methods path) with
      | some e => (.error e, s)
      | none => (.ok (), s.withStatic methods path handler name) := by
  unfold declareStatic
  simp only [run_bind, run_get, run_refuseIf, run_modify]
  cases s.staticDuplicate? methods path with
  | some e => rfl
  | none =>
    simp only [Option.elim_none]
    cases s.shadowed? methods path with
    | some e => rfl
    | none => rfl

theorem ofRegex_eq_error {regex : String} {groupCount : Nat} {e : RegexError}
    (h : Regex.compile (anchored regex) = .error e) :
    VariableRoute.ofRegex regex groupCount = .error e := by
  unfold VariableRoute.ofRegex
  split
  · rename_i heq
    rw [h] at heq
    exact absurd heq (by simp)
  · rename_i heq
    rw [h] at heq
    rw [Except.error.inj heq]

theorem exists_ofRegex {regex : String} {matcher : Regex}
    (h : Regex.compile (anchored regex) = .ok matcher) (groupCount : Nat) :
    ∃ route, VariableRoute.ofRegex regex groupCount = .ok route := by
  unfold VariableRoute.ofRegex
  split
  · exact ⟨_, rfl⟩
  · rename_i heq
    rw [h] at heq
    exact absurd heq (by simp)

theorem run_reserve (regex : String) (groupCount : Nat) (s : RouteSet) :
    (reserve regex groupCount).run s =
      if s.variableRoutes.index.contains regex then (.ok (), s)
      else match VariableRoute.ofRegex regex groupCount with
        | .error e => (.error (.invalidPattern regex (.expression e)), s)
        | .ok route => (.ok (), s.withRoute route) := by
  unfold reserve
  simp only [run_bind, run_get]
  split
  · rfl
  · cases VariableRoute.ofRegex regex groupCount <;> rfl

/-- A place is there already, or it is made, or nothing changes. -/
theorem reserve_cases {regex : String} {groupCount : Nat} {s s' : RouteSet}
    {result : Except RouteError Unit} (h : (reserve regex groupCount).run s = (result, s')) :
    (result = .ok () ∧ s.variableRoutes.index.contains regex = true ∧ s' = s) ∨
      (result = .ok () ∧ s.variableRoutes.index.contains regex = false ∧
        ∃ route, VariableRoute.ofRegex regex groupCount = .ok route ∧ s' = s.withRoute route) ∨
      ((∃ e, result = .error e) ∧ s' = s) := by
  rw [run_reserve] at h
  split at h
  · rename_i hindex
    obtain ⟨rfl, rfl⟩ := Prod.mk.inj h
    exact Or.inl ⟨rfl, hindex, rfl⟩
  · rename_i hindex
    rw [Bool.not_eq_true] at hindex
    split at h
    · obtain ⟨rfl, rfl⟩ := Prod.mk.inj h
      exact Or.inr (Or.inr ⟨⟨_, rfl⟩, rfl⟩)
    · rename_i route hroute
      obtain ⟨rfl, rfl⟩ := Prod.mk.inj h
      exact Or.inr (Or.inl ⟨rfl, hindex, route, hroute, rfl⟩)

theorem run_declareVariable (methods : Methods) (pattern : String) (tokens : List Token)
    (handler : Handler) (name : Option String) (s : RouteSet) :
    (declareVariable methods pattern tokens handler name).run s =
      match CompiledPattern.ofTokens tokens with
      | .error repeated => (.error (.duplicatePlaceholder repeated pattern), s)
      | .ok p =>
        match s.variableDuplicate? methods p.regex with
        | some e => (.error e, s)
        | none =>
          match (reserve p.regex p.names.length).run s with
          | (.ok (), s') => (.ok (), s'.withTargets methods p handler name)
          | (.error e, s') => (.error e, s') := by
  unfold declareVariable
  cases CompiledPattern.ofTokens tokens with
  | error repeated => rfl
  | ok p =>
    simp only [run_bind, run_get, run_refuseIf, run_modify]
    cases s.variableDuplicate? methods p.regex with
    | some e => rfl
    | none =>
      simp only [Option.elim_none]
      rcases (reserve p.regex p.names.length).run s with ⟨_ | _, _⟩ <;> rfl

theorem run_declare (d : Declaration) (s : RouteSet) :
    (declare d).run s =
      if d.methods.isEmpty then (.error (.noMethods d.pattern), s)
      else match readTokens d.pattern with
        | .error fault => (.error (.invalidPattern d.pattern fault), s)
        | .ok [.literal path] => (declareStatic d.methods path d.handler d.name).run s
        | .ok tokens => (declareVariable d.methods d.pattern tokens d.handler d.name).run s := by
  unfold declare
  cases d.methods.isEmpty with
  | true => rfl
  | false =>
    simp only [Bool.false_eq_true, if_false]
    cases readTokens d.pattern with
    | error fault => rfl
    | ok tokens => split <;> simp_all

theorem compiled_of_tokens {d : Declaration} {tokens : List Token}
    (hread : readTokens d.pattern = .ok tokens) (hliteral : ∀ path, tokens ≠ [.literal path]) :
    d.path? = none ∧ d.compiled? = (CompiledPattern.ofTokens tokens).toOption := by
  unfold Declaration.path? Declaration.compiled?
  rw [hread]
  constructor
  · split
    · rename_i path heq
      exact absurd (Except.ok.inj heq) (hliteral path)
    · rfl
  · split
    · rename_i path heq
      exact absurd (Except.ok.inj heq) (hliteral path)
    · rename_i heq
      rw [← Except.ok.inj heq]
    · rename_i heq
      exact absurd heq (by simp)

/-- A literal pattern is declared as its path. -/
theorem run_declare_of_path {d : Declaration} {path : String} (s : RouteSet)
    (hmethods : d.methods.isEmpty = false) (hpath : d.path? = some path) :
    (declare d).run s = (declareStatic d.methods path d.handler d.name).run s := by
  rw [run_declare, hmethods, if_neg Bool.false_ne_true, read_of_path hpath]

/-- A pattern with placeholders is declared with its tokens. -/
theorem run_declare_of_tokens {d : Declaration} {tokens : List Token} (s : RouteSet)
    (hmethods : d.methods.isEmpty = false) (hread : readTokens d.pattern = .ok tokens)
    (hliteral : ∀ path, tokens ≠ [.literal path]) :
    (declare d).run s = (declareVariable d.methods d.pattern tokens d.handler d.name).run s := by
  rw [run_declare, hmethods, if_neg Bool.false_ne_true, hread]
  split
  · rename_i heq
    exact absurd heq (by simp)
  · rename_i path heq
    exact absurd (Except.ok.inj heq) (hliteral path)
  · rename_i heq
    rw [Except.ok.inj heq]

/-! ## Refusals -/

theorem declareStatic_eq_of_error {methods : Methods} {path : String} {handler : Handler}
    {name : Option String} {s s' : RouteSet} {e : RouteError}
    (h : (declareStatic methods path handler name).run s = (.error e, s')) : s' = s := by
  rw [run_declareStatic] at h
  split at h
  · exact (Prod.mk.inj h).2.symm
  · exact absurd (Prod.mk.inj h).1 (by simp)

theorem declareVariable_eq_of_error {methods : Methods} {pattern : String} {tokens : List Token}
    {handler : Handler} {name : Option String} {s s' : RouteSet} {e : RouteError}
    (h : (declareVariable methods pattern tokens handler name).run s = (.error e, s')) :
    s' = s := by
  rw [run_declareVariable] at h
  split at h
  · exact (Prod.mk.inj h).2.symm
  · split at h
    · exact (Prod.mk.inj h).2.symm
    · split at h
      · exact absurd (Prod.mk.inj h).1 (by simp)
      · rename_i hreserve
        obtain ⟨-, rfl⟩ := Prod.mk.inj h
        rcases reserve_cases hreserve with ⟨hok, -⟩ | ⟨hok, -⟩ | ⟨-, hs⟩
        · exact absurd hok (by simp)
        · exact absurd hok (by simp)
        · exact hs

/-- A declaration that is refused changes nothing. -/
theorem eq_of_error {d : Declaration} {s s' : RouteSet} {e : RouteError}
    (h : (declare d).run s = (.error e, s')) : s' = s := by
  rw [run_declare] at h
  split at h
  · exact (Prod.mk.inj h).2.symm
  · split at h
    · exact (Prod.mk.inj h).2.symm
    · exact declareStatic_eq_of_error h
    · exact declareVariable_eq_of_error h

/-! ## Acceptance -/

/-- A declaration that is not refused is taken in. -/
theorem accepts_of_ok {d : Declaration} {s s' : RouteSet}
    (h : (declare d).run s = (.ok (), s')) : Accepts s d s' := by
  rw [run_declare] at h
  split at h
  · exact absurd (Prod.mk.inj h).1 (by simp)
  · split at h
    · exact absurd (Prod.mk.inj h).1 (by simp)
    · rename_i path hread
      rw [run_declareStatic] at h
      split at h
      · exact absurd (Prod.mk.inj h).1 (by simp)
      · rename_i hnone
        rw [Option.or_eq_none_iff] at hnone
        obtain ⟨-, rfl⟩ := Prod.mk.inj h
        exact .literal (by rw [Declaration.path?, hread]) (by rw [Declaration.compiled?, hread])
          hnone.1 hnone.2
    · rename_i tokens hliteral hread
      rw [run_declareVariable] at h
      split at h
      · exact absurd (Prod.mk.inj h).1 (by simp)
      · rename_i p hp
        obtain ⟨hpath, hcompiled⟩ :=
          compiled_of_tokens hread fun path htokens => hliteral path (by rw [htokens])
        rw [hp] at hcompiled
        split at h
        · exact absurd (Prod.mk.inj h).1 (by simp)
        · rename_i hdup
          split at h
          · rename_i hreserve
            obtain ⟨-, rfl⟩ := Prod.mk.inj h
            rcases reserve_cases hreserve with ⟨-, hindex, rfl⟩ | ⟨-, hindex, route, hroute, rfl⟩ |
              ⟨⟨e, he⟩, -⟩
            · exact .known hpath hcompiled hdup hindex
            · exact .fresh hpath hcompiled hdup hindex hroute
            · exact absurd he (by simp)
          · exact absurd (Prod.mk.inj h).1 (by simp)

/-- A declaration that lists methods and can be taken in is not refused. -/
theorem run_of_accepts {d : Declaration} {s s' : RouteSet} (hmethods : d.methods.isEmpty = false)
    (h : Accepts s d s') : (declare d).run s = (.ok (), s') := by
  cases h with
  | literal hpath _ hdup hshadow =>
    rw [run_declare_of_path s hmethods hpath, run_declareStatic, hdup, hshadow]
    rfl
  | known _ hp hdup hindex =>
    obtain ⟨tokens, hread, hliteral, htokens⟩ := read_of_compiled hp
    rw [run_declare_of_tokens s hmethods hread hliteral, run_declareVariable, htokens]
    simp only [hdup, run_reserve, hindex, if_true]
  | fresh _ hp hdup hindex hroute =>
    obtain ⟨tokens, hread, hliteral, htokens⟩ := read_of_compiled hp
    rw [run_declare_of_tokens s hmethods hread hliteral, run_declareVariable, htokens]
    simp only [hdup, run_reserve, hindex, Bool.false_eq_true, if_false, hroute]

/-- A declaration that is taken in lists methods. -/
theorem methods_of_ok {d : Declaration} {s s' : RouteSet}
    (h : (declare d).run s = (.ok (), s')) : d.methods.isEmpty = false := by
  rw [run_declare] at h
  split at h
  · exact absurd (Prod.mk.inj h).1 (by simp)
  · rename_i hmethods
    exact Bool.not_eq_true _ ▸ hmethods

end RouteTable
