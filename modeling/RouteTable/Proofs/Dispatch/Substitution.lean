import RouteTable.Proofs.Dispatch.RoundTrip

/-!
# Making paths is substitution

The template of a named route is scanned for braces each time a path is made. What comes out is what
putting the values into the list of tokens gives, since no literal has an opening brace and no name
has a closing one; a value may have either and is not scanned.

* `Token.filled`: what a token stands for, with the values of parameters.
* `missing?`: the first parameter of tokens that has no value.
* `fillIn_tokens`: a template filled in, or the parameter that is reported.
* `generate_eq_substitution`: what a name stands for is substituted; a name without a declaration is
  unknown.
-/

namespace RouteTable

/-- What a token stands for: a literal for itself, a placeholder for its value. -/
def Token.filled (params : List (String × String)) : Token → String
  | .literal text => text
  | .placeholder name _ => (params.lookup name).getD ""

/-- The first of the names, in their order, that has no value. -/
def missing? (params : List (String × String)) (names : List String) : Option String :=
  names.find? fun name => (params.lookup name).isNone

/-- The text of tokens with the values of parameters. The error is the first parameter that has no
value. -/
def substitute (params : List (String × String)) (tokens : List Token) : Except String String :=
  match missing? params (tokens.filterMap Token.name?) with
  | some name => .error name
  | none => .ok (String.join (tokens.map (Token.filled params)))

variable {params params' : List (String × String)} {tokens : List Token}

/-! ## Tokens one by one -/

theorem substitute_literal (text : String) :
    substitute params (.literal text :: tokens) = (substitute params tokens).map (text ++ ·) := by
  have hnames : (Token.literal text :: tokens).filterMap Token.name? =
      tokens.filterMap Token.name? := rfl
  unfold substitute
  rw [hnames]
  cases missing? params (tokens.filterMap Token.name?) with
  | some name => rfl
  | none => rw [List.map_cons, String.join_cons]; rfl

theorem substitute_placeholder (name sub : String) :
    substitute params (.placeholder name sub :: tokens) =
      match params.lookup name with
      | none => .error name
      | some value => (substitute params tokens).map (value ++ ·) := by
  have hnames : (Token.placeholder name sub :: tokens).filterMap Token.name? =
      name :: tokens.filterMap Token.name? := rfl
  unfold substitute
  rw [hnames, missing?, List.find?_cons]
  cases hvalue : params.lookup name with
  | none => rfl
  | some value =>
    simp only [Option.isNone_some]
    rw [← missing?]
    cases missing? params (tokens.filterMap Token.name?) with
    | some name => rfl
    | none =>
      rw [List.map_cons, String.join_cons, Token.filled, hvalue]
      rfl

/-- A name without a value is reported. -/
theorem fillIn_missing {name : String} (hname : isIdentifier name = true)
    (hvalue : params.lookup name = none) (rest : List Char) :
    fillIn params none (('\x7b' :: (name.toList ++ ['\x7d'])) ++ rest) = .error name := by
  have hbrace : '\x7d' ∉ name.toList := not_mem_of_isIdentifier hname (by decide)
  rw [List.cons_append, List.append_assoc, List.singleton_append, fillIn, if_pos rfl,
    fillIn_name params rest [] hbrace, fillIn, if_pos rfl, List.append_nil, List.reverse_reverse,
    String.ofList_toList, hvalue]

/-- **Filling in the template of tokens is substitution.** -/
theorem fillIn_tokens (hread : ∀ t ∈ tokens, t.IsRead) :
    fillIn params none (tokens.flatMap fun t => t.template.toList) =
      (substitute params tokens).map String.toList := by
  induction tokens with
  | nil => rfl
  | cons t tokens ih =>
    rw [List.forall_mem_cons] at hread
    have ih := ih hread.2
    rw [List.flatMap_cons]
    cases t with
    | literal text =>
      rw [Token.template, fillIn_literal _ _ hread.1, ih, substitute_literal]
      cases substitute params tokens with
      | error name => rfl
      | ok path => simp [Except.map]
    | placeholder name sub =>
      have htemplate : (Token.template (.placeholder name sub)).toList =
          '\x7b' :: (name.toList ++ ['\x7d']) := by
        simp [Token.template]
      rw [htemplate, substitute_placeholder]
      cases hvalue : params.lookup name with
      | none => exact fillIn_missing hread.1 hvalue _
      | some value =>
        rw [fillIn_placeholder params _ hread.1 hvalue, ih]
        cases substitute params tokens with
        | error name => rfl
        | ok path => simp [Except.map]

/-! ## Parameters that count -/

theorem substitute_congr
    (h : ∀ name ∈ tokens.filterMap Token.name?, params.lookup name = params'.lookup name) :
    substitute params tokens = substitute params' tokens := by
  induction tokens with
  | nil => rfl
  | cons t tokens ih =>
    cases t with
    | literal text => rw [substitute_literal, substitute_literal, ih h]
    | placeholder name sub =>
      have h : ∀ n ∈ name :: tokens.filterMap Token.name?, params.lookup n = params'.lookup n := h
      rw [List.forall_mem_cons] at h
      rw [substitute_placeholder, substitute_placeholder, h.1, ih h.2]

/-- A pair of which the key is another one, or was there before, is never looked up. -/
theorem lookup_append_cons {before after : List (String × String)} {key value name : String}
    (h : name = key → (before.lookup key).isSome = true) :
    (before ++ (key, value) :: after).lookup name = (before ++ after).lookup name := by
  rw [List.lookup_append, List.lookup_append, List.lookup_cons]
  by_cases hkey : name = key
  · obtain ⟨v, hv⟩ := Option.isSome_iff_exists.mp (h hkey)
    rw [hkey, hv, Option.some_or, Option.some_or]
  · rw [beq_eq_false_iff_ne.mpr hkey]

/-- A path can be made exactly if every name of a placeholder has a value. -/
theorem exists_substitute_iff : (∃ path, substitute params tokens = .ok path) ↔
    ∀ name ∈ tokens.filterMap Token.name?, (params.lookup name).isSome = true := by
  unfold substitute
  cases hmissing : missing? params (tokens.filterMap Token.name?) with
  | some name =>
    have hnone := List.find?_some hmissing
    have hmem := List.mem_of_find?_eq_some hmissing
    refine iff_of_false (fun ⟨_, h⟩ => absurd h (by simp)) fun h => ?_
    have hsome := h name hmem
    rw [Option.isNone_iff_eq_none.mp hnone] at hsome
    exact absurd hsome (by simp)
  | none =>
    refine iff_of_true ⟨_, rfl⟩ fun name hname => ?_
    have hsome := List.find?_eq_none.mp hmissing name hname
    rwa [Option.isNone_iff_eq_none, ← Ne, Option.ne_none_iff_isSome] at hsome

/-! ## Named routes -/

/-- The pattern of a declaration that was taken in is read as its tokens. -/
theorem readTokens_eq_tokens {calls : List Declaration} {d : Declaration}
    (hd : d ∈ (RouteSet.empty.declareEach calls).1) : readTokens d.pattern = .ok d.tokens := by
  rcases path_or_compiled hd with ⟨path, hpath⟩ | ⟨p, hp⟩
  · rw [Declaration.tokens_of_path hpath, read_of_path hpath]
  · obtain ⟨tokens, hread, -, -⟩ := read_of_compiled hp
    rw [Declaration.tokens, hread]
    rfl

/-- The path that the declaration of a name, if there is one, makes of parameters. -/
def pathOf (d? : Option Declaration) (name : String) (params : List (String × String)) :
    Except UrlError String :=
  match d? with
  | none => .error (.unknownRoute name)
  | some d => (substitute params d.tokens).mapError (.missingParameter name)

/-- A named route makes the path of its declaration. -/
theorem generate_eq_pathOf {named : NamedRoutes} {name : String} {d? : Option Declaration}
    (hname : named.get? name = d?.map Declaration.namedRoute) (params : List (String × String)) :
    named.generate name params = pathOf d? name params := by
  rw [NamedRoutes.generate, hname]
  cases d? with
  | none => rfl
  | some d =>
    have htemplate : d.template.toList = d.tokens.flatMap fun t => t.template.toList := by
      rw [Declaration.template, String.toList_join, List.flatMap_map]
    simp only [Option.map_some, Declaration.namedRoute, pathOf]
    rw [htemplate, fillIn_tokens d.isRead_tokens]
    cases substitute params d.tokens with
    | error parameter => rfl
    | ok path => simp [Except.map, Except.mapError]

/-- **Making the path of a name is substitution** in the tokens of the declaration that was the
first to be taken in under the name. Exactly the names that are stored with the route need a value,
a pair that is never looked up can be left out, and a name without a declaration is unknown. -/
theorem generate_eq_substitution (calls : List Declaration) (name : String)
    (params : List (String × String)) :
    (RouteSet.empty.declareEach calls).2.named.generate name params =
        pathOf ((RouteSet.empty.declareEach calls).1.find? (Declaration.hasName name)) name
          params ∧
      (∀ d, (RouteSet.empty.declareEach calls).1.find? (Declaration.hasName name) = some d →
        readTokens d.pattern = .ok d.tokens ∧
          ∃ route, (RouteSet.empty.declareEach calls).2.named.get? name = some route ∧
            route.names = d.tokens.filterMap Token.name? ∧
            ((∃ path, (RouteSet.empty.declareEach calls).2.named.generate name params =
              .ok path) ↔ ∀ n ∈ route.names, (params.lookup n).isSome = true) ∧
            ∀ before key value after, params = before ++ (key, value) :: after →
              (key ∈ route.names → (before.lookup key).isSome = true) →
                (RouteSet.empty.declareEach calls).2.named.generate name (before ++ after) =
                  (RouteSet.empty.declareEach calls).2.named.generate name params) ∧
      ∀ table, (RouteSet.empty.declareEach calls).2.build = .ok table →
        table.named = (RouteSet.empty.declareEach calls).2.named := by
  have hnamed := named_declareEach calls name
  have hgenerate := generate_eq_pathOf hnamed
  refine ⟨hgenerate params, fun d hd => ?_, fun table hbuild => ?_⟩
  · have hmem := List.mem_of_find?_eq_some hd
    have hnames : d.namedRoute.names = d.tokens.filterMap Token.name? := names_eq hmem
    rw [hd] at hnamed hgenerate
    refine ⟨readTokens_eq_tokens hmem, d.namedRoute, hnamed, hnames, ?_, ?_⟩
    · rw [hgenerate, hnames, ← exists_substitute_iff, pathOf]
      cases substitute params d.tokens with
      | error parameter => simp [Except.mapError]
      | ok path => simp [Except.mapError]
    · rintro before key value after rfl hkey
      rw [hnames] at hkey
      rw [hgenerate, hgenerate, pathOf, pathOf]
      congr 1
      refine substitute_congr fun n hn => (lookup_append_cons ?_).symm
      rintro rfl
      exact hkey hn
  · obtain ⟨-, rfl⟩ := build_eq_ok hbuild
    rfl

/-- A value may look like a placeholder, and a name may be given twice. -/
theorem substituted_blog :
    (RouteSet.empty.declareEach blog).2.named.generate "post"
        [("slug", "\x7byear\x7d"), ("year", "2024"), ("year", "1999"), ("page", "2")] =
      .ok "/posts/2024/\x7byear\x7d" ∧
    (RouteSet.empty.declareEach blog).2.named.generate "post" [("slug", "rain")] =
      .error (.missingParameter "post" "year") ∧
    (RouteSet.empty.declareEach blog).2.named.generate "news" [] =
      .error (.unknownRoute "news") := by
  refine ⟨(generate_eq_substitution blog _ _).1.trans ?_,
    (generate_eq_substitution blog _ _).1.trans ?_,
    (generate_eq_substitution blog _ _).1.trans ?_⟩ <;>
  · rw [declareEach_blog]
    decide +kernel

end RouteTable
