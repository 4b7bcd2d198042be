import RouteTable.Proofs.Dispatch.Records

/-!
# Literal paths first

A literal path is checked against the expressions that were declared before it, and an expression is
checked against no path. So literal paths can be declared first: what is taken in in any order is
taken in with all literal paths moved to the front, and the same table is made of it.

* `hoisted`: the literal declarations in their order, then the others in theirs.
* `run_of_literal`, `run_of_expression`: a declaration does the same to its own store wherever that
  store is the same, and nothing to the other.
* `run_declareAll_filter`: a run of the declarations of one kind follows the run of all of them.
* `hoisted_accepted`: the hoisted declarations are taken in and lead to the same table.
-/

namespace RouteTable

/-- Whether the pattern has no placeholders. -/
def Declaration.isLiteral (d : Declaration) : Bool := d.path?.isSome

/-- The declarations without placeholders, in order, and then the others, in order. -/
def hoisted (ds : List Declaration) : List Declaration :=
  ds.filter Declaration.isLiteral ++ ds.filter fun d => !d.isLiteral

theorem hoisted_perm (ds : List Declaration) : (hoisted ds).Perm ds :=
  List.filter_append_perm Declaration.isLiteral ds

variable {ds : List Declaration} {d : Declaration} {s s' t : RouteSet}

/-! ## One declaration -/

/-- A literal path that is taken in does nothing to the expressions. It is taken in wherever the
literal paths are the same and there are no expressions, and does the same to the paths. -/
theorem run_of_literal (hliteral : d.isLiteral = true) (h : (declare d).run s = (.ok (), s')) :
    s'.variableRoutes = s.variableRoutes ∧
      ∀ t : RouteSet, t.staticRoutes = s.staticRoutes → t.variableRoutes = .empty →
        ∃ t', (declare d).run t = (.ok (), t') ∧ t'.staticRoutes = s'.staticRoutes ∧
          t'.variableRoutes = .empty := by
  have hmethods := methods_of_ok h
  cases accepts_of_ok h with
  | @literal path hpath hnone hdup hshadow =>
    refine ⟨variableRoutes_registerName _ _ _, fun t hstatic hempty => ?_⟩
    have hdup' : t.staticDuplicate? d.methods path = none := by
      rw [RouteSet.staticDuplicate?, hstatic]
      exact hdup
    have hshadow' : t.shadowed? d.methods path = none := by
      rw [RouteSet.shadowed?, hempty, List.findSome?_eq_none_iff]
      exact fun _ _ => rfl
    refine ⟨_, run_of_accepts hmethods (.literal hpath hnone hdup' hshadow'), ?_, ?_⟩
    · rw [RouteSet.withStatic, RouteSet.withStatic, staticRoutes_registerName,
        staticRoutes_registerName, hstatic]
    · rw [RouteSet.withStatic, variableRoutes_registerName]
      exact hempty
  | known hpath =>
    rw [Declaration.isLiteral, hpath] at hliteral
    exact absurd hliteral (by simp)
  | fresh hpath =>
    rw [Declaration.isLiteral, hpath] at hliteral
    exact absurd hliteral (by simp)

/-- An expression that is taken in does nothing to the literal paths. It is taken in wherever the
expressions are the same, and does the same to them. -/
theorem run_of_expression (hliteral : d.isLiteral = false)
    (h : (declare d).run s = (.ok (), s')) :
    s'.staticRoutes = s.staticRoutes ∧
      ∀ t : RouteSet, t.variableRoutes = s.variableRoutes → ∃ t', (declare d).run t = (.ok (), t') ∧
        t'.variableRoutes = s'.variableRoutes ∧ t'.staticRoutes = t.staticRoutes := by
  have hmethods := methods_of_ok h
  have hdup' : ∀ {t : RouteSet} {regex : String}, t.variableRoutes = s.variableRoutes →
      s.variableDuplicate? d.methods regex = none →
        t.variableDuplicate? d.methods regex = none := by
    intro t regex hvariable hdup
    rw [RouteSet.variableDuplicate?, hvariable]
    exact hdup
  cases accepts_of_ok h with
  | literal hpath =>
    rw [Declaration.isLiteral, hpath] at hliteral
    exact absurd hliteral (by simp)
  | known hpath hp hdup hindex =>
    refine ⟨staticRoutes_registerName _ _ _, fun t hvariable => ?_⟩
    rw [← hvariable] at hindex
    refine ⟨_, run_of_accepts hmethods (.known hpath hp (hdup' hvariable hdup) hindex), ?_,
      staticRoutes_registerName _ _ _⟩
    rw [RouteSet.withTargets, RouteSet.withTargets, variableRoutes_registerName,
      variableRoutes_registerName, hvariable]
  | fresh hpath hp hdup hindex hroute =>
    refine ⟨staticRoutes_registerName _ _ _, fun t hvariable => ?_⟩
    rw [← hvariable] at hindex
    refine ⟨_, run_of_accepts hmethods (.fresh hpath hp (hdup' hvariable hdup) hindex hroute), ?_,
      staticRoutes_registerName _ _ _⟩
    rw [RouteSet.withTargets, RouteSet.withTargets, variableRoutes_registerName,
      variableRoutes_registerName, RouteSet.withRoute, RouteSet.withRoute, hvariable]

/-! ## Runs -/

/-- A run of the declarations that `p` keeps follows the run of all: it takes the same steps on what
`R` relates, and the steps that are left out are not seen by `R`. -/
theorem run_declareAll_filter {p : Declaration → Bool} {R : RouteSet → RouteSet → Prop}
    (keep : ∀ {d s s' t}, p d = true → R s t → (declare d).run s = (.ok (), s') →
      ∃ t', (declare d).run t = (.ok (), t') ∧ R s' t')
    (skip : ∀ {d s s' t}, p d = false → R s t → (declare d).run s = (.ok (), s') → R s' t)
    (hR : R s t) (h : (declareAll ds).run s = (.ok (), s')) :
    ∃ t', (declareAll (ds.filter p)).run t = (.ok (), t') ∧ R s' t' := by
  induction ds generalizing s t with
  | nil =>
    obtain ⟨-, rfl⟩ := Prod.mk.inj h
    exact ⟨t, rfl, hR⟩
  | cons d ds ih =>
    obtain ⟨s₁, hd, hds⟩ := run_declareAll_cons.mp h
    cases hp : p d with
    | true =>
      obtain ⟨t₁, ht₁, hR₁⟩ := keep hp hR hd
      obtain ⟨t', ht', hR'⟩ := ih hR₁ hds
      refine ⟨t', ?_, hR'⟩
      rw [List.filter_cons_of_pos hp, run_declareAll_cons]
      exact ⟨t₁, ht₁, ht'⟩
    | false =>
      rw [List.filter_cons_of_neg (by rw [hp]; exact Bool.false_ne_true)]
      exact ih (skip hp hR hd) hds

/-- The literal paths alone are all taken in, and lead to the same paths. -/
theorem run_literals (h : (declareAll ds).run .empty = (.ok (), s)) :
    ∃ t, (declareAll (ds.filter Declaration.isLiteral)).run .empty = (.ok (), t) ∧
      t.staticRoutes = s.staticRoutes ∧ t.variableRoutes = .empty := by
  refine run_declareAll_filter
    (R := fun s t => t.staticRoutes = s.staticRoutes ∧ t.variableRoutes = .empty)
    (fun hp hR hd => ?_) (fun hp hR hd => ?_) ⟨rfl, rfl⟩ h
  · exact (run_of_literal hp hd).2 _ hR.1 hR.2
  · exact ⟨hR.1.trans (run_of_expression hp hd).1.symm, hR.2⟩

/-- The expressions alone are all taken in after any literal paths, and lead to the same
expressions. -/
theorem run_expressions (h : (declareAll ds).run .empty = (.ok (), s))
    (hempty : t.variableRoutes = .empty) :
    ∃ t', (declareAll (ds.filter fun d => !d.isLiteral)).run t = (.ok (), t') ∧
      t'.variableRoutes = s.variableRoutes ∧ t'.staticRoutes = t.staticRoutes := by
  refine run_declareAll_filter
    (R := fun s t' => t'.variableRoutes = s.variableRoutes ∧ t'.staticRoutes = t.staticRoutes)
    (fun hp hR hd => ?_) (fun hp hR hd => ?_) ⟨hempty, rfl⟩ h
  · rw [Bool.not_eq_true'] at hp
    obtain ⟨t', hd', hvariable, hstatic⟩ := (run_of_expression hp hd).2 _ hR.1
    exact ⟨t', hd', hvariable, hstatic.trans hR.2⟩
  · rw [Bool.not_eq_false'] at hp
    exact ⟨hR.1.trans (run_of_literal hp hd).1.symm, hR.2⟩

/-- The hoisted declarations are all taken in, and lead to the same paths and expressions. -/
theorem run_hoisted (h : (declareAll ds).run .empty = (.ok (), s)) :
    ∃ t, (declareAll (hoisted ds)).run .empty = (.ok (), t) ∧ t.staticRoutes = s.staticRoutes ∧
      t.variableRoutes = s.variableRoutes := by
  obtain ⟨t, hliterals, hstatic, hempty⟩ := run_literals h
  obtain ⟨t', hothers, hvariable, hkept⟩ := run_expressions h hempty
  exact ⟨t', run_declareAll_append hliterals hothers, hkept.trans hstatic, hvariable⟩

/-- The names that declarations lead to are settled by the first declaration of each. -/
theorem get?_named_of_ok (h : (declareAll ds).run .empty = (.ok (), s)) (name : String) :
    s.named.get? name = (ds.find? (Declaration.hasName name)).map Declaration.namedRoute := by
  have hnamed := named_declareEach ds name
  rwa [declareEach_of_declareAll h] at hnamed

/-- Declarations with different names are settled by their names. -/
theorem length_filter_hasName_le (h : (ds.filterMap Declaration.name).Nodup) (name : String) :
    (ds.filter (Declaration.hasName name)).length ≤ 1 := by
  have hcount := List.nodup_iff_count_le_one.mp h name
  rwa [List.count_filterMap, List.countP_eq_length_filter] at hcount

/-- A table is built of the paths, the expressions and the names. -/
theorem build_congr (hvariable : t.variableRoutes = s.variableRoutes) :
    t.build = s.build.map fun table => ⟨t.staticRoutes, table.chunks, t.named⟩ := by
  unfold RouteSet.build
  simp only [hvariable]
  cases checkChunks 0 (s.variableRoutes.pieces.map Chunk.ofRoutes) <;> rfl

/-- **Literal paths can be declared first.** Declarations that are all taken in are taken in with
the literal ones moved to the front. A table is built in the one order as in the other, and the two
have the same paths and the same chunks; they have the same names if no two declarations have one
name. -/
theorem hoisted_accepted (h : RouteSet.ofDeclarations ds = .ok s) :
    ∃ t, RouteSet.ofDeclarations (hoisted ds) = .ok t ∧
      (∀ e, t.build = .error e ↔ s.build = .error e) ∧
      ∀ table, s.build = .ok table → ∃ table', t.build = .ok table' ∧
        table'.staticRoutes = table.staticRoutes ∧ table'.chunks = table.chunks ∧
        ((ds.filterMap Declaration.name).Nodup → table'.named = table.named) := by
  rw [ofDeclarations_eq_ok] at h
  obtain ⟨t, ht, hstatic, hvariable⟩ := run_hoisted h
  refine ⟨t, ofDeclarations_eq_ok.mpr ht, fun e => ?_, fun table htable => ?_⟩
  · rw [build_congr hvariable]
    cases s.build <;> simp [Except.map]
  · have htable' : t.build = .ok ⟨t.staticRoutes, table.chunks, t.named⟩ := by
      rw [build_congr hvariable, htable]
      rfl
    obtain ⟨-, rfl⟩ := build_eq_ok htable
    refine ⟨_, htable', hstatic, rfl, fun hnames => SortedMap.ext_get? fun name => ?_⟩
    have honce := length_filter_hasName_le hnames name
    rw [get?_named_of_ok ht, get?_named_of_ok h, find?_eq_of_perm (hoisted_perm ds).symm honce]

/-- Literal paths between expressions, each with a name. -/
def interleaved : List Declaration :=
  let get := Methods.ofList (["GET"].filterMap Method.ofString?)
  let post := Methods.ofList (["POST"].filterMap Method.ofString?)
  [⟨post, "/{page}", ⟨"Pages", "save"⟩, some "save"⟩,
    ⟨get, "/about", ⟨"Pages", "about"⟩, some "about"⟩,
    ⟨get, "/users/{id}", ⟨"Users", "show"⟩, some "user"⟩,
    ⟨get, "/team", ⟨"Pages", "team"⟩, some "team"⟩]

/-- The table of the interleaved declarations. -/
def interleavedTable : DispatchTable where
  staticRoutes := .ofList [("/about", .ofList [("GET", ⟨"Pages", "about"⟩)]),
    ("/team", .ofList [("GET", ⟨"Pages", "team"⟩)])]
  chunks := [⟨"^(?:/([^/]+)|/users/([^/]+))$",
    .ofList [(2, .ofList [("POST", ⟨⟨"Pages", "save"⟩, ["page"]⟩)]),
      (3, .ofList [("GET", ⟨⟨"Users", "show"⟩, ["id"]⟩)])]⟩]
  named := .ofList [("about", ⟨"/about", []⟩), ("save", ⟨"/\x7bpage\x7d", ["page"]⟩),
    ("team", ⟨"/team", []⟩), ("user", ⟨"/users/\x7bid\x7d", ["id"]⟩)]

/-- A literal path after an expression that catches it. -/
def caught : List Declaration :=
  let get := Methods.ofList (["GET"].filterMap Method.ofString?)
  [⟨get, "/{page}", ⟨"Pages", "show"⟩, none⟩, ⟨get, "/about", ⟨"Pages", "about"⟩, none⟩]

/-- Both orders of the interleaved declarations have the one table. A literal path that is caught is
refused where it stands, but not in front. -/
theorem hoisted_interleaved :
    (hoisted interleaved).map Declaration.pattern = ["/about", "/team", "/{page}", "/users/{id}"] ∧
      (∃ s t, RouteSet.ofDeclarations interleaved = .ok s ∧
        RouteSet.ofDeclarations (hoisted interleaved) = .ok t ∧
        s.build = .ok interleavedTable ∧ t.build = .ok interleavedTable) ∧
      ((declareAll caught).run .empty).1 = .error (.shadowedRoute "/about" "/([^/]+)" "GET") ∧
      ((declareAll (hoisted caught)).run .empty).1 = .ok () := by
  refine ⟨by decide +kernel, ?_, by decide +kernel, by decide +kernel⟩
  have hbuilt : (RouteSet.ofDeclarations interleaved).toOption.bind
      (fun s => s.build.toOption) = some interleavedTable := by decide +kernel
  obtain ⟨s, table, -, h, hbuild, -⟩ := exists_of_ofDeclarations interleaved
    (by decide +kernel)
  obtain rfl : table = interleavedTable := by
    rw [h, Except.toOption, Option.bind_some, hbuild] at hbuilt
    exact Option.some.inj hbuilt
  obtain ⟨t, ht, -, htable⟩ := hoisted_accepted h
  obtain ⟨table', hbuild', hstatic, hchunks, hnamed⟩ := htable _ hbuild
  obtain ⟨staticRoutes, chunks, named⟩ := table'
  obtain rfl : staticRoutes = interleavedTable.staticRoutes := hstatic
  obtain rfl : chunks = interleavedTable.chunks := hchunks
  obtain rfl : named = interleavedTable.named := hnamed (by decide +kernel)
  exact ⟨s, t, h, ht, hbuild, hbuild'⟩

end RouteTable
