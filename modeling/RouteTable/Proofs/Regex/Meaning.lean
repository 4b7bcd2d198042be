import RouteTable.Proofs.Regex.Shape
import RouteTable.Regex.Expr.OfAst

/-!
# What trees mean that are numbered through

* `ofNode_of_hasCapture_eq_false`: a tree without capturing groups means the same everywhere.
* `lacks_look_of_ofNode`: a tree without conditions on places means an expression without them.
* `ofNodes_row`: literals and capturing groups without groups inside mean a row, whose numbers start
  where the row starts.
-/

namespace RouteTable.Regex

mutual

/-- Whether there is a capturing group. -/
def Ast.hasCapture : Ast → Bool
  | .repetition _ _ _ sub => sub.hasCapture
  | .group (.plain _) sub => sub.hasCapture
  | .group _ _ => true
  | .alternation branches => Ast.anyHasCapture branches
  | .concat items => Ast.anyHasCapture items
  | _ => false

/-- Whether there is a capturing group in any of `asts`. -/
def Ast.anyHasCapture : List Ast → Bool
  | [] => false
  | ast :: asts => ast.hasCapture || Ast.anyHasCapture asts

end

/-! ## Trees without groups -/

theorem lacks_repeated {f : Feature} {min : Nat} {max : Option Nat} {greedy : Bool} {e : Expr}
    (h : e.lacks f = true) : (Expr.repeated min max greedy e).lacks f = true := by
  unfold Expr.repeated
  split
  split
  · rfl
  · split
    · exact h
    · exact h

theorem groups_repeated {min : Nat} {max : Option Nat} {greedy : Bool} {e : Expr}
    (h : e.groups = []) : (Expr.repeated min max greedy e).groups = [] :=
  (lacks_group_iff _).mp (lacks_repeated ((lacks_group_iff e).mpr h))

theorem meaning_fixed {e₀ e : Expr} {fl₀ fl' : Flags} {n n' : Nat} (hgroups : e₀.groups = [])
    (h : some (e₀, fl₀, n) = some (e, fl', n')) :
    n' = n ∧ e.groups = [] ∧ ∀ m : Nat, some (e₀, fl₀, m) = some (e, fl', m) := by
  simp only [Option.some.injEq, Prod.mk.injEq] at h
  obtain ⟨rfl, rfl, rfl⟩ := h
  exact ⟨rfl, hgroups, fun m => rfl⟩

theorem meaning_set {s? : Option CharSet} {e : Expr} {fl fl' : Flags} {n n' : Nat}
    (h : (s?.bind fun s => some (Expr.set s, fl, n)) = some (e, fl', n')) :
    n' = n ∧ e.groups = [] ∧
      ∀ m : Nat, (s?.bind fun s => some (Expr.set s, fl, m)) = some (e, fl', m) := by
  obtain ⟨s, rfl, hs⟩ := Option.bind_eq_some_iff.mp h
  exact meaning_fixed rfl hs

mutual

theorem ofNode_of_hasCapture_eq_false : ∀ (ast : Ast), ast.hasCapture = false →
    ∀ {fl fl' : Flags} {n n' : Nat} {e : Expr}, Expr.ofNode? ast fl n = some (e, fl', n') →
      n' = n ∧ e.groups = [] ∧ ∀ m, Expr.ofNode? ast fl m = some (e, fl', m)
  | .empty, _, _, _, _, _, _, h => meaning_fixed rfl h
  | .flags _, _, _, _, _, _, _, h => meaning_fixed rfl h
  | .literal _, _, _, _, _, _, _, h => meaning_set h
  | .dot, _, _, _, _, _, _, h => meaning_set h
  | .anchor _, _, _, _, _, _, _, h => meaning_fixed rfl h
  | .perl _ _, _, _, _, _, _, _, h => meaning_set h
  | .property _ _, _, _, _, _, _, _, h => meaning_set h
  | .bracket _ _, _, _, _, _, _, _, h => meaning_set h
  | .repetition min max greedy sub, hfree, fl, fl', n, n', e, h => by
    simp only [Expr.ofNode?, Option.bind_eq_bind, Option.bind_eq_some_iff, Option.pure_def,
      Option.some.injEq, Prod.mk.injEq, Prod.exists] at h ⊢
    obtain ⟨e₁, fl₁, n₁, hsub, rfl, rfl, rfl⟩ := h
    obtain ⟨rfl, hgroups, hany⟩ := ofNode_of_hasCapture_eq_false sub hfree hsub
    exact ⟨rfl, groups_repeated hgroups, fun m => ⟨e₁, fl₁, m, hany m, rfl, rfl, rfl⟩⟩
  | .group (.plain fs) sub, hfree, fl, fl', n, n', e, h => by
    simp only [Expr.ofNode?, Option.bind_eq_bind, Option.bind_eq_some_iff, Option.pure_def,
      Option.some.injEq, Prod.mk.injEq, Prod.exists] at h ⊢
    obtain ⟨e₁, fl₁, n₁, hsub, rfl, rfl, rfl⟩ := h
    obtain ⟨rfl, hgroups, hany⟩ := ofNode_of_hasCapture_eq_false sub hfree hsub
    exact ⟨rfl, hgroups, fun m => ⟨e₁, fl₁, m, hany m, rfl, rfl, rfl⟩⟩
  | .group .capture _, hfree, _, _, _, _, _, _ => absurd hfree (by simp [Ast.hasCapture])
  | .group (.namedCapture _) _, hfree, _, _, _, _, _, _ => absurd hfree (by simp [Ast.hasCapture])
  | .alternation branches, hfree, fl, fl', n, n', e, h => by
    simp only [Expr.ofNode?, Option.bind_eq_bind, Option.bind_eq_some_iff, Option.pure_def,
      Option.some.injEq, Prod.mk.injEq, Prod.exists] at h ⊢
    obtain ⟨es, fl₁, n₁, hsub, rfl, rfl, rfl⟩ := h
    obtain ⟨rfl, hgroups, hany⟩ := ofNodes_of_anyHasCapture_eq_false branches hfree hsub
    exact ⟨rfl, groups_alternatives hgroups, fun m => ⟨es, fl₁, m, hany m, rfl, rfl, rfl⟩⟩
  | .concat items, hfree, fl, fl', n, n', e, h => by
    simp only [Expr.ofNode?, Option.bind_eq_bind, Option.bind_eq_some_iff, Option.pure_def,
      Option.some.injEq, Prod.mk.injEq, Prod.exists] at h ⊢
    obtain ⟨es, fl₁, n₁, hsub, rfl, rfl, rfl⟩ := h
    obtain ⟨rfl, hgroups, hany⟩ := ofNodes_of_anyHasCapture_eq_false items hfree hsub
    exact ⟨rfl, hgroups, fun m => ⟨es, fl₁, m, hany m, rfl, rfl, rfl⟩⟩

theorem ofNodes_of_anyHasCapture_eq_false : ∀ (asts : List Ast), Ast.anyHasCapture asts = false →
    ∀ {fl fl' : Flags} {n n' : Nat} {es : List Expr},
      Expr.ofNodes? asts fl n = some (es, fl', n') →
        n' = n ∧ Expr.groupsOfAll es = [] ∧ ∀ m, Expr.ofNodes? asts fl m = some (es, fl', m)
  | [], _, _, _, _, _, _, h => by
    simp only [Expr.ofNodes?, Option.some.injEq, Prod.mk.injEq] at h
    obtain ⟨rfl, rfl, rfl⟩ := h
    exact ⟨rfl, rfl, fun m => rfl⟩
  | ast :: asts, hfree, fl, fl', n, n', es, h => by
    rw [Ast.anyHasCapture, Bool.or_eq_false_iff] at hfree
    simp only [Expr.ofNodes?, Option.bind_eq_bind, Option.bind_eq_some_iff, Option.pure_def,
      Option.some.injEq, Prod.mk.injEq, Prod.exists] at h ⊢
    obtain ⟨e, fl₁, n₁, he, es', fl₂, n₂, hes, rfl, rfl, rfl⟩ := h
    obtain ⟨rfl, hgroups, hany⟩ := ofNode_of_hasCapture_eq_false ast hfree.1 he
    obtain ⟨rfl, hgroups', hany'⟩ := ofNodes_of_anyHasCapture_eq_false asts hfree.2 hes
    refine ⟨rfl, ?_, fun m => ⟨e, fl₁, m, hany m, es', fl₂, m, hany' m, rfl, rfl, rfl⟩⟩
    rw [Expr.groupsOfAll, hgroups, hgroups', List.append_nil]

end

/-! ## Trees without conditions on places -/

mutual

/-- Whether a condition on a place is written in the tree. -/
def Ast.hasAnchor : Ast → Bool
  | .anchor _ => true
  | .repetition _ _ _ sub => sub.hasAnchor
  | .group _ sub => sub.hasAnchor
  | .alternation branches => Ast.anyHasAnchor branches
  | .concat items => Ast.anyHasAnchor items
  | _ => false

/-- Whether a condition on a place is written in any of `asts`. -/
def Ast.anyHasAnchor : List Ast → Bool
  | [] => false
  | ast :: asts => ast.hasAnchor || Ast.anyHasAnchor asts

end

theorem lacks_of_meaning {f : Feature} {e₀ e : Expr} {fl₀ fl' : Flags} {n n' : Nat}
    (hlacks : e₀.lacks f = true) (h : some (e₀, fl₀, n) = some (e, fl', n')) :
    e.lacks f = true := by
  rw [← (Prod.mk.inj (Option.some.inj h)).1]
  exact hlacks

theorem lacks_of_meaning_set {f : Feature} {s? : Option CharSet} {e : Expr} {fl fl' : Flags}
    {n n' : Nat} (h : (s?.bind fun s => some (Expr.set s, fl, n)) = some (e, fl', n')) :
    e.lacks f = true := by
  obtain ⟨s, rfl, hs⟩ := Option.bind_eq_some_iff.mp h
  exact lacks_of_meaning rfl hs

mutual

theorem lacks_look_of_ofNode : ∀ (ast : Ast), ast.hasAnchor = false →
    ∀ {fl fl' : Flags} {n n' : Nat} {e : Expr}, Expr.ofNode? ast fl n = some (e, fl', n') →
      e.lacks .look = true
  | .empty, _, _, _, _, _, _, h => lacks_of_meaning rfl h
  | .flags _, _, _, _, _, _, _, h => lacks_of_meaning rfl h
  | .literal _, _, _, _, _, _, _, h => lacks_of_meaning_set h
  | .dot, _, _, _, _, _, _, h => lacks_of_meaning_set h
  | .anchor _, hfree, _, _, _, _, _, _ => absurd hfree.symm Bool.false_ne_true
  | .perl _ _, _, _, _, _, _, _, h => lacks_of_meaning_set h
  | .property _ _, _, _, _, _, _, _, h => lacks_of_meaning_set h
  | .bracket _ _, _, _, _, _, _, _, h => lacks_of_meaning_set h
  | .repetition min max greedy sub, hfree, fl, fl', n, n', e, h => by
    simp only [Expr.ofNode?, Option.bind_eq_bind, Option.bind_eq_some_iff, Option.pure_def,
      Option.some.injEq, Prod.mk.injEq, Prod.exists] at h
    obtain ⟨e₁, fl₁, n₁, hsub, rfl, -, -⟩ := h
    exact lacks_repeated (lacks_look_of_ofNode sub hfree hsub)
  | .group kind sub, hfree, fl, fl', n, n', e, h => by
    cases kind
    all_goals
      simp only [Expr.ofNode?, Option.bind_eq_bind, Option.bind_eq_some_iff, Option.pure_def,
        Option.some.injEq, Prod.mk.injEq, Prod.exists] at h
      obtain ⟨e₁, fl₁, n₁, hsub, rfl, -, -⟩ := h
      have hlacks : e₁.lacks .look = true := lacks_look_of_ofNode sub hfree hsub
      exact hlacks
  | .alternation branches, hfree, fl, fl', n, n', e, h => by
    simp only [Expr.ofNode?, Option.bind_eq_bind, Option.bind_eq_some_iff, Option.pure_def,
      Option.some.injEq, Prod.mk.injEq, Prod.exists] at h
    obtain ⟨es, fl₁, n₁, hsub, rfl, -, -⟩ := h
    exact lacks_alternatives (allLack_look_of_ofNodes branches hfree hsub)
  | .concat items, hfree, fl, fl', n, n', e, h => by
    simp only [Expr.ofNode?, Option.bind_eq_bind, Option.bind_eq_some_iff, Option.pure_def,
      Option.some.injEq, Prod.mk.injEq, Prod.exists] at h
    obtain ⟨es, fl₁, n₁, hsub, rfl, -, -⟩ := h
    exact allLack_look_of_ofNodes items hfree hsub

theorem allLack_look_of_ofNodes : ∀ (asts : List Ast), Ast.anyHasAnchor asts = false →
    ∀ {fl fl' : Flags} {n n' : Nat} {es : List Expr},
      Expr.ofNodes? asts fl n = some (es, fl', n') → Expr.allLack .look es = true
  | [], _, _, _, _, _, _, h => by
    rw [← (Prod.mk.inj (Option.some.inj h)).1]
    rfl
  | ast :: asts, hfree, fl, fl', n, n', es, h => by
    rw [Ast.anyHasAnchor, Bool.or_eq_false_iff] at hfree
    simp only [Expr.ofNodes?, Option.bind_eq_bind, Option.bind_eq_some_iff, Option.pure_def,
      Option.some.injEq, Prod.mk.injEq, Prod.exists] at h
    obtain ⟨e, fl₁, n₁, he, es', fl₂, n₂, hes, rfl, -, -⟩ := h
    rw [Expr.allLack, lacks_look_of_ofNode ast hfree.1 he,
      allLack_look_of_ofNodes asts hfree.2 hes, Bool.and_true]

end

/-! ## Rows -/

/-- Whether a tree is a literal, or a capturing group without groups inside. -/
def Ast.isRowItem : Ast → Bool
  | .literal _ => true
  | .group .capture sub => !sub.hasCapture
  | _ => false

/-- How many of `asts` are groups. -/
def Ast.groupsAmong (asts : List Ast) : Nat :=
  asts.countP fun
    | .group _ _ => true
    | _ => false

/-- Literals and groups mean a row, and wherever it starts it is the same row renumbered. -/
theorem ofNodes_row : ∀ {asts : List Ast}, (∀ ast ∈ asts, ast.isRowItem = true) →
    ∀ {fl : Flags} {n n' : Nat} {es : List Expr}, Expr.ofNodes? asts {} n = some (es, fl, n') →
      fl = {} ∧ n' = n + Ast.groupsAmong asts ∧ Row n es n' ∧
        ∀ d, Expr.ofNodes? asts {} (n + d) = some (es.map (Expr.renumber (· + d)), {}, n' + d)
  | [], _, fl, n, n', es, h => by
    simp only [Expr.ofNodes?, Option.some.injEq, Prod.mk.injEq] at h
    obtain ⟨rfl, rfl, rfl⟩ := h
    exact ⟨rfl, rfl, .nil n, fun d => rfl⟩
  | ast :: asts, hrow, fl, n, n', es, h => by
    rw [List.forall_mem_cons] at hrow
    obtain ⟨hitem, hrest⟩ := hrow
    simp only [Expr.ofNodes?, Option.bind_eq_bind, Option.bind_eq_some_iff, Option.pure_def,
      Option.some.injEq, Prod.mk.injEq, Prod.exists] at h
    obtain ⟨e, fl₁, n₁, he, es', fl₂, n₂, hes, rfl, rfl, rfl⟩ := h
    unfold Ast.isRowItem at hitem
    split at hitem
    · rename_i l
      obtain ⟨rfl, rfl, rfl⟩ : Expr.set (.singleton l.char) = e ∧ {} = fl₁ ∧ n = n₁ := by
        simpa [Expr.ofNode?, Flags.literal?] using he
      obtain ⟨rfl, rfl, hes', hshift⟩ := ofNodes_row hrest hes
      refine ⟨rfl, ?_, .char l.char hes', fun d => ?_⟩
      · simp [Ast.groupsAmong]
      · simp [Expr.ofNodes?, Expr.ofNode?, Flags.literal?, hshift d, Expr.renumber]
    · rename_i sub
      simp only [Expr.ofNode?, Option.bind_eq_bind, Option.bind_eq_some_iff, Option.pure_def,
        Option.some.injEq, Prod.mk.injEq, Prod.exists] at he
      obtain ⟨e₁, fl₁, n₃, hsub, rfl, rfl, rfl⟩ := he
      obtain ⟨rfl, hgroups, hany⟩ := ofNode_of_hasCapture_eq_false sub (by simpa using hitem) hsub
      obtain ⟨rfl, rfl, hes', hshift⟩ := ofNodes_row hrest hes
      refine ⟨rfl, ?_, .group hgroups hes', fun d => ?_⟩
      · simp [Ast.groupsAmong]
        omega
      · have hd := hshift d
        rw [Nat.add_right_comm] at hd
        simp [Expr.ofNodes?, Expr.ofNode?, hany, hd, Expr.renumber,
          renumber_of_groups_eq_nil _ e₁ hgroups]
    · exact absurd hitem (by simp)

end RouteTable.Regex
