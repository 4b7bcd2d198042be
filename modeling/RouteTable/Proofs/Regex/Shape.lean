import RouteTable.Proofs.Regex.Row
import RouteTable.Regex.Shape

/-!
# Normal forms

* `lacks_alternatives`: alternatives without groups have a form without groups, and alternatives
  without conditions on places have a form without such conditions.
* `alternatives_rows`: alternatives whose groups are numbered through are left as they are. What
  they have in common at their starts are characters, among which there is no choice; a group is no
  part of it, because every alternative has groups of its own.
-/

namespace RouteTable.Regex

/-! ## What an expression lacks -/

/-- A kind of part that an expression may have or lack. -/
inductive Feature where
  | group
  | look
  deriving DecidableEq

mutual

/-- Whether no part of the expression is of the kind. -/
def Expr.lacks (f : Feature) : Expr → Bool
  | .set _ => true
  | .look _ => f != .look
  | .seq items => Expr.allLack f items
  | .alt branches => Expr.allLack f branches
  | .group _ sub => f != .group && sub.lacks f
  | .rep _ _ _ sub => sub.lacks f

/-- Whether no part of any of `es` is of the kind. -/
def Expr.allLack (f : Feature) : List Expr → Bool
  | [] => true
  | e :: es => e.lacks f && Expr.allLack f es

end

mutual

theorem lacks_group_iff : ∀ e : Expr, e.lacks .group = true ↔ e.groups = []
  | .set _ => iff_of_true rfl rfl
  | .look _ => iff_of_true rfl rfl
  | .seq items => allLack_group_iff items
  | .alt branches => allLack_group_iff branches
  | .group _ _ => iff_of_false Bool.false_ne_true (List.cons_ne_nil _ _)
  | .rep _ _ _ sub => lacks_group_iff sub

theorem allLack_group_iff : ∀ es : List Expr,
    Expr.allLack .group es = true ↔ Expr.groupsOfAll es = []
  | [] => iff_of_true rfl rfl
  | e :: es => by
    rw [Expr.allLack, Bool.and_eq_true, lacks_group_iff e, allLack_group_iff es, Expr.groupsOfAll,
      List.append_eq_nil_iff]

end

namespace Shape

mutual

/-- Whether no part of the shape is of the kind. -/
def lacks (f : Feature) : Shape → Bool
  | .empty => true
  | .literal _ => true
  | .set _ => true
  | .look _ => f != .look
  | .rep _ _ _ sub => sub.lacks f
  | .group _ sub => f != .group && sub.lacks f
  | .concat items => allLack f items
  | .alt branches => allLack f branches

/-- Whether no part of any of `ss` is of the kind. -/
def allLack (f : Feature) : List Shape → Bool
  | [] => true
  | s :: ss => s.lacks f && allLack f ss

end

variable {f : Feature}

theorem allLack_iff : ∀ {ss : List Shape}, allLack f ss = true ↔ ∀ s ∈ ss, s.lacks f = true
  | [] => by simp [allLack]
  | s :: ss => by rw [allLack, Bool.and_eq_true, allLack_iff, List.forall_mem_cons]

theorem lacks_ofSet (s : CharSet) : (ofSet s).lacks f = true := by
  unfold ofSet
  split <;> rfl

theorem lacks_items {s : Shape} (h : s.lacks f = true) : ∀ t ∈ s.items, t.lacks f = true := by
  unfold items
  split
  · simp
  · exact allLack_iff.mp h
  · simpa using h

theorem lacks_branches {s : Shape} (h : s.lacks f = true) :
    ∀ t ∈ s.branches, t.lacks f = true := by
  unfold branches
  split
  · exact allLack_iff.mp h
  · simpa using h

theorem lacks_joinLiterals : ∀ {ss : List Shape}, (∀ s ∈ ss, s.lacks f = true) →
    ∀ s ∈ joinLiterals ss, s.lacks f = true
  | [], _ => by simp [joinLiterals]
  | s :: ss, h => by
    rw [List.forall_mem_cons] at h
    have ih := lacks_joinLiterals h.2
    unfold joinLiterals
    split
    · rename_i heq
      rw [heq, List.forall_mem_cons] at ih
      exact List.forall_mem_cons.mpr ⟨rfl, ih.2⟩
    · exact List.forall_mem_cons.mpr ⟨h.1, ih⟩

theorem lacks_ofItems {ss : List Shape} (h : ∀ s ∈ ss, s.lacks f = true) :
    (ofItems ss).lacks f = true := by
  have hitems : ∀ t ∈ ss.flatMap items, t.lacks f = true := fun t ht => by
    obtain ⟨s, hs, ht⟩ := List.mem_flatMap.mp ht
    exact lacks_items (h s hs) t ht
  have hjoined := lacks_joinLiterals hitems
  unfold ofItems
  split
  · rfl
  · rename_i s heq
    exact hjoined s (heq ▸ List.mem_singleton_self s)
  · exact allLack_iff.mpr hjoined

theorem sequences?_eq_some : ∀ {ss : List Shape} {iss : List (List Shape)},
    sequences? ss = some iss → ss = iss.map Shape.concat
  | [], iss, h => by
    obtain rfl := Option.some.inj h
    rfl
  | s :: ss, iss, h => by
    unfold sequences? at h
    split at h
    · exact absurd ‹s :: ss = []› (by simp)
    · rename_i heq
      obtain ⟨rest, hrest, rfl⟩ := Option.map_eq_some_iff.mp h
      rw [List.map_cons, ← sequences?_eq_some hrest]
      exact heq
    · exact absurd h (by simp)

theorem mem_sharedStart {ss : List Shape} {t : Shape} (h : t ∈ sharedStart ss) :
    ∃ items ∈ ss.head?.map Shape.items, t ∈ items := by
  unfold sharedStart at h
  split at h
  · rename_i first rest heq
    rw [sequences?_eq_some heq]
    exact ⟨first, rfl, List.mem_of_mem_take h⟩
  · exact absurd h (by simp)

theorem lacks_sharedStart {ss : List Shape} (h : ∀ s ∈ ss, s.lacks f = true) :
    ∀ s ∈ sharedStart ss, s.lacks f = true := by
  intro t ht
  obtain ⟨items, hitems, hmem⟩ := mem_sharedStart ht
  cases ss with
  | nil => simp at hitems
  | cons s ss =>
    obtain rfl := Option.some.inj hitems
    exact lacks_items (h s List.mem_cons_self) t hmem

theorem lacks_ofBranchesFrom : ∀ {fuel : Nat} {ss : List Shape}, (∀ s ∈ ss, s.lacks f = true) →
    (ofBranchesFrom fuel ss).lacks f = true
  | 0, ss, h => allLack_iff.mpr h
  | fuel + 1, ss, h => by
    unfold ofBranchesFrom
    split
    · rfl
    · exact h _ List.mem_cons_self
    · split
      · exact lacks_ofSet _
      · simp only
        split
        · exact allLack_iff.mpr h
        · refine lacks_ofItems fun t ht => ?_
          rcases List.mem_append.mp ht with ht | ht
          · exact lacks_sharedStart h t ht
          · obtain rfl := List.mem_singleton.mp ht
            refine lacks_ofBranchesFrom fun u hu => ?_
            obtain ⟨v, hv, hu⟩ := List.mem_flatMap.mp hu
            obtain ⟨s, hs, rfl⟩ := List.mem_map.mp hv
            refine lacks_branches (lacks_ofItems fun w hw => ?_) u hu
            exact lacks_items (h s hs) w (List.mem_of_mem_drop hw)

mutual

theorem lacks_ofExpr : ∀ e : Expr, e.lacks f = true → (ofExpr e).lacks f = true
  | .set s, _ => lacks_ofSet s
  | .look _, h => h
  | .seq items, h => lacks_ofItems (lacks_ofExprs items h)
  | .alt branches, h => lacks_ofBranchesFrom fun t ht => by
      obtain ⟨s, hs, ht⟩ := List.mem_flatMap.mp ht
      exact lacks_branches (lacks_ofExprs branches h s hs) t ht
  | .group _ sub, h => by
    rw [Expr.lacks, Bool.and_eq_true] at h
    rw [ofExpr, lacks, h.1, lacks_ofExpr sub h.2]
    rfl
  | .rep _ _ _ sub, h => lacks_ofExpr sub h

theorem lacks_ofExprs : ∀ es : List Expr, Expr.allLack f es = true →
    ∀ s ∈ ofExprs es, s.lacks f = true
  | [], _ => by simp [ofExprs]
  | e :: es, h => by
    rw [Expr.allLack, Bool.and_eq_true] at h
    rw [ofExprs, List.forall_mem_cons]
    exact ⟨lacks_ofExpr e h.1, lacks_ofExprs es h.2⟩

end

theorem allLack_literal : ∀ codes : List Nat,
    Expr.allLack f (codes.map fun n => .set ⟨[(n, n)]⟩) = true
  | [] => rfl
  | _ :: codes => allLack_literal codes

mutual

theorem lacks_toExpr : ∀ s : Shape, s.lacks f = true → s.toExpr.lacks f = true
  | .empty, _ => rfl
  | .literal codes, _ => allLack_literal codes
  | .set _, _ => rfl
  | .look _, h => h
  | .rep _ _ _ sub, h => lacks_toExpr sub h
  | .group _ sub, h => by
    rw [lacks, Bool.and_eq_true] at h
    rw [toExpr, Expr.lacks, h.1, lacks_toExpr sub h.2]
    rfl
  | .concat items, h => lacks_toExprs items h
  | .alt branches, h => lacks_toExprs branches h

theorem lacks_toExprs : ∀ ss : List Shape, allLack f ss = true →
    Expr.allLack f (toExprs ss) = true
  | [], _ => rfl
  | s :: ss, h => by
    rw [allLack, Bool.and_eq_true] at h
    rw [toExprs, Expr.allLack, lacks_toExpr s h.1, lacks_toExprs ss h.2]
    rfl

end

end Shape

/-- What alternatives lack, their form lacks. -/
theorem lacks_alternatives {f : Feature} {es : List Expr} (h : Expr.allLack f es = true) :
    (Expr.alternatives es).lacks f = true := by
  unfold Expr.alternatives
  simp only
  split
  · refine Shape.lacks_toExpr _ (Shape.lacks_ofBranchesFrom fun t ht => ?_)
    obtain ⟨u, hu, ht⟩ := List.mem_flatMap.mp ht
    obtain ⟨s, hs, hu⟩ := List.mem_flatMap.mp hu
    exact Shape.lacks_branches (Shape.lacks_branches (Shape.lacks_ofExprs es h s hs) u hu) t ht
  · exact h

theorem groups_alternatives {es : List Expr} (h : Expr.groupsOfAll es = []) :
    (Expr.alternatives es).groups = [] :=
  (lacks_group_iff _).mp (lacks_alternatives ((allLack_group_iff es).mpr h))

/-! ## Rows -/

namespace Shape

/-- A literal, or a group with one of the given numbers. -/
def IsSimple (numbers : List Nat) : Shape → Prop
  | .literal _ => True
  | .group index _ => index ∈ numbers
  | _ => False

theorem IsSimple.mono {is js : List Nat} (hsub : ∀ i ∈ is, i ∈ js) :
    ∀ {s : Shape}, s.IsSimple is → s.IsSimple js
  | .literal _, _ => trivial
  | .group _ _, h => hsub _ h

theorem IsSimple.items {is : List Nat} : ∀ {s : Shape}, s.IsSimple is → s.items = [s]
  | .literal _, _ => rfl
  | .group _ _, _ => rfl

theorem IsSimple.branches {is : List Nat} : ∀ {s : Shape}, s.IsSimple is → s.branches = [s]
  | .literal _, _ => rfl
  | .group _ _, _ => rfl

theorem flatMap_items {is : List Nat} : ∀ {ss : List Shape}, (∀ s ∈ ss, s.IsSimple is) →
    ss.flatMap items = ss
  | [], _ => rfl
  | s :: ss, h => by
    rw [List.forall_mem_cons] at h
    rw [List.flatMap_cons, h.1.items, flatMap_items h.2, List.singleton_append]

theorem isSimple_joinLiterals {is : List Nat} : ∀ {ss : List Shape}, (∀ s ∈ ss, s.IsSimple is) →
    ∀ s ∈ joinLiterals ss, s.IsSimple is
  | [], _ => by simp [joinLiterals]
  | s :: ss, h => by
    rw [List.forall_mem_cons] at h
    have ih := isSimple_joinLiterals h.2
    unfold joinLiterals
    split
    · rename_i heq
      rw [heq, List.forall_mem_cons] at ih
      exact List.forall_mem_cons.mpr ⟨trivial, ih.2⟩
    · exact List.forall_mem_cons.mpr ⟨h.1, ih⟩

theorem isSimple_ofRow {k k' : Nat} {es : List Expr} (h : Row k es k') :
    ∀ s ∈ ofExprs es, s.IsSimple (Expr.groupsOfAll es) := by
  induction h with
  | nil k => simp [ofExprs]
  | char c h ih =>
    have hc : ofSet (.singleton c) = .literal [c.toNat] := by
      simp [ofSet, CharSet.singleton, CharSet.single?]
    rw [ofExprs, List.forall_mem_cons, ofExpr, hc]
    exact ⟨trivial, fun s hs => (ih s hs).mono fun i hi => List.mem_append_right _ hi⟩
  | group hsub h ih =>
    rw [ofExprs, List.forall_mem_cons]
    exact ⟨List.mem_append_left _ List.mem_cons_self,
      fun s hs => (ih s hs).mono fun i hi => List.mem_append_right _ hi⟩

theorem items_ofItems {is : List Nat} {ss : List Shape} (h : ∀ s ∈ ss, s.IsSimple is) :
    (∀ s ∈ (ofItems ss).items, s.IsSimple is) ∧ (ofItems ss).branches = [ofItems ss] := by
  have hjoined := isSimple_joinLiterals h
  rw [← flatMap_items h] at hjoined
  unfold ofItems
  split
  · exact ⟨by simp [items], rfl⟩
  · rename_i s heq
    have hs := hjoined s (heq ▸ List.mem_singleton_self s)
    exact ⟨by rw [hs.items]; simpa using hs, hs.branches⟩
  · exact ⟨hjoined, rfl⟩

theorem items_ofRow {k k' : Nat} {es : List Expr} (h : Row k es k') :
    (∀ s ∈ (ofExpr (Expr.ofRow es)).items, s.IsSimple (Expr.groupsOfAll es)) ∧
      (ofExpr (Expr.ofRow es)).branches = [ofExpr (Expr.ofRow es)] := by
  have hsimple := isSimple_ofRow h
  unfold Expr.ofRow
  split
  · rename_i e
    have he := hsimple (ofExpr e) (by simp [ofExprs])
    exact ⟨by rw [he.items]; simpa using he, he.branches⟩
  · exact items_ofItems hsimple

/-! ## What alternatives have in common -/

theorem mem_take_commonStart {s : Shape} : ∀ {as bs : List Shape},
    s ∈ as.take (commonStart as bs) → s ∈ as ∧ ∃ t ∈ bs, same s t = true
  | [], _, h => absurd h (by simp)
  | _ :: _, [], h => absurd h (by simp [commonStart])
  | a :: as, b :: bs, h => by
    unfold commonStart at h
    split at h
    · rename_i hsame
      rw [List.take_succ_cons, List.mem_cons] at h
      rcases h with rfl | h
      · exact ⟨List.mem_cons_self, b, List.mem_cons_self, hsame⟩
      · obtain ⟨hmem, t, ht, hst⟩ := mem_take_commonStart h
        exact ⟨List.mem_cons_of_mem a hmem, t, List.mem_cons_of_mem b ht, hst⟩
    · exact absurd h (by simp)

theorem foldl_min_le (f : List Shape → Nat) : ∀ (iss : List (List Shape)) (n : Nat),
    iss.foldl (fun n items => min n (f items)) n ≤ n
  | [], n => Nat.le_refl n
  | items :: iss, n => Nat.le_trans (foldl_min_le f iss _) (Nat.min_le_left n (f items))

/-- What is shared by all is shared by the first two. -/
theorem mem_sharedStart_cons_cons {a b s : Shape} {ss : List Shape}
    (h : s ∈ sharedStart (a :: b :: ss)) : s ∈ a.items ∧ ∃ t ∈ b.items, same s t = true := by
  unfold sharedStart at h
  split at h
  · rename_i first rest heq
    have hss := sequences?_eq_some heq
    cases rest with
    | nil => simp at hss
    | cons second rest =>
      simp only [List.map_cons, List.cons.injEq] at hss
      obtain ⟨rfl, rfl, -⟩ := hss
      refine mem_take_commonStart (List.take_subset_take_left first ?_ h)
      rw [List.foldl_cons]
      exact Nat.le_trans (foldl_min_le _ rest _) (Nat.min_le_right _ _)
  · exact absurd h (by simp)

theorem anyHasChoice_eq_false : ∀ {ss : List Shape}, (∀ s ∈ ss, s.hasChoice = false) →
    anyHasChoice ss = false
  | [], _ => rfl
  | s :: ss, h => by
    rw [List.forall_mem_cons] at h
    rw [anyHasChoice, h.1, anyHasChoice_eq_false h.2, Bool.or_false]

/-- A shape that occurs with different groups has none. -/
theorem hasChoice_eq_false {is js : List Nat} (hdisjoint : ∀ i ∈ is, i ∉ js) :
    ∀ {s t : Shape}, s.IsSimple is → t.IsSimple js → same s t = true → s.hasChoice = false
  | .literal _, _, _, _, _ => rfl
  | .group i _, .group j _, hi, hj, hsame => by
    rw [same, Bool.and_eq_true, beq_iff_eq] at hsame
    exact absurd (hsame.1 ▸ hj) (hdisjoint i hi)
  | .group _ _, .literal _, _, _, hsame => by simp [same] at hsame

end Shape

/-- Rows whose groups are numbered through, from `k` up to but without `k'`. -/
inductive Rows : Nat → List (List Expr) → Nat → Prop
  | nil (k : Nat) : Rows k [] k
  | cons {k m k' : Nat} {es : List Expr} {ess : List (List Expr)} (h : Row k es m)
      (hs : Rows m ess k') : Rows k (es :: ess) k'

theorem Rows.forall_mem {k k' : Nat} {ess : List (List Expr)} (h : Rows k ess k') :
    ∀ es ∈ ess, ∃ m m', Row m es m' := by
  induction h with
  | nil k => simp
  | @cons k m k' es ess h hs ih => exact List.forall_mem_cons.mpr ⟨⟨k, m, h⟩, ih⟩

theorem flatMap_branches_ofRow : ∀ {ess : List (List Expr)}, (∀ es ∈ ess, ∃ m m', Row m es m') →
    (Shape.ofExprs (ess.map Expr.ofRow)).flatMap Shape.branches =
      Shape.ofExprs (ess.map Expr.ofRow)
  | [], _ => rfl
  | es :: ess, h => by
    rw [List.forall_mem_cons] at h
    obtain ⟨⟨m, m', hrow⟩, hess⟩ := h
    rw [List.map_cons, Shape.ofExprs, List.flatMap_cons, (Shape.items_ofRow hrow).2,
      flatMap_branches_ofRow hess, List.singleton_append]

/-- Two or more rows with groups numbered through are left as alternatives. -/
theorem alternatives_rows {k k' : Nat} {es es' : List Expr} {ess : List (List Expr)}
    (h : Rows k (es :: es' :: ess) k') :
    Expr.alternatives ((es :: es' :: ess).map Expr.ofRow) =
      .alt ((es :: es' :: ess).map Expr.ofRow) := by
  have hflat := flatMap_branches_ofRow h.forall_mem
  unfold Expr.alternatives
  simp only [hflat]
  rw [if_neg]
  rw [Bool.not_eq_true]
  refine Shape.anyHasChoice_eq_false fun s hs => ?_
  obtain ⟨hmem, t, ht, hsame⟩ := Shape.mem_sharedStart_cons_cons hs
  cases h with
  | cons hrow h =>
    cases h with
    | cons hrow' h =>
      refine Shape.hasChoice_eq_false (fun i hi hi' => ?_) ((Shape.items_ofRow hrow).1 s hmem)
        ((Shape.items_ofRow hrow').1 t ht) hsame
      rw [hrow.groups, List.mem_range'_1] at hi
      rw [hrow'.groups, List.mem_range'_1] at hi'
      omega

end RouteTable.Regex
