import Mathlib.Data.List.Dedup
import RouteTable.Dispatcher

/-!
# Lookups in sorted maps

* `mem_keys`: the keys are what a lookup finds something for.
* `ext_get?`: maps with the same lookups are equal.
* `entries_ofList`: a list that is sorted already is the list of entries of its map.
* `mem_sortedDistinct`, `sortedDistinct_congr`: sorting keeps the members and depends on no more.
* `sortedDistinct_eq`: it is what removing duplicates and then sorting gives.
-/

namespace RouteTable

namespace SortedMap

variable {κ α β : Type} [LT κ]

theorem mem_keys [DecidableEq κ] {m : SortedMap κ α} {k : κ} :
    k ∈ m.keys ↔ (m.get? k).isSome = true := by
  rw [get?, List.lookup_isSome_iff, keys, List.mem_map]
  constructor
  · rintro ⟨e, he, rfl⟩
    exact ⟨e, he, by simp⟩
  · rintro ⟨e, he, hk⟩
    exact ⟨e, he, (eq_of_beq hk).symm⟩

theorem mem_of_get? [DecidableEq κ] {m : SortedMap κ α} {k : κ} {v : α} (h : m.get? k = some v) :
    (k, v) ∈ m.entries := by
  obtain ⟨before, after, hsplit, -⟩ := List.lookup_eq_some_iff.mp h
  rw [hsplit]
  exact List.mem_append_right before List.mem_cons_self

theorem pairwise_keys (m : SortedMap κ α) : m.keys.Pairwise (· < ·) :=
  m.sorted.map _ fun _ _ h => h

section Order

variable [Trans (α := κ) (· < ·) (· < ·) (· < ·)] [Std.Irrefl (α := κ) (· < ·)]

omit [Trans (α := κ) (· < ·) (· < ·) (· < ·)] in
theorem nodup_keys (m : SortedMap κ α) : m.keys.Nodup := by
  refine m.pairwise_keys.imp ?_
  rintro a b h rfl
  exact Std.Irrefl.irrefl (r := fun a b : κ => a < b) a h

omit [Trans (α := κ) (· < ·) (· < ·) (· < ·)] in
/-- An entry is what a lookup of its key finds. -/
theorem get?_of_mem [DecidableEq κ] {m : SortedMap κ α} {e : κ × α} (he : e ∈ m.entries) :
    m.get? e.1 = some e.2 := by
  obtain ⟨before, after, hsplit⟩ := List.append_of_mem he
  have hsorted := m.sorted
  rw [hsplit, List.pairwise_append] at hsorted
  have hbefore : ∀ a ∈ before, (e.1 == a.1) = false := by
    intro a ha
    rw [beq_eq_false_iff_ne]
    intro heq
    have hlt := hsorted.2.2 a ha e List.mem_cons_self
    rw [heq] at hlt
    exact Std.Irrefl.irrefl (r := fun a b : κ => a < b) a.1 hlt
  rw [get?, hsplit, List.lookup_append, List.lookup_eq_none_iff.mpr ?_, Option.none_or,
    List.lookup_cons, beq_self_eq_true]
  intro a ha
  simpa using hbefore a ha

/-- Sorted keys are settled by their members. -/
theorem keys_eq {a : SortedMap κ α} {b : SortedMap κ β} (h : ∀ k, k ∈ a.keys ↔ k ∈ b.keys) :
    a.keys = b.keys := by
  refine List.Perm.eq_of_pairwise ?_ a.pairwise_keys b.pairwise_keys
    ((List.perm_ext_iff_of_nodup a.nodup_keys b.nodup_keys).mpr h)
  intro x y _ _ hxy hyx
  exact absurd (Trans.trans hxy hyx) (Std.Irrefl.irrefl (r := fun a b : κ => a < b) x)

/-- A map is settled by its lookups. -/
theorem ext_get? [DecidableEq κ] {a b : SortedMap κ α} (h : ∀ k, a.get? k = b.get? k) : a = b := by
  have hnodup : ∀ m : SortedMap κ α, m.entries.Nodup := fun m => m.nodup_keys.of_map _
  have hmem : ∀ {m m' : SortedMap κ α}, (∀ k, m.get? k = m'.get? k) →
      ∀ e ∈ m.entries, e ∈ m'.entries :=
    fun h e he => mem_of_get? ((h e.1).symm.trans (get?_of_mem he))
  refine ext_entries (List.Perm.eq_of_pairwise ?_ a.sorted b.sorted
    ((List.perm_ext_iff_of_nodup (hnodup a) (hnodup b)).mpr fun e => ?_))
  · intro x y _ _ hxy hyx
    exact absurd (Trans.trans hxy hyx) (Std.Irrefl.irrefl (r := fun a b : κ => a < b) x.1)
  · exact ⟨hmem h e, hmem (fun k => (h k).symm) e⟩

variable [DecidableLT κ] [Std.Trichotomous (α := κ) (· < ·)]

omit [Std.Trichotomous (α := κ) (· < ·)] in
/-- A greatest key is put at the end. -/
theorem insertEntry_of_forall_lt {k : κ} {v : α} : ∀ {es : List (κ × α)}, (∀ e ∈ es, e.1 < k) →
    insertEntry k v es = es ++ [(k, v)]
  | [], _ => rfl
  | e :: es, h => by
    rw [List.forall_mem_cons] at h
    have hk : ¬ k < e.1 := fun hk =>
      absurd (Trans.trans h.1 hk) (Std.Irrefl.irrefl (r := fun a b : κ => a < b) e.1)
    rw [insertEntry, if_neg hk, if_pos h.1, insertEntry_of_forall_lt h.2, List.cons_append]

theorem entries_foldl_insert : ∀ {es : List (κ × α)} {m : SortedMap κ α},
    es.Pairwise (fun a b => a.1 < b.1) → (∀ a ∈ m.entries, ∀ b ∈ es, a.1 < b.1) →
      (es.foldl (fun m e => m.insert e.1 e.2) m).entries = m.entries ++ es
  | [], m, _, _ => (List.append_nil m.entries).symm
  | e :: es, m, hsorted, hless => by
    rw [List.pairwise_cons] at hsorted
    have hinsert : (m.insert e.1 e.2).entries = m.entries ++ [e] :=
      insertEntry_of_forall_lt fun a ha => hless a ha e List.mem_cons_self
    rw [List.foldl_cons, entries_foldl_insert hsorted.2, hinsert, List.append_assoc,
      List.singleton_append]
    intro a ha b hb
    rw [hinsert, List.mem_append, List.mem_singleton] at ha
    rcases ha with ha | rfl
    · exact hless a ha b (List.mem_cons_of_mem e hb)
    · exact hsorted.1 b hb

/-- A list that is sorted already is the list of entries of its map. -/
theorem entries_ofList {es : List (κ × α)} (h : es.Pairwise fun a b => a.1 < b.1) :
    (ofList es).entries = es :=
  entries_foldl_insert h fun _ ha => absurd ha List.not_mem_nil

variable [DecidableEq κ]

theorem isSome_get?_foldl_insert {k : κ} : ∀ {es : List (κ × α)} {m : SortedMap κ α},
    ((es.foldl (fun m e => m.insert e.1 e.2) m).get? k).isSome = true ↔
      (m.get? k).isSome = true ∨ k ∈ es.map Prod.fst
  | [], m => by simp
  | e :: es, m => by
    rw [List.foldl_cons, isSome_get?_foldl_insert, List.map_cons, List.mem_cons]
    by_cases hk : k = e.1
    · subst hk
      simp
    · rw [get?_insert_of_ne m e.2 hk]
      simp [hk]

end Order

end SortedMap

/-! ## Sorted texts -/

theorem mem_sortedDistinct {texts : List String} {t : String} :
    t ∈ sortedDistinct texts ↔ t ∈ texts := by
  unfold sortedDistinct
  rw [SortedMap.mem_keys, SortedMap.ofList, SortedMap.isSome_get?_foldl_insert, List.map_map]
  simp [Function.comp_def]

theorem sortedDistinct_congr {texts texts' : List String} (h : ∀ t, t ∈ texts ↔ t ∈ texts') :
    sortedDistinct texts = sortedDistinct texts' := by
  refine SortedMap.keys_eq fun t => ?_
  have hmem := @mem_sortedDistinct texts t
  have hmem' := @mem_sortedDistinct texts' t
  unfold sortedDistinct at hmem hmem'
  rw [hmem, hmem', h]

theorem pairwise_le_mergeSort (texts : List String) : texts.mergeSort.Pairwise (· ≤ ·) := by
  have h := @List.pairwise_mergeSort String (fun a b => decide (a ≤ b))
    (fun a b c hab hbc => by
      rw [decide_eq_true_eq] at hab hbc ⊢
      exact String.le_trans hab hbc)
    (fun a b => by
      rw [Bool.or_eq_true, decide_eq_true_eq, decide_eq_true_eq]
      exact String.le_total a b) texts
  exact h.imp fun h => of_decide_eq_true h

/-- Sorted texts, each once, are the distinct texts sorted. -/
theorem sortedDistinct_eq (texts : List String) : sortedDistinct texts = texts.dedup.mergeSort := by
  have hkeys : (sortedDistinct texts).Pairwise (· < ·) := SortedMap.pairwise_keys _
  have hsorted : texts.dedup.mergeSort.Pairwise (· ≤ ·) := pairwise_le_mergeSort _
  have hperm : (sortedDistinct texts).Perm texts.dedup := by
    refine (List.perm_ext_iff_of_nodup (SortedMap.nodup_keys _) texts.nodup_dedup).mpr fun t => ?_
    rw [← sortedDistinct, mem_sortedDistinct, List.mem_dedup]
  have hle : (sortedDistinct texts).Pairwise (· ≤ ·) :=
    hkeys.imp fun h => String.not_lt.mp (String.lt_asymm h)
  refine List.Perm.eq_of_pairwise ?_ hle hsorted (hperm.trans (List.mergeSort_perm _ _).symm)
  intro a b _ _ hab hba
  exact String.le_antisymm hab hba

theorem ofAllowed_ne_found (allowed : List String) (f : Found) :
    Answer.ofAllowed allowed ≠ .found f := by
  unfold Answer.ofAllowed
  split
  · exact fun h => Answer.noConfusion h
  · exact fun h => Answer.noConfusion h

theorem ofAllowed_congr {texts texts' : List String} (h : ∀ t, t ∈ texts ↔ t ∈ texts') :
    Answer.ofAllowed texts = Answer.ofAllowed texts' := by
  have hnil : texts = [] ↔ texts' = [] := by
    simp only [List.eq_nil_iff_forall_not_mem, h]
  unfold Answer.ofAllowed
  rw [sortedDistinct_congr h]
  simp only [hnil]

end RouteTable
