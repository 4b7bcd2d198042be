import RouteTable.Proofs.Regex.Branch
import RouteTable.Proofs.SortedMap
import RouteTable.RouteSet.Build

/-!
# Positions

A route of a chunk is filed under one more than the number of its last group. A match of the route
records its groups and no others, so the last group that has taken part leads back to the route.

* `entries_routeMap`: the route map of a chunk lists its routes in order.
* `routeAt?_eq_some`, `get?_routeMap`: a route is found under its position, and so are its targets.
* `position_eq`, `values_shift`: what a chunk reads off a match is what the route alone reads off.
-/

namespace RouteTable

open Regex

/-! ## Route maps -/

theorem lt_of_mem_positions {rs : List VariableRoute} (h : ∀ r ∈ rs, 0 < r.groupCount) :
    ∀ {k n : Nat}, n ∈ positions k rs → k + 1 < n := by
  induction rs with
  | nil => intro k n hn; exact absurd hn List.not_mem_nil
  | cons r rs ih =>
    intro k n hn
    rw [List.forall_mem_cons] at h
    rcases List.mem_cons.mp hn with rfl | hn
    · omega
    · have := ih h.2 hn
      omega

theorem pairwise_positions {rs : List VariableRoute} (h : ∀ r ∈ rs, 0 < r.groupCount) :
    ∀ k : Nat, (positions k rs).Pairwise (· < ·) := by
  induction rs with
  | nil => intro k; exact List.Pairwise.nil
  | cons r rs ih =>
    intro k
    rw [List.forall_mem_cons] at h
    refine List.Pairwise.cons (fun n hn => ?_) (ih h.2 _)
    exact lt_of_mem_positions h.2 hn

theorem length_positions : ∀ (k : Nat) (rs : List VariableRoute),
    (positions k rs).length = rs.length
  | _, [] => rfl
  | k, r :: rs => by rw [positions, List.length_cons, List.length_cons, length_positions _ rs]

/-- The route map of a chunk lists its routes in order, under their positions. -/
theorem entries_routeMap {rs : List VariableRoute} (h : ∀ r ∈ rs, 0 < r.groupCount) :
    (Chunk.ofRoutes rs).routeMap.entries = (positions 0 rs).zip (rs.map VariableRoute.targets) := by
  refine SortedMap.entries_ofList ?_
  have hfst : ((positions 0 rs).zip (rs.map VariableRoute.targets)).map Prod.fst = positions 0 rs :=
    List.map_fst_zip (Nat.le_of_eq (by rw [length_positions, List.length_map]))
  have hsorted := pairwise_positions h 0
  rwa [← hfst, List.pairwise_map] at hsorted

/-- By ascending position, the targets are those of the routes in order. -/
theorem values_routeMap {rs : List VariableRoute} (h : ∀ r ∈ rs, 0 < r.groupCount) :
    (Chunk.ofRoutes rs).routeMap.values = rs.map VariableRoute.targets := by
  rw [SortedMap.values, entries_routeMap h]
  refine List.map_snd_zip (Nat.le_of_eq ?_)
  rw [length_positions, List.length_map]

/-- The route that is filed under a position of the chunk of `routes`. -/
def routeAt? (routes : List VariableRoute) (position : Nat) : Option VariableRoute :=
  ((positions 0 routes).zip routes).lookup position

theorem lookup_positions {before after : List VariableRoute} {r : VariableRoute}
    (h : ∀ a ∈ before ++ r :: after, 0 < a.groupCount) : ∀ k : Nat,
      ((positions k (before ++ r :: after)).zip (before ++ r :: after)).lookup
        (k + (before.map VariableRoute.groupCount).sum + r.groupCount + 1) = some r := by
  induction before with
  | nil =>
    intro k
    simp [positions]
  | cons a before ih =>
    intro k
    rw [List.cons_append, List.forall_mem_cons] at h
    have hr : 0 < r.groupCount := h.2 r (by simp)
    have hne : ¬ k + (a.groupCount + (before.map VariableRoute.groupCount).sum) + r.groupCount + 1 =
        k + a.groupCount + 1 := by omega
    have ih := ih h.2 (k + a.groupCount)
    rw [List.cons_append, positions, List.map_cons, List.zip_cons_cons, List.lookup_cons,
      List.sum_cons, beq_eq_false_iff_ne.mpr hne]
    rwa [← Nat.add_assoc]

/-- Every route is found under its position. -/
theorem routeAt?_eq_some {before after : List VariableRoute} {r : VariableRoute}
    (h : ∀ a ∈ before ++ r :: after, 0 < a.groupCount) :
    routeAt? (before ++ r :: after)
      ((before.map VariableRoute.groupCount).sum + r.groupCount + 1) = some r := by
  have hlookup := lookup_positions h 0
  rwa [Nat.zero_add] at hlookup

theorem lookup_zip_map {κ α β : Type} [BEq κ] (f : α → β) (k : κ) : ∀ (ks : List κ) (xs : List α),
    (ks.zip (xs.map f)).lookup k = ((ks.zip xs).lookup k).map f
  | [], _ => rfl
  | _ :: _, [] => rfl
  | k' :: ks, x :: xs => by
    rw [List.map_cons, List.zip_cons_cons, List.zip_cons_cons, List.lookup_cons, List.lookup_cons,
      lookup_zip_map f k ks xs]
    cases k == k' <;> rfl

/-- The route map has the targets of the route at every position, and no more. -/
theorem get?_routeMap {rs : List VariableRoute} (h : ∀ r ∈ rs, 0 < r.groupCount) (n : Nat) :
    (Chunk.ofRoutes rs).routeMap.get? n = (routeAt? rs n).map VariableRoute.targets := by
  rw [SortedMap.get?, entries_routeMap h, lookup_zip_map]
  rfl

/-! ## Matches -/

theorem isSome_find?_numbers (g : Groups) (i : Nat) :
    (g.find? fun s => s.1 == i).isSome = true ↔ i ∈ g.numbers := by
  simp [Groups.numbers, List.find?_isSome]

theorem numbers_shift (k n : Nat) {g : Groups} {i : Nat}
    (h : g.numbers = (List.range' i n).reverse) :
    (g.shift k).numbers = (List.range' (k + i) n).reverse := by
  have hmap : (g.shift k).numbers = g.numbers.map (k + ·) := by
    rw [Groups.shift, Groups.numbers, Groups.numbers, List.map_map, List.map_map]
    exact List.map_congr_left fun s _ => Nat.add_comm s.1 k
  rw [hmap, h, List.map_reverse, List.map_add_range']

theorem find?_reverse_range {p : Nat → Bool} {n : Nat} (hn : p n = true) : ∀ {m : Nat}, n < m →
    (∀ i, n < i → p i = false) → (List.range m).reverse.find? p = some n
  | 0, h, _ => absurd h (by simp)
  | m + 1, h, hp => by
    rw [List.range_succ, List.reverse_append, List.reverse_singleton, List.singleton_append,
      List.find?_cons]
    by_cases hm : n = m
    · subst hm
      rw [hn]
    · rw [hp m (by omega)]
      exact find?_reverse_range hn (by omega) hp

/-- The position of a match that has recorded the groups from `k + 1` to `k + n`. -/
theorem position_eq {c : Captures} {k n groups : Nat}
    (hc : c.groups.numbers = (List.range' (k + 1) n).reverse) (hn : 0 < n) (hle : k + n ≤ groups) :
    c.position groups = k + n + 1 := by
  have hspan : ∀ i, (c.span? (i + 1)).isSome = true ↔ k ≤ i ∧ i < k + n := by
    intro i
    rw [Captures.span?, if_neg (Nat.succ_ne_zero i), Option.isSome_map, isSome_find?_numbers, hc,
      List.mem_reverse, List.mem_range'_1]
    omega
  have hfind : (List.range groups).reverse.find? (fun i => (c.span? (i + 1)).isSome) =
      some (k + n - 1) := by
    refine find?_reverse_range ?_ (by omega) fun i hi => ?_
    · rw [hspan]; omega
    · rw [← Bool.not_eq_true, hspan]; omega
  rw [Captures.position, hfind]
  simp only [Option.elim_some]
  omega

/-- The variables that a match of a lone expression gives: each has the text of its group. -/
def Captures.variables (c : Captures) (names : List String) : List (String × String) :=
  names.zipIdx.map fun (name, i) => (name, (c.group? (i + 1)).getD "")

theorem find?_shift (k i : Nat) (g : Groups) :
    (g.shift k).find? (fun s => s.1 == i + k) =
      (g.find? fun s => s.1 == i).map fun s => (s.1 + k, s.2) := by
  rw [Groups.shift, List.find?_map]
  congr 1
  refine congrArg (List.find? · g) (funext fun s => ?_)
  rw [Function.comp, Bool.eq_iff_iff, beq_iff_eq, beq_iff_eq]
  exact Nat.add_right_cancel_iff

theorem group?_shift (text : Array Char) (start stop k i : Nat) (g : Groups) :
    Captures.group? ⟨text, start, stop, g.shift k⟩ (i + 1 + k) =
      Captures.group? ⟨text, start, stop, g⟩ (i + 1) := by
  have hne : ¬ i + 1 + k = 0 := by omega
  rw [Captures.group?, Captures.group?, Captures.span?, Captures.span?, if_neg hne,
    if_neg (Nat.succ_ne_zero i), find?_shift, Option.map_map, Option.map_map, Option.map_map]
  rfl

/-- What a chunk reads off a match under its position is what the route alone reads off. -/
theorem values_shift {text : Array Char} {start stop k n : Nat} {g : Groups} {names : List String}
    (hnames : names.length = n) :
    Captures.values ⟨text, start, stop, g.shift k⟩ (k + n + 1) names =
      Captures.variables ⟨text, start, stop, g⟩ names := by
  unfold Captures.values Captures.variables
  refine List.map_congr_left fun ⟨name, i⟩ _ => ?_
  have hposition : k + n + 1 - names.length + i = i + 1 + k := by omega
  simp only [hposition, group?_shift]

end RouteTable
