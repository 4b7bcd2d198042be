import Mathlib.Data.List.MinMax
import RouteTable.Proofs.Regex.Groups

/-!
# Characters and groups in a row

An expression made from a route pattern is a row of characters and capturing groups. The groups are
numbered one after the other and have no groups inside, so every one of them takes part in every
match.

* `Row k es k'`: the groups of `es` are numbered from `k` up to but without `k'`.
* `Row.groups_of_run`: a match records the groups from `k` to `k' - 1`, the last one first.
* `groupCount_eq`: the greatest group number is that of the last group.
-/

namespace RouteTable.Regex

/-- Characters and groups without groups inside, numbered from `k` up to but without `k'`. -/
inductive Row : Nat → List Expr → Nat → Prop
  | nil (k : Nat) : Row k [] k
  | char {k k' : Nat} {es : List Expr} (c : Char) (h : Row k es k') :
      Row k (.set (.singleton c) :: es) k'
  | group {k k' : Nat} {es : List Expr} {sub : Expr} (hsub : sub.groups = [])
      (h : Row (k + 1) es k') : Row k (.group k sub :: es) k'

/-- One expression for a row. -/
def Expr.ofRow : List Expr → Expr
  | [e] => e
  | es => .seq es

namespace Row

variable {k k' : Nat} {es : List Expr}

theorem le (h : Row k es k') : k ≤ k' := by
  induction h with
  | nil k => exact Nat.le_refl k
  | char c _ ih => exact ih
  | group _ _ ih => omega

theorem groups (h : Row k es k') : Expr.groupsOfAll es = List.range' k (k' - k) := by
  induction h with
  | nil k => simp [Expr.groupsOfAll]
  | char c _ ih => simpa [Expr.groupsOfAll, Expr.groups] using ih
  | @group k k' es sub hsub h ih =>
    have hle := h.le
    rw [show k' - k = (k' - (k + 1)) + 1 by omega, List.range'_succ, ← ih]
    simp [Expr.groupsOfAll, Expr.groups, hsub]

theorem renumber (h : Row k es k') (d : Nat) :
    Row (k + d) (es.map (Expr.renumber (· + d))) (k' + d) := by
  induction h with
  | nil k => exact .nil _
  | char c _ ih => exact .char c ih
  | @group k k' es sub hsub h ih =>
    rw [List.map_cons, Expr.renumber, renumber_of_groups_eq_nil _ sub hsub]
    refine .group hsub ?_
    rwa [Nat.add_right_comm] at ih

end Row

theorem groups_ofRow (es : List Expr) : (Expr.ofRow es).groups = Expr.groupsOfAll es := by
  unfold Expr.ofRow
  split
  · simp [Expr.groupsOfAll]
  · rfl

theorem renumber_ofRow (f : Nat → Nat) (es : List Expr) :
    (Expr.ofRow es).renumber f = Expr.ofRow (es.map (Expr.renumber f)) := by
  unfold Expr.ofRow
  split
  · rfl
  · rename_i hne
    rw [Expr.renumber, renumberAll_eq_map]
    split
    · rename_i heq
      obtain ⟨a, ha, -⟩ := List.map_eq_singleton_iff.mp heq
      exact absurd ha (hne a)
    · rfl

/-! ## What a row records -/

/-- The numbers of the groups that have recorded something, the latest first. -/
def Groups.numbers (g : Groups) : List Nat := g.map Prod.fst

theorem mem_distinct_thread {t : Thread} : ∀ {ts : List Thread}, t ∈ distinct ts → t ∈ ts
  | [], h => h
  | u :: ts, h => by
    rw [distinct, List.mem_cons] at h
    rcases h with rfl | h
    · exact List.mem_cons_self
    · exact List.mem_cons_of_mem u (mem_distinct_thread (List.mem_filter.mp h).1)

theorem exists_of_mem_enter {run : Trail → Nat → Groups → List Thread} {busy : Trail}
    {start i : Nat} {t u : Thread} (h : u ∈ enter run busy start i t) :
    ∃ trail, ∃ v ∈ run trail t.pos t.groups, u.groups = v.groups ∧ u.pos = v.pos := by
  obtain ⟨v, hv, rfl⟩ := List.mem_map.mp h
  exact ⟨_, v, hv, rfl, rfl⟩

variable {text : Array Char}

theorem Row.numbers_of_runSeq {k k' : Nat} {es : List Expr} (h : Row k es k') :
    ∀ {i : Nat} {busy : Trail} {start : Nat} {ts : List Thread} {t : Thread} {before : List Nat},
      (∀ u ∈ ts, u.groups.numbers = before) → t ∈ Expr.runSeq text es i busy start ts →
        t.groups.numbers = (List.range' k (k' - k)).reverse ++ before := by
  induction h with
  | nil k =>
    intro i busy start ts t before hts ht
    simpa using hts t ht
  | char c h ih =>
    intro i busy start ts t before hts ht
    refine ih (fun u hu => ?_) ht
    obtain ⟨u₀, hu₀, hu⟩ := List.mem_flatMap.mp (mem_distinct_thread hu)
    obtain ⟨trail, v, hv, hg, -⟩ := exists_of_mem_enter hu
    rw [hg, groups_of_run text rfl hv]
    exact hts u₀ hu₀
  | @group k k' es sub hsub h ih =>
    intro i busy start ts t before hts ht
    have hle := h.le
    rw [show k' - k = (k' - (k + 1)) + 1 by omega, List.range'_succ, List.reverse_cons,
      List.append_assoc]
    refine ih (fun u hu => ?_) ht
    obtain ⟨u₀, hu₀, hu⟩ := List.mem_flatMap.mp (mem_distinct_thread hu)
    obtain ⟨trail, v, hv, hg, -⟩ := exists_of_mem_enter hu
    rw [Expr.run] at hv
    obtain ⟨w, hw, rfl⟩ := List.mem_map.mp hv
    rw [hg, Groups.numbers, List.map_cons, groups_of_run text hsub hw, List.singleton_append]
    exact congrArg (k :: ·) (hts u₀ hu₀)

/-- Every match of a row records all its groups, the last one first. -/
theorem Row.numbers_of_run {k k' : Nat} {es : List Expr} (h : Row k es k') {busy : Trail}
    {pos : Nat} {t : Thread} (ht : t ∈ (Expr.ofRow es).run text busy pos []) :
    t.groups.numbers = (List.range' k (k' - k)).reverse := by
  unfold Expr.ofRow at ht
  split at ht
  · rename_i e
    cases h with
    | char c h =>
      cases h with
      | nil =>
        rw [groups_of_run text rfl ht]
        simp [Groups.numbers]
    | group hsub h =>
      cases h with
      | nil =>
        rw [Expr.run] at ht
        obtain ⟨u, hu, rfl⟩ := List.mem_map.mp ht
        rw [Groups.numbers, List.map_cons, groups_of_run text hsub hu]
        simp
  · rw [Expr.run] at ht
    have hstart : ∀ u ∈ [(⟨pos, [], []⟩ : Thread)], u.groups.numbers = [] := by
      simp [Groups.numbers]
    simpa using h.numbers_of_runSeq hstart ht

/-! ## The greatest group number -/

mutual

theorem groupCount_eq : ∀ e : Expr, e.groupCount = e.groups.foldr max 0
  | .set _ => rfl
  | .look _ => rfl
  | .seq items => groupCountAll_eq items
  | .alt branches => groupCountAll_eq branches
  | .group index sub => by
    rw [Expr.groupCount, Expr.groups, List.foldr_cons, groupCount_eq sub]
  | .rep _ _ _ sub => groupCount_eq sub

theorem groupCountAll_eq : ∀ es : List Expr,
    Expr.groupCountAll es = (Expr.groupsOfAll es).foldr max 0
  | [] => rfl
  | e :: es => by
    have hmax : ∀ (is : List Nat) (n : Nat), is.foldr max n = max (is.foldr max 0) n := by
      intro is n
      induction is with
      | nil => simp
      | cons i is ih => rw [List.foldr_cons, List.foldr_cons, ih, Nat.max_assoc]
    rw [Expr.groupCountAll, Expr.groupsOfAll, List.foldr_append, groupCount_eq e,
      groupCountAll_eq es]
    exact (hmax _ _).symm

end

/-- No group has a greater number. -/
theorem le_groupCount {e : Expr} {i : Nat} (h : i ∈ e.groups) : i ≤ e.groupCount :=
  groupCount_eq e ▸ List.le_max_of_le' 0 h (Nat.le_refl i)

theorem foldr_max_range' (k : Nat) : ∀ n : Nat, (List.range' k (n + 1)).foldr max 0 = k + n
  | 0 => by simp
  | n + 1 => by
    have ih := foldr_max_range' (k + 1) n
    rw [List.range'_succ, List.foldr_cons, ih]
    omega

/-- A row that has groups ends with the greatest number. -/
theorem Row.groupCount {k k' : Nat} {es : List Expr} (h : Row k es (k' + 1)) (hlt : k < k' + 1) :
    (Expr.ofRow es).groupCount = k' := by
  rw [groupCount_eq, groups_ofRow, h.groups, show k' + 1 - k = (k' - k) + 1 by omega,
    foldr_max_range']
  omega

end RouteTable.Regex
