import RouteTable.Proofs.Regex.Anchored

/-!
# What the groups of a row record

A row matches from one place to another if its characters stand there and each of its groups leads
from where it starts to where what is behind it starts. The groups record these places, and a way to
match is there as soon as there are such places.

* `visit_keeps`, `visit_found`: what every round of a repetition keeps holds of the walk through all
  rounds, and where the repetition ends.
* `kept_of_run`: what every character keeps holds of the place to which an expression leads.
* `pos_le_of_run`, `le_size_of_run`: no expression goes back, nor beyond the end of the text.
* `Fills`: the places at which a row matches.
* `fills_of_fullMatch`, `Fills.isSome_fullMatch`: a row matches the whole text exactly at such
  places, and these are what it records.
-/

namespace RouteTable.Regex

variable {text : Array Char}

/-! ## Rounds of a repetition -/

section Visit

variable {r : Rounds} {start : Nat} {barred : Nat → Bool} {body : Nat → Thread → List Thread}
  {Q : Nat → Nat → Prop}

@[simp]
theorem pos_choose (n : Nat) (t : Thread) : (r.choose n t).pos = t.pos := by
  unfold Rounds.choose
  split <;> rfl

/-- What marking a place and leaving the repetition keep holds of the whole walk; `Q` holds of the
rounds and places that the walk comes to. -/
theorem visit_keeps {P : Walk → Prop}
    (hbody : ∀ (n : Nat) (t : Thread), Q n t.pos → r.mayGoOn n = true →
      ∀ u ∈ body (Nat.min n (r.copies - 1)) t, Q (r.next (Nat.min n (r.copies - 1))) u.pos)
    (hseen : ∀ (n p : Nat) (w : Walk), Q n p → P w → P { w with seen := w.seen.add n p })
    (hfound : ∀ (n : Nat) (t : Thread) (w : Walk), Q n t.pos → r.mayEnd n = true → P w →
      P { w with found := t :: w.found }) :
    ∀ (fuel n : Nat) (t : Thread) (w : Walk), Q n t.pos → P w →
      P (visit r start barred body fuel n t w) := by
  intro fuel
  induction fuel with
  | zero => intro n t w _ hw; exact hw
  | succ fuel ih =>
    intro n t w ht hw
    have hchosen : Q n (r.choose n t).pos := by rwa [pos_choose]
    have hgoOn : ∀ w : Walk, P w → P (r.goOn start barred body fuel n (r.choose n t) w) := by
      intro w hw
      unfold Rounds.goOn
      split
      · rename_i hgo
        have hbody := hbody n (r.choose n t) hchosen hgo
        generalize body (Nat.min n (r.copies - 1)) (r.choose n t) = us at hbody
        induction us generalizing w with
        | nil => exact hw
        | cons u us ihus =>
          rw [List.forall_mem_cons] at hbody
          exact ihus _ (ih _ u w hbody.1 hw) hbody.2
      · exact hw
    have hstop : ∀ w : Walk, P w → P (r.stop n (r.choose n t) w) := by
      intro w hw
      unfold Rounds.stop
      split
      · rename_i hend
        exact hfound n _ w hchosen hend hw
      · exact hw
    have hmarked := hseen n t.pos w ht hw
    rw [visit_succ]
    split
    · exact hw
    · split
      · exact hw
      · simp only
        split
        · exact hstop _ (hgoOn _ hmarked)
        · exact hgoOn _ (hstop _ hmarked)

/-- What holds of rounds and places at the start, and is kept by every round, holds of all threads
that leave the repetition. -/
theorem visit_found
    (hbody : ∀ (n : Nat) (t : Thread), Q n t.pos → r.mayGoOn n = true →
      ∀ u ∈ body (Nat.min n (r.copies - 1)) t, Q (r.next (Nat.min n (r.copies - 1))) u.pos) :
    ∀ (fuel n : Nat) (t : Thread) (w : Walk), Q n t.pos →
      (∀ u ∈ w.found, ∃ m, r.mayEnd m = true ∧ Q m u.pos) →
        ∀ u ∈ (visit r start barred body fuel n t w).found, ∃ m, r.mayEnd m = true ∧ Q m u.pos := by
  refine visit_keeps hbody (fun n p w _ hw => hw) fun n t w ht hend hw => ?_
  exact List.forall_mem_cons.mpr ⟨⟨n, hend, ht⟩, hw⟩

end Visit

/-! ## Places that are kept -/

section Kept

variable {Q : Nat → Prop}

mutual

/-- What every character keeps holds of the place to which an expression leads. -/
theorem kept_of_run (hQ : ∀ p, p < text.size → Q p → Q (p + 1)) :
    ∀ (e : Expr) {busy : Trail} {pos : Nat} {g : Groups} {t : Thread},
      t ∈ e.run text busy pos g → Q pos → Q t.pos
  | .set s, busy, pos, g, t, ht, hpos => by
    rw [Expr.run] at ht
    split at ht
    · rename_i c hc
      split at ht
      · rw [List.mem_singleton.mp ht]
        exact hQ pos (Array.getElem?_eq_some_iff.mp hc).1 hpos
      · exact absurd ht List.not_mem_nil
    · exact absurd ht List.not_mem_nil
  | .look l, busy, pos, g, t, ht, hpos => by
    rw [Expr.run] at ht
    split at ht
    · obtain rfl := List.mem_singleton.mp ht
      exact hpos
    · exact absurd ht List.not_mem_nil
  | .seq items, busy, pos, g, t, ht, hpos => by
    rw [Expr.run] at ht
    refine kept_of_runSeq hQ items (fun u hu => ?_) ht
    obtain rfl := List.mem_singleton.mp hu
    exact hpos
  | .alt branches, busy, pos, g, t, ht, hpos => by
    rw [Expr.run] at ht
    split at ht
    · exact absurd ht List.not_mem_nil
    · exact kept_of_runAlt hQ branches (mem_distinct_thread ht) hpos
  | .group index sub, busy, pos, g, t, ht, hpos => by
    rw [Expr.run] at ht
    obtain ⟨u, hrun, rfl⟩ := List.mem_map.mp ht
    have hkept : Q u.pos := kept_of_run hQ sub hrun hpos
    exact hkept
  | .rep min max greedy sub, busy, pos, g, t, ht, hpos => by
    rw [Expr.run] at ht
    have hfound := mem_distinct_thread ht
    rw [List.mem_reverse] at hfound
    obtain ⟨m, -, hkept⟩ := visit_found (Q := fun _ p => Q p) (fun n t ht _ u hu => by
      obtain ⟨trail, v, hv, -, hupos⟩ := exists_of_mem_enter hu
      rw [hupos]
      exact kept_of_run hQ sub hv ht) _ _ _ _ hpos
      (fun u hu => absurd hu List.not_mem_nil) t hfound
    exact hkept

theorem kept_of_runSeq (hQ : ∀ p, p < text.size → Q p → Q (p + 1)) :
    ∀ (es : List Expr) {i : Nat} {busy : Trail} {start : Nat} {ts : List Thread} {t : Thread},
      (∀ u ∈ ts, Q u.pos) → t ∈ Expr.runSeq text es i busy start ts → Q t.pos
  | [], _, _, _, _, t, hts, ht => hts t ht
  | e :: es, i, busy, start, ts, t, hts, ht => by
    rw [Expr.runSeq] at ht
    refine kept_of_runSeq hQ es (fun u hu => ?_) ht
    obtain ⟨u₀, hu₀, hu⟩ := List.mem_flatMap.mp (mem_distinct_thread hu)
    obtain ⟨trail, v, hv, -, hpos⟩ := exists_of_mem_enter hu
    rw [hpos]
    exact kept_of_run hQ e hv (hts u₀ hu₀)

theorem kept_of_runAlt (hQ : ∀ p, p < text.size → Q p → Q (p + 1)) :
    ∀ (es : List Expr) {i : Nat} {busy : Trail} {start : Nat} {t u : Thread},
      u ∈ Expr.runAlt text es i busy start t → Q t.pos → Q u.pos
  | [], _, _, _, _, _, hu, _ => absurd hu List.not_mem_nil
  | e :: es, i, busy, start, t, u, hu, ht => by
    rw [Expr.runAlt, List.mem_append] at hu
    rcases hu with hu | hu
    · obtain ⟨trail, v, hv, -, hpos⟩ := exists_of_mem_enter hu
      rw [hpos]
      exact kept_of_run hQ e hv ht
    · exact kept_of_runAlt hQ es hu ht

end

end Kept

/-- No expression goes back. -/
theorem pos_le_of_run (e : Expr) {busy : Trail} {pos : Nat} {g : Groups} {t : Thread}
    (ht : t ∈ e.run text busy pos g) : pos ≤ t.pos :=
  kept_of_run (fun _ _ h => Nat.le_succ_of_le h) e ht (Nat.le_refl pos)

/-- No expression goes beyond the end of the text. -/
theorem le_size_of_run (e : Expr) {busy : Trail} {pos : Nat} {g : Groups} {t : Thread}
    (ht : t ∈ e.run text busy pos g) (hpos : pos ≤ text.size) : t.pos ≤ text.size :=
  kept_of_run (Q := (· ≤ text.size)) (fun _ hlt _ => hlt) e ht hpos

/-! ## Places -/

/-- The expression leads from the place `a` to the place `m`. -/
def Reaches (text : Array Char) (e : Expr) (a m : Nat) : Prop :=
  ∃ t ∈ e.run text [] a [], t.pos = m

/-- The row, its groups numbered from `k`, matches from `a` to `b`; `spans` is where its groups
start and end. -/
inductive Fills (text : Array Char) : Nat → List Expr → Nat → Nat → List (Nat × Nat) → Prop
  | nil (k a : Nat) : Fills text k [] a a []
  | char {k a b : Nat} {es : List Expr} {spans : List (Nat × Nat)} {c : Char}
      (hc : text[a]? = some c) (h : Fills text k es (a + 1) b spans) :
      Fills text k (.set (.singleton c) :: es) a b spans
  | group {k a m b : Nat} {es : List Expr} {spans : List (Nat × Nat)} {sub : Expr}
      (hgroups : sub.groups = []) (hsub : Reaches text sub a m)
      (h : Fills text (k + 1) es m b spans) :
      Fills text k (.group k sub :: es) a b ((a, m) :: spans)

/-- A row leads no further back. -/
theorem Fills.le {k a b : Nat} {es : List Expr} {spans : List (Nat × Nat)}
    (h : Fills text k es a b spans) : a ≤ b := by
  induction h with
  | nil => exact Nat.le_refl _
  | char _ _ ih => exact Nat.le_of_succ_le ih
  | @group k a m b es spans sub _ hsub _ ih =>
    obtain ⟨t, ht, rfl⟩ := hsub
    exact (pos_le_of_run sub ht).trans ih

/-- The records `g` with the places of further groups, numbered from `k`. -/
def record (k : Nat) (g : Groups) : List (Nat × Nat) → Groups
  | [] => g
  | s :: spans => record (k + 1) ((k, s) :: g) spans

/-- What has been recorded before makes no difference to where an expression without groups
leads. -/
theorem reaches_iff {e : Expr} (he : e.groups = []) (a m : Nat) (g : Groups) :
    Reaches text e a m ↔ ∃ t ∈ e.run text [] a g, t.pos = m := by
  have h := run_renumber (f := id) (F := fun _ => g) text e (by simp [Writes, he]) [] a []
  rw [renumber_of_groups_eq_nil id e he] at h
  rw [h, Reaches]
  constructor
  · rintro ⟨t, ht, hpos⟩
    exact ⟨_, List.mem_map_of_mem ht, hpos⟩
  · rintro ⟨t, ht, hpos⟩
    obtain ⟨u, hu, rfl⟩ := List.mem_map.mp ht
    exact ⟨u, hu, hpos⟩

theorem exists_mem_distinct {t : Thread} {ts : List Thread} (ht : t ∈ ts) :
    ∃ u ∈ distinct ts, u.pos = t.pos := by
  have hfind := find?_distinct t.pos ts
  obtain ⟨u, hu⟩ := Option.isSome_iff_exists.mp
    (List.find?_isSome.mpr ⟨t, ht, by simp⟩ : (ts.find? fun u => u.pos == t.pos).isSome)
  rw [hu] at hfind
  exact ⟨u, List.mem_of_find?_eq_some hfind, by simpa using List.find?_some hfind⟩

/-! ## Trails -/

/-- The choices of the trail were made in parts before the part `i`. -/
def Trail.Below (i : Nat) (trail : Trail) : Prop :=
  ∀ path ∈ trail, ∃ j rest, path = j :: rest ∧ j < i

theorem under_of_below {i : Nat} {trail : Trail} (h : trail.Below i) : trail.under i = [] := by
  unfold Trail.under
  rw [List.filterMap_eq_nil_iff]
  intro path hpath
  obtain ⟨j, rest, rfl, hj⟩ := h path hpath
  exact if_neg (Nat.ne_of_lt hj)

theorem below_after {i : Nat} {t : Thread} (h : t.trail.Below i) (u : Thread) :
    (t.after i u).trail.Below (i + 1) := by
  intro path hpath
  rw [Thread.after, List.mem_append] at hpath
  rcases hpath with hpath | hpath
  · split at hpath
    · obtain ⟨j, rest, rfl, hj⟩ := h path hpath
      exact ⟨j, rest, rfl, Nat.lt_succ_of_lt hj⟩
    · exact absurd hpath List.not_mem_nil
  · obtain ⟨rest, -, rfl⟩ := List.mem_map.mp hpath
    exact ⟨i, rest, rfl, Nat.lt_succ_self i⟩

/-- A part that is entered for the first time is run without a trail. -/
theorem mem_enter_of_below {run : Trail → Nat → Groups → List Thread} {start i : Nat}
    {t u : Thread} (h : t.trail.Below i) :
    u ∈ enter run [] start i t ↔ ∃ v ∈ run [] t.pos t.groups, u = t.after i v := by
  have htrail : (if t.pos = start then Trail.under i [] else []) ++ t.trail.under i = [] := by
    rw [under_of_below h, List.append_nil]
    split <;> rfl
  rw [enter, htrail, List.mem_map]
  exact exists_congr fun v => and_congr_right fun _ => eq_comm

/-! ## Rows -/

theorem mem_run_set {s : CharSet} {busy : Trail} {pos : Nat} {g : Groups} {t : Thread} :
    t ∈ Expr.run text (.set s) busy pos g ↔
      ∃ c, text[pos]? = some c ∧ s.contains c = true ∧ t = ⟨pos + 1, g, []⟩ := by
  rw [Expr.run]
  cases hc : text[pos]? with
  | none => simp
  | some c =>
    by_cases hs : s.contains c = true
    · simp [hs]
    · simp [hs]

theorem contains_singleton {c d : Char} : (CharSet.singleton c).contains d = true ↔ d = c := by
  rw [CharSet.contains, CharSet.singleton, List.any_cons, List.any_nil, Bool.or_false,
    Bool.and_eq_true, decide_eq_true_eq, decide_eq_true_eq]
  constructor
  · intro h
    exact Char.toNat_inj.mp (Nat.le_antisymm h.2 h.1)
  · rintro rfl
    exact ⟨Nat.le_refl _, Nat.le_refl _⟩

/-- A row that is run ends at places that it fills, and records them. -/
theorem Row.fills_of_runSeq {k k' : Nat} {es : List Expr} (h : Row k es k') :
    ∀ {i start : Nat} {ts : List Thread} {t : Thread}, (∀ u ∈ ts, u.trail.Below i) →
      t ∈ Expr.runSeq text es i [] start ts →
        ∃ u ∈ ts, ∃ spans, Fills text k es u.pos t.pos spans ∧
          t.groups = record k u.groups spans := by
  induction h with
  | nil k =>
    intro i start ts t _ ht
    exact ⟨t, ht, [], .nil k t.pos, rfl⟩
  | @char k k' es c h ih =>
    intro i start ts t hts ht
    have hbelow : ∀ u ∈ distinct (ts.flatMap (enter (Expr.run text (.set (.singleton c))) []
        start i)), ∃ u₀ ∈ ts, text[u₀.pos]? = some c ∧ u.pos = u₀.pos + 1 ∧
          u.groups = u₀.groups ∧ u.trail.Below (i + 1) := by
      intro u hu
      obtain ⟨u₀, hu₀, hu⟩ := List.mem_flatMap.mp (mem_distinct_thread hu)
      obtain ⟨v, hv, rfl⟩ := (mem_enter_of_below (hts u₀ hu₀)).mp hu
      obtain ⟨d, hd, hcontains, rfl⟩ := mem_run_set.mp hv
      obtain rfl := contains_singleton.mp hcontains
      exact ⟨u₀, hu₀, hd, rfl, rfl, below_after (hts u₀ hu₀) _⟩
    obtain ⟨u, hu, spans, hfills, hgroups⟩ := ih (fun u hu => by
      obtain ⟨-, -, -, -, -, hbelow⟩ := hbelow u hu
      exact hbelow) ht
    obtain ⟨u₀, hu₀, hc, hpos, hg, -⟩ := hbelow u hu
    rw [hpos] at hfills
    exact ⟨u₀, hu₀, spans, .char hc hfills, by rw [hgroups, hg]⟩
  | @group k k' es sub hsub h ih =>
    intro i start ts t hts ht
    have hbelow : ∀ u ∈ distinct (ts.flatMap (enter (Expr.run text (.group k sub)) [] start i)),
        ∃ u₀ ∈ ts, Reaches text sub u₀.pos u.pos ∧
          u.groups = (k, u₀.pos, u.pos) :: u₀.groups ∧ u.trail.Below (i + 1) := by
      intro u hu
      obtain ⟨u₀, hu₀, hu⟩ := List.mem_flatMap.mp (mem_distinct_thread hu)
      obtain ⟨v, hv, rfl⟩ := (mem_enter_of_below (hts u₀ hu₀)).mp hu
      rw [Expr.run] at hv
      obtain ⟨w, hw, rfl⟩ := List.mem_map.mp hv
      refine ⟨u₀, hu₀, (reaches_iff hsub _ _ u₀.groups).mpr ⟨w, hw, rfl⟩, ?_,
        below_after (hts u₀ hu₀) _⟩
      rw [Thread.after, groups_of_run text hsub hw]
    obtain ⟨u, hu, spans, hfills, hgroups⟩ := ih (fun u hu => by
      obtain ⟨-, -, -, -, hbelow⟩ := hbelow u hu
      exact hbelow) ht
    obtain ⟨u₀, hu₀, hreaches, hg, -⟩ := hbelow u hu
    exact ⟨u₀, hu₀, (u₀.pos, u.pos) :: spans, .group hsub hreaches hfills,
      by rw [hgroups, hg, record]⟩

/-- Where a row fills places, a run of it gets there. -/
theorem Fills.exists_of_runSeq {k a b : Nat} {es : List Expr} {spans : List (Nat × Nat)}
    (h : Fills text k es a b spans) :
    ∀ {i start : Nat} {ts : List Thread}, (∀ u ∈ ts, u.trail.Below i) → (∃ u ∈ ts, u.pos = a) →
      ∃ t ∈ Expr.runSeq text es i [] start ts, t.pos = b := by
  have hbelow : ∀ {i start : Nat} {ts : List Thread} {e : Expr}, (∀ u ∈ ts, u.trail.Below i) →
      ∀ u ∈ distinct (ts.flatMap (enter (Expr.run text e) [] start i)), u.trail.Below (i + 1) := by
    intro i start ts e hts u hu
    obtain ⟨u₀, hu₀, hu⟩ := List.mem_flatMap.mp (mem_distinct_thread hu)
    obtain ⟨v, -, rfl⟩ := (mem_enter_of_below (hts u₀ hu₀)).mp hu
    exact below_after (hts u₀ hu₀) v
  have hstep : ∀ {i start : Nat} {ts : List Thread} {e : Expr} {u v : Thread},
      (∀ u ∈ ts, u.trail.Below i) → u ∈ ts → v ∈ e.run text [] u.pos u.groups →
        ∃ w ∈ distinct (ts.flatMap (enter (Expr.run text e) [] start i)), w.pos = v.pos := by
    intro i start ts e u v hts hu hv
    have henter : u.after i v ∈ enter (Expr.run text e) [] start i u :=
      (mem_enter_of_below (hts u hu)).mpr ⟨v, hv, rfl⟩
    have hmem : u.after i v ∈ ts.flatMap (enter (Expr.run text e) [] start i) :=
      List.mem_flatMap.mpr ⟨u, hu, henter⟩
    obtain ⟨w, hw, hpos⟩ := exists_mem_distinct hmem
    exact ⟨w, hw, hpos⟩
  induction h with
  | nil k a => intro i start ts _ ha; exact ha
  | @char k a b es spans c hc _ ih =>
    intro i start ts hts ⟨u, hu, hpos⟩
    refine ih (hbelow hts) ?_
    exact hstep hts hu (mem_run_set.mpr ⟨c, hpos ▸ hc, contains_singleton.mpr rfl, by rw [hpos]⟩)
  | @group k a m b es spans sub hgroups hsub _ ih =>
    intro i start ts hts ⟨u, hu, hpos⟩
    obtain ⟨v, hv, hm⟩ := (reaches_iff hgroups a m u.groups).mp hsub
    refine ih (hbelow hts) ?_
    have hrun : { v with groups := (k, u.pos, v.pos) :: v.groups } ∈
        Expr.run text (.group k sub) [] u.pos u.groups := by
      rw [Expr.run, hpos]
      exact List.mem_map_of_mem hv
    obtain ⟨w, hw, hwpos⟩ := hstep hts hu hrun
    exact ⟨w, hw, hwpos.trans hm⟩

/-! ## Whole texts -/

/-- One item of a row records the same as the row of it. -/
theorem fullMatch_ofRow (es : List Expr) :
    (Expr.ofRow es).fullMatch? text = (Expr.seq es).fullMatch? text := by
  unfold Expr.ofRow
  split
  · rename_i e
    have hrun : (Expr.seq [e]).run text [] 0 [] =
        distinct ((e.run text [] 0 []).map (Thread.after ⟨0, [], []⟩ 0)) := by
      simp [Expr.run, Expr.runSeq, enter, Trail.under]
    have hpos : ((fun t : Thread => t.pos == text.size) ∘ Thread.after ⟨0, [], []⟩ 0) =
        fun t => t.pos == text.size := rfl
    rw [Expr.fullMatch?, Expr.fullMatch?, hrun, find?_distinct, List.find?_map, hpos,
      Option.map_map]
    rfl
  · rfl

theorem below_nil (i : Nat) : ∀ u ∈ [(⟨0, [], []⟩ : Thread)], u.trail.Below i := by
  intro u hu path hpath
  rw [List.mem_singleton.mp hu] at hpath
  exact absurd hpath List.not_mem_nil

/-- **A row that matches the whole text fills it**, and records how. -/
theorem fills_of_fullMatch {k k' : Nat} {es : List Expr} (h : Row k es k') {g : Groups}
    (hg : (Expr.ofRow es).fullMatch? text = some g) :
    ∃ spans, Fills text k es 0 text.size spans ∧ g = record k [] spans := by
  rw [fullMatch_ofRow, Expr.fullMatch?] at hg
  obtain ⟨t, ht, rfl⟩ := Option.map_eq_some_iff.mp hg
  have hsize : t.pos = text.size := by simpa using List.find?_some ht
  have hrun := List.mem_of_find?_eq_some ht
  rw [Expr.run] at hrun
  obtain ⟨u, hu, spans, hfills, hgroups⟩ := h.fills_of_runSeq (below_nil 0) hrun
  obtain rfl := List.mem_singleton.mp hu
  exact ⟨spans, hsize ▸ hfills, hgroups⟩

/-- **A row that fills the whole text matches it.** -/
theorem Fills.isSome_fullMatch {k : Nat} {es : List Expr} {spans : List (Nat × Nat)}
    (h : Fills text k es 0 text.size spans) :
    ((Expr.ofRow es).fullMatch? text).isSome = true := by
  have hstart : ∃ u ∈ [(⟨0, [], []⟩ : Thread)], u.pos = 0 := ⟨_, List.mem_singleton_self _, rfl⟩
  obtain ⟨t, ht, hpos⟩ := @Fills.exists_of_runSeq _ _ _ _ _ _ h 0 0 _ (below_nil 0) hstart
  rw [fullMatch_ofRow, Expr.fullMatch?, Option.isSome_map, List.find?_isSome, Expr.run]
  exact ⟨t, ht, by simpa using hpos⟩

/-! ## Records -/

theorem find?_record_of_lt {j : Nat} : ∀ {spans : List (Nat × Nat)} {k : Nat} (g : Groups), j < k →
    (record k g spans).find? (fun s => s.1 == j) = g.find? fun s => s.1 == j
  | [], _, _, _ => rfl
  | s :: spans, k, g, h => by
    rw [record, find?_record_of_lt _ (Nat.lt_succ_of_lt h), List.find?_cons,
      beq_eq_false_iff_ne.mpr (Nat.ne_of_gt h)]

/-- Each group has its place in the records under its number. -/
theorem find?_record : ∀ {spans : List (Nat × Nat)} {k i : Nat} {s : Nat × Nat} (g : Groups),
    spans[i]? = some s →
      (record k g spans).find? (fun e => e.1 == k + i) = some (k + i, s)
  | s' :: spans, k, 0, s, g, h => by
    obtain rfl := Option.some.inj h
    rw [record, Nat.add_zero, find?_record_of_lt _ (Nat.lt_succ_self k), List.find?_cons,
      beq_self_eq_true]
  | s' :: spans, k, i + 1, s, g, h => by
    have ih := find?_record (k := k + 1) ((k, s') :: g) (List.getElem?_cons_succ.symm.trans h)
    rw [record]
    rwa [Nat.add_right_comm, Nat.add_assoc] at ih

end RouteTable.Regex
