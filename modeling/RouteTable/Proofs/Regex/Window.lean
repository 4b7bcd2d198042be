import RouteTable.Proofs.Regex.Shape
import RouteTable.Proofs.Regex.Spans

/-!
# Parts of a text

An expression without conditions on places does not see what stands before it or behind it. Run on
a part of a text, it does what it does in the text, as far as that stays within the part.

* `within`: the threads that stand in the part, seen from there.
* `next_cases`: a round is counted, or it leads to the same number of rounds again.
* `visit_within`: two walks through the rounds of a repetition, in the text and in the part, keep in
  step. A walk never comes to rounds and places that it has seen, so neither runs out of fuel.
* `run_within`: an expression does the same in the text and in the part.
* `Reaches.isSome_fullMatch`: what leads from one place to another matches the text between them.
-/

namespace RouteTable.Regex

variable {text : Array Char} {a m : Nat}

/-! ## Threads in a part of the text -/

/-- The thread in the text that starts at `a`. -/
def Thread.seenFrom (a : Nat) (t : Thread) : Thread := { t with pos := t.pos - a }

/-- The thread in the part of the text from `a` to `m`, if it stands there. -/
def Thread.within? (a m : Nat) (t : Thread) : Option Thread :=
  if a ≤ t.pos ∧ t.pos ≤ m then some (t.seenFrom a) else none

/-- The threads that stand in the part from `a` to `m`. -/
def within (a m : Nat) (ts : List Thread) : List Thread := ts.filterMap (Thread.within? a m)

theorem within?_of_le {t : Thread} (ha : a ≤ t.pos) (hm : t.pos ≤ m) :
    t.within? a m = some (t.seenFrom a) := if_pos ⟨ha, hm⟩

theorem within?_of_lt {t : Thread} (h : m < t.pos) : t.within? a m = none :=
  if_neg fun hle => Nat.not_lt.mpr hle.2 h

theorem within_append (ts us : List Thread) :
    within a m (ts ++ us) = within a m ts ++ within a m us := List.filterMap_append

theorem within_of_forall_lt {ts : List Thread} (h : ∀ t ∈ ts, m < t.pos) : within a m ts = [] :=
  List.filterMap_eq_nil_iff.mpr fun t ht => within?_of_lt (h t ht)

/-- Threads at one place in the text are at one place in the part. -/
theorem filter_within? {t : Thread} (ha : a ≤ t.pos) (u : Thread) :
    (u.within? a m).filter (fun v => v.pos != t.pos - a) =
      if u.pos != t.pos then u.within? a m else none := by
  by_cases hu : a ≤ u.pos ∧ u.pos ≤ m
  · have hsame : ((u.seenFrom a).pos != t.pos - a) = (u.pos != t.pos) := by
      rw [Bool.eq_iff_iff, bne_iff_ne, bne_iff_ne]
      change u.pos - a ≠ t.pos - a ↔ u.pos ≠ t.pos
      omega
    rw [within?_of_le hu.1 hu.2, Option.filter, hsame]
  · rw [Thread.within?, if_neg hu, Option.filter_none, ite_self]

theorem distinct_within : ∀ ts : List Thread, distinct (within a m ts) = within a m (distinct ts)
  | [] => rfl
  | t :: ts => by
    have ih := distinct_within ts
    by_cases ht : a ≤ t.pos ∧ t.pos ≤ m
    · have hfilter := funext fun u => filter_within? (m := m) ht.1 u
      rw [within, List.filterMap_cons, within?_of_le ht.1 ht.2]
      change distinct (t.seenFrom a :: within a m ts) = within a m (distinct (t :: ts))
      rw [distinct, distinct, ih, within, within, List.filterMap_cons, within?_of_le ht.1 ht.2,
        List.filter_filterMap, List.filterMap_filter]
      exact congrArg (fun f => t.seenFrom a :: (distinct ts).filterMap f) hfilter
    · have hnone : t.within? a m = none := if_neg ht
      rw [within, List.filterMap_cons, hnone]
      change distinct (within a m ts) = within a m (distinct (t :: ts))
      rw [ih, distinct, within, within, List.filterMap_cons, hnone, List.filterMap_filter]
      refine List.filterMap_congr fun u _ => ?_
      -- a thread at the place of one that is not in the part is not there either
      by_cases hu : u.pos = t.pos
      · have hnone : u.within? a m = none := if_neg (hu ▸ ht)
        rw [hnone, ite_self]
      · rw [if_pos (bne_iff_ne.mpr hu)]

/-! ## Parts of an expression -/

/-- In the part of the text from `a` to `m`, `run'` does what `run` does in the text, which has
`size` characters. -/
structure RunsWithin (a m size : Nat) (run run' : Trail → Nat → Groups → List Thread) : Prop where
  le {busy : Trail} {pos : Nat} {g : Groups} {t : Thread} (ht : t ∈ run busy pos g) : pos ≤ t.pos
  le_size {busy : Trail} {pos : Nat} {g : Groups} {t : Thread} (ht : t ∈ run busy pos g)
    (hpos : pos ≤ size) : t.pos ≤ size
  eq {pos : Nat} (ha : a ≤ pos) (hm : pos ≤ m) (busy : Trail) (g : Groups) :
    run' busy (pos - a) g = within a m (run busy pos g)

section Enter

variable {size start i : Nat} {busy : Trail} {t : Thread}
  {run run' : Trail → Nat → Groups → List Thread}

theorem after_within (ha : a ≤ t.pos) (u : Thread) :
    (u.within? a m).map ((t.seenFrom a).after i) = (t.after i u).within? a m := by
  by_cases hu : a ≤ u.pos ∧ u.pos ≤ m
  · have hsame : u.pos - a = t.pos - a ↔ u.pos = t.pos := by omega
    rw [within?_of_le hu.1 hu.2, within?_of_le (t := t.after i u) hu.1 hu.2]
    simp only [Option.map_some, Thread.after, Thread.seenFrom, hsame]
  · have hnone : (t.after i u).within? a m = none := if_neg hu
    rw [Thread.within?, if_neg hu, hnone, Option.map_none]

namespace RunsWithin

variable (h : RunsWithin a m size run run')

include h

theorem enter_eq (hstart : a ≤ start) (ha : a ≤ t.pos) (hm : t.pos ≤ m) :
    enter run' busy (start - a) i (t.seenFrom a) = within a m (enter run busy start i t) := by
  have hsame : t.pos - a = start - a ↔ t.pos = start := by omega
  unfold enter
  simp only [Thread.seenFrom, hsame]
  rw [h.eq ha hm, within, within, List.map_filterMap, List.filterMap_map]
  exact List.filterMap_congr fun u _ => after_within ha u

theorem le_of_enter {u : Thread} (hu : u ∈ enter run busy start i t) : t.pos ≤ u.pos := by
  obtain ⟨trail, v, hv, -, hpos⟩ := exists_of_mem_enter hu
  exact hpos ▸ h.le hv

theorem le_size_of_enter {u : Thread} (hu : u ∈ enter run busy start i t) (ht : t.pos ≤ size) :
    u.pos ≤ size := by
  obtain ⟨trail, v, hv, -, hpos⟩ := exists_of_mem_enter hu
  exact hpos ▸ h.le_size hv ht

/-- Threads behind the part stay behind it. -/
theorem flatMap_enter_eq (hstart : a ≤ start) : ∀ {ts : List Thread}, (∀ t ∈ ts, a ≤ t.pos) →
    (within a m ts).flatMap (enter run' busy (start - a) i) =
      within a m (ts.flatMap (enter run busy start i))
  | [], _ => rfl
  | t :: ts, hts => by
    rw [List.forall_mem_cons] at hts
    have ih := flatMap_enter_eq hstart hts.2
    rw [List.flatMap_cons, within_append, ← ih, within, List.filterMap_cons]
    by_cases hm : t.pos ≤ m
    · rw [within?_of_le hts.1 hm, ← h.enter_eq hstart hts.1 hm]
      rfl
    · have hlt : ∀ u ∈ enter run busy start i t, m < u.pos :=
        fun u hu => Nat.lt_of_lt_of_le (Nat.lt_of_not_le hm) (h.le_of_enter hu)
      rw [within?_of_lt (Nat.lt_of_not_le hm), within_of_forall_lt hlt]
      rfl

end RunsWithin

end Enter

/-! ## Repetitions -/

section Repetition

variable {r : Rounds} {start size fuel fuel' n : Nat} {barred : Nat → Bool} {t : Thread}
  {w w' : Walk}

/-- Where rounds are counted, a round leads to one more, up to the number of copies; where they are
not, and behind the last copy, it leads to the same number again. -/
theorem next_cases (hle : n ≤ r.copies) (hcount : r.next 0 = 0 → n = 0)
    (hgo : r.mayGoOn n = true) :
    r.next (Nat.min n (r.copies - 1)) ≤ r.copies ∧
      (r.next 0 = 0 → r.next (Nat.min n (r.copies - 1)) = 0) ∧
        (r.next (Nat.min n (r.copies - 1)) = n ∨ r.next (Nat.min n (r.copies - 1)) = n + 1) := by
  by_cases hsame : r.min = 0 ∧ r.max = none ∧ r.consumes
  · have hnext : ∀ copy, r.next copy = copy := fun copy => if_pos hsame
    obtain rfl := hcount (hnext 0)
    have hmin : Nat.min 0 (r.copies - 1) = 0 := Nat.zero_min _
    rw [hnext, hmin]
    exact ⟨hle, fun _ => rfl, Or.inl rfl⟩
  · have hnext : ∀ copy, r.next copy = copy + 1 := fun copy => if_neg hsame
    have hmin : Nat.min n (r.copies - 1) = n ∧ n < r.copies ∨
        Nat.min n (r.copies - 1) + 1 = n ∧ n = r.copies := by
      by_cases hlt : n < r.copies
      · exact Or.inl ⟨Nat.min_eq_left (by omega), hlt⟩
      · have heq : n = r.copies := Nat.le_antisymm hle (Nat.not_lt.mp hlt)
        have hpos : 0 < r.copies := by
          unfold Rounds.copies Rounds.mayGoOn at *
          cases hmax : r.max with
          | none => simp
          | some max => simp_all
        have hmin : Nat.min n (r.copies - 1) = r.copies - 1 := Nat.min_eq_right (by omega)
        exact Or.inr ⟨by omega, heq⟩
    rw [hnext]
    refine ⟨by omega, fun h => absurd ((hnext 0).symm.trans h) (Nat.succ_ne_zero 0), by omega⟩

/-- What a walk through the part has met is what the walk through the text has met in the part. -/
structure Walk.Agree (a m size : Nat) (w w' : Walk) : Prop where
  width : w.seen.width = size + 1
  width' : w'.seen.width = m - a + 1
  seen (n p : Nat) (ha : a ≤ p) (hm : p ≤ m) : w'.seen.contains n (p - a) = w.seen.contains n p
  found : w'.found = within a m w.found

theorem visit_of_seen {body : Nat → Thread → List Thread} (h : w.seen.contains n t.pos = true) :
    visit r start barred body fuel n t w = w := by
  cases fuel with
  | zero => rfl
  | succ fuel => rw [visit_succ, if_pos h]

namespace Walk.Agree

variable (h : w.Agree a m size w')

include h

/-- Marking a place in the part, in both walks. -/
theorem mark (hsize : m ≤ size) {p : Nat} (ha : a ≤ p) (hm : p ≤ m) :
    Walk.Agree a m size { w with seen := w.seen.add n p }
      { w' with seen := w'.seen.add n (p - a) } where
  width := h.width
  width' := h.width'
  seen k q hqa hqm := by
    have hsame : p - a = q - a ↔ p = q := by omega
    have hwidth := h.width
    have hwidth' := h.width'
    rw [Bool.eq_iff_iff, Marks.contains_add (by omega) (by omega),
      Marks.contains_add (by omega) (by omega), hsame, h.seen k q hqa hqm]
  found := h.found

/-- Marking a place behind the part. -/
theorem mark_of_lt {p : Nat} (hm : m < p) (hp : p ≤ size) :
    Walk.Agree a m size { w with seen := w.seen.add n p } w' where
  width := h.width
  width' := h.width'
  seen k q hqa hqm := by
    have hne : ¬ (n = k ∧ p = q) := by omega
    have hwidth := h.width
    rw [h.seen k q hqa hqm, Bool.eq_iff_iff, Marks.contains_add (by omega) (by omega),
      or_iff_right hne]
  found := h.found

/-- Leaving the repetition in the part, in both walks. -/
theorem leave (ha : a ≤ t.pos) (hm : t.pos ≤ m) :
    Walk.Agree a m size { w with found := t :: w.found }
      { w' with found := t.seenFrom a :: w'.found } where
  width := h.width
  width' := h.width'
  seen := h.seen
  found := by
    rw [h.found, within, within, List.filterMap_cons, within?_of_le ha hm]

/-- Leaving the repetition behind the part. -/
theorem leave_of_lt (hm : m < t.pos) :
    Walk.Agree a m size { w with found := t :: w.found } w' where
  width := h.width
  width' := h.width'
  seen := h.seen
  found := by
    rw [h.found, within, within, List.filterMap_cons, within?_of_lt hm]

end Walk.Agree

/-- In the part of the text from `a` to `m`, the rounds `body'` do what the rounds `body` do in the
text, which has `size` characters. -/
structure BodyWithin (a m size : Nat) (body body' : Nat → Thread → List Thread) : Prop where
  le {i : Nat} {t u : Thread} (hu : u ∈ body i t) : t.pos ≤ u.pos
  le_size {i : Nat} {t u : Thread} (hu : u ∈ body i t) (ht : t.pos ≤ size) : u.pos ≤ size
  eq {t : Thread} (ha : a ≤ t.pos) (hm : t.pos ≤ m) (i : Nat) :
    body' i (t.seenFrom a) = within a m (body i t)

theorem RunsWithin.body {run run' : Trail → Nat → Groups → List Thread}
    (h : RunsWithin a m size run run') (hstart : a ≤ start) (busy : Trail) :
    BodyWithin a m size (fun i t => enter run busy start (2 * i + 1) t)
      (fun i t => enter run' busy (start - a) (2 * i + 1) t) where
  le := h.le_of_enter
  le_size := h.le_size_of_enter
  eq ha hm _ := h.enter_eq hstart ha hm

theorem choose_seenFrom : r.choose n (t.seenFrom a) = (r.choose n t).seenFrom a := by
  unfold Rounds.choose
  split <;> rfl

theorem contains_stop (k p : Nat) :
    (r.stop n t w).seen.contains k p = w.seen.contains k p := by
  unfold Rounds.stop
  split <;> rfl

theorem Walk.Agree.stop (h : w.Agree a m size w') (ha : a ≤ t.pos) (hm : t.pos ≤ m) :
    (r.stop n t w).Agree a m size (r.stop n (t.seenFrom a) w') := by
  unfold Rounds.stop
  split
  · exact h.leave ha hm
  · exact h

section Body

variable {body body' : Nat → Thread → List Thread} (hbody : BodyWithin a m size body body')

include hbody

/-- What has been seen stays seen. -/
theorem seen_visit (ht : t.pos ≤ size) (hwidth : w.seen.width = size + 1) {k p : Nat}
    (hp : p ≤ size) (hseen : w.seen.contains k p = true) :
    (visit r start barred body fuel n t w).seen.contains k p = true := by
  suffices h : (visit r start barred body fuel n t w).seen.width = size + 1 ∧
      (visit r start barred body fuel n t w).seen.contains k p = true from h.2
  refine visit_keeps (P := fun w => w.seen.width = size + 1 ∧ w.seen.contains k p = true)
    (Q := fun _ q => q ≤ size) (fun n t ht _ u hu => hbody.le_size hu ht)
    (fun n q w hq hw => ⟨hw.1, ?_⟩) (fun n t w _ _ hw => hw) fuel n t w ht ⟨hwidth, hseen⟩
  have hwidth := hw.1
  exact (Marks.contains_add (by omega) (by omega)).mpr (Or.inr hw.2)

/-- A walk behind the part meets nothing in it. -/
theorem Walk.Agree.visit_of_lt (hm : m < t.pos) (ht : t.pos ≤ size) (h : w.Agree a m size w') :
    (visit r start barred body fuel n t w).Agree a m size w' := by
  refine visit_keeps (P := fun w => w.Agree a m size w') (Q := fun _ p => m < p ∧ p ≤ size)
    (fun n t ht _ u hu => ?_) (fun n p w hp hw => hw.mark_of_lt hp.1 hp.2)
    (fun n t w ht _ hw => hw.leave_of_lt ht.1) fuel n t w ⟨hm, ht⟩ h
  exact ⟨Nat.lt_of_lt_of_le ht.1 (hbody.le hu), hbody.le_size hu ht.2⟩

/-- If two walks keep in step through `k` rounds from every place in the part, they do so from one
after the other, where the place `p` has been seen. -/
theorem Walk.Agree.foldl {k p : Nat} (ha : a ≤ p) (hp : p ≤ size)
    (hvisit : ∀ (u : Thread) (w w' : Walk), p ≤ u.pos → u.pos ≤ m →
      w.seen.contains n p = true → w.Agree a m size w' →
        (visit r start barred body fuel k u w).Agree a m size
          (visit r (start - a) barred body' fuel' k (u.seenFrom a) w')) :
    ∀ (us : List Thread) (w w' : Walk), (∀ u ∈ us, p ≤ u.pos ∧ u.pos ≤ size) →
      w.seen.contains n p = true → w.Agree a m size w' →
        (us.foldl (fun w u => visit r start barred body fuel k u w) w).Agree a m size
          ((within a m us).foldl (fun w u => visit r (start - a) barred body' fuel' k u w) w')
  | [], _, _, _, _, h => h
  | u :: us, w, w', hus, hseen, h => by
    rw [List.forall_mem_cons] at hus
    have hseen' : (visit r start barred body fuel k u w).seen.contains n p = true :=
      seen_visit hbody hus.1.2 h.width hp hseen
    rw [within, List.filterMap_cons]
    by_cases hum : u.pos ≤ m
    · rw [within?_of_le (ha.trans hus.1.1) hum]
      exact foldl ha hp hvisit us _ _ hus.2 hseen' (hvisit u w w' hus.1.1 hum hseen h)
    · have hlt : m < u.pos := Nat.lt_of_not_le hum
      rw [within?_of_lt hlt]
      exact foldl ha hp hvisit us _ _ hus.2 hseen' (h.visit_of_lt hbody hlt hus.1.2)

/-- Two walks go on from `t` in step, if they keep in step wherever the next round leads. -/
theorem Walk.Agree.goOn (hm : m ≤ size) (ha : a ≤ t.pos) (htm : t.pos ≤ m) (hn : n ≤ r.copies)
    (hcount : r.next 0 = 0 → n = 0)
    (hvisit : ∀ (k : Nat) (u : Thread) (w w' : Walk), k ≤ r.copies → (r.next 0 = 0 → k = 0) →
      k = n ∨ k = n + 1 → t.pos ≤ u.pos → u.pos ≤ m → w.seen.contains n t.pos = true →
        w.Agree a m size w' → (visit r start barred body fuel k u w).Agree a m size
          (visit r (start - a) barred body' fuel' k (u.seenFrom a) w'))
    (hseen : w.seen.contains n t.pos = true) (h : w.Agree a m size w') :
    (r.goOn start barred body fuel n t w).Agree a m size
      (r.goOn (start - a) barred body' fuel' n (t.seenFrom a) w') := by
  unfold Rounds.goOn
  by_cases hgo : r.mayGoOn n = true
  · obtain ⟨hk, hkcount, hnext⟩ := next_cases hn hcount hgo
    rw [if_pos hgo, if_pos hgo, hbody.eq ha htm]
    refine Walk.Agree.foldl hbody ha (htm.trans hm)
      (fun u w w' htu hum hseen h => hvisit _ u w w' hk hkcount hnext htu hum hseen h)
      _ w w' (fun u hu => ?_) hseen h
    exact ⟨hbody.le hu, hbody.le_size hu (htm.trans hm)⟩
  · rw [if_neg hgo, if_neg hgo]
    exact h

/-- **Two walks through the rounds of a repetition keep in step.** Each has seen the rounds and the
place already, or has fuel for all rounds and places to come. -/
theorem visit_within (hm : m ≤ size) (hstart : a ≤ start) :
    ∀ (fuel fuel' n : Nat) (t : Thread) (w w' : Walk), a ≤ t.pos → t.pos ≤ m → n ≤ r.copies →
      (r.next 0 = 0 → n = 0) → (w.seen.contains n t.pos = true ∨
        r.copies - n + (size - t.pos) < fuel ∧ r.copies - n + (m - t.pos) < fuel') →
      w.Agree a m size w' →
        (visit r start barred body fuel n t w).Agree a m size
          (visit r (start - a) barred body' fuel' n (t.seenFrom a) w') := by
  intro fuel
  induction fuel with
  | zero =>
    intro fuel' n t w w' hat htm _ _ hready h
    have hseen : w.seen.contains n t.pos = true :=
      hready.resolve_right fun hfuel => Nat.not_lt_zero _ hfuel.1
    have hseen' : w'.seen.contains n (t.seenFrom a).pos = true := (h.seen n _ hat htm).trans hseen
    rw [visit_of_seen hseen, visit_of_seen hseen']
    exact h
  | succ fuel ih =>
    intro fuel' n t w w' hat htm hn hcount hready h
    have hsame : w'.seen.contains n (t.seenFrom a).pos = w.seen.contains n t.pos :=
      h.seen n _ hat htm
    by_cases hseen : w.seen.contains n t.pos = true
    · rw [visit_of_seen hseen, visit_of_seen (hsame.trans hseen)]
      exact h
    · obtain ⟨hfuel, hfuel'⟩ := hready.resolve_left hseen
      obtain ⟨fuel', rfl⟩ : ∃ k, fuel' = k + 1 := ⟨fuel' - 1, by omega⟩
      have hplace : ((t.seenFrom a).pos == start - a) = (t.pos == start) := by
        rw [Bool.eq_iff_iff, beq_iff_eq, beq_iff_eq]
        change t.pos - a = start - a ↔ t.pos = start
        omega
      have hmark : Walk.Agree a m size { w with seen := w.seen.add n t.pos }
          { w' with seen := w'.seen.add n (t.seenFrom a).pos } := h.mark hm hat htm
      have hmarked : (w.seen.add n t.pos).contains n (r.choose n t).pos = true := by
        have hwidth := h.width
        rw [pos_choose]
        exact (Marks.contains_add (by omega) (by omega)).mpr (Or.inl ⟨rfl, rfl⟩)
      rw [visit_succ, visit_succ, hsame, if_neg hseen, if_neg hseen, hplace, choose_seenFrom]
      rw [← pos_choose (r := r) n t] at hat htm hfuel hfuel'
      have hgoOn : ∀ w w' : Walk, w.seen.contains n (r.choose n t).pos = true →
          w.Agree a m size w' → (r.goOn start barred body fuel n (r.choose n t) w).Agree a m size
            (r.goOn (start - a) barred body' fuel' n ((r.choose n t).seenFrom a) w') := by
        intro w w' hmarked h
        refine h.goOn hbody hm hat htm hn hcount
          (fun k u w w' hk hkcount hnext htu hum hseen h => ?_) hmarked
        refine ih fuel' k u w w' (hat.trans htu) hum hk hkcount ?_ h
        -- the next round is nearer to the last copy, the next place to the end, or both are seen
        by_cases hstay : k = n ∧ u.pos = (r.choose n t).pos
        · rw [hstay.1, hstay.2]
          exact Or.inl hseen
        · omega
      split
      · exact h
      · simp only
        split
        · exact (hgoOn _ _ hmarked hmark).stop hat htm
        · exact hgoOn _ _ ((contains_stop n _).trans hmarked) (hmark.stop hat htm)

end Body

end Repetition

/-! ## Expressions -/

theorem size_extract (hm : m ≤ text.size) : (text.extract a m).size = m - a := by
  rw [Array.size_extract, Nat.min_eq_left hm]

theorem getElem?_extract {p : Nat} (hm : m ≤ text.size) (ha : a ≤ p) :
    (text.extract a m)[p - a]? = if p < m then text[p]? else none := by
  rw [Array.getElem?_extract, Nat.min_eq_left hm, Nat.add_sub_cancel' ha]
  refine if_congr ?_ rfl rfl
  omega

theorem RunsWithin.of_eq {e : Expr}
    (h : ∀ {pos : Nat}, a ≤ pos → pos ≤ m → ∀ (busy : Trail) (g : Groups),
      e.run (text.extract a m) busy (pos - a) g = within a m (e.run text busy pos g)) :
    RunsWithin a m text.size (e.run text) (e.run (text.extract a m)) where
  le := pos_le_of_run e
  le_size := le_size_of_run e
  eq := h

mutual

/-- **An expression without conditions on places does the same in a part of the text.** -/
theorem run_within (hm : m ≤ text.size) : ∀ e : Expr, e.groups = [] → e.lacks .look = true →
    RunsWithin a m text.size (e.run text) (e.run (text.extract a m))
  | .set s, _, _ => .of_eq fun {pos} ha hpos busy g => by
    rw [Expr.run, Expr.run, getElem?_extract hm ha]
    by_cases hlt : pos < m
    · rw [if_pos hlt]
      cases text[pos]? with
      | none => rfl
      | some c =>
        by_cases hc : s.contains c = true
        · have hnext : pos - a + 1 = pos + 1 - a := by omega
          have hwithin : Thread.within? a m ⟨pos + 1, g, []⟩ = some ⟨pos + 1 - a, g, []⟩ :=
            within?_of_le (Nat.le_succ_of_le ha) hlt
          simp only [hc, if_true, within, List.filterMap_cons, List.filterMap_nil, hwithin, hnext]
        · simp only [hc]
          rfl
    · rw [if_neg hlt, within_of_forall_lt]
      intro t ht
      split at ht
      · split at ht
        · rw [List.mem_singleton.mp ht]
          exact Nat.lt_succ_of_le (Nat.not_lt.mp hlt)
        · exact absurd ht List.not_mem_nil
      · exact absurd ht List.not_mem_nil
  | .look _, _, hlook => absurd hlook Bool.false_ne_true
  | .seq items, hgroups, hlook => .of_eq fun {pos} ha hpos busy g => by
    have hstart : within a m [⟨pos, g, []⟩] = [⟨pos - a, g, []⟩] := by
      rw [within, List.filterMap_cons, within?_of_le ha hpos]
      rfl
    rw [Expr.run, Expr.run, ← hstart]
    exact runSeq_within hm items hgroups hlook 0 busy ha fun t ht => List.mem_singleton.mp ht ▸ ha
  | .alt branches, hgroups, hlook => .of_eq fun {pos} ha hpos busy g => by
    rw [Expr.run, Expr.run]
    split
    · rfl
    · rw [← distinct_within]
      exact congrArg distinct
        (runAlt_within hm branches hgroups hlook 0 busy ha ⟨pos, g, [[]]⟩ ha hpos)
  | .group _ _, hgroups, _ => absurd hgroups (List.cons_ne_nil _ _)
  | .rep min max greedy sub, hgroups, hlook => .of_eq fun {pos} ha hpos busy g => by
    have hsub := run_within hm sub hgroups hlook
    have hstart : Walk.Agree a m text.size ⟨.empty (text.size + 1), []⟩
        ⟨.empty (m - a + 1), []⟩ :=
      ⟨rfl, rfl, fun n p _ _ => by rw [Marks.contains_empty, Marks.contains_empty], rfl⟩
    rw [Expr.run, Expr.run]
    simp only [size_extract hm]
    rw [← distinct_within, within, List.filterMap_reverse]
    refine congrArg (fun ts : List Thread => distinct ts.reverse) ?_
    refine Walk.Agree.found (visit_within (hsub.body ha busy) hm ha _ _ 0 ⟨pos, g, []⟩ _ _ ha hpos
      (Nat.zero_le _) (fun _ => rfl) (Or.inr ?_) hstart)
    simp only
    omega

theorem runSeq_within (hm : m ≤ text.size) : ∀ es : List Expr, Expr.groupsOfAll es = [] →
    Expr.allLack .look es = true → ∀ (i : Nat) (busy : Trail) {start : Nat} {ts : List Thread},
      a ≤ start → (∀ t ∈ ts, a ≤ t.pos) →
        Expr.runSeq (text.extract a m) es i busy (start - a) (within a m ts) =
          within a m (Expr.runSeq text es i busy start ts)
  | [], _, _, _, _, _, _, _, _ => rfl
  | e :: es, hgroups, hlook, i, busy, start, ts, hstart, hts => by
    rw [Expr.groupsOfAll, List.append_eq_nil_iff] at hgroups
    rw [Expr.allLack, Bool.and_eq_true] at hlook
    have he := run_within hm e hgroups.1 hlook.1
    rw [Expr.runSeq, Expr.runSeq, he.flatMap_enter_eq hstart hts, distinct_within]
    refine runSeq_within hm es hgroups.2 hlook.2 (i + 1) busy hstart fun t ht => ?_
    obtain ⟨u, hu, ht⟩ := List.mem_flatMap.mp (mem_distinct_thread ht)
    exact (hts u hu).trans (he.le_of_enter ht)

theorem runAlt_within (hm : m ≤ text.size) : ∀ es : List Expr, Expr.groupsOfAll es = [] →
    Expr.allLack .look es = true → ∀ (i : Nat) (busy : Trail) {start : Nat}, a ≤ start →
      ∀ t : Thread, a ≤ t.pos → t.pos ≤ m →
        Expr.runAlt (text.extract a m) es i busy (start - a) (t.seenFrom a) =
          within a m (Expr.runAlt text es i busy start t)
  | [], _, _, _, _, _, _, _, _, _ => rfl
  | e :: es, hgroups, hlook, i, busy, start, hstart, t, ha, hpos => by
    rw [Expr.groupsOfAll, List.append_eq_nil_iff] at hgroups
    rw [Expr.allLack, Bool.and_eq_true] at hlook
    have he := run_within hm e hgroups.1 hlook.1
    rw [Expr.runAlt, Expr.runAlt, within_append, he.enter_eq hstart ha hpos,
      runAlt_within hm es hgroups.2 hlook.2 (i + 1) busy hstart t ha hpos]

end

/-- **What leads from one place to another matches the text between them.** -/
theorem Reaches.isSome_fullMatch {e : Expr} (h : Reaches text e a m) (hm : m ≤ text.size)
    (hgroups : e.groups = []) (hlook : e.lacks .look = true) :
    (e.fullMatch? (text.extract a m)).isSome = true := by
  obtain ⟨t, ht, htm⟩ := h
  have ha : a ≤ t.pos := pos_le_of_run e ht
  have hrun := (run_within hm e hgroups hlook).eq (Nat.le_refl a) (htm ▸ ha) [] []
  rw [Nat.sub_self] at hrun
  rw [Expr.fullMatch?, Option.isSome_map, List.find?_isSome, hrun]
  refine ⟨t.seenFrom a, List.mem_filterMap.mpr ⟨t, ht, within?_of_le ha (Nat.le_of_eq htm)⟩, ?_⟩
  rw [size_extract hm, beq_iff_eq, ← htm]
  rfl

end RouteTable.Regex
