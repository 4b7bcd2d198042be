import RouteTable.Proofs.Regex.Spans

/-!
# One or more characters of a set

The greedy repetition of a set, at least once, leads from a place to every place behind it up to
which all characters are members, and nowhere else.

* `exists_found`: the walk through the rounds leaves the repetition at every such place.
* `reaches_rep_set`: where the repetition leads.
-/

namespace RouteTable.Regex

variable {text : Array Char} {s : CharSet} {a b : Nat}

/-- All characters from `a` up to but without `b` are there and members of the set. -/
def AllIn (text : Array Char) (s : CharSet) (a b : Nat) : Prop :=
  ∀ i, a ≤ i → i < b → ∃ c, text[i]? = some c ∧ s.contains c = true

theorem AllIn.le_size (h : AllIn text s a b) (hlt : a < b) : b ≤ text.size := by
  obtain ⟨c, hc, -⟩ := h (b - 1) (by omega) (by omega)
  have := (Array.getElem?_eq_some_iff.mp hc).1
  omega

/-- The bounds of one or more rounds. -/
def Rounds.oneOrMore (consumes : Bool) : Rounds := ⟨1, none, true, consumes⟩

/-- A round of the repetition of the set, entered at `a` without a trail. -/
def setRound (text : Array Char) (s : CharSet) (a i : Nat) (t : Thread) : List Thread :=
  enter (Expr.run text (.set s)) [] a (2 * i + 1) t

theorem setRound_eq {i : Nat} {t : Thread} {c : Char} (hc : text[t.pos]? = some c)
    (hs : s.contains c = true) :
    setRound text s a i t = [t.after (2 * i + 1) ⟨t.pos + 1, t.groups, []⟩] := by
  unfold setRound enter
  rw [Expr.run, hc]
  simp only [hs, if_true, List.map_cons, List.map_nil]

theorem mem_setRound {i : Nat} {t u : Thread} (hu : u ∈ setRound text s a i t) :
    ∃ c, text[t.pos]? = some c ∧ s.contains c = true ∧ u.pos = t.pos + 1 := by
  obtain ⟨trail, v, hv, -, hpos⟩ := exists_of_mem_enter hu
  obtain ⟨c, hc, hs, rfl⟩ := mem_run_set.mp hv
  exact ⟨c, hc, hs, hpos⟩

section Walk

variable {consumes : Bool} {barred : Nat → Bool} {body : Nat → Thread → List Thread}

theorem copy_oneOrMore (n : Nat) : Nat.min n ((Rounds.oneOrMore consumes).copies - 1) = 0 :=
  Nat.min_zero n

/-- All rounds are of one copy, and after each the walk is where it is after the first. -/
theorem goOn_oneOrMore (fuel n : Nat) (t : Thread) (w : Walk) :
    (Rounds.oneOrMore consumes).goOn a barred body fuel n t w =
      (body 0 t).foldl (fun w u => visit (.oneOrMore consumes) a barred body fuel 1 u w) w := by
  have hgo : (Rounds.oneOrMore consumes).mayGoOn n = true := rfl
  have hnext : (Rounds.oneOrMore consumes).next 0 = 1 := rfl
  rw [Rounds.goOn, if_pos hgo, copy_oneOrMore, hnext]

/-- Before the first round the repetition goes on and does not end. -/
theorem visit_oneOrMore_zero (fuel : Nat) (t : Thread) {w : Walk}
    (hseen : w.seen.contains 0 t.pos = false) :
    visit (.oneOrMore consumes) a barred body (fuel + 1) 0 t w =
      (body 0 t).foldl (fun w u => visit (.oneOrMore consumes) a barred body fuel 1 u w)
        { w with seen := w.seen.add 0 t.pos } := by
  have hend : (Rounds.oneOrMore consumes).mayEnd 0 = false := rfl
  rw [visit_succ, hseen, hend, Bool.false_and, Bool.false_and, Bool.false_and,
    if_neg Bool.false_ne_true, if_neg Bool.false_ne_true]
  exact goOn_oneOrMore fuel 0 t _

/-- After a round the repetition goes on from a new place, and may end there. -/
theorem visit_oneOrMore_one (fuel : Nat) {t : Thread} {w : Walk} (hmoved : t.pos ≠ a)
    (hseen : w.seen.contains 1 t.pos = false) :
    visit (.oneOrMore consumes) a barred body (fuel + 1) 1 t w =
      (Rounds.oneOrMore consumes).stop 1 ((Rounds.oneOrMore consumes).choose 1 t)
        ((body 0 ((Rounds.oneOrMore consumes).choose 1 t)).foldl
          (fun w u => visit (.oneOrMore consumes) a barred body fuel 1 u w)
          { w with seen := w.seen.add 1 t.pos }) := by
  rw [visit_succ, hseen, beq_eq_false_iff_ne.mpr hmoved, Bool.and_false, Bool.false_and,
    if_neg Bool.false_ne_true, if_neg Bool.false_ne_true, ← goOn_oneOrMore]
  rfl

/-- From a place behind the start the walk gets to every place up to which all characters are
members, if the places from there on have not been seen. -/
theorem exists_found (hsize : b ≤ text.size) : ∀ (fuel : Nat) (t : Thread) (w : Walk),
    a < t.pos → t.pos ≤ b → AllIn text s t.pos b → text.size < t.pos + fuel →
      w.seen.width = text.size + 1 →
        (∀ i, t.pos ≤ i → i ≤ text.size → w.seen.contains 1 i = false) →
          ∃ u ∈ (visit (.oneOrMore consumes) a barred (setRound text s a) fuel 1 t w).found,
            u.pos = b := by
  intro fuel
  induction fuel with
  | zero => intro t w _ hle _ hfuel; omega
  | succ fuel ih =>
    intro t w hlt hle hin hfuel hwidth hseen
    have hend : (Rounds.oneOrMore consumes).mayEnd 1 = true := rfl
    rw [visit_oneOrMore_one fuel (Nat.ne_of_gt hlt) (hseen t.pos (Nat.le_refl _) (by omega)),
      Rounds.stop, if_pos hend]
    generalize ht' : (Rounds.oneOrMore consumes).choose 1 t = t'
    have hpos : t'.pos = t.pos := by rw [← ht', pos_choose]
    by_cases hb : t.pos = b
    · exact ⟨t', List.mem_cons_self, hpos.trans hb⟩
    · obtain ⟨c, hc, hs⟩ := hin t.pos (Nat.le_refl _) (by omega)
      rw [setRound_eq (hpos ▸ hc) hs, List.foldl_cons, List.foldl_nil]
      have hnext : (t'.after 1 ⟨t'.pos + 1, t'.groups, []⟩).pos = t.pos + 1 := by rw [← hpos]; rfl
      obtain ⟨u, hu, hub⟩ := ih (t'.after 1 ⟨t'.pos + 1, t'.groups, []⟩)
        { w with seen := w.seen.add 1 t.pos } (by omega) (by omega)
        (fun i hi => hin i (by omega)) (by omega) hwidth (fun i hi hi' => by
          have hunseen := hseen i (by omega) hi'
          rw [← Bool.not_eq_true, Marks.contains_add (by omega) (by omega), hunseen]
          rw [hnext] at hi
          simp
          omega)
      exact ⟨u, List.mem_cons_of_mem t' hu, hub⟩

end Walk

/-- **One or more characters of a set** lead exactly to where only members stand before. -/
theorem reaches_rep_set :
    Reaches text (.rep 1 none true (.set s)) a b ↔ a < b ∧ AllIn text s a b := by
  generalize hconsumes : (Expr.set s).minLength?.any (fun n => 0 < n) = consumes
  have hrun : (Expr.rep 1 none true (.set s)).run text [] a [] =
      distinct (visit (.oneOrMore consumes) a (fun n => List.contains [] [2 * n])
        (setRound text s a) (1 + (text.size - a) + 2) 0 ⟨a, [], []⟩
          ⟨.empty (text.size + 1), []⟩).found.reverse := by
    rw [Expr.run, hconsumes]
    rfl
  rw [Reaches, hrun]
  constructor
  · rintro ⟨t, ht, rfl⟩
    have hfound := mem_distinct_thread ht
    rw [List.mem_reverse] at hfound
    have hround : ∀ (n : Nat) (t : Thread), a + n ≤ t.pos ∧ AllIn text s a t.pos →
        ∀ u ∈ setRound text s a 0 t, a + 1 ≤ u.pos ∧ AllIn text s a u.pos := by
      rintro n t ⟨hle, hin⟩ u hu
      obtain ⟨c, hc, hs, hpos⟩ := mem_setRound hu
      rw [hpos]
      refine ⟨by omega, fun i hi hlt => ?_⟩
      by_cases hi' : i = t.pos
      · exact ⟨c, hi' ▸ hc, hs⟩
      · exact hin i hi (by omega)
    obtain ⟨m, hend, hlt, hin⟩ := visit_found (Q := fun n p => a + n ≤ p ∧ AllIn text s a p)
      (fun n t ht _ => by rw [copy_oneOrMore]; exact hround n t ht) _ _ _ _
      ⟨Nat.le_refl a, fun i hi hlt => absurd hlt (Nat.not_lt.mpr hi)⟩
      (fun u hu => absurd hu List.not_mem_nil) t hfound
    have hend : 1 ≤ m := of_decide_eq_true hend
    exact ⟨by omega, hin⟩
  · rintro ⟨hlt, hin⟩
    have hsize := hin.le_size hlt
    obtain ⟨c, hc, hs⟩ := hin a (Nat.le_refl a) hlt
    have hround := @setRound_eq text s a 0 ⟨a, [], []⟩ c hc hs
    have ha : a < text.size + 1 := by omega
    obtain ⟨u, hu, hpos⟩ := @exists_found text s a b consumes _ hsize (1 + (text.size - a) + 1)
      (Thread.after ⟨a, [], []⟩ 1 ⟨a + 1, [], []⟩) ⟨(Marks.empty (text.size + 1)).add 0 a, []⟩
      (Nat.lt_succ_self a) hlt (fun i hi => hin i (Nat.le_of_succ_le hi))
      (by simp only [Thread.after]; omega) rfl (fun i hi hi' => by
        rw [← Bool.not_eq_true, Marks.contains_add ha (Nat.lt_succ_of_le hi')]
        simp)
    rw [visit_oneOrMore_zero _ _ (Marks.contains_empty _ _ _), hround, List.foldl_cons,
      List.foldl_nil]
    obtain ⟨v, hv, hvpos⟩ := exists_mem_distinct (List.mem_reverse.mpr hu)
    exact ⟨v, hv, hvpos.trans hpos⟩

end RouteTable.Regex
