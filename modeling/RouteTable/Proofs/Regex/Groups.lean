import RouteTable.Regex.Expr.Run

/-!
# Groups only record

What an expression matches does not depend on its capturing groups: they write down places and are
never read while the expression is run.

* `run_renumber`: a function `f` on numbers and a function `F` on records that commute with writing
  (`Writes`) may be applied before or after the run.
* `run_shift`: groups with greater numbers record the same places under the greater numbers.
* `groups_of_run`: an expression without groups leaves the records as they are.
* `mem_groups_of_run`: an expression records no groups but its own.
-/

namespace RouteTable.Regex

/-! ## The groups of an expression -/

mutual

/-- The numbers of the groups, in the order in which they open. -/
def Expr.groups : Expr → List Nat
  | .set _ => []
  | .look _ => []
  | .seq items => Expr.groupsOfAll items
  | .alt branches => Expr.groupsOfAll branches
  | .group index sub => index :: sub.groups
  | .rep _ _ _ sub => sub.groups

/-- The numbers of the groups of `es`, in order. -/
def Expr.groupsOfAll : List Expr → List Nat
  | [] => []
  | e :: es => e.groups ++ Expr.groupsOfAll es

end

mutual

/-- The expression with its groups renumbered by `f`. -/
def Expr.renumber (f : Nat → Nat) : Expr → Expr
  | .set s => .set s
  | .look l => .look l
  | .seq items => .seq (Expr.renumberAll f items)
  | .alt branches => .alt (Expr.renumberAll f branches)
  | .group index sub => .group (f index) (sub.renumber f)
  | .rep min max greedy sub => .rep min max greedy (sub.renumber f)

/-- The expressions with their groups renumbered by `f`. -/
def Expr.renumberAll (f : Nat → Nat) : List Expr → List Expr
  | [] => []
  | e :: es => e.renumber f :: Expr.renumberAll f es

end

theorem renumberAll_eq_map (f : Nat → Nat) : ∀ es : List Expr,
    Expr.renumberAll f es = es.map (Expr.renumber f)
  | [] => rfl
  | e :: es => by rw [Expr.renumberAll, renumberAll_eq_map f es, List.map_cons]

mutual

theorem renumber_of_groups_eq_nil (f : Nat → Nat) : ∀ e : Expr, e.groups = [] → e.renumber f = e
  | .set _, _ => rfl
  | .look _, _ => rfl
  | .seq items, h => by
    rw [Expr.renumber, renumberAll_of_groups_eq_nil f items h]
  | .alt branches, h => by
    rw [Expr.renumber, renumberAll_of_groups_eq_nil f branches h]
  | .group _ _, h => absurd h (by simp [Expr.groups])
  | .rep _ _ _ sub, h => by
    rw [Expr.renumber, renumber_of_groups_eq_nil f sub h]

theorem renumberAll_of_groups_eq_nil (f : Nat → Nat) : ∀ es : List Expr,
    Expr.groupsOfAll es = [] → Expr.renumberAll f es = es
  | [], _ => rfl
  | e :: es, h => by
    rw [Expr.groupsOfAll, List.append_eq_nil_iff] at h
    rw [Expr.renumberAll, renumber_of_groups_eq_nil f e h.1, renumberAll_of_groups_eq_nil f es h.2]

end

mutual

theorem renumber_id : ∀ e : Expr, e.renumber id = e
  | .set _ => rfl
  | .look _ => rfl
  | .seq items => by rw [Expr.renumber, renumberAll_id items]
  | .alt branches => by rw [Expr.renumber, renumberAll_id branches]
  | .group index sub => by rw [Expr.renumber, renumber_id sub, id]
  | .rep _ _ _ sub => by rw [Expr.renumber, renumber_id sub]

theorem renumberAll_id : ∀ es : List Expr, Expr.renumberAll id es = es
  | [] => rfl
  | e :: es => by rw [Expr.renumberAll, renumber_id e, renumberAll_id es]

end

theorem minOfMinLengths_cons_cons (e e' : Expr) (es : List Expr) :
    Expr.minOfMinLengths? (e :: e' :: es) =
      do return min (← e.minLength?) (← Expr.minOfMinLengths? (e' :: es)) := rfl

mutual

theorem minLength_renumber (f : Nat → Nat) : ∀ e : Expr, (e.renumber f).minLength? = e.minLength?
  | .set _ => rfl
  | .look _ => rfl
  | .seq items => sumOfMinLengths_renumber f items
  | .alt branches => minOfMinLengths_renumber f branches
  | .group _ sub => minLength_renumber f sub
  | .rep min _ _ sub => by
    rw [Expr.renumber, Expr.minLength?, Expr.minLength?, minLength_renumber f sub]

theorem sumOfMinLengths_renumber (f : Nat → Nat) : ∀ es : List Expr,
    Expr.sumOfMinLengths? (Expr.renumberAll f es) = Expr.sumOfMinLengths? es
  | [] => rfl
  | e :: es => by
    rw [Expr.renumberAll, Expr.sumOfMinLengths?, Expr.sumOfMinLengths?, minLength_renumber f e,
      sumOfMinLengths_renumber f es]

theorem minOfMinLengths_renumber (f : Nat → Nat) : ∀ es : List Expr,
    Expr.minOfMinLengths? (Expr.renumberAll f es) = Expr.minOfMinLengths? es
  | [] => rfl
  | [e] => minLength_renumber f e
  | e :: e' :: es => by
    have ih := minOfMinLengths_renumber f (e' :: es)
    rw [Expr.renumberAll] at ih
    rw [Expr.renumberAll, Expr.renumberAll, minOfMinLengths_cons_cons, minOfMinLengths_cons_cons,
      minLength_renumber f e, ih]

end

/-! ## Threads and their records -/

section Renumber

variable (F : Groups → Groups)

/-- The thread with `F` applied to what its groups have recorded. -/
def Thread.mapGroups (t : Thread) : Thread := { t with groups := F t.groups }

theorem distinct_mapGroups : ∀ ts : List Thread,
    distinct (ts.map (Thread.mapGroups F)) = (distinct ts).map (Thread.mapGroups F)
  | [] => rfl
  | t :: ts => by
    rw [List.map_cons, distinct, distinct, List.map_cons, distinct_mapGroups ts, List.filter_map]
    rfl

variable {F} {run run' : Trail → Nat → Groups → List Thread}

theorem enter_mapGroups
    (h : ∀ busy pos g, run' busy pos (F g) = (run busy pos g).map (Thread.mapGroups F))
    (busy : Trail) (start i : Nat) (t : Thread) :
    enter run' busy start i (t.mapGroups F) =
      (enter run busy start i t).map (Thread.mapGroups F) := by
  unfold enter
  rw [show (t.mapGroups F).groups = F t.groups from rfl, h, List.map_map, List.map_map]
  rfl

/-- The walk with `F` applied to the records of its threads. -/
def Walk.mapGroups (F : Groups → Groups) (w : Walk) : Walk :=
  { w with found := w.found.map (Thread.mapGroups F) }

/-- The thread that has chosen what to do after `n` rounds, where there is a choice. -/
def Rounds.choose (r : Rounds) (n : Nat) (t : Thread) : Thread :=
  if r.mayEnd n && r.mayGoOn n then { t with trail := [2 * n] :: t.trail } else t

/-- The end of the repetition after `n` rounds. -/
def Rounds.stop (r : Rounds) (n : Nat) (t : Thread) (w : Walk) : Walk :=
  if r.mayEnd n then { w with found := t :: w.found } else w

/-- The rounds that follow `n` rounds. -/
def Rounds.goOn (r : Rounds) (start : Nat) (barred : Nat → Bool)
    (body : Nat → Thread → List Thread) (fuel n : Nat) (t : Thread) (w : Walk) : Walk :=
  if r.mayGoOn n then
    (body (Nat.min n (r.copies - 1)) t).foldl
      (fun w u => visit r start barred body fuel (r.next (Nat.min n (r.copies - 1))) u w) w
  else w

theorem visit_succ (r : Rounds) (start : Nat) (barred : Nat → Bool)
    (body : Nat → Thread → List Thread) (fuel n : Nat) (t : Thread) (w : Walk) :
    visit r start barred body (fuel + 1) n t w =
      if w.seen.contains n t.pos then w
      else if r.mayEnd n && r.mayGoOn n && t.pos == start && barred n then w
      else
        let w' : Walk := { w with seen := w.seen.add n t.pos }
        let t' := r.choose n t
        if r.greedy then r.stop n t' (r.goOn start barred body fuel n t' w')
        else r.goOn start barred body fuel n t' (r.stop n t' w') := rfl

theorem choose_mapGroups (r : Rounds) (n : Nat) (t : Thread) :
    r.choose n (t.mapGroups F) = (r.choose n t).mapGroups F := by
  unfold Rounds.choose
  split <;> rfl

theorem stop_mapGroups (r : Rounds) (n : Nat) (t : Thread) (w : Walk) :
    r.stop n (t.mapGroups F) (w.mapGroups F) = (r.stop n t w).mapGroups F := by
  unfold Rounds.stop
  split <;> rfl

theorem visit_mapGroups {r : Rounds} {start : Nat} {barred : Nat → Bool}
    {body body' : Nat → Thread → List Thread}
    (h : ∀ i t, body' i (t.mapGroups F) = (body i t).map (Thread.mapGroups F)) :
    ∀ (fuel n : Nat) (t : Thread) (w : Walk),
      visit r start barred body' fuel n (t.mapGroups F) (w.mapGroups F) =
        (visit r start barred body fuel n t w).mapGroups F := by
  intro fuel
  induction fuel with
  | zero => intro n t w; rfl
  | succ fuel ih =>
    intro n t w
    have hfold : ∀ (copy : Nat) (ts : List Thread) (w : Walk),
        (ts.map (Thread.mapGroups F)).foldl
            (fun w u => visit r start barred body' fuel copy u w) (w.mapGroups F) =
          (ts.foldl (fun w u => visit r start barred body fuel copy u w) w).mapGroups F := by
      intro copy ts
      induction ts with
      | nil => intro w; rfl
      | cons u ts iht => intro w; rw [List.map_cons, List.foldl_cons, List.foldl_cons, ih, iht]
    have hgoOn : ∀ (t : Thread) (w : Walk),
        r.goOn start barred body' fuel n (t.mapGroups F) (w.mapGroups F) =
          (r.goOn start barred body fuel n t w).mapGroups F := by
      intro t w
      unfold Rounds.goOn
      split
      · rw [h, hfold]
      · rfl
    have hseen : (w.mapGroups F).seen = w.seen := rfl
    have hpos : (t.mapGroups F).pos = t.pos := rfl
    rw [visit_succ, visit_succ, hseen, hpos]
    split
    · rfl
    · split
      · rfl
      · have hadd : ({ seen := w.seen.add n t.pos, found := (w.mapGroups F).found } : Walk) =
            Walk.mapGroups F { w with seen := w.seen.add n t.pos } := rfl
        simp only
        rw [hadd, choose_mapGroups]
        split
        · rw [hgoOn, stop_mapGroups]
        · rw [stop_mapGroups, hgoOn]

end Renumber

/-! ## Runs -/

/-- Writing what the groups of `numbers` record commutes with `f` on numbers and `F` on records. -/
def Writes (f : Nat → Nat) (F : Groups → Groups) (numbers : List Nat) : Prop :=
  ∀ i ∈ numbers, ∀ (a b : Nat) (g : Groups), F ((i, a, b) :: g) = (f i, a, b) :: F g

theorem Writes.mono {f : Nat → Nat} {F : Groups → Groups} {is js : List Nat} (h : Writes f F js)
    (hsub : ∀ i ∈ is, i ∈ js) : Writes f F is := fun i hi => h i (hsub i hi)

section Run

variable {f : Nat → Nat} {F : Groups → Groups} (text : Array Char)

mutual

theorem run_renumber : ∀ (e : Expr), Writes f F e.groups →
    ∀ (busy : Trail) (pos : Nat) (g : Groups),
    (e.renumber f).run text busy pos (F g) = (e.run text busy pos g).map (Thread.mapGroups F)
  | .set s, _, busy, pos, g => by
    simp only [Expr.renumber, Expr.run]
    split
    · split <;> rfl
    · rfl
  | .look l, _, busy, pos, g => by
    simp only [Expr.renumber, Expr.run]
    split <;> rfl
  | .seq items, h, busy, pos, g => by
    simp only [Expr.renumber, Expr.run]
    exact runSeq_renumber items h 0 busy pos [⟨pos, g, []⟩]
  | .alt branches, h, busy, pos, g => by
    simp only [Expr.renumber, Expr.run]
    split
    · rfl
    · rw [← distinct_mapGroups]
      exact congrArg distinct (runAlt_renumber branches h 0 busy pos ⟨pos, g, [[]]⟩)
  | .group index sub, h, busy, pos, g => by
    have hsub : Writes f F sub.groups := h.mono fun i hi => List.mem_cons_of_mem index hi
    simp only [Expr.renumber, Expr.run]
    rw [run_renumber sub hsub, List.map_map, List.map_map]
    refine List.map_congr_left fun t _ => ?_
    simp only [Function.comp, Thread.mapGroups]
    rw [h index List.mem_cons_self]
  | .rep min max greedy sub, h, busy, pos, g => by
    have hbody : ∀ (i : Nat) (t : Thread),
        enter (Expr.run text (sub.renumber f)) busy pos (2 * i + 1) (t.mapGroups F) =
          (enter (Expr.run text sub) busy pos (2 * i + 1) t).map (Thread.mapGroups F) :=
      fun i t => enter_mapGroups (run_renumber sub h) busy pos _ t
    simp only [Expr.renumber, Expr.run, minLength_renumber]
    rw [← distinct_mapGroups, List.map_reverse]
    exact congrArg (fun w => distinct w.found.reverse)
      (visit_mapGroups hbody _ 0 ⟨pos, g, []⟩ ⟨.empty (text.size + 1), []⟩)

theorem runSeq_renumber : ∀ (es : List Expr), Writes f F (Expr.groupsOfAll es) →
    ∀ (i : Nat) (busy : Trail) (start : Nat) (ts : List Thread),
      Expr.runSeq text (Expr.renumberAll f es) i busy start (ts.map (Thread.mapGroups F)) =
        (Expr.runSeq text es i busy start ts).map (Thread.mapGroups F)
  | [], _, _, _, _, ts => rfl
  | e :: es, h, i, busy, start, ts => by
    have he : Writes f F e.groups := h.mono fun i hi => List.mem_append_left _ hi
    have hes : Writes f F (Expr.groupsOfAll es) := h.mono fun i hi => List.mem_append_right _ hi
    have hstep : (ts.map (Thread.mapGroups F)).flatMap
        (enter (Expr.run text (e.renumber f)) busy start i) =
          (ts.flatMap (enter (Expr.run text e) busy start i)).map (Thread.mapGroups F) := by
      rw [List.flatMap_map, List.map_flatMap]
      exact congrArg (List.flatMap · ts)
        (funext fun t => enter_mapGroups (run_renumber e he) busy start i t)
    rw [Expr.renumberAll, Expr.runSeq, Expr.runSeq, hstep, distinct_mapGroups,
      runSeq_renumber es hes]

theorem runAlt_renumber : ∀ (es : List Expr), Writes f F (Expr.groupsOfAll es) →
    ∀ (i : Nat) (busy : Trail) (start : Nat) (t : Thread),
      Expr.runAlt text (Expr.renumberAll f es) i busy start (t.mapGroups F) =
        (Expr.runAlt text es i busy start t).map (Thread.mapGroups F)
  | [], _, _, _, _, _ => rfl
  | e :: es, h, i, busy, start, t => by
    have he : Writes f F e.groups := h.mono fun i hi => List.mem_append_left _ hi
    have hes : Writes f F (Expr.groupsOfAll es) := h.mono fun i hi => List.mem_append_right _ hi
    rw [Expr.renumberAll, Expr.runAlt, Expr.runAlt, List.map_append,
      enter_mapGroups (run_renumber e he), runAlt_renumber es hes]

end

/-- The records with all numbers raised by `k`. -/
def Groups.shift (k : Nat) (g : Groups) : Groups := g.map fun s => (s.1 + k, s.2)

/-- Groups with greater numbers record the same places under the greater numbers. -/
theorem run_shift (k : Nat) (e : Expr) (busy : Trail) (pos : Nat) (g : Groups) :
    (e.renumber (· + k)).run text busy pos (g.shift k) =
      (e.run text busy pos g).map (Thread.mapGroups (Groups.shift k)) :=
  run_renumber text e (fun _ _ _ _ _ => rfl) busy pos g

/-- An expression without groups leaves the records as they are. -/
theorem groups_of_run {e : Expr} (he : e.groups = []) {busy : Trail} {pos : Nat} {g : Groups}
    {t : Thread} (ht : t ∈ e.run text busy pos g) : t.groups = g := by
  -- erasing what is recorded before the run and after it comes to the same
  have h := run_renumber (f := id) (F := fun _ => g) text e (by simp [Writes, he]) busy pos g
  rw [renumber_of_groups_eq_nil id e he] at h
  rw [h] at ht
  obtain ⟨u, -, rfl⟩ := List.mem_map.mp ht
  rfl

/-- A run records no groups but those of the expression. -/
theorem mem_groups_of_run {e : Expr} {busy : Trail} {pos : Nat} {t : Thread}
    (ht : t ∈ e.run text busy pos []) {s : Nat × Nat × Nat} (hs : s ∈ t.groups) :
    s.1 ∈ e.groups := by
  -- dropping all other records after the run changes nothing
  have h := run_renumber (f := id) (F := List.filter fun s => decide (s.1 ∈ e.groups)) text e
    (fun i hi a b g => by simp [hi]) busy pos []
  rw [renumber_id, List.filter_nil] at h
  rw [h] at ht
  obtain ⟨u, -, rfl⟩ := List.mem_map.mp ht
  exact of_decide_eq_true (List.mem_filter.mp hs).2

end Run

end RouteTable.Regex
