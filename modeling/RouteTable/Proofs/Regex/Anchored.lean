import RouteTable.Proofs.Regex.Row
import RouteTable.Regex.Basic

/-!
# Alternatives that must match the whole text

* `Expr.fullMatch?` is what the best match of a whole text records.
* `captures_anchored`: an expression of the form `^(?:…|…)$` finds what the first of its
  alternatives records that matches the whole text.
-/

namespace RouteTable.Regex

/-- One expression for alternatives. -/
def Expr.ofBranches : List Expr → Expr
  | [e] => e
  | es => .alt es

/-- Alternatives between the start and the end of the text. -/
def Expr.anchored (es : List Expr) : Expr :=
  .seq [.look .start, Expr.ofBranches es, .look .stop]

/-- What the best match of the whole text records. -/
def Expr.fullMatch? (text : Array Char) (e : Expr) : Option Groups :=
  ((e.run text [] 0 []).find? fun t => t.pos == text.size).map Thread.groups

/-! ## Lists of threads -/

theorem find?_distinct (n : Nat) : ∀ ts : List Thread,
    (distinct ts).find? (fun t => t.pos == n) = ts.find? fun t => t.pos == n
  | [] => rfl
  | t :: ts => by
    rw [distinct, List.find?_cons, List.find?_cons]
    cases hn : t.pos == n with
    | true => rfl
    | false =>
      simp only
      rw [List.find?_filter, ← find?_distinct n ts]
      refine congrArg (List.find? · (distinct ts)) (funext fun u => ?_)
      by_cases hu : u.pos = n
      · have hne : ¬ n = t.pos := fun h => by simp [h] at hn
        simp [hu, hne]
      · simp [hu]

theorem head?_distinct : ∀ ts : List Thread, (distinct ts).head? = ts.head?
  | [] => rfl
  | _ :: _ => rfl

theorem head?_flatMap_if {α β : Type} (p : α → Bool) (f : α → β) : ∀ xs : List α,
    (xs.flatMap fun x => if p x then [f x] else []).head? = (xs.find? p).map f
  | [] => rfl
  | x :: xs => by
    rw [List.flatMap_cons, List.find?_cons]
    cases hp : p x with
    | true => simp
    | false => simpa using head?_flatMap_if p f xs

variable (text : Array Char)

theorem runSeq_nil : ∀ (es : List Expr) (i : Nat) (busy : Trail) (start : Nat),
    Expr.runSeq text es i busy start [] = []
  | [], _, _, _ => rfl
  | _ :: es, i, busy, start => by
    rw [Expr.runSeq]
    exact runSeq_nil es (i + 1) busy start

/-! ## Alternatives -/

theorem find?_runAlt (n : Nat) : ∀ (es : List Expr) (i : Nat),
    ((Expr.runAlt text es i [] 0 ⟨0, [], [[]]⟩).find? fun t => t.pos == n).map Thread.groups =
      es.findSome? fun e => ((e.run text [] 0 []).find? fun t => t.pos == n).map Thread.groups
  | [], _ => rfl
  | e :: es, i => by
    have henter : enter (e.run text) [] 0 i ⟨0, [], [[]]⟩ =
        (e.run text [] 0 []).map (Thread.after ⟨0, [], [[]]⟩ i) := rfl
    rw [Expr.runAlt, List.find?_append, List.findSome?_cons, henter, List.find?_map]
    have hpos : ((fun t : Thread => t.pos == n) ∘ Thread.after ⟨0, [], [[]]⟩ i) =
        fun t => t.pos == n := rfl
    rw [hpos]
    cases (e.run text [] 0 []).find? fun t => t.pos == n with
    | some t => rfl
    | none => exact find?_runAlt n es (i + 1)

theorem fullMatch_ofBranches (es : List Expr) :
    (Expr.ofBranches es).fullMatch? text = es.findSome? fun e => e.fullMatch? text := by
  unfold Expr.ofBranches
  split
  · rename_i e
    rw [List.findSome?_cons]
    cases e.fullMatch? text <;> rfl
  · unfold Expr.fullMatch?
    rw [Expr.run, if_neg (by simp), find?_distinct]
    exact find?_runAlt text text.size _ 0

/-! ## Anchors -/

theorem flatMap_enter_stop (ts : List Thread) (i : Nat) :
    ts.flatMap (enter (Expr.run text (.look .stop)) [] 0 i) =
      ts.flatMap fun t => if t.pos == text.size then [t.after i ⟨t.pos, t.groups, []⟩] else [] := by
  refine congrArg (List.flatMap · ts) (funext fun t => ?_)
  unfold enter
  rw [Expr.run, Look.holds]
  split <;> rfl

theorem matchAt_anchored_zero (es : List Expr) :
    ((Expr.anchored es).matchAt? text 0).map (fun t => (t.pos, t.groups)) =
      ((Expr.ofBranches es).fullMatch? text).map fun g => (text.size, g) := by
  have hstart : [(⟨0, [], []⟩ : Thread)].flatMap
      (enter (Expr.run text (.look .start)) [] 0 0) = [⟨0, [], []⟩] := by
    simp [enter, Expr.run, Look.holds, Thread.after]
  have hbranches : [(⟨0, [], []⟩ : Thread)].flatMap
      (enter (Expr.run text (Expr.ofBranches es)) [] 0 1) =
        ((Expr.ofBranches es).run text [] 0 []).map (Thread.after ⟨0, [], []⟩ 1) := by
    simp [enter, Trail.under]
  have hsingle : distinct [(⟨0, [], []⟩ : Thread)] = [⟨0, [], []⟩] := rfl
  have hpos : ((fun t : Thread => t.pos == text.size) ∘ Thread.after ⟨0, [], []⟩ 1) =
      fun t => t.pos == text.size := rfl
  rw [Expr.matchAt?, Expr.anchored, Expr.run, Expr.runSeq, hstart, hsingle, Expr.runSeq, hbranches,
    Expr.runSeq, flatMap_enter_stop, Expr.runSeq, head?_distinct, head?_flatMap_if, find?_distinct,
    List.find?_map, hpos, Expr.fullMatch?]
  cases hfind : ((Expr.ofBranches es).run text [] 0 []).find? fun t => t.pos == text.size with
  | none => rfl
  | some t =>
    have ht : t.pos = text.size := by simpa using List.find?_some hfind
    simp [Thread.after, ht]

theorem matchAt_anchored_of_ne {pos : Nat} (hpos : pos ≠ 0) (es : List Expr) :
    (Expr.anchored es).matchAt? text pos = none := by
  have hstart : Look.holds text pos .start = false := by simpa [Look.holds] using hpos
  have hnone : enter (Expr.run text (.look .start)) [] pos 0 ⟨pos, [], []⟩ = [] := by
    unfold enter
    rw [Expr.run, if_neg (by simp [hstart])]
    rfl
  rw [Expr.matchAt?, Expr.anchored, Expr.run, Expr.runSeq, List.flatMap_cons, hnone]
  simp [distinct, runSeq_nil]

theorem search_anchored (es : List Expr) :
    ((Expr.anchored es).search? text).map (fun p => (p.1, p.2.pos, p.2.groups)) =
      (es.findSome? fun e => e.fullMatch? text).map fun g => (0, text.size, g) := by
  have hrest : ((List.range text.size).map Nat.succ).findSome? (fun pos =>
      ((Expr.anchored es).matchAt? text pos).map fun t => (pos, t)) = none := by
    rw [List.findSome?_eq_none_iff]
    intro pos hpos
    obtain ⟨n, -, rfl⟩ := List.mem_map.mp hpos
    rw [matchAt_anchored_of_ne text (Nat.succ_ne_zero n), Option.map_none]
  have hzero := matchAt_anchored_zero text es
  rw [fullMatch_ofBranches] at hzero
  rw [Expr.search?, List.range_succ_eq_map, List.findSome?_cons, hrest]
  cases hmatch : (Expr.anchored es).matchAt? text 0 with
  | none =>
    rw [hmatch] at hzero
    cases hfull : es.findSome? fun e => e.fullMatch? text with
    | none => rfl
    | some g => simp [hfull] at hzero
  | some t =>
    rw [hmatch] at hzero
    cases hfull : es.findSome? fun e => e.fullMatch? text with
    | none => simp [hfull] at hzero
    | some g =>
      rw [hfull] at hzero
      simp only [Option.map_some, Option.some.injEq, Prod.mk.injEq] at hzero ⊢
      exact ⟨trivial, hzero⟩

/-- An anchored expression finds what its first alternative records that matches the whole text. -/
theorem captures_anchored {r : Regex} {es : List Expr} (hr : r.expr = Expr.anchored es)
    (path : String) :
    r.captures? path =
      (es.findSome? fun e => e.fullMatch? path.toList.toArray).map fun g =>
        ⟨path.toList.toArray, 0, path.toList.toArray.size, g⟩ := by
  have hsearch := congrArg
    (Option.map fun p => Captures.mk path.toList.toArray p.1 p.2.1 p.2.2)
    (search_anchored path.toList.toArray es)
  rw [Option.map_map, Option.map_map] at hsearch
  rw [captures?, hr]
  exact hsearch

end RouteTable.Regex
