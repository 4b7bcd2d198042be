import RouteTable.Regex.Expr
import RouteTable.Regex.Expr.Marks
import RouteTable.Regex.Property

/-!
# Matching

`Expr.run` lists the ways in which an expression matches from a place, best first: an earlier
alternative is better than a later one, one more repetition better than none, or worse if the
repetition is lazy. Of the ways that end at one place only the best is listed, since what follows
cannot tell them apart.

A repetition must not go round without consuming a character. The rule is that no choice is made
twice at one place on one way: a `Trail` names the choices a way has made since it last consumed a
character, and a choice named by the trail it is met with leads nowhere. Names are relative to the
expression, a path from it to the choice, so the meaning of an expression does not depend on what
stands around it.

* `Thread` is one way to match, as far as it has got.
* `enter` runs a part of an expression from a thread.
* `visit` goes through the rounds of a repetition, depth first.
-/

namespace RouteTable.Regex

/-! ## Places -/

/-- Whether a character of a word stands before the place `pos`. -/
def wordBefore (unicode : Bool) (text : Array Char) (pos : Nat) : Bool :=
  pos != 0 && (text[pos - 1]?).any (PerlClass.word.chars unicode).contains

/-- Whether a character of a word stands after the place `pos`. -/
def wordAfter (unicode : Bool) (text : Array Char) (pos : Nat) : Bool :=
  (text[pos]?).any (PerlClass.word.chars unicode).contains

/-- Whether the condition holds, from whether words are on the left and on the right. -/
def WordEdge.holds : WordEdge → Bool → Bool → Bool
  | .boundary, before, after => before != after
  | .notBoundary, before, after => before == after
  | .start, before, after => !before && after
  | .stop, before, after => before && !after
  | .startHalf, before, _ => !before
  | .stopHalf, _, after => !after

/-- Whether the condition holds at the place `pos`. -/
def Look.holds (text : Array Char) (pos : Nat) : Look → Bool
  | .start => pos == 0
  | .stop => pos == text.size
  | .lineStart => pos == 0 || text[pos - 1]? == some '\n'
  | .lineStop => pos == text.size || text[pos]? == some '\n'
  | .crlfStart =>
    pos == 0 || text[pos - 1]? == some '\n' ||
      (text[pos - 1]? == some '\r' && text[pos]? != some '\n')
  | .crlfStop =>
    pos == text.size || text[pos]? == some '\r' ||
      (text[pos]? == some '\n' && (pos == 0 || text[pos - 1]? != some '\r'))
  | .word edge unicode => edge.holds (wordBefore unicode text pos) (wordAfter unicode text pos)

/-! ## Threads -/

/-- The choices made since the last consumed character, as paths from an expression. -/
abbrev Trail := List (List Nat)

/-- The part of a trail that lies in the part `i` of an expression. -/
def Trail.under (i : Nat) (trail : Trail) : Trail :=
  trail.filterMap fun
    | j :: path => if j = i then some path else none
    | [] => none

/-- What capturing groups have matched, as number, start and end, the latest first. -/
abbrev Groups := List (Nat × Nat × Nat)

/-- One way to match: where it has got to, its groups, and its trail. -/
structure Thread where
  pos : Nat
  groups : Groups
  trail : Trail
  deriving DecidableEq, Repr

/-- The thread `t`, reached from `before` by the part `i`, seen from the whole expression. -/
def Thread.after (before : Thread) (i : Nat) (t : Thread) : Thread :=
  { t with trail := (if t.pos = before.pos then before.trail else []) ++ t.trail.map (i :: ·) }

/-- Keeps the first of the threads that end at one place. -/
def distinct : List Thread → List Thread
  | [] => []
  | t :: ts => t :: (distinct ts).filter fun u => u.pos != t.pos

/-- Runs the part `i` of an expression on from the thread `t`. The expression was entered at
`start` with the trail `busy`. -/
def enter (run : Trail → Nat → Groups → List Thread) (busy : Trail) (start i : Nat) (t : Thread) :
    List Thread :=
  (run ((if t.pos = start then busy.under i else []) ++ t.trail.under i) t.pos t.groups).map
    (t.after i)

/-! ## Repetitions -/

/-- What a walk through the rounds of a repetition has met: rounds and places, and the threads that
leave the repetition, the latest first. -/
structure Walk where
  seen : Marks
  found : List Thread

/-- The bounds and the greed of a repetition; `consumes` if every round consumes a character. -/
structure Rounds where
  min : Nat
  max : Option Nat
  greedy : Bool
  consumes : Bool

/-- How many copies of the repeated expression there are. The last copy serves every further round
of an unbounded repetition. -/
def Rounds.copies (r : Rounds) : Nat :=
  r.max.getD (Nat.max 1 r.min)

/-- The number of rounds after a round of the copy `copy`. Where the choices before and after every
round are the same one, rounds are not counted. -/
def Rounds.next (r : Rounds) (copy : Nat) : Nat :=
  if r.min = 0 ∧ r.max = none ∧ r.consumes then copy else copy + 1

/-- Whether the repetition may end after `n` rounds. -/
def Rounds.mayEnd (r : Rounds) (n : Nat) : Bool := r.min ≤ n

/-- Whether another round may follow `n` rounds. -/
def Rounds.mayGoOn (r : Rounds) (n : Nat) : Bool := r.max.all fun m => n < m

/-- Goes on from the thread `t` after `n` rounds. `body i` runs the copy `i`, and `barred n` says
that the choice after `n` rounds is one that must not be made at the start of the repetition. -/
def visit (r : Rounds) (start : Nat) (barred : Nat → Bool) (body : Nat → Thread → List Thread) :
    Nat → Nat → Thread → Walk → Walk
  | 0, _, _, w => w
  | fuel + 1, n, t, w =>
    if w.seen.contains n t.pos then w
    else
      let choice := r.mayEnd n && r.mayGoOn n
      if choice && t.pos == start && barred n then w
      else
        let w := { w with seen := w.seen.add n t.pos }
        let t := if choice then { t with trail := [2 * n] :: t.trail } else t
        let copy := Nat.min n (r.copies - 1)
        let goOn (w : Walk) : Walk :=
          if r.mayGoOn n then
            (body copy t).foldl (fun w u => visit r start barred body fuel (r.next copy) u w) w
          else w
        let stop (w : Walk) : Walk :=
          if r.mayEnd n then { w with found := t :: w.found } else w
        if r.greedy then stop (goOn w) else goOn (stop w)

/-! ## Expressions -/

mutual

/-- The ways in which an expression matches from `pos`, best first. -/
def Expr.run (text : Array Char) : Expr → Trail → Nat → Groups → List Thread
  | .set s, _, pos, groups =>
    match text[pos]? with
    | some c => if s.contains c then [⟨pos + 1, groups, []⟩] else []
    | none => []
  | .look l, _, pos, groups => if l.holds text pos then [⟨pos, groups, []⟩] else []
  | .seq items, busy, pos, groups => Expr.runSeq text items 0 busy pos [⟨pos, groups, []⟩]
  | .alt branches, busy, pos, groups =>
    if busy.contains [] then []
    else distinct (Expr.runAlt text branches 0 busy pos ⟨pos, groups, [[]]⟩)
  | .group index sub, busy, pos, groups =>
    (Expr.run text sub busy pos groups).map fun t =>
      { t with groups := (index, pos, t.pos) :: t.groups }
  | .rep min max greedy sub, busy, pos, groups =>
    let r : Rounds := ⟨min, max, greedy, sub.minLength?.any (0 < ·)⟩
    let barred n := busy.contains [2 * n]
    let body i t := enter (Expr.run text sub) busy pos (2 * i + 1) t
    let fuel := r.copies + (text.size - pos) + 2
    let walk : Walk := ⟨.empty (text.size + 1), []⟩
    distinct (visit r pos barred body fuel 0 ⟨pos, groups, []⟩ walk).found.reverse

/-- Runs the items of a sequence, numbered from `i`, one after the other. -/
def Expr.runSeq (text : Array Char) :
    List Expr → Nat → Trail → Nat → List Thread → List Thread
  | [], _, _, _, ts => ts
  | e :: es, i, busy, start, ts =>
    Expr.runSeq text es (i + 1) busy start
      (distinct (ts.flatMap (enter (Expr.run text e) busy start i)))

/-- Runs the branches of an alternation, numbered from `i`, in order. -/
def Expr.runAlt (text : Array Char) : List Expr → Nat → Trail → Nat → Thread → List Thread
  | [], _, _, _, _ => []
  | e :: es, i, busy, start, t =>
    enter (Expr.run text e) busy start i t ++ Expr.runAlt text es (i + 1) busy start t

end

/-- The best match from `pos`. -/
def Expr.matchAt? (e : Expr) (text : Array Char) (pos : Nat) : Option Thread :=
  (e.run text [] pos []).head?

/-- The best match from the first place from which there is one. -/
def Expr.search? (e : Expr) (text : Array Char) : Option (Nat × Thread) :=
  (List.range (text.size + 1)).findSome? fun pos => (e.matchAt? text pos).map fun t => (pos, t)

end RouteTable.Regex
