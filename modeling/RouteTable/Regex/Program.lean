import RouteTable.Regex.Shape
import RouteTable.Regex.Utf8

/-!
# The size of a compiled expression

An expression is compiled into an automaton over bytes, once to be run forward and once backward,
and is refused if either takes more memory than `sizeLimit` (`REGEX_SIZE_LIMIT`). This module
computes that memory without building the automata.

A state takes 32 bytes, a transition of a state with a list of transitions 8, and an alternative of
a state with a list of alternatives 4. Repetitions are unrolled: every copy of the repeated
expression is compiled anew.

* `Shape.memory` is the memory of the states of a shape, in one direction.
* `Expr.programSize` is the larger of the two totals.
-/

namespace RouteTable.Regex

/-! ## Memory -/

/-- The bytes a state takes. -/
def stateSize : Nat := 32

/-- The bytes a transition takes in a state with a list of transitions. -/
def transitionSize : Nat := 8

/-- The bytes an alternative takes in a state with a list of alternatives. -/
def alternativeSize : Nat := 4

/-- A choice among `n` alternatives. -/
def choiceSize (n : Nat) : Nat := stateSize + n * alternativeSize

/-- The direction in which an automaton is run. -/
inductive Direction where
  | forward
  | backward
  deriving DecidableEq, Repr

/-- Groups the products of byte ranges that start with the same range and stand side by side. -/
def groupByFirst : List ByteRanges → List ((Nat × Nat) × List ByteRanges)
  | [] => []
  | [] :: rest => groupByFirst rest
  | (r :: tail) :: rest =>
    match groupByFirst rest with
    | (r', tails) :: groups =>
      if r = r' then (r, tail :: tails) :: groups else (r, [tail]) :: (r', tails) :: groups
    | [] => [(r, [tail])]

/-- States that read byte ranges, each as its transitions: a range and the number of the next
state. The state `0` is the end and is not listed. -/
abbrev ByteStates := List (List ((Nat × Nat) × Nat))

/-- The number of the state with the given transitions, added if there is none. -/
def ByteStates.intern (states : ByteStates) (transitions : List ((Nat × Nat) × Nat)) :
    Nat × ByteStates :=
  match states.findIdx? (· == transitions) with
  | some i => (states.length - i, states)
  | none => (states.length + 1, transitions :: states)

/-- Adds the states that read the given products; equal states are shared. -/
def ByteStates.add : Nat → ByteStates → List ByteRanges → Nat × ByteStates
  | 0, states, _ => (0, states)
  | fuel + 1, states, products =>
    let (transitions, states) := (groupByFirst products).foldl
      (fun (acc : List ((Nat × Nat) × Nat) × ByteStates) g =>
        if g.2.all List.isEmpty then ((g.1, 0) :: acc.1, acc.2)
        else
          let (next, states) := ByteStates.add fuel acc.2 g.2
          ((g.1, next) :: acc.1, states))
      ([], states)
    states.intern transitions.reverse

/-- The number of different non-empty beginnings of the given products. -/
def beginningsCount : Nat → List ByteRanges → Nat
  | 0, _ => 0
  | fuel + 1, products =>
    let groups := groupByFirst products
    groups.foldl (fun n g => n + 1 + beginningsCount fuel g.2) 0

/-- The memory of the states that match one character of a set. -/
def CharSet.memory (s : CharSet) (dir : Direction) : Nat :=
  if s.isAscii then 2 * stateSize + s.ranges.length * transitionSize
  else
    let products := s.byteRanges
    match dir with
    | .forward =>
      let states := (ByteStates.add 5 [] products).2
      stateSize + states.foldl (fun n t => n + stateSize + t.length * transitionSize) 0
    | .backward =>
      choiceSize products.length + stateSize + beginningsCount 5 products * stateSize

/-- The tails of the literals that start with the byte `b`, in order. -/
def tailsAfter (b : Nat) (literals : List (List Nat)) : List (List Nat) :=
  literals.filterMap fun
    | c :: tail => if c = b then some tail else none
    | [] => none

/-- The first bytes of literals, each once, in order. -/
def firstBytes (literals : List (List Nat)) : List Nat :=
  (literals.filterMap List.head?).eraseDups

/-- Cuts a list of literals at the empty ones, of which those at the start count as one. -/
def cutAtEmpty (literals : List (List Nat)) : List (List (List Nat)) :=
  match literals with
  | [] :: rest => [] :: chunks [] (rest.dropWhile List.isEmpty)
  | _ => chunks [] literals
where
  /-- The parts between empty literals; `current` is the part being read, last first. -/
  chunks (current : List (List Nat)) : List (List Nat) → List (List (List Nat))
    | [] => [current.reverse]
    | [] :: rest => current.reverse :: chunks [] rest
    | literal :: rest => chunks (literal :: current) rest

/-- The memory of the tree of states that matches one of several literals, first come first. -/
def literalTreeSize : Nat → List (List Nat) → Nat
  | 0, _ => 0
  | fuel + 1, literals =>
    if literals.all List.isEmpty then 0
    else
      let parts := cutAtEmpty literals
      let filled := parts.filter fun part => !part.isEmpty
      let states := filled.foldl (fun n part =>
        let bytes := firstBytes part
        let own := if bytes.length = 1 then stateSize else stateSize + bytes.length * transitionSize
        bytes.foldl (fun n b => n + literalTreeSize fuel (tailsAfter b part)) (n + own)) 0
      choiceSize (filled.length + (parts.length - 1)) + states

/-- The bytes of the literals, if all shapes are literals. -/
def literalBytes? (dir : Direction) : List Shape → Option (List (List Nat))
  | [] => some []
  | .literal codes :: rest =>
    (literalBytes? dir rest).map fun others =>
      let bytes := codes.flatMap encodeUtf8
      (if dir = .forward then bytes else bytes.reverse) :: others
  | _ :: _ => none

mutual

/-- The memory of the states of a shape. -/
def Shape.memory (dir : Direction) : Shape → Nat
  | .empty => stateSize
  | .literal codes => (codes.flatMap encodeUtf8).length * stateSize
  | .set s => s.memory dir
  | .look _ => stateSize
  | .group _ sub => (if dir = .forward then 2 * stateSize else 0) + sub.memory dir
  | .concat items => Shape.memoryOfAll dir items
  | .alt branches =>
    match literalBytes? dir branches with
    | some literals =>
      stateSize + literalTreeSize ((literals.map List.length).foldl max 0 + 1) literals
    | none => choiceSize branches.length + stateSize + Shape.memoryOfAll dir branches
  | .rep min max _ sub =>
    let one := sub.memory dir
    match max with
    | none =>
      if min = 0 then
        if (sub.toExpr.minLength?.getD 0) = 0 then one + 2 * choiceSize 2 + stateSize
        else one + choiceSize 2
      else min * one + choiceSize 2
    | some max =>
      if min = max then min * one
      else if min = 0 ∧ max = 1 then one + choiceSize 2 + stateSize
      else (if min = 0 then stateSize else min * one) + stateSize +
        (max - min) * (one + choiceSize 2)

/-- The memory of the states of several shapes. -/
def Shape.memoryOfAll (dir : Direction) : List Shape → Nat
  | [] => 0
  | s :: ss => s.memory dir + Shape.memoryOfAll dir ss

end

/-- Whether a match can start at the start of the text only. -/
def Shape.isAnchored (s : Shape) : Bool :=
  match s.items with
  | .look .start :: _ => true
  | _ => false

/-- The memory of the whole automaton. What is not anchored is preceded by a loop over all bytes; a
match is the group `0`. -/
def Shape.programSize (s : Shape) (dir : Direction) : Nat :=
  let lead :=
    if s.isAnchored then stateSize else choiceSize 2 + 2 * stateSize + transitionSize
  let whole := if dir = .forward then 2 * stateSize else 0
  lead + whole + s.memory dir + stateSize

/-- The memory that a compiled expression takes. -/
def Expr.programSize (e : Expr) : Nat :=
  let s := Shape.ofExpr e
  max (s.programSize .forward) (s.programSize .backward)

/-- The greatest memory that a compiled expression may take: 10 MiB. -/
def sizeLimit : Nat := 10 * 1024 * 1024

end RouteTable.Regex
