import RouteTable.Regex.CharSet

/-!
# Expressions

What a regular expression means, with its flags applied: sets of characters, conditions on places,
sequences, ordered alternatives, capturing groups and repetitions.

* `Expr.onlyEmpty` holds if an expression can match nothing but the empty text.
* `Expr.repeated` is the repetition in its reduced form: what repeats the empty text is tried at
  most once, and a repetition that is void or single disappears.
* `Expr.minLength?` is the least number of characters that can be matched.
* `Expr.groupCount` is the greatest group number that occurs.
-/

namespace RouteTable.Regex

/-- A condition on the words around a place. -/
inductive WordEdge where
  | boundary
  | notBoundary
  | start
  | stop
  | startHalf
  | stopHalf
  deriving DecidableEq, Repr

/-- A condition on a place in the text. -/
inductive Look where
  | start
  | stop
  | lineStart
  | lineStop
  | crlfStart
  | crlfStop
  | word (edge : WordEdge) (unicode : Bool)
  deriving DecidableEq, Repr

/-- A regular expression. A repetition without a maximum is unbounded. -/
inductive Expr where
  | set (chars : CharSet)
  | look (look : Look)
  | seq (items : List Expr)
  | alt (branches : List Expr)
  | group (index : Nat) (sub : Expr)
  | rep (min : Nat) (max : Option Nat) (greedy : Bool) (sub : Expr)
  deriving Repr

namespace Expr

/-- The expression that matches the empty text everywhere. -/
def empty : Expr := .seq []

mutual

/-- Whether the expression can match, and matches nothing but, the empty text. -/
def onlyEmpty : Expr → Bool
  | .set _ => false
  | .look _ => true
  | .seq items => onlyEmptyAll items
  | .alt branches => !branches.isEmpty && onlyEmptyAll branches
  | .group _ sub => sub.onlyEmpty
  | .rep _ _ _ sub => sub.onlyEmpty

/-- Whether `onlyEmpty` holds of all. -/
def onlyEmptyAll : List Expr → Bool
  | [] => true
  | e :: es => e.onlyEmpty && onlyEmptyAll es

end

/-- The repetition of `sub` in reduced form. -/
def repeated (min : Nat) (max : Option Nat) (greedy : Bool) (sub : Expr) : Expr :=
  let (min, max) :=
    if sub.onlyEmpty then (Nat.min min 1, some ((max.getD 1).min 1)) else (min, max)
  if max = some 0 then empty
  else if min = 1 ∧ max = some 1 then sub
  else .rep min max greedy sub

mutual

/-- The least number of characters matched; none if nothing can be. -/
def minLength? : Expr → Option Nat
  | .set s => if s.ranges.isEmpty then none else some 1
  | .look _ => some 0
  | .seq items => sumOfMinLengths? items
  | .alt branches => minOfMinLengths? branches
  | .group _ sub => sub.minLength?
  | .rep min _ _ sub => sub.minLength?.map (min * ·)

/-- The sum of the least lengths. -/
def sumOfMinLengths? : List Expr → Option Nat
  | [] => some 0
  | e :: es => do return (← e.minLength?) + (← sumOfMinLengths? es)

/-- The least of the least lengths, if all are known. -/
def minOfMinLengths? : List Expr → Option Nat
  | [] => none
  | [e] => e.minLength?
  | e :: es => do return min (← e.minLength?) (← minOfMinLengths? es)

end

mutual

/-- The greatest number of a capturing group. -/
def groupCount : Expr → Nat
  | .set _ => 0
  | .look _ => 0
  | .seq items => groupCountAll items
  | .alt branches => groupCountAll branches
  | .group index sub => max index sub.groupCount
  | .rep _ _ _ sub => sub.groupCount

/-- The greatest group number among `es`. -/
def groupCountAll : List Expr → Nat
  | [] => 0
  | e :: es => max e.groupCount (groupCountAll es)

end

end Expr

end RouteTable.Regex
