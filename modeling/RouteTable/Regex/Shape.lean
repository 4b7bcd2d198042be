import RouteTable.Regex.Expr

/-!
# Normal forms of expressions

The form in which an expression is compiled: literal characters that follow each other are joined,
alternatives of single characters are one set, nested sequences and alternatives are flat, and what
all alternatives start with is factored out.

Factoring changes which match is preferred if the common start can match in several ways: of
`.*b|.*c` the second alternative then wins on `bc`, because it lets `.*` match more.
`Expr.alternatives` keeps that preference; where the common start leaves no choice, it leaves the
alternatives as they are.
-/

namespace RouteTable.Regex

/-- An expression as it is compiled. -/
inductive Shape where
  | empty
  | literal (codes : List Nat)
  | set (chars : CharSet)
  | look (look : Look)
  | rep (min : Nat) (max : Option Nat) (greedy : Bool) (sub : Shape)
  | group (index : Nat) (sub : Shape)
  | concat (items : List Shape)
  | alt (branches : List Shape)
  deriving Repr

namespace Shape

mutual

/-- Whether two shapes are equal. -/
def same : Shape → Shape → Bool
  | .empty, .empty => true
  | .literal a, .literal b => a == b
  | .set a, .set b => a == b
  | .look a, .look b => a == b
  | .rep min max greedy a, .rep min' max' greedy' b =>
    min == min' && max == max' && greedy == greedy' && same a b
  | .group i a, .group j b => i == j && same a b
  | .concat as, .concat bs => sameAll as bs
  | .alt as, .alt bs => sameAll as bs
  | _, _ => false

/-- Whether two lists of shapes are equal. -/
def sameAll : List Shape → List Shape → Bool
  | [], [] => true
  | a :: as, b :: bs => same a b && sameAll as bs
  | _, _ => false

end

/-- The shape that matches nothing. -/
def never : Shape := .set .empty

/-- A set, which is a literal if it has one member. -/
def ofSet (s : CharSet) : Shape :=
  match s.single? with
  | some n => .literal [n]
  | none => .set s

/-- The items of a sequence, nested sequences opened. -/
def items : Shape → List Shape
  | .empty => []
  | .concat items => items
  | s => [s]

/-- Joins literals that follow each other. -/
def joinLiterals : List Shape → List Shape
  | [] => []
  | s :: rest =>
    match s, joinLiterals rest with
    | .literal a, .literal b :: rest => .literal (a ++ b) :: rest
    | s, rest => s :: rest

/-- The sequence of the given shapes. -/
def ofItems (shapes : List Shape) : Shape :=
  match joinLiterals (shapes.flatMap items) with
  | [] => .empty
  | [s] => s
  | ss => .concat ss

/-- The alternatives of a shape, nested alternatives opened. -/
def branches : Shape → List Shape
  | .alt branches => branches
  | s => [s]

/-- The set of the characters that a set or a single literal character matches. -/
def chars? : Shape → Option CharSet
  | .set s => some s
  | .literal [n] => some ⟨[(n, n)]⟩
  | _ => none

/-- The union of the sets of shapes that all match one character. -/
def unionOfAll? : List Shape → Option CharSet
  | [] => some .empty
  | s :: ss => do return (← unionOfAll? ss).union (← s.chars?)

/-- How many items two sequences have in common at their starts. -/
def commonStart : List Shape → List Shape → Nat
  | a :: as, b :: bs => if same a b then commonStart as bs + 1 else 0
  | _, _ => 0

/-- The items of each shape, if all are sequences. -/
def sequences? : List Shape → Option (List (List Shape))
  | [] => some []
  | .concat items :: ss => (sequences? ss).map (items :: ·)
  | _ :: _ => none

/-- The items that all shapes start with, if all are sequences. -/
def sharedStart (ss : List Shape) : List Shape :=
  match sequences? ss with
  | some (first :: rest) =>
    first.take (rest.foldl (fun n items => min n (commonStart first items)) first.length)
  | _ => []

/-- Alternatives that are not flattened further. What all of them start with is put in front;
`fuel` bounds how often that is repeated. -/
def ofBranchesFrom : Nat → List Shape → Shape
  | 0, ss => .alt ss
  | fuel + 1, ss =>
    match ss with
    | [] => never
    | [s] => s
    | _ =>
      match unionOfAll? ss with
      | some s => ofSet s
      | none =>
        let shared := sharedStart ss
        if shared.isEmpty then .alt ss
        else
          let tails := ss.map fun s => ofItems (s.items.drop shared.length)
          ofItems (shared ++ [ofBranchesFrom fuel (tails.flatMap branches)])

/-- The alternatives of the given shapes. -/
def ofBranches (shapes : List Shape) : Shape :=
  let flat := shapes.flatMap branches
  ofBranchesFrom (flat.length + 64) flat

mutual

/-- The shape of an expression. -/
def ofExpr : Expr → Shape
  | .set s => ofSet s
  | .look l => .look l
  | .seq items => ofItems (ofExprs items)
  | .alt branches => ofBranches (ofExprs branches)
  | .group i sub => .group i (ofExpr sub)
  | .rep min max greedy sub => .rep min max greedy (ofExpr sub)

/-- The shapes of expressions. -/
def ofExprs : List Expr → List Shape
  | [] => []
  | e :: es => ofExpr e :: ofExprs es

end

mutual

/-- Whether there is more than one way to match, so that one may be preferred. -/
def hasChoice : Shape → Bool
  | .empty | .literal _ | .set _ | .look _ => false
  | .rep .. => true
  | .group _ sub => sub.hasChoice
  | .concat items => anyHasChoice items
  | .alt _ => true

/-- Whether `hasChoice` holds of any. -/
def anyHasChoice : List Shape → Bool
  | [] => false
  | s :: ss => s.hasChoice || anyHasChoice ss

end

mutual

/-- The expression of a shape. -/
def toExpr : Shape → Expr
  | .empty => .empty
  | .literal codes => .seq (codes.map fun n => .set ⟨[(n, n)]⟩)
  | .set s => .set s
  | .look l => .look l
  | .rep min max greedy sub => .rep min max greedy sub.toExpr
  | .group i sub => .group i sub.toExpr
  | .concat items => .seq (toExprs items)
  | .alt branches => .alt (toExprs branches)

/-- The expressions of shapes. -/
def toExprs : List Shape → List Expr
  | [] => []
  | s :: ss => s.toExpr :: toExprs ss

end

end Shape

/-- The alternatives `es`, in order of preference. -/
def Expr.alternatives (es : List Expr) : Expr :=
  let flat := (Shape.ofExprs es).flatMap Shape.branches
  if Shape.anyHasChoice (Shape.sharedStart flat) then (Shape.ofBranches flat).toExpr else .alt es

end RouteTable.Regex
