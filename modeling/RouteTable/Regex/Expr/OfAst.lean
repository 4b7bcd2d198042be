import RouteTable.Regex.Expr
import RouteTable.Regex.Property
import RouteTable.Regex.Shape

/-!
# The meaning of a syntax tree

`Expr.ofAst?` applies the flags of an expression and numbers its capturing groups, in the order in
which they open, from 1. Flags that a directive sets hold up to the end of the enclosing group.

An expression that could match what is not a character is refused: where Unicode is off, the dot,
negated classes, non-ASCII members of classes and byte escapes above ASCII.
-/

namespace RouteTable.Regex

/-- The flags in force at a place. -/
structure Flags where
  caseInsensitive : Bool := false
  multiLine : Bool := false
  dotMatchesNewLine : Bool := false
  swapGreed : Bool := false
  unicode : Bool := true
  carriageReturn : Bool := false
  deriving DecidableEq, Repr

/-- Sets one flag. Verbose mode has done its work when the text was read. -/
def Flags.set (fl : Flags) : Flag × Bool → Flags
  | (.caseInsensitive, b) => { fl with caseInsensitive := b }
  | (.multiLine, b) => { fl with multiLine := b }
  | (.dotMatchesNewLine, b) => { fl with dotMatchesNewLine := b }
  | (.swapGreed, b) => { fl with swapGreed := b }
  | (.unicode, b) => { fl with unicode := b }
  | (.carriageReturn, b) => { fl with carriageReturn := b }
  | (.verbose, _) => fl

/-- Sets the flags of a list. -/
def Flags.apply (fl : Flags) (fs : FlagList) : Flags :=
  fs.foldl Flags.set fl

/-- Closes a set under case if the flags say so. -/
def Flags.fold (fl : Flags) (s : CharSet) : CharSet :=
  if fl.caseInsensitive then
    if fl.unicode then s.foldCase else s.foldAsciiCase
  else s

/-- The complement of a set if `negated`; without Unicode there is none. -/
def Flags.negate? (fl : Flags) (negated : Bool) (s : CharSet) : Option CharSet :=
  if negated then
    if fl.unicode then some s.complement else none
  else some s

/-- A literal member of a class. -/
def Flags.member? (fl : Flags) (l : Literal) : Option Char :=
  if fl.unicode || l.char.toNat < 0x80 then some l.char else none

/-- The set a class operator makes. -/
def ClassOp.apply : ClassOp → CharSet → CharSet → CharSet
  | .inter => CharSet.inter
  | .diff => CharSet.diff
  | .symmDiff => CharSet.symmDiff

mutual

/-- The members of a class. -/
def ClassSet.chars? (fl : Flags) : ClassSet → Option CharSet
  | .empty => some .empty
  | .literal l => (fl.member? l).map .singleton
  | .range lo hi => do return .range (← fl.member? lo) (← fl.member? hi)
  | .posix negated kind => fl.negate? negated (fl.fold kind.chars)
  | .perl negated kind => fl.negate? negated (kind.chars fl.unicode)
  | .property negated query => do
    if !fl.unicode then none
    fl.negate? negated (fl.fold (← query.chars?))
  | .bracket negated set => do fl.negate? negated (fl.fold (← set.chars? fl))
  | .union items => ClassSet.unionOfAll? fl items
  | .op kind lhs rhs => do return kind.apply (fl.fold (← lhs.chars? fl)) (fl.fold (← rhs.chars? fl))

/-- The members of any of `items`. -/
def ClassSet.unionOfAll? (fl : Flags) : List ClassSet → Option CharSet
  | [] => some .empty
  | item :: items => do return (← item.chars? fl).union (← ClassSet.unionOfAll? fl items)

end

/-- The set of a literal character. -/
def Flags.literal? (fl : Flags) (l : Literal) : Option CharSet :=
  let n := l.char.toNat
  if fl.unicode then
    some (if fl.caseInsensitive then .ofCodes (sameUpToCase n) else .singleton l.char)
  else if l.asByte && 0x80 ≤ n then none
  else some (if fl.caseInsensitive then (CharSet.singleton l.char).foldAsciiCase
    else .singleton l.char)

/-- The set of the dot. -/
def Flags.dot? (fl : Flags) : Option CharSet :=
  if !fl.unicode then none
  else if fl.dotMatchesNewLine then some .all
  else if fl.carriageReturn then some (CharSet.complement ⟨[(10, 10), (13, 13)]⟩)
  else some (CharSet.complement ⟨[(10, 10)]⟩)

/-- The condition an anchor stands for. -/
def Flags.look (fl : Flags) : Anchor → Look
  | .startLine =>
    if fl.multiLine then (if fl.carriageReturn then .crlfStart else .lineStart) else .start
  | .endLine =>
    if fl.multiLine then (if fl.carriageReturn then .crlfStop else .lineStop) else .stop
  | .startText => .start
  | .endText => .stop
  | .wordBoundary => .word .boundary fl.unicode
  | .notWordBoundary => .word .notBoundary fl.unicode
  | .wordStart => .word .start fl.unicode
  | .wordEnd => .word .stop fl.unicode
  | .wordStartHalf => .word .startHalf fl.unicode
  | .wordEndHalf => .word .stopHalf fl.unicode

mutual

/-- The meaning of a node under the flags `fl`, with the flags after it and the number of the next
group; `next` is the number of the next group before it. -/
def Expr.ofNode? : Ast → Flags → Nat → Option (Expr × Flags × Nat)
  | .empty, fl, next => some (.empty, fl, next)
  | .flags fs, fl, next => some (.empty, fl.apply fs, next)
  | .literal l, fl, next => do return (.set (← fl.literal? l), fl, next)
  | .dot, fl, next => do return (.set (← fl.dot?), fl, next)
  | .anchor kind, fl, next => some (.look (fl.look kind), fl, next)
  | .perl negated kind, fl, next => do
    return (.set (← fl.negate? negated (kind.chars fl.unicode)), fl, next)
  | .property negated query, fl, next => do
    return (.set (← (ClassSet.property negated query).chars? fl), fl, next)
  | .bracket negated inside, fl, next => do
    return (.set (← (ClassSet.bracket negated inside).chars? fl), fl, next)
  | .repetition min max greedy sub, fl, next => do
    let (e, fl, next) ← Expr.ofNode? sub fl next
    return (.repeated min max (greedy != fl.swapGreed) e, fl, next)
  | .group kind sub, fl, next =>
    match kind with
    | .plain fs => do
      let (e, _, next) ← Expr.ofNode? sub (fl.apply fs) next
      return (e, fl, next)
    | _ => do
      let (e, _, after) ← Expr.ofNode? sub fl (next + 1)
      return (.group next e, fl, after)
  | .alternation branches, fl, next => do
    let (es, fl, next) ← Expr.ofNodes? branches fl next
    return (.alternatives es, fl, next)
  | .concat items, fl, next => do
    let (es, fl, next) ← Expr.ofNodes? items fl next
    return (.seq es, fl, next)

/-- The meanings of nodes that follow each other. -/
def Expr.ofNodes? : List Ast → Flags → Nat → Option (List Expr × Flags × Nat)
  | [], fl, next => some ([], fl, next)
  | ast :: asts, fl, next => do
    let (e, fl, next) ← Expr.ofNode? ast fl next
    let (es, fl, next) ← Expr.ofNodes? asts fl next
    return (e :: es, fl, next)

end

/-- The meaning of a syntax tree. -/
def Expr.ofAst? (ast : Ast) : Option Expr :=
  (Expr.ofNode? ast {} 1).map Prod.fst

end RouteTable.Regex
