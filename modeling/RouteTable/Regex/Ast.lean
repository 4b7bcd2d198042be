/-!
# Syntax trees of regular expressions

The language of the `regex` library. What an expression says before flags are applied to it: `Ast`
for the expression, `ClassSet` for the inside of a bracketed class.

* `Ast.depth` counts how deeply the nodes nest that have parts; an expression deeper than
  `nestLimit` is refused.
* `Ast.groupNames` lists the names of capturing groups; no name may be given twice.
-/

namespace RouteTable.Regex

/-- A setting that `(?…)` turns on or off. -/
inductive Flag where
  | caseInsensitive
  | multiLine
  | dotMatchesNewLine
  | swapGreed
  | unicode
  | carriageReturn
  | verbose
  deriving DecidableEq, Repr

/-- The letter of a flag. -/
def Flag.ofChar? : Char → Option Flag
  | 'i' => some .caseInsensitive
  | 'm' => some .multiLine
  | 's' => some .dotMatchesNewLine
  | 'U' => some .swapGreed
  | 'u' => some .unicode
  | 'R' => some .carriageReturn
  | 'x' => some .verbose
  | _ => none

/-- Flags with the value each is given. -/
abbrev FlagList := List (Flag × Bool)

/-- What a list of flags says of the flag `f`. -/
def FlagList.value? (fs : FlagList) (f : Flag) : Option Bool :=
  (fs.find? fun p => p.1 = f).map Prod.snd

/-- The classes `\d`, `\s` and `\w`. -/
inductive PerlClass where
  | digit
  | space
  | word
  deriving DecidableEq, Repr

/-- The classes written `[:name:]`. -/
inductive PosixClass where
  | alnum | alpha | ascii | blank | cntrl | digit | graph | lower | print | punct | space | upper
  | word | xdigit
  deriving DecidableEq, Repr

/-- The class of a name. -/
def PosixClass.ofName? : String → Option PosixClass
  | "alnum" => some .alnum
  | "alpha" => some .alpha
  | "ascii" => some .ascii
  | "blank" => some .blank
  | "cntrl" => some .cntrl
  | "digit" => some .digit
  | "graph" => some .graph
  | "lower" => some .lower
  | "print" => some .print
  | "punct" => some .punct
  | "space" => some .space
  | "upper" => some .upper
  | "word" => some .word
  | "xdigit" => some .xdigit
  | _ => none

/-- What follows `\p`: a name that stands alone, or a property with the value asked for. -/
inductive PropertyQuery where
  | named (name : List Char)
  | valued (name value : List Char) (differs : Bool)
  deriving DecidableEq, Repr

/-- A literal character; `asByte` marks the form `\xNN`, which means a byte where Unicode is off. -/
structure Literal where
  char : Char
  asByte : Bool := false
  deriving DecidableEq, Repr

/-- The binary operators of classes. -/
inductive ClassOp where
  | inter
  | diff
  | symmDiff
  deriving DecidableEq, Repr

/-- The inside of a bracketed class. -/
inductive ClassSet where
  | empty
  | literal (l : Literal)
  | range (lo hi : Literal)
  | posix (negated : Bool) (kind : PosixClass)
  | perl (negated : Bool) (kind : PerlClass)
  | property (negated : Bool) (query : PropertyQuery)
  | bracket (negated : Bool) (set : ClassSet)
  | union (items : List ClassSet)
  | op (kind : ClassOp) (lhs rhs : ClassSet)
  deriving Repr

/-- A condition on the place between two characters. -/
inductive Anchor where
  | startLine | endLine | startText | endText
  | wordBoundary | notWordBoundary
  | wordStart | wordEnd | wordStartHalf | wordEndHalf
  deriving DecidableEq, Repr

/-- How a group is opened. -/
inductive GroupKind where
  | capture
  | namedCapture (name : String)
  | plain (flags : FlagList)
  deriving DecidableEq, Repr

/-- A regular expression as written. -/
inductive Ast where
  | empty
  | flags (flags : FlagList)
  | literal (l : Literal)
  | dot
  | anchor (kind : Anchor)
  | perl (negated : Bool) (kind : PerlClass)
  | property (negated : Bool) (query : PropertyQuery)
  | bracket (negated : Bool) (set : ClassSet)
  | repetition (min : Nat) (max : Option Nat) (greedy : Bool) (sub : Ast)
  | group (kind : GroupKind) (sub : Ast)
  | alternation (branches : List Ast)
  | concat (items : List Ast)
  deriving Repr

/-! ## Nesting -/

mutual

/-- How deeply brackets, unions and operators nest in a class. -/
def ClassSet.depth : ClassSet → Nat
  | .bracket _ set => set.depth + 1
  | .union items => ClassSet.depthOfAll items + 1
  | .op _ lhs rhs => max lhs.depth rhs.depth + 1
  | _ => 0

/-- The greatest depth among `items`. -/
def ClassSet.depthOfAll : List ClassSet → Nat
  | [] => 0
  | item :: items => max item.depth (ClassSet.depthOfAll items)

end

mutual

/-- How deeply nodes with parts nest. -/
def Ast.depth : Ast → Nat
  | .bracket _ set => set.depth + 1
  | .repetition _ _ _ sub => sub.depth + 1
  | .group _ sub => sub.depth + 1
  | .alternation branches => Ast.depthOfAll branches + 1
  | .concat items => Ast.depthOfAll items + 1
  | _ => 0

/-- The greatest depth among `asts`. -/
def Ast.depthOfAll : List Ast → Nat
  | [] => 0
  | ast :: asts => max ast.depth (Ast.depthOfAll asts)

end

/-- The greatest depth that is accepted. -/
def nestLimit : Nat := 250

/-! ## Group names -/

mutual

/-- The names of capturing groups, in the order in which the groups open. -/
def Ast.groupNames : Ast → List String
  | .repetition _ _ _ sub => sub.groupNames
  | .group (.namedCapture name) sub => name :: sub.groupNames
  | .group _ sub => sub.groupNames
  | .alternation branches => Ast.groupNamesOfAll branches
  | .concat items => Ast.groupNamesOfAll items
  | _ => []

/-- The names of the groups of `asts`, in order. -/
def Ast.groupNamesOfAll : List Ast → List String
  | [] => []
  | ast :: asts => ast.groupNames ++ Ast.groupNamesOfAll asts

end

end RouteTable.Regex
