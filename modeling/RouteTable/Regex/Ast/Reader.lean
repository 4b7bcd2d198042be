import RouteTable.Regex.Ast
import RouteTable.Regex.CharSet
import RouteTable.Regex.Unicode.Binary
import RouteTable.Regex.Unicode.Category
import RouteTable.Text

/-!
# Reading a regular expression

`Ast.read?` turns the text of an expression into its syntax tree, or refuses it. A reader takes the
rest of the text and returns what it read with the rest after it. The Boolean that most readers take
says whether the expression is verbose at this place: then blanks and comments, from `#` to the end
of the line, do not count.

* `readEscape` reads what follows a backslash, `readSet` the inside of a bracketed class,
  `readItems` a sequence of alternatives up to the end of its group.
* Look-around, back-references and octal escapes are no part of the language.
* `Ast.read?` also refuses expressions that nest deeper than `nestLimit` and repeated group names.
-/

namespace RouteTable.Regex

open Text (isBlank)

/-! ## Blanks and comments -/

/-- The text after blanks and comments; `inComment` says whether it starts inside a comment. -/
def skipBlanks : Bool → List Char → List Char
  | _, [] => []
  | true, c :: cs => skipBlanks (c != '\n') cs
  | false, c :: cs =>
    if isBlank c then skipBlanks false cs
    else if c = '#' then skipBlanks true cs
    else c :: cs

/-- The text after what does not count at this place. -/
def skip (verbose : Bool) (cs : List Char) : List Char :=
  if verbose then skipBlanks false cs else cs

/-- The first character that counts, of a text whose comments are taken for their first word. -/
def firstCounting : Bool → List Char → Option Char
  | _, [] => none
  | inComment, c :: cs =>
    if isBlank c then firstCounting inComment cs
    else if !inComment && c == '#' then firstCounting true cs
    else some c

/-- The character that decides whether a hyphen in a class makes a range, from the text after it. -/
def afterHyphen (verbose : Bool) (cs : List Char) : Option Char :=
  if verbose then (firstCounting false cs).or cs.head? else cs.head?

/-! ## Numbers -/

/-- Decimal digits and the rest; where the expression is verbose, blanks may part them. -/
def readDigits (verbose : Bool) : Nat → List Char → List Char × List Char
  | 0, cs => ([], cs)
  | fuel + 1, c :: cs =>
    if c.isDigit then
      let (ds, rest) := readDigits verbose fuel (skip verbose cs)
      (c :: ds, rest)
    else ([], c :: cs)
  | _ + 1, [] => ([], [])

/-- The value of decimal digits. -/
def decimalValue (ds : List Char) : Nat :=
  ds.foldl (fun n d => n * 10 + (d.toNat - 48)) 0

/-- The greatest number that may be given as a count. -/
def maxCount : Nat := 0xffffffff

/-- A decimal number with blanks around it. -/
def readDecimal? (verbose : Bool) (cs : List Char) : Option (Nat × List Char) :=
  let start := cs.dropWhile isBlank
  let (ds, rest) := readDigits verbose start.length start
  let rest := match rest with
    | c :: _ => if isBlank c then skip verbose (rest.dropWhile isBlank) else rest
    | [] => []
  if ds.isEmpty then none
  else if decimalValue ds ≤ maxCount then some (decimalValue ds, rest)
  else none

/-- The character of a code point, if it is one. -/
def charOfCode? (n : Nat) : Option Char :=
  if n.isValidChar then some (Char.ofNat n) else none

/-- The value of hexadecimal digits. -/
def hexValue (ds : List Char) : Nat :=
  ds.foldl (fun n d => n * 16 + (Text.hexDigit? d).getD 0) 0

/-- Exactly `n` hexadecimal digits. -/
def readHexDigits? (verbose : Bool) : Nat → List Char → Option (List Char × List Char)
  | 0, cs => some ([], cs)
  | n + 1, c :: cs =>
    if (Text.hexDigit? c).isSome then
      (readHexDigits? verbose n (skip verbose cs)).map fun (ds, rest) => (c :: ds, rest)
    else none
  | _ + 1, [] => none

/-- Hexadecimal digits up to a closing brace. -/
def readBracedHex? (verbose : Bool) : Nat → List Char → Option (List Char × List Char)
  | 0, _ => none
  | fuel + 1, cs =>
    match skip verbose cs with
    | '}' :: rest => some ([], skip verbose rest)
    | c :: rest =>
      if (Text.hexDigit? c).isSome then
        (readBracedHex? verbose fuel rest).map fun (ds, rest) => (c :: ds, rest)
      else none
    | [] => none

/-- The character that `\x`, `\u` or `\U` stands for: `digits` digits, or any number in braces. -/
def readHexEscape? (verbose : Bool) (digits : Nat) (cs : List Char) :
    Option (Literal × List Char) :=
  match skip verbose cs with
  | '{' :: rest => do
    let (ds, rest) ← readBracedHex? verbose (rest.length + 1) rest
    if ds.isEmpty then none
    let c ← charOfCode? (hexValue ds)
    return ({ char := c }, rest)
  | cs => do
    let (ds, rest) ← readHexDigits? verbose digits cs
    let c ← charOfCode? (hexValue ds)
    return ({ char := c, asByte := digits == 2 }, rest)

/-! ## Escapes -/

/-- Splits `cs` at the first place where `sep` occurs. -/
def splitAt? (sep : List Char) : List Char → Option (List Char × List Char)
  | [] => none
  | c :: cs =>
    if sep.isPrefixOf (c :: cs) then some ([], (c :: cs).drop sep.length)
    else (splitAt? sep cs).map fun (a, b) => (c :: a, b)

/-- The query that a property's name in braces makes. -/
def PropertyQuery.ofText (cs : List Char) : PropertyQuery :=
  match splitAt? ['!', '='] cs with
  | some (name, value) => .valued name value true
  | none =>
    match splitAt? [':'] cs with
    | some (name, value) => .valued name value false
    | none =>
      match splitAt? ['='] cs with
      | some (name, value) => .valued name value false
      | none => .named cs

/-- The characters up to a closing brace. -/
def readBraced? (verbose : Bool) : Nat → List Char → Option (List Char × List Char)
  | 0, _ => none
  | fuel + 1, cs =>
    match skip verbose cs with
    | '}' :: rest => some ([], rest)
    | c :: rest => (readBraced? verbose fuel rest).map fun (name, rest) => (c :: name, rest)
    | [] => none

/-- What follows `\p` or `\P`: a name in braces, or one letter. -/
def readProperty? (verbose negated : Bool) (cs : List Char) : Option (Ast × List Char) :=
  match skip verbose cs with
  | '{' :: rest => do
    let (name, rest) ← readBraced? verbose (rest.length + 1) rest
    return (.property negated (.ofText name), rest)
  | c :: rest => if c = '\\' then none else some (.property negated (.named [c]), skip verbose rest)
  | [] => none

/-- The letters and hyphens of a special word boundary, and the rest. -/
def readBoundaryName (verbose : Bool) : Nat → List Char → List Char × List Char
  | 0, cs => ([], cs)
  | fuel + 1, c :: cs =>
    if c.isAlpha || c == '-' then
      let (name, rest) := readBoundaryName verbose fuel (skip verbose cs)
      (c :: name, rest)
    else ([], c :: cs)
  | _ + 1, [] => ([], [])

/-- What follows `\b`: the name of a special word boundary in braces, or nothing. Braces that hold
no such name belong to a repetition. -/
def readBoundary? (verbose : Bool) (cs : List Char) : Option (Anchor × List Char) :=
  match cs with
  | '{' :: rest =>
    match skip verbose rest with
    | [] => none
    | c :: rest =>
      if c.isAlpha || c == '-' then
        match readBoundaryName verbose (rest.length + 1) (c :: rest) with
        | (name, '}' :: rest) =>
          match String.ofList name with
          | "start" => some (.wordStart, rest)
          | "end" => some (.wordEnd, rest)
          | "start-half" => some (.wordStartHalf, rest)
          | "end-half" => some (.wordEndHalf, rest)
          | _ => none
        | _ => none
      else some (.wordBoundary, cs)
  | _ => some (.wordBoundary, cs)

/-- Whether a backslash before `c` means `c` itself: ASCII punctuation and control characters,
angle brackets apart. -/
def isEscapable (c : Char) : Bool :=
  c.toNat < 0x80 && !c.isAlphanum && c != '<' && c != '>'

/-- Reads what follows a backslash. -/
def readEscape? (verbose : Bool) (cs : List Char) : Option (Ast × List Char) :=
  let letter (c : Char) (rest : List Char) : Option (Ast × List Char) :=
    some (.literal { char := c }, rest)
  match cs with
  | [] => none
  | 'x' :: rest => (readHexEscape? verbose 2 rest).map fun (l, rest) => (.literal l, rest)
  | 'u' :: rest => (readHexEscape? verbose 4 rest).map fun (l, rest) => (.literal l, rest)
  | 'U' :: rest => (readHexEscape? verbose 8 rest).map fun (l, rest) => (.literal l, rest)
  | 'p' :: rest => readProperty? verbose false rest
  | 'P' :: rest => readProperty? verbose true rest
  | 'd' :: rest => some (.perl false .digit, rest)
  | 'D' :: rest => some (.perl true .digit, rest)
  | 's' :: rest => some (.perl false .space, rest)
  | 'S' :: rest => some (.perl true .space, rest)
  | 'w' :: rest => some (.perl false .word, rest)
  | 'W' :: rest => some (.perl true .word, rest)
  | 'a' :: rest => letter '\x07' rest
  | 'f' :: rest => letter '\x0C' rest
  | 't' :: rest => letter '\t' rest
  | 'n' :: rest => letter '\n' rest
  | 'r' :: rest => letter '\r' rest
  | 'v' :: rest => letter '\x0B' rest
  | 'A' :: rest => some (.anchor .startText, rest)
  | 'z' :: rest => some (.anchor .endText, rest)
  | 'b' :: rest => (readBoundary? verbose rest).map fun (k, rest) => (.anchor k, rest)
  | 'B' :: rest => some (.anchor .notWordBoundary, rest)
  | '<' :: rest => some (.anchor .wordStart, rest)
  | '>' :: rest => some (.anchor .wordEnd, rest)
  | c :: rest => if isEscapable c then letter c rest else none

/-! ## Bracketed classes -/

/-- One node for the items of a class. -/
def ClassSet.ofItems : List ClassSet → ClassSet
  | [] => .empty
  | [item] => item
  | items => .union items

/-- One member of a class, before it is known whether a range follows. -/
def readMember? (verbose : Bool) : List Char → Option (Ast × List Char)
  | [] => none
  | '\\' :: rest => readEscape? verbose rest
  | c :: rest => some (.literal { char := c }, rest)

/-- The item that a lone member makes; conditions on places are no members. -/
def ClassSet.ofMember? : Ast → Option ClassSet
  | .literal l => some (.literal l)
  | .perl negated kind => some (.perl negated kind)
  | .property negated query => some (.property negated query)
  | _ => none

/-- A member, or a range of two literals in ascending order. -/
def readRange? (verbose : Bool) (cs : List Char) : Option (ClassSet × List Char) := do
  let (first, rest) ← readMember? verbose cs
  match skip verbose rest with
  | [] => none
  | '-' :: rest =>
    if afterHyphen verbose rest = some ']' ∨ afterHyphen verbose rest = some '-' then
      return (← ClassSet.ofMember? first, '-' :: rest)
    else
      let (last, rest) ← readMember? verbose (skip verbose rest)
      match first, last with
      | .literal lo, .literal hi =>
        if lo.char ≤ hi.char then return (.range lo hi, rest) else none
      | _, _ => none
  | rest => return (← ClassSet.ofMember? first, rest)

/-- A class such as `[:alpha:]`, or nothing if the text does not start with one. -/
def readPosix? : List Char → Option (ClassSet × List Char)
  | '[' :: ':' :: '^' :: rest => named true rest
  | '[' :: ':' :: rest => named false rest
  | _ => none
where
  /-- The name and what closes the class. -/
  named (negated : Bool) (cs : List Char) : Option (ClassSet × List Char) :=
    match cs.dropWhile (· != ':') with
    | ':' :: ']' :: rest =>
      (PosixClass.ofName? (String.ofList (cs.takeWhile (· != ':')))).map fun kind =>
        (.posix negated kind, rest)
    | _ => none

/-- The hyphens at the start of a class, which stand for themselves. -/
def readHyphens (verbose : Bool) : Nat → List Char → List ClassSet × List Char
  | 0, cs => ([], cs)
  | fuel + 1, '-' :: cs =>
    let (items, rest) := readHyphens verbose fuel (skip verbose cs)
    (.literal { char := '-' } :: items, rest)
  | _ + 1, cs => ([], cs)

/-- The start of a class after its opening bracket: whether it is negated, the hyphens or the
closing bracket that stand for themselves there, and the rest. -/
def readSetOpening? (verbose : Bool) (cs : List Char) :
    Option (Bool × List ClassSet × List Char) :=
  let (negated, cs) := match skip verbose cs with
    | '^' :: rest => (true, skip verbose rest)
    | rest => (false, rest)
  match readHyphens verbose cs.length cs with
  | (_, []) => none
  | ([], ']' :: rest) =>
    match skip verbose rest with
    | [] => none
    | rest => some (negated, [.literal { char := ']' }], rest)
  | (items, rest) => some (negated, items, rest)

/-- Applies a pending operator. -/
def ClassSet.applyPending (pending : Option (ClassOp × ClassSet)) (rhs : ClassSet) : ClassSet :=
  match pending with
  | none => rhs
  | some (kind, lhs) => .op kind lhs rhs

/-- Reads the inside of a class up to and with its closing bracket. `pending` is the operator whose
right side is being read and `items`, last first, is what was read of that side. Operators bind
alike and to the left. -/
def readSet? (verbose : Bool) : Nat → Option (ClassOp × ClassSet) → List ClassSet → List Char →
    Option (ClassSet × List Char)
  | 0, _, _, _ => none
  | fuel + 1, pending, items, cs =>
    let side := ClassSet.applyPending pending (.ofItems items.reverse)
    match skip verbose cs with
    | [] => none
    | '[' :: rest =>
      match readPosix? ('[' :: rest) with
      | some (item, rest) => readSet? verbose fuel pending (item :: items) rest
      | none => do
        let (negated, opening, rest) ← readSetOpening? verbose rest
        let (set, rest) ← readSet? verbose fuel none opening.reverse rest
        readSet? verbose fuel pending (.bracket negated set :: items) rest
    | ']' :: rest => some (side, rest)
    | '&' :: '&' :: rest => readSet? verbose fuel (some (.inter, side)) [] rest
    | '-' :: '-' :: rest => readSet? verbose fuel (some (.diff, side)) [] rest
    | '~' :: '~' :: rest => readSet? verbose fuel (some (.symmDiff, side)) [] rest
    | cs => do
      let (item, rest) ← readRange? verbose cs
      readSet? verbose fuel pending (item :: items) rest

/-- A bracketed class, after its opening bracket. -/
def readBracket? (verbose : Bool) (cs : List Char) : Option (Ast × List Char) := do
  let (negated, opening, rest) ← readSetOpening? verbose cs
  let (set, rest) ← readSet? verbose (rest.length + 1) none opening.reverse rest
  return (.bracket negated set, rest)

/-! ## Groups and repetitions -/

/-- Reads flags up to `:` or `)`, with the character that ended them. `negated` is set after the
hyphen, `dangling` if the hyphen was the last thing read. -/
def readFlags? (negated dangling : Bool) (fs : FlagList) :
    List Char → Option (FlagList × Char × List Char)
  | [] => none
  | c :: cs =>
    if c = ':' ∨ c = ')' then
      if dangling then none else some (fs.reverse, c, cs)
    else if c = '-' then
      if negated then none else readFlags? true true fs cs
    else
      match Flag.ofChar? c with
      | none => none
      | some f =>
        if fs.any fun p => p.1 = f then none else readFlags? negated false ((f, !negated) :: fs) cs

/-- Characters with the `Alphabetic` property. -/
def alphabeticChars : CharSet :=
  (Unicode.lookup? Unicode.binaryProperties "alphabetic").getD .empty

/-- Characters of the three categories of numbers. -/
def numericChars : CharSet :=
  ["nd", "nl", "no"].foldl
    (fun s name => s.union ((Unicode.lookup? Unicode.categories name).getD .empty)) .empty

/-- Whether `c` may start the name of a group. -/
def isNameStart (c : Char) : Bool :=
  c == '_' || alphabeticChars.contains c

/-- Whether `c` may stand in the name of a group after its first character. -/
def isNamePart (c : Char) : Bool :=
  isNameStart c || c == '.' || c == '[' || c == ']' || numericChars.contains c

/-- The name of a group up to `>`. -/
def readGroupName? (cs : List Char) : Option (String × List Char) :=
  match cs.takeWhile (· != '>'), cs.dropWhile (· != '>') with
  | first :: others, '>' :: rest =>
    if isNameStart first && others.all isNamePart then some (String.ofList (first :: others), rest)
    else none
  | _, _ => none

/-- What an opening parenthesis starts: flags for the rest of the enclosing group, or a group. -/
inductive GroupHead where
  | directive (flags : FlagList)
  | opens (kind : GroupKind)

/-- Reads what follows an opening parenthesis. -/
def readGroupHead? (verbose : Bool) (cs : List Char) : Option (GroupHead × List Char) :=
  match skip verbose cs with
  | '?' :: '=' :: _ => none
  | '?' :: '!' :: _ => none
  | '?' :: '<' :: '=' :: _ => none
  | '?' :: '<' :: '!' :: _ => none
  | '?' :: 'P' :: '<' :: rest =>
    (readGroupName? rest).map fun (name, rest) => (.opens (.namedCapture name), rest)
  | '?' :: '<' :: rest =>
    (readGroupName? rest).map fun (name, rest) => (.opens (.namedCapture name), rest)
  | '?' :: rest =>
    match readFlags? false false [] rest with
    | none => none
    | some (fs, last, rest) =>
      if last = ':' then some (.opens (.plain fs), rest)
      else if fs.isEmpty then none
      else some (.directive fs, rest)
  | rest => some (.opens .capture, rest)

/-- The bounds of a counted repetition, after its opening brace. -/
def readBounds? (verbose : Bool) (cs : List Char) : Option ((Nat × Option Nat) × List Char) := do
  let (min, rest) ← readDecimal? verbose (skip verbose cs)
  match rest with
  | ',' :: rest =>
    match skip verbose rest with
    | '}' :: rest => return ((min, none), rest)
    | rest =>
      let (max, rest) ← readDecimal? verbose rest
      match rest with
      | '}' :: rest => if min ≤ max then return ((min, some max), rest) else none
      | _ => none
  | '}' :: rest => return ((min, some min), rest)
  | _ => none

/-- Whether a repetition is greedy, from the text after its operator, and the rest. -/
def readGreed : List Char → Bool × List Char
  | '?' :: rest => (false, rest)
  | rest => (true, rest)

/-- One node for the items of a sequence. -/
def Ast.ofItems : List Ast → Ast
  | [] => .empty
  | [item] => item
  | items => .concat items

/-- One node for the branches of an alternation. -/
def Ast.ofBranches : List Ast → Ast
  | [branch] => branch
  | branches => .alternation branches

/-- Repeats the last of `items`, last first; flags cannot be repeated. -/
def repeatLast? (items : List Ast) (min : Nat) (max : Option Nat) (greedy : Bool) :
    Option (List Ast) :=
  match items with
  | [] => none
  | .flags _ :: _ => none
  | item :: items => some (.repetition min max greedy item :: items)

/-- Reads alternatives up to the parenthesis that closes the enclosing group, which stays in the
rest, or to the end. `branches` and `items`, last first, are the finished alternatives and the
items of the current one. -/
def readItems? : Nat → Bool → List Ast → List Ast → List Char → Option (Ast × List Char)
  | 0, _, _, _, _ => none
  | fuel + 1, verbose, branches, items, cs =>
    let finished := Ast.ofBranches (Ast.ofItems items.reverse :: branches).reverse
    match skip verbose cs with
    | [] => some (finished, [])
    | ')' :: rest => some (finished, ')' :: rest)
    | '(' :: rest =>
      match readGroupHead? verbose rest with
      | none => none
      | some (.directive fs, rest) =>
        readItems? fuel ((fs.value? .verbose).getD verbose) branches (.flags fs :: items) rest
      | some (.opens kind, rest) =>
        let inner := match kind with
          | .plain fs => (fs.value? .verbose).getD verbose
          | _ => verbose
        match readItems? fuel inner [] [] rest with
        | some (sub, ')' :: rest) => readItems? fuel verbose branches (.group kind sub :: items) rest
        | _ => none
    | '|' :: rest => readItems? fuel verbose (Ast.ofItems items.reverse :: branches) [] rest
    | '[' :: rest => do
      let (ast, rest) ← readBracket? verbose rest
      readItems? fuel verbose branches (ast :: items) rest
    | '?' :: rest => do
      let (greedy, rest) := readGreed rest
      readItems? fuel verbose branches (← repeatLast? items 0 (some 1) greedy) rest
    | '*' :: rest => do
      let (greedy, rest) := readGreed rest
      readItems? fuel verbose branches (← repeatLast? items 0 none greedy) rest
    | '+' :: rest => do
      let (greedy, rest) := readGreed rest
      readItems? fuel verbose branches (← repeatLast? items 1 none greedy) rest
    | '{' :: rest => do
      let ((min, max), rest) ← readBounds? verbose rest
      let (greedy, rest) := readGreed (skip verbose rest)
      readItems? fuel verbose branches (← repeatLast? items min max greedy) rest
    | '\\' :: rest => do
      let (ast, rest) ← readEscape? verbose rest
      readItems? fuel verbose branches (ast :: items) rest
    | '.' :: rest => readItems? fuel verbose branches (.dot :: items) rest
    | '^' :: rest => readItems? fuel verbose branches (.anchor .startLine :: items) rest
    | '$' :: rest => readItems? fuel verbose branches (.anchor .endLine :: items) rest
    | c :: rest => readItems? fuel verbose branches (.literal { char := c } :: items) rest

/-- Whether an expression keeps the limits on nesting and names its groups apart. -/
def Ast.isAdmissible (ast : Ast) : Bool :=
  ast.depth ≤ nestLimit && decide ast.groupNames.Nodup

/-- The syntax tree of an expression. -/
def Ast.read? (cs : List Char) : Option Ast :=
  match readItems? (cs.length + 1) false [] [] cs with
  | some (ast, []) => if ast.isAdmissible then some ast else none
  | _ => none

end RouteTable.Regex
