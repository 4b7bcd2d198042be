import RouteTable.Toml.Value

/-!
# Numbers and times of TOML

A number, a truth value or a time is a word: it ends at a blank, a comment, a comma, a bracket or a
brace. The functions here say which words denote what.

* Integers have 64 bits with a sign; underscores stand between digits.
* A float may not be so large that it is no longer finite, unless it is negative or says so.
* Days exist: the thirtieth of February does not.
-/

namespace RouteTable.Toml

/-! ## Digits -/

/-- Whether a word is a run of digits, in which a single underscore may stand between two. -/
def isDigitRun (isDigit : Char → Bool) : List Char → Bool
  | [] => false
  | [c] => isDigit c
  | c :: '_' :: rest => isDigit c && isDigitRun isDigit rest
  | c :: rest => isDigit c && isDigitRun isDigit rest

/-- Whether `c` is a digit to the base 16. -/
def isHexDigit (c : Char) : Bool :=
  c.isDigit || ('a' ≤ c && c ≤ 'f') || ('A' ≤ c && c ≤ 'F')

/-- The value of a digit to any base up to 16. -/
def digitValue (c : Char) : Nat :=
  if c.isDigit then c.toNat - '0'.toNat
  else if 'a' ≤ c then c.toNat - 'a'.toNat + 10 else c.toNat - 'A'.toNat + 10

/-- The number that a run of digits denotes. -/
def runValue (base : Nat) (run : List Char) : Nat :=
  (run.filter (· ≠ '_')).foldl (fun n c => base * n + digitValue c) 0

/-- Whether a word is a decimal number without a sign: a run of digits with no zero in front. -/
def isDecimal (word : List Char) : Bool :=
  word == ['0'] || (word.head? != some '0' && isDigitRun Char.isDigit word)

/-- A word without its sign, and whether the sign is a minus. -/
def dropSign : List Char → Bool × List Char
  | '-' :: word => (true, word)
  | '+' :: word => (false, word)
  | word => (false, word)

/-! ## Numbers -/

/-- The number of natural numbers that fit in 64 bits with a sign. -/
def integerLimit : Nat := 0x8000000000000000

/-- Whether a word is an integer to the given base that fits in 64 bits with a sign. -/
def isBased (base : Nat) (isDigit : Char → Bool) (word : List Char) : Bool :=
  isDigitRun isDigit word && runValue base word < integerLimit

/-- Whether a word is an integer. -/
def isInteger : List Char → Bool
  | '0' :: 'x' :: word => isBased 16 isHexDigit word
  | '0' :: 'o' :: word => isBased 8 (fun c => '0' ≤ c && c ≤ '7') word
  | '0' :: 'b' :: word => isBased 2 (fun c => c == '0' || c == '1') word
  | word =>
    let (negative, word) := dropSign word
    isDecimal word && runValue 10 word < integerLimit + (if negative then 1 else 0)

/-- Whether a number with the given digits, of which the last `places` stand after the point, times
ten to the power `exponent`, is rounded to infinity in 64-bit floating point: from halfway between
the greatest finite number and the next power of two. -/
def isInfinite (digits : Nat) (places : Nat) (exponent : Int) : Bool :=
  let length := (Nat.toDigits 10 digits).length
  let power := exponent - places
  if digits = 0 || power + length < 300 then false
  else if 320 < power + length then true
  else (Nat.pow 2 1024 - Nat.pow 2 970) * Nat.pow 10 (-power).toNat ≤ digits * Nat.pow 10 power.toNat

/-- The parts of a float without sign: the digits before and after the point, and the exponent. -/
structure FloatParts where
  whole : List Char
  fraction : Option (List Char)
  exponent : Option (Bool × List Char)

/-- Splits a word into the parts of a float. -/
def FloatParts.ofWord? (word : List Char) : Option FloatParts :=
  let isRun (c : Char) : Bool := c.isDigit || c == '_'
  let exponent? : List Char → Option (Option (Bool × List Char))
    | [] => some none
    | c :: rest => if c == 'e' || c == 'E' then some (some (dropSign rest)) else none
  let whole := word.takeWhile isRun
  match word.dropWhile isRun with
  | '.' :: rest => do
    return ⟨whole, some (rest.takeWhile isRun), ← exponent? (rest.dropWhile isRun)⟩
  | rest => do return ⟨whole, none, ← exponent? rest⟩

/-- Whether the parts are those of a float that is finite; a negative one need not be. -/
def FloatParts.isValid (p : FloatParts) (negative : Bool) : Bool :=
  let fraction := p.fraction.getD []
  let (down, exponent) := p.exponent.getD (false, [])
  let power : Int := runValue 10 exponent
  let places := (fraction.filter (· ≠ '_')).length
  (p.fraction.isSome || p.exponent.isSome) && isDecimal p.whole &&
    p.fraction.all (isDigitRun Char.isDigit) &&
    p.exponent.all (fun e => isDigitRun Char.isDigit e.2) &&
    (negative ||
      !isInfinite (runValue 10 (p.whole ++ fraction)) places (if down then -power else power))

/-- Whether a word is a float. -/
def isFloat (word : List Char) : Bool :=
  let (negative, word) := dropSign word
  word == ['i', 'n', 'f'] || word == ['n', 'a', 'n'] ||
    (FloatParts.ofWord? word).any fun p => p.isValid negative

/-! ## Times -/

/-- The number that two digits denote. -/
def twoDigits? (a b : Char) : Option Nat :=
  if a.isDigit && b.isDigit then some (10 * digitValue a + digitValue b) else none

/-- Whether two digits denote a number between the bounds. -/
def isBetween (low high : Nat) (a b : Char) : Bool :=
  (twoDigits? a b).any fun n => low ≤ n && n ≤ high

/-- The number of days of a month. -/
def daysIn (year month : Nat) : Nat :=
  if month = 2 then
    if year % 4 = 0 ∧ (year % 100 ≠ 0 ∨ year % 400 = 0) then 29 else 28
  else if month ∈ [4, 6, 9, 11] then 30 else 31

/-- Whether a word starts with a date; if so, what follows it. -/
def dropDate? : List Char → Option (List Char)
  | y₁ :: y₂ :: y₃ :: y₄ :: '-' :: m₁ :: m₂ :: '-' :: d₁ :: d₂ :: rest => do
    let year := 100 * (← twoDigits? y₁ y₂) + (← twoDigits? y₃ y₄)
    let month ← twoDigits? m₁ m₂
    let day ← twoDigits? d₁ d₂
    if 1 ≤ month ∧ month ≤ 12 ∧ 1 ≤ day ∧ day ≤ daysIn year month then some rest else none
  | _ => none

/-- Whether a word starts with a time of day; if so, what follows it. -/
def dropClock? : List Char → Option (List Char)
  | h₁ :: h₂ :: ':' :: m₁ :: m₂ :: ':' :: s₁ :: s₂ :: rest =>
    if isBetween 0 23 h₁ h₂ && isBetween 0 59 m₁ m₂ && isBetween 0 60 s₁ s₂ then
      match rest with
      | '.' :: rest =>
        if rest.head?.any Char.isDigit then some (rest.dropWhile Char.isDigit) else none
      | rest => some rest
    else none
  | _ => none

/-- Whether a word is an offset from universal time. -/
def isOffset : List Char → Bool
  | ['Z'] => true
  | ['z'] => true
  | [sign, h₁, h₂, ':', m₁, m₂] =>
    (sign == '+' || sign == '-') && isBetween 0 23 h₁ h₂ && isBetween 0 59 m₁ m₂
  | _ => false

/-- Whether a word is a time of day with an offset, or without one. -/
def isClock (word : List Char) : Bool :=
  (dropClock? word).any fun rest => rest.isEmpty || isOffset rest

/-- Whether a word is a time: a date, a time of day, or both. -/
def isTime (word : List Char) : Bool :=
  match dropDate? word with
  | some [] => true
  | some (c :: rest) => (c == 'T' || c == 't' || c == ' ') && isClock rest
  | none => (dropClock? word).any List.isEmpty

/-! ## Words -/

/-- Whether `c` may stand in a word. -/
def isWordChar (c : Char) : Bool :=
  c.isAlphanum || c == '+' || c == '-' || c == '_' || c == '.' || c == ':'

/-- The value of a word. -/
def ofWord? (word : List Char) : Option Toml :=
  if word = ['t', 'r', 'u', 'e'] then some (.truth true)
  else if word = ['f', 'a', 'l', 's', 'e'] then some (.truth false)
  else if isInteger word || isFloat word then some (.number word)
  else if isTime word then some (.time word)
  else none

/-- Reads a word. After a date, one blank and a time of day belong to it. -/
def readWord (text : List Char) : Option (Toml × List Char) :=
  let word := text.takeWhile isWordChar
  let rest := text.dropWhile isWordChar
  match dropDate? word, rest with
  | some [], ' ' :: rest' =>
    let clock := rest'.takeWhile isWordChar
    if clock.isEmpty then some (.time word, rest)
    else (ofWord? (word ++ ' ' :: clock)).map fun value => (value, rest'.dropWhile isWordChar)
  | _, _ => (ofWord? word).map fun value => (value, rest)

end RouteTable.Toml
