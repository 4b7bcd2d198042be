import RouteTable.Text

/-!
# JSON values

A JSON text as a tree. Numbers and strings are kept as they are written, and are decoded by whoever
needs them: what is skipped need not be decodable.

* `Json.escape` writes a text as the inside of a JSON string, and `Json.unescape?` reads one.
-/

namespace RouteTable

/-- A JSON value. Of strings and keys it holds what stands between the quotes. -/
inductive Json where
  | null
  | bool (value : Bool)
  | number (source : List Char)
  | string (source : List Char)
  | array (items : List Json)
  | object (members : List (List Char × Json))
  deriving Repr

namespace Json

/-! ## Strings -/

/-- How a character is written in a string: quotes, backslashes and control characters with a
backslash in front, all others as they are. -/
def escapeChar (c : Char) : List Char :=
  if c = '"' then ['\\', '"']
  else if c = '\\' then ['\\', '\\']
  else if c = '\x08' then ['\\', 'b']
  else if c = '\t' then ['\\', 't']
  else if c = '\n' then ['\\', 'n']
  else if c = '\x0c' then ['\\', 'f']
  else if c = '\r' then ['\\', 'r']
  else if c.toNat < 0x20 then
    ['\\', 'u', '0', '0', Text.hexDigit (c.toNat / 16), Text.hexDigit (c.toNat % 16)]
  else [c]

/-- A text as the inside of a string. -/
def escape (text : List Char) : List Char := text.flatMap escapeChar

/-- The character of a backslash and one letter. -/
def letterEscape? : Char → Option Char
  | '"' => some '"'
  | '\\' => some '\\'
  | '/' => some '/'
  | 'b' => some '\x08'
  | 'f' => some '\x0c'
  | 'n' => some '\n'
  | 'r' => some '\r'
  | 't' => some '\t'
  | _ => none

/-- Whether `n` is the first half of a character beyond U+FFFF. -/
def isHighHalf (n : Nat) : Bool := 0xD800 ≤ n && n ≤ 0xDBFF

/-- Whether `n` is the second half of a character beyond U+FFFF. -/
def isLowHalf (n : Nat) : Bool := 0xDC00 ≤ n && n ≤ 0xDFFF

/-- The character of two halves. -/
def joinHalves (high low : Nat) : Char :=
  Char.ofNat (0x10000 + (high - 0xD800) * 0x400 + (low - 0xDC00))

/-- Reads the inside of a string; none if half of a character stands alone. -/
def unescape? : List Char → Option (List Char)
  | [] => some []
  | '\\' :: 'u' :: a :: b :: c :: d :: rest => do
    let n ← Text.hex4? a b c d
    if isLowHalf n then none
    else if isHighHalf n then
      match rest with
      | '\\' :: 'u' :: a :: b :: c :: d :: rest => do
        let low ← Text.hex4? a b c d
        if isLowHalf low then return joinHalves n low :: (← unescape? rest) else none
      | _ => none
    else return Char.ofNat n :: (← unescape? rest)
  | '\\' :: c :: rest => do return (← letterEscape? c) :: (← unescape? rest)
  | c :: rest => (unescape? rest).map (c :: ·)

/-- The value of a text. -/
def ofString (text : String) : Json := .string (escape text.toList)

/-- The text of a string. -/
def toString? : Json → Option String
  | .string source => (unescape? source).map String.ofList
  | _ => none

end Json

end RouteTable
