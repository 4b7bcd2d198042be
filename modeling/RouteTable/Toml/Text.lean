import RouteTable.Text

/-!
# Strings of TOML

Four forms: in double quotes with escapes, in single quotes without, and each of them over several
lines in three quotes. A line break in a text is a line feed, however it is written. Control
characters other than the tab are refused.

Every function reads up to the closing quotes and returns the text and the rest.
-/

namespace RouteTable.Toml

/-- Whether `c` may stand between keys and values on a line. -/
def isBlank (c : Char) : Bool := c == ' ' || c == '\t'

/-- Whether `c` may stand in a comment or in a text. -/
def isPlain (c : Char) : Bool := c == '\t' || (0x20 ≤ c.toNat && c.toNat != 0x7F)

/-- The character of a backslash and one letter. -/
def letterEscape? : Char → Option Char
  | '"' => some '"'
  | '\\' => some '\\'
  | 'b' => some '\x08'
  | 'f' => some '\x0c'
  | 'n' => some '\n'
  | 'r' => some '\r'
  | 't' => some '\t'
  | _ => none

/-- The character with the given number, which no half of a character has. -/
def charOf? (n : Nat) : Option Char :=
  if n < 0xD800 || (0xE000 ≤ n && n < 0x110000) then some (Char.ofNat n) else none

/-- The character of four hexadecimal digits. -/
def char4? (a b c d : Char) : Option Char := (Text.hex4? a b c d).bind charOf?

/-- The character of eight hexadecimal digits. -/
def char8? (a b c d e f g h : Char) : Option Char := do
  charOf? ((← Text.hex4? a b c d) * 0x10000 + (← Text.hex4? e f g h))

/-- Puts a character in front of a text that has been read. -/
def push (c : Char) (read : Option (List Char × List Char)) : Option (List Char × List Char) :=
  read.map fun (text, rest) => (c :: text, rest)

/-- Reads a text after its double quote. -/
def readBasic : List Char → Option (List Char × List Char)
  | [] => none
  | '"' :: rest => some ([], rest)
  | '\\' :: 'u' :: a :: b :: c :: d :: rest => do push (← char4? a b c d) (readBasic rest)
  | '\\' :: 'U' :: a :: b :: c :: d :: e :: f :: g :: h :: rest => do
    push (← char8? a b c d e f g h) (readBasic rest)
  | '\\' :: c :: rest => do push (← letterEscape? c) (readBasic rest)
  | c :: rest => if isPlain c && c != '\\' then push c (readBasic rest) else none

/-- Reads a text after its single quote. -/
def readLiteral : List Char → Option (List Char × List Char)
  | [] => none
  | '\'' :: rest => some ([], rest)
  | c :: rest => if isPlain c then push c (readLiteral rest) else none

/-- The end of a text over several lines, after three quotes: of further quotes, two belong to the
text. -/
def closeQuotes (quote : Char) : List Char → List Char × List Char
  | a :: b :: rest =>
    if a = quote then
      if b = quote then ([a, b], rest) else ([a], b :: rest)
    else ([], a :: b :: rest)
  | [a] => if a = quote then ([a], []) else ([], [a])
  | [] => ([], [])

/-- Whether a line ends here, blanks apart. -/
def atLineEnd (text : List Char) : Bool :=
  match text.dropWhile isBlank with
  | '\n' :: _ => true
  | '\r' :: '\n' :: _ => true
  | _ => false

/-- Reads a text after its three double quotes. A backslash at the end of a line takes away the line
break and all blanks and line breaks after it; `skipping` says that this goes on. -/
def readLongBasic (skipping : Bool) : List Char → Option (List Char × List Char)
  | [] => none
  | '"' :: '"' :: '"' :: rest => some (closeQuotes '"' rest)
  | '\r' :: '\n' :: rest =>
    if skipping then readLongBasic true rest else push '\n' (readLongBasic false rest)
  | '\\' :: 'u' :: a :: b :: c :: d :: rest => do
    push (← char4? a b c d) (readLongBasic false rest)
  | '\\' :: 'U' :: a :: b :: c :: d :: e :: f :: g :: h :: rest => do
    push (← char8? a b c d e f g h) (readLongBasic false rest)
  | '\\' :: c :: rest =>
    if atLineEnd (c :: rest) then readLongBasic true (c :: rest)
    else do push (← letterEscape? c) (readLongBasic false rest)
  | c :: rest =>
    if skipping && (isBlank c || c == '\n') then readLongBasic true rest
    else if (isPlain c && c != '\\') || c == '\n' then push c (readLongBasic false rest)
    else none

/-- Reads a text after its three single quotes. -/
def readLongLiteral : List Char → Option (List Char × List Char)
  | [] => none
  | '\'' :: '\'' :: '\'' :: rest => some (closeQuotes '\'' rest)
  | '\r' :: '\n' :: rest => push '\n' (readLongLiteral rest)
  | c :: rest => if isPlain c || c == '\n' then push c (readLongLiteral rest) else none

/-- The text after the line break that may follow three opening quotes. -/
def dropLineBreak : List Char → List Char
  | '\n' :: rest => rest
  | '\r' :: '\n' :: rest => rest
  | text => text

/-- Reads a text in any of the four forms. -/
def readText : List Char → Option (List Char × List Char)
  | '"' :: '"' :: '"' :: rest => readLongBasic false (dropLineBreak rest)
  | '"' :: rest => readBasic rest
  | '\'' :: '\'' :: '\'' :: rest => readLongLiteral (dropLineBreak rest)
  | '\'' :: rest => readLiteral rest
  | _ => none

end RouteTable.Toml
