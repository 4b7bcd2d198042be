import RouteTable.Toml.Scalar
import RouteTable.Toml.Text

/-!
# Reading TOML

Model of `toml::from_str`. A document is a list of lines: a key with its value, a header, a comment
or nothing. Values may go over several lines inside brackets and inside three quotes. No more than
`nestLimit` levels may nest, and no key may have as many parts.

`Toml.read?` is the only entry; the functions below it return what they have read and the rest of
the text.
-/

namespace RouteTable.Toml

/-- How deeply keys, arrays and inline tables must not nest. -/
def nestLimit : Nat := 80

/-- The text without the blanks in front. -/
def skipBlanks (text : List Char) : List Char := text.dropWhile isBlank

/-- The text after a line break. -/
def lineBreak? : List Char → Option (List Char)
  | '\n' :: rest => some rest
  | '\r' :: '\n' :: rest => some rest
  | _ => none

/-- The text after the end of a line, before which blanks and a comment may stand. The text may end
with the line. -/
def endLine? (text : List Char) : Option (List Char) :=
  let rest := match skipBlanks text with
    | '#' :: rest => rest.dropWhile isPlain
    | rest => rest
  if rest = [] then some [] else lineBreak? rest

/-- The text without blanks, comments and line breaks in front. -/
def skipSpace : Nat → List Char → List Char
  | 0, text => text
  | fuel + 1, text =>
    match skipBlanks text with
    | '#' :: rest => skipSpace fuel (rest.dropWhile isPlain)
    | rest =>
      match lineBreak? rest with
      | some rest => skipSpace fuel rest
      | none => rest

/-! ## Keys -/

/-- Whether `c` may stand in a key without quotes. -/
def isKeyChar (c : Char) : Bool := c.isAlphanum || c == '-' || c == '_'

/-- Reads one part of a key. -/
def readKeyPart (text : List Char) : Option (String × List Char) :=
  match text with
  | '"' :: rest => (readBasic rest).map fun (part, rest) => (String.ofList part, rest)
  | '\'' :: rest => (readLiteral rest).map fun (part, rest) => (String.ofList part, rest)
  | _ =>
    let part := text.takeWhile isKeyChar
    if part.isEmpty then none else some (String.ofList part, text.dropWhile isKeyChar)

/-- Reads the parts of a key, with dots between them and blanks around them. -/
def readKeyParts : Nat → List Char → Option (List String × List Char)
  | 0, _ => none
  | fuel + 1, text => do
    let (part, rest) ← readKeyPart (skipBlanks text)
    match skipBlanks rest with
    | '.' :: rest =>
      let (parts, rest) ← readKeyParts fuel rest
      return (part :: parts, rest)
    | rest => return ([part], rest)

/-- Reads a key. -/
def readKey (text : List Char) : Option (List String × List Char) :=
  (readKeyParts (text.length + 1) text).filter fun key => key.1.length < nestLimit

/-! ## Values -/

mutual

/-- Reads a value inside `depth` brackets and braces. -/
def readValue (depth : Nat) : Nat → List Char → Option (Toml × List Char)
  | 0, _ => none
  | fuel + 1, text =>
    match text with
    | '"' :: _ => (readText text).map fun (value, rest) => (.string (String.ofList value), rest)
    | '\'' :: _ => (readText text).map fun (value, rest) => (.string (String.ofList value), rest)
    | '[' :: rest =>
      if depth + 1 < nestLimit then
        match skipSpace rest.length rest with
        | ']' :: rest => some (.array [], rest)
        | rest => (readItems (depth + 1) fuel rest).map fun (items, rest) => (.array items, rest)
      else none
    | '\x7b' :: rest =>
      if depth + 1 < nestLimit then
        match skipBlanks rest with
        | '\x7d' :: rest => some (.inlineTable {} [], rest)
        | rest => do
          let (pairs, rest) ← readPairs (depth + 1) fuel rest
          return (← inlineOf? pairs, rest)
      else none
    | _ => readWord text

/-- Reads one or more items and the bracket that closes the array. -/
def readItems (depth : Nat) : Nat → List Char → Option (List Toml × List Char)
  | 0, _ => none
  | fuel + 1, text => do
    let (item, rest) ← readValue depth fuel text
    match skipSpace rest.length rest with
    | ',' :: rest =>
      match skipSpace rest.length rest with
      | ']' :: rest => return ([item], rest)
      | rest =>
        let (items, rest) ← readItems depth fuel rest
        return (item :: items, rest)
    | ']' :: rest => return ([item], rest)
    | _ => none

/-- Reads one or more pairs and the brace that closes the inline table. -/
def readPairs (depth : Nat) : Nat → List Char → Option (List (List String × Toml) × List Char)
  | 0, _ => none
  | fuel + 1, text => do
    let (key, rest) ← readKey text
    match rest with
    | '=' :: rest =>
      let (value, rest) ← readValue depth fuel (skipBlanks rest)
      match skipBlanks rest with
      | ',' :: rest =>
        let (pairs, rest) ← readPairs depth fuel rest
        return ((key, value) :: pairs, rest)
      | '\x7d' :: rest => return ([(key, value)], rest)
      | _ => none
    | _ => none

end

/-! ## Lines -/

/-- Reads a header up to the end of its line. -/
def readHeader (text : List Char) : Option (Bool × List String × List Char) :=
  match text with
  | '[' :: '[' :: rest => do
    let (key, rest) ← readKey rest
    match rest with
    | ']' :: ']' :: rest => return (true, key, ← endLine? rest)
    | _ => none
  | '[' :: rest => do
    let (key, rest) ← readKey rest
    match rest with
    | ']' :: rest => return (false, key, ← endLine? rest)
    | _ => none
  | _ => none

/-- Reads a key and its value up to the end of their line. -/
def readPair (text : List Char) : Option (List String × Toml × List Char) := do
  let (key, rest) ← readKey text
  match rest with
  | '=' :: rest =>
    let (value, rest) ← readValue 0 (2 * rest.length + 2) (skipBlanks rest)
    return (key, value, ← endLine? rest)
  | _ => none

/-- Reads lines up to the end of the text. -/
def readLines : Nat → List Char → Document → Option Document
  | 0, _, _ => none
  | fuel + 1, text, d =>
    match skipBlanks text with
    | [] => some d
    | '[' :: rest => do
      let (isElement, key, rest) ← readHeader ('[' :: rest)
      readLines fuel rest (← if isElement then d.openElement? key else d.openTable? key)
    | c :: rest =>
      if c = '#' || c = '\n' || c = '\r' then do
        readLines fuel (← endLine? (c :: rest)) d
      else do
        let (key, value, rest) ← readPair (c :: rest)
        readLines fuel rest (← d.addPair? key value)

/-- The entries of the document that a text holds. A byte order mark in front is skipped. -/
def read? (text : String) : Option Entries :=
  let text := match text.toList with
    | '\uFEFF' :: rest => rest
    | text => text
  (readLines (text.length + 1) text .empty).bind Document.close?

end RouteTable.Toml
