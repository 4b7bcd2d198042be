import RouteTable.Regex.Ast
import RouteTable.Regex.Unicode.Age
import RouteTable.Regex.Unicode.Binary
import RouteTable.Regex.Unicode.CaseFold
import RouteTable.Regex.Unicode.Category
import RouteTable.Regex.Unicode.Script
import RouteTable.Regex.Unicode.ScriptExtension
import RouteTable.Regex.Unicode.Segment

/-!
# Character classes by name

The sets that `\p`, `\d`, `\s`, `\w` and the classes `[:name:]` stand for, and the closure of a set
under case.

* `PropertyQuery.chars?` answers a query about a character property. A name that stands alone is
  a binary property, a category or a script, in this order.
* `CharSet.foldCase` adds to a set every character equal to a member up to case.
-/

namespace RouteTable.Regex

open Unicode

/-! ## Properties -/

/-- The groups of categories and their parts. -/
def categoryGroups : List (List String × List String) := [
  (["lc", "casedletter"], ["lu", "ll", "lt"]),
  (["l", "letter"], ["lu", "ll", "lt", "lm", "lo"]),
  (["m", "mark", "combiningmark"], ["mn", "mc", "me"]),
  (["n", "number"], ["nd", "nl", "no"]),
  (["p", "punctuation", "punct"], ["pc", "pd", "ps", "pe", "pi", "pf", "po"]),
  (["s", "symbol"], ["sm", "sc", "sk", "so"]),
  (["z", "separator"], ["zs", "zl", "zp"]),
  (["c", "other"], ["cc", "cf", "co", "cn"])]

/-- The union of single categories. -/
def unionOfCategories (names : List String) : CharSet :=
  names.foldl (fun s name => s.union ((lookup? categories name).getD .empty)) .empty

/-- The characters of a general category, of a group of categories, or of one of the three names
that are used like categories. -/
def category? (name : String) : Option CharSet :=
  match name with
  | "any" => some .all
  | "ascii" => some (.ofRange 0 0x7F)
  | "assigned" => (lookup? categories "unassigned").map .complement
  | _ =>
    match categoryGroups.find? fun g => g.1.contains name with
    | some g => some (unionOfCategories g.2)
    | none => lookup? categories name

/-- The characters assigned up to and with a version of the standard. -/
def assignedBy? (version : String) : Option CharSet :=
  (ages.findIdx? fun v => v.names.contains version).map fun i =>
    (ages.take (i + 1)).foldl (fun s v => s.union v.set) .empty

/-- The characters for which the property `name` has the value `value`. -/
def valueOfProperty? (name value : String) : Option CharSet :=
  match name with
  | "gc" | "generalcategory" => category? value
  | "sc" | "script" => lookup? scripts value
  | "scx" | "scriptextensions" => (lookup? scriptExtensions value).or (lookup? scripts value)
  | "age" => assignedBy? value
  | "gcb" | "graphemeclusterbreak" => lookup? graphemeBreaks value
  | "wb" | "wordbreak" => lookup? wordBreaks value
  | "sb" | "sentencebreak" => lookup? sentenceBreaks value
  | _ => none

/-- Names of categories that are also abbreviations of other properties. -/
def categoryFirst : List String := ["cf", "sc", "lc"]

/-- The set a query describes. -/
def PropertyQuery.chars? : PropertyQuery → Option CharSet
  | .named name =>
    let name := normalize name
    let binary := if categoryFirst.contains name then none else lookup? binaryProperties name
    (binary.or (category? name)).or (lookup? scripts name)
  | .valued name value differs =>
    (valueOfProperty? (normalize name) (normalize value)).map fun s =>
      if differs then s.complement else s

/-! ## Classes with a letter or a name -/

/-- The ASCII digits. -/
def asciiDigits : CharSet := .range '0' '9'

/-- ASCII letters, digits and the underscore. -/
def asciiWordChars : CharSet :=
  ⟨[(0x30, 0x39), (0x41, 0x5A), (0x5F, 0x5F), (0x61, 0x7A)]⟩

/-- The ASCII blanks. -/
def asciiSpaces : CharSet := ⟨[(9, 13), (0x20, 0x20)]⟩

/-- Decimal digits of every script. -/
def digitChars : CharSet := (lookup? categories "nd").getD .empty

/-- White space. -/
def spaceChars : CharSet := (lookup? binaryProperties "whitespace").getD .empty

/-- Characters of words: alphabetic characters, marks, decimal digits, connecting punctuation and
join controls. -/
def wordChars : CharSet :=
  ((unionOfCategories ["mn", "mc", "me", "nd", "pc"]).union
      ((lookup? binaryProperties "joincontrol").getD .empty)).union
    ((lookup? binaryProperties "alphabetic").getD .empty)

/-- The set of `\d`, `\s` or `\w`. -/
def PerlClass.chars (unicode : Bool) : PerlClass → CharSet
  | .digit => if unicode then digitChars else asciiDigits
  | .space => if unicode then spaceChars else asciiSpaces
  | .word => if unicode then wordChars else asciiWordChars

/-- The set of a class `[:name:]`, which is ASCII. -/
def PosixClass.chars : PosixClass → CharSet
  | .alnum => ⟨[(0x30, 0x39), (0x41, 0x5A), (0x61, 0x7A)]⟩
  | .alpha => ⟨[(0x41, 0x5A), (0x61, 0x7A)]⟩
  | .ascii => .ofRange 0 0x7F
  | .blank => ⟨[(9, 9), (0x20, 0x20)]⟩
  | .cntrl => ⟨[(0, 0x1F), (0x7F, 0x7F)]⟩
  | .digit => asciiDigits
  | .graph => .range '!' '~'
  | .lower => .range 'a' 'z'
  | .print => .range ' ' '~'
  | .punct => ⟨[(0x21, 0x2F), (0x3A, 0x40), (0x5B, 0x60), (0x7B, 0x7E)]⟩
  | .space => asciiSpaces
  | .upper => .range 'A' 'Z'
  | .word => asciiWordChars
  | .xdigit => ⟨[(0x30, 0x39), (0x41, 0x46), (0x61, 0x66)]⟩

/-! ## Case -/

/-- The code points equal to `n` up to case, itself included. -/
def sameUpToCase (n : Nat) : List Nat :=
  (orbits.find? fun o => o.contains n).getD [n]

/-- The characters equal to a member of `s` up to case. -/
def CharSet.foldCase (s : CharSet) : CharSet :=
  s.union (.ofCodes ((orbits.filter fun o => o.any s.containsCode).flatten))

/-- The characters equal to a member of `s` up to the case of ASCII letters. -/
def CharSet.foldAsciiCase (s : CharSet) : CharSet :=
  let letters := (List.range 26).flatMap fun i =>
    if s.containsCode (0x41 + i) || s.containsCode (0x61 + i) then [0x41 + i, 0x61 + i] else []
  s.union (.ofCodes letters)

end RouteTable.Regex
