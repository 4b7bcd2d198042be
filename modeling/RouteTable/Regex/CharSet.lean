import RouteTable.Text

/-!
# Character sets

A `CharSet` is a set of code points, kept as closed ranges in ascending order of which no two
touch, so equal sets have equal representations. Surrogates may lie inside a range; they are no
characters and so never tested.

* `insertRange` adds one range and keeps the order.
* `union`, `complement`, `inter`, `diff`, `symmDiff` are the set operations of bracketed classes.
* `ofRuns` reads the tables of the character database.
-/

namespace RouteTable.Regex

/-- A set of code points, as closed ranges in ascending order that do not touch. -/
structure CharSet where
  ranges : List (Nat × Nat)
  deriving DecidableEq, Repr

/-- The greatest code point. -/
def maxCodePoint : Nat := 0x10FFFF

/-- Adds `lo … hi` to ascending ranges, merging it with every range it meets or touches. -/
def insertRange : Nat → Nat → List (Nat × Nat) → List (Nat × Nat)
  | lo, hi, [] => [(lo, hi)]
  | lo, hi, (a, b) :: rest =>
    if hi + 1 < a then (lo, hi) :: (a, b) :: rest
    else if b + 1 < lo then (a, b) :: insertRange lo hi rest
    else insertRange (min lo a) (max hi b) rest

/-- The ranges between `next`, the given ranges and the greatest code point. -/
def gapsFrom : Nat → List (Nat × Nat) → List (Nat × Nat)
  | next, [] => if next ≤ maxCodePoint then [(next, maxCodePoint)] else []
  | next, (a, b) :: rest =>
    if next < a then (next, a - 1) :: gapsFrom (b + 1) rest else gapsFrom (b + 1) rest

/-- The hexadecimal numbers of a text, whatever separates them; `acc` is the one being read. -/
def hexNumbersFrom : Option Nat → List Char → List Nat
  | acc, [] => acc.toList
  | acc, c :: cs =>
    match Text.hexDigit? c with
    | some d => hexNumbersFrom (some (acc.getD 0 * 16 + d)) cs
    | none => acc.toList ++ hexNumbersFrom none cs

/-- The hexadecimal numbers of a text. -/
def hexNumbers (cs : List Char) : List Nat :=
  hexNumbersFrom none cs

namespace CharSet

/-- The set without members. -/
def empty : CharSet := ⟨[]⟩

/-- Every code point. -/
def all : CharSet := ⟨[(0, maxCodePoint)]⟩

/-- The code points `lo … hi`; none if `hi < lo`. -/
def ofRange (lo hi : Nat) : CharSet := ⟨if lo ≤ hi then [(lo, hi)] else []⟩

/-- The characters `lo … hi`. -/
def range (lo hi : Char) : CharSet := ofRange lo.toNat hi.toNat

/-- The set of one character. -/
def singleton (c : Char) : CharSet := ⟨[(c.toNat, c.toNat)]⟩

/-- Whether `c` is a member. -/
def contains (s : CharSet) (c : Char) : Bool :=
  s.ranges.any fun r => r.1 ≤ c.toNat && c.toNat ≤ r.2

/-- Whether the code point `n` is a member. -/
def containsCode (s : CharSet) (n : Nat) : Bool :=
  s.ranges.any fun r => r.1 ≤ n && n ≤ r.2

/-- Members of either set. -/
def union (s t : CharSet) : CharSet :=
  ⟨t.ranges.foldl (fun acc r => insertRange r.1 r.2 acc) s.ranges⟩

/-- The set of the given code points. -/
def ofCodes (codes : List Nat) : CharSet :=
  ⟨codes.foldl (fun acc n => insertRange n n acc) []⟩

/-- Every code point that is not a member. -/
def complement (s : CharSet) : CharSet := ⟨gapsFrom 0 s.ranges⟩

/-- Members of both sets. -/
def inter (s t : CharSet) : CharSet :=
  (s.complement.union t.complement).complement

/-- Members of the first set only. -/
def diff (s t : CharSet) : CharSet := s.inter t.complement

/-- Members of exactly one of the sets. -/
def symmDiff (s t : CharSet) : CharSet := (s.union t).diff (s.inter t)

/-- Whether every member is ASCII. -/
def isAscii (s : CharSet) : Bool := s.ranges.all fun r => r.2 ≤ 0x7F

/-- The only member, if there is exactly one. -/
def single? (s : CharSet) : Option Nat :=
  match s.ranges with
  | [(a, b)] => if a = b then some a else none
  | _ => none

/-- Ranges from the lengths of gaps and runs in turn, counted from the code point `start`. -/
def runsFrom (start : Nat) : List Nat → List (Nat × Nat)
  | gap :: run :: rest => (start + gap, start + gap + run - 1) :: runsFrom (start + gap + run) rest
  | _ => []

/-- Reads a table of the character database: in hexadecimal, the lengths of the gaps and of the
runs of a set, in turn. -/
def ofRuns (text : String) : CharSet := ⟨runsFrom 0 (hexNumbers text.toList)⟩

end CharSet

end RouteTable.Regex
