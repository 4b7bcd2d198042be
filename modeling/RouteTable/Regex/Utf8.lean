import RouteTable.Regex.CharSet

/-!
# Character ranges as byte ranges

A range of code points is the union of products of byte ranges: in UTF-8, every way to choose one
byte from each factor encodes a member. `byteRanges` splits a range into such products, in
ascending order; an automaton over bytes matches a character by walking along one of them.
-/

namespace RouteTable.Regex

/-- The UTF-8 encoding of a code point. -/
def encodeUtf8 (n : Nat) : List Nat :=
  if n ≤ 0x7F then [n]
  else if n ≤ 0x7FF then [0xC0 + n / 0x40, 0x80 + n % 0x40]
  else if n ≤ 0xFFFF then [0xE0 + n / 0x1000, 0x80 + n / 0x40 % 0x40, 0x80 + n % 0x40]
  else [0xF0 + n / 0x40000, 0x80 + n / 0x1000 % 0x40, 0x80 + n / 0x40 % 0x40, 0x80 + n % 0x40]

/-- Closed ranges of bytes, one for each byte of an encoding. -/
abbrev ByteRanges := List (Nat × Nat)

/-- The greatest code points with encodings of one, two and three bytes. -/
def encodingBounds : List Nat := [0x7F, 0x7FF, 0xFFFF]

/-- The place where a range must be cut so that its parts agree in more leading bytes, for trailing
blocks of `64`, `64 ^ 2` and `64 ^ 3` code points. -/
def blockCut? (lo hi : Nat) : List Nat → Option Nat
  | [] => none
  | block :: blocks =>
    if lo / block = hi / block then blockCut? lo hi blocks
    else if lo % block ≠ 0 then some ((lo / block + 1) * block)
    else if hi % block ≠ block - 1 then some (hi / block * block)
    else blockCut? lo hi blocks

/-- Splits the code points `lo … hi`, surrogates left out, into products of byte ranges. -/
def byteRangesFrom : Nat → Nat → Nat → List ByteRanges
  | 0, _, _ => []
  | fuel + 1, lo, hi =>
    if hi < lo then []
    else if lo < 0xE000 ∧ 0xD7FF < hi then
      byteRangesFrom fuel lo 0xD7FF ++ byteRangesFrom fuel 0xE000 hi
    else
      match encodingBounds.find? fun m => lo ≤ m && m < hi with
      | some m => byteRangesFrom fuel lo m ++ byteRangesFrom fuel (m + 1) hi
      | none =>
        if hi ≤ 0x7F then [[(lo, hi)]]
        else
          match blockCut? lo hi [0x40, 0x1000, 0x40000] with
          | some cut => byteRangesFrom fuel lo (cut - 1) ++ byteRangesFrom fuel cut hi
          | none => [(encodeUtf8 lo).zip (encodeUtf8 hi)]

/-- The products of byte ranges of a set, in ascending order. A range is cut fewer than 32 times on
the way to any of its parts. -/
def CharSet.byteRanges (s : CharSet) : List ByteRanges :=
  s.ranges.flatMap fun r => byteRangesFrom 32 r.1 r.2

end RouteTable.Regex
