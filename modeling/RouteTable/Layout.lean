/-!
# The layout of chunks

Model of `chunk_layout` (`compiler::chunk`). Patterns are matched in chunks of about ten. The number
of chunks is computed in binary floating point with 53 significant bits, which for large counts is
not exact.

* `roundToEven` rounds a quotient to the nearest natural number, a half to the even neighbour.
* `Ratio.toDouble` rounds a ratio to 53 significant bits.
* `chunkLayout` is the number of chunks and the number of patterns in each.
-/

namespace RouteTable

/-- A non-negative ratio. -/
structure Ratio where
  num : Nat
  den : Nat
  deriving DecidableEq, Repr

/-- The natural number nearest to `num / den`; a half goes to the even neighbour. -/
def roundToEven (num den : Nat) : Nat :=
  let q := num / den
  let r := num % den
  if 2 * r < den then q
  else if den < 2 * r then q + 1
  else if q % 2 = 0 then q else q + 1

/-- The natural number nearest to `num / den`; a half goes up. -/
def roundHalfUp (num den : Nat) : Nat := (2 * num + den) / (2 * den)

/-- The bits of a significand. -/
def significandBits : Nat := 53

/-- The ratio nearest to `x` with 53 significant bits. It is scaled by a power of two to lie between
2^52 and 2^53, rounded, and scaled back. -/
def Ratio.toDouble (x : Ratio) : Ratio :=
  if x.num = 0 then ⟨0, 1⟩
  else
    let scaled (up down : Nat) : Ratio := ⟨x.num * Nat.pow 2 up, x.den * Nat.pow 2 down⟩
    let below := x.den.log2 + significandBits
    let above := x.num.log2
    let (up, down) := (below - above, above - below)
    let y := scaled up down
    let (up, down) :=
      if y.num < y.den * Nat.pow 2 significandBits then (up, down)
      else if 0 < up then (up - 1, down) else (up, down + 1)
    let y := scaled up down
    ⟨roundToEven y.num y.den * Nat.pow 2 down, Nat.pow 2 up⟩

/-- The ratio `x / n`. -/
def Ratio.divide (x : Ratio) (n : Nat) : Ratio := ⟨x.num, x.den * n⟩

/-- The number of patterns a chunk should have. -/
def approximateChunkSize : Nat := 10

/-- The number of chunks for `count` patterns, and the number of patterns in each but the last. -/
def chunkLayout (count : Nat) : Nat × Nat :=
  if count = 0 then (0, 0)
  else
    let quotient := ((Ratio.mk count 1).toDouble.divide approximateChunkSize).toDouble
    let parts := max 1 (roundHalfUp quotient.num quotient.den)
    (parts, (count + parts - 1) / parts)

end RouteTable
