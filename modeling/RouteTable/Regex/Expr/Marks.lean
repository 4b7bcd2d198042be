/-!
# Sets of rounds and places

Which places a walk has come to after which number of rounds, as the bits of one number: every round
has as many bits as there are places.

* `Marks.contains_add` says what `Marks.add` does to membership.
-/

namespace RouteTable.Regex

/-- A set of pairs of a round and a place; places are below `width`. -/
structure Marks where
  width : Nat
  bits : Nat
  deriving DecidableEq, Repr

namespace Marks

/-- The set without members. -/
def empty (width : Nat) : Marks := ⟨width, 0⟩

/-- Whether the place `pos` after `round` rounds is in the set. -/
def contains (m : Marks) (round pos : Nat) : Bool := m.bits.testBit (m.width * round + pos)

/-- The set with the place `pos` after `round` rounds. -/
def add (m : Marks) (round pos : Nat) : Marks :=
  { m with bits := m.bits ||| 1 <<< (m.width * round + pos) }

@[simp]
theorem contains_empty (width round pos : Nat) : (empty width).contains round pos = false := by
  simp [contains, empty]

theorem contains_add {m : Marks} {a p b q : Nat} (hp : p < m.width) (hq : q < m.width) :
    (m.add a p).contains b q = true ↔ (a = b ∧ p = q) ∨ m.contains b q = true := by
  have index : m.width * a + p = m.width * b + q ↔ a = b ∧ p = q := by
    constructor
    · intro h
      have hd := congrArg (· / m.width) h
      have hm := congrArg (· % m.width) h
      simp only [Nat.mul_add_div (Nat.zero_lt_of_lt hp), Nat.div_eq_of_lt hp, Nat.div_eq_of_lt hq,
        Nat.mul_add_mod, Nat.mod_eq_of_lt hp, Nat.mod_eq_of_lt hq, Nat.add_zero] at hd hm
      exact ⟨hd, hm⟩
    · rintro ⟨rfl, rfl⟩
      rfl
  simp only [contains, add, Nat.testBit_or, Nat.one_shiftLeft, Nat.testBit_two_pow,
    Bool.or_eq_true, decide_eq_true_eq, index]
  exact or_comm

end Marks

end RouteTable.Regex
