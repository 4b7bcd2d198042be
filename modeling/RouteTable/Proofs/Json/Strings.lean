import RouteTable.Json.Reader

/-!
# Strings in quotes

A text that is escaped, put in quotes and read again is the same text, whatever its characters are.

* `escapeChar_cases`: the three ways in which a character is written.
* `unescape?_escape`: reading what `escape` has written gives the text back.
* `readString_escape`: the quote behind an escaped text is the first that is not escaped.
* `escape_eq_self`: a text of ordinary characters is written as it is.
-/

namespace RouteTable.Json

/-! ## Ways of writing a character -/

/-- Whether `c` is written as it is. -/
def isOrdinary (c : Char) : Bool := c != '"' && c != '\\' && 0x20 ≤ c.toNat

theorem isOrdinary_iff {c : Char} :
    isOrdinary c = true ↔ c ≠ '"' ∧ c ≠ '\\' ∧ 0x20 ≤ c.toNat := by
  simp [isOrdinary, and_assoc]

/-- The four digits of a control character have its value. -/
theorem hex4?_hexDigit {n : Nat} (h : n < 0x20) :
    Text.hex4? '0' '0' (Text.hexDigit (n / 16)) (Text.hexDigit (n % 16)) = some n := by
  have hzero : Text.hexDigit? '0' = some 0 := by decide
  have hhigh := Text.hexDigit?_hexDigit (n := n / 16) (by omega)
  have hlow := Text.hexDigit?_hexDigit (n := n % 16) (by omega)
  simp only [Text.hex4?, hzero, hhigh, hlow, Option.bind_eq_bind, Option.bind_some]
  exact congrArg some (by omega)

/-- A character is written with a letter, with four digits or as it is. -/
theorem escapeChar_cases (c : Char) :
    (∃ d, escapeChar c = ['\\', d] ∧ letterEscape? d = some c) ∨
      (∃ a b, escapeChar c = ['\\', 'u', '0', '0', a, b] ∧ c.toNat < 0x20 ∧
        Text.hex4? '0' '0' a b = some c.toNat) ∨
      (escapeChar c = [c] ∧ isOrdinary c = true) := by
  have letter : ∀ d e, c = e → letterEscape? d = some e →
      ∃ d', ['\\', d] = ['\\', d'] ∧ letterEscape? d' = some c := by
    rintro d e rfl h
    exact ⟨d, rfl, h⟩
  unfold escapeChar
  split
  · exact Or.inl (letter '"' _ ‹_› rfl)
  rename_i hquote
  split
  · exact Or.inl (letter '\\' _ ‹_› rfl)
  rename_i hbackslash
  split
  · exact Or.inl (letter 'b' _ ‹_› rfl)
  split
  · exact Or.inl (letter 't' _ ‹_› rfl)
  split
  · exact Or.inl (letter 'n' _ ‹_› rfl)
  split
  · exact Or.inl (letter 'f' _ ‹_› rfl)
  split
  · exact Or.inl (letter 'r' _ ‹_› rfl)
  split
  · rename_i hlow
    exact Or.inr (Or.inl ⟨_, _, rfl, hlow, hex4?_hexDigit hlow⟩)
  · rename_i hlow
    exact Or.inr (Or.inr ⟨rfl, isOrdinary_iff.mpr ⟨hquote, hbackslash, Nat.not_lt.mp hlow⟩⟩)

theorem escapeChar_of_isOrdinary {c : Char} (h : isOrdinary c = true) : escapeChar c = [c] := by
  obtain ⟨hquote, hbackslash, hlow⟩ := isOrdinary_iff.mp h
  have hcontrol : ∀ d : Char, d.toNat < 0x20 → c ≠ d := by
    rintro d hd rfl
    exact absurd hd (Nat.not_lt.mpr hlow)
  rw [escapeChar, if_neg hquote, if_neg hbackslash, if_neg (hcontrol _ (by decide)),
    if_neg (hcontrol _ (by decide)), if_neg (hcontrol _ (by decide)),
    if_neg (hcontrol _ (by decide)), if_neg (hcontrol _ (by decide)), if_neg (Nat.not_lt.mpr hlow)]

/-- A text of ordinary characters is written as it is. -/
theorem escape_eq_self {text : List Char} (h : ∀ c ∈ text, isOrdinary c = true) :
    escape text = text := by
  induction text with
  | nil => rfl
  | cons c text ih =>
    rw [List.forall_mem_cons] at h
    rw [escape, List.flatMap_cons, escapeChar_of_isOrdinary h.1, ← escape, ih h.2]
    rfl

theorem ne_of_letterEscape? {d c : Char} (h : letterEscape? d = some c) : d ≠ 'u' := by
  rintro rfl
  exact absurd h (by simp [letterEscape?])

/-! ## Reading escaped texts -/

/-- What is written for a character is read as that character. -/
theorem unescape?_escapeChar (c : Char) (rest : List Char) :
    unescape? (escapeChar c ++ rest) = (unescape? rest).map (c :: ·) := by
  rcases escapeChar_cases c with ⟨d, hesc, hletter⟩ | ⟨a, b, hesc, hlow, hdigits⟩ | ⟨hesc, hc⟩
  · rw [hesc, List.cons_append, List.cons_append, List.nil_append, unescape?, hletter]
    · cases unescape? rest <;> rfl
    · rintro _ _ _ _ _ heq
      exact absurd heq (ne_of_letterEscape? hletter)
  · have hlowHalf : isLowHalf c.toNat = false := by
      rw [isLowHalf, decide_eq_false (by omega), Bool.false_and]
    have hhighHalf : isHighHalf c.toNat = false := by
      rw [isHighHalf, decide_eq_false (by omega), Bool.false_and]
    rw [hesc]
    simp only [List.cons_append, List.nil_append]
    rw [unescape?, hdigits]
    simp only [hlowHalf, hhighHalf, Bool.false_eq_true, if_false, Char.ofNat_toNat,
      Option.bind_eq_bind, Option.bind_some]
    cases unescape? rest <;> rfl
  · obtain ⟨-, hbackslash, -⟩ := isOrdinary_iff.mp hc
    rw [hesc, List.cons_append, List.nil_append, unescape?]
    · rintro _ _ _ _ _ heq
      exact absurd heq hbackslash
    · rintro _ _ heq
      exact absurd heq hbackslash

/-- Reading what has been written gives the text back. -/
theorem unescape?_escape (text : List Char) : unescape? (escape text) = some text := by
  induction text with
  | nil => rfl
  | cons c text ih =>
    rw [escape, List.flatMap_cons, unescape?_escapeChar, ← escape, ih, Option.map_some]

/-- What is written for a character stands inside of a string. -/
theorem readString_escapeChar (c : Char) (rest : List Char) :
    readString (escapeChar c ++ rest) =
      (readString rest).map fun (source, rest) => (escapeChar c ++ source, rest) := by
  rcases escapeChar_cases c with ⟨d, hesc, hletter⟩ | ⟨a, b, hesc, hlow, hdigits⟩ | ⟨hesc, hc⟩
  · rw [hesc, List.cons_append, List.cons_append, List.nil_append, readString, hletter]
    · cases readString rest <;> rfl
    · rintro _ _ _ _ _ heq
      exact absurd heq (ne_of_letterEscape? hletter)
  · rw [hesc]
    simp only [List.cons_append, List.nil_append]
    rw [readString, hdigits]
    cases readString rest <;> rfl
  · obtain ⟨hquote, hbackslash, hlow⟩ := isOrdinary_iff.mp hc
    rw [hesc, List.cons_append, List.nil_append, readString]
    · simp only [Nat.not_lt.mpr hlow, hbackslash, decide_false, Bool.false_or, beq_iff_eq,
        if_false]
      cases readString rest <;> rfl
    · exact hquote
    · rintro _ _ _ _ _ heq
      exact absurd heq hbackslash
    · rintro _ _ heq
      exact absurd heq hbackslash

/-- An escaped text is read up to the quote that closes it. -/
theorem readString_escape (text rest : List Char) :
    readString (escape text ++ '"' :: rest) = some (escape text, rest) := by
  induction text with
  | nil => rfl
  | cons c text ih =>
    rw [escape, List.flatMap_cons, List.append_assoc, readString_escapeChar, ← escape, ih]
    rfl

end RouteTable.Json
