import RouteTable.Json.Printer
import RouteTable.Proofs.Json.Strings

/-!
# Reading what is printed

A tree without numbers whose strings and keys are escaped texts is read back from its print. There
is no condition on what follows the print: each kind of value shows its own end.

* `readValue_print`: the print of a value is read to that value, and to its end.
* `read?_pretty`: the text of a value holds that value.
-/

namespace RouteTable.Json

/-- A tree without numbers whose strings and keys are escaped texts. -/
inductive Escaped : Json → Prop
  | null : Escaped .null
  | bool (value : Bool) : Escaped (.bool value)
  | string (text : List Char) : Escaped (.string (escape text))
  | array {items : List Json} (hitems : ∀ item ∈ items, Escaped item) : Escaped (.array items)
  | object {members : List (List Char × Json)} (hkeys : ∀ m ∈ members, ∃ text, m.1 = escape text)
      (hvalues : ∀ m ∈ members, Escaped m.2) : Escaped (.object members)

/-! ## Blanks -/

theorem skipBlanks_cons {c : Char} (h : isBlank c = false) (text : List Char) :
    skipBlanks (c :: text) = c :: text :=
  List.dropWhile_cons_of_neg (by simp [h])

section Skip

variable {blanks : List Char} (hblanks : ∀ c ∈ blanks, isBlank c = true)

include hblanks

theorem skipBlanks_append (text : List Char) : skipBlanks (blanks ++ text) = skipBlanks text :=
  List.dropWhile_append_of_pos hblanks

theorem readValue_append (fuel : Nat) (text : List Char) :
    readValue fuel (blanks ++ text) = readValue fuel text := by
  cases fuel with
  | zero => rfl
  | succ fuel => rw [readValue, readValue, skipBlanks_append hblanks]

theorem readItems_append (fuel : Nat) (text : List Char) :
    readItems fuel (blanks ++ text) = readItems fuel text := by
  cases fuel with
  | zero => rfl
  | succ fuel => rw [readItems, readItems, readValue_append hblanks]

theorem readMembers_append (fuel : Nat) (text : List Char) :
    readMembers fuel (blanks ++ text) = readMembers fuel text := by
  cases fuel with
  | zero => rfl
  | succ fuel => rw [readMembers, readMembers, skipBlanks_append hblanks]

end Skip

theorem isBlank_of_mem_newLine {depth : Nat} : ∀ c ∈ newLine depth, isBlank c = true := by
  intro c hc
  rcases List.mem_cons.mp hc with rfl | hc
  · rfl
  · rw [List.eq_of_mem_replicate hc]
    rfl

/-- A print starts with a character of its own, which does not close an array. -/
theorem exists_print_eq_cons {value : Json} (h : value.Escaped) (depth : Nat) :
    ∃ c cs, print depth value = c :: cs ∧ isBlank c = false ∧ c ≠ ']' := by
  cases h with
  | null => exact ⟨'n', _, rfl, by decide, by decide⟩
  | bool value => cases value <;> exact ⟨_, _, rfl, by decide, by decide⟩
  | string text => exact ⟨'"', _, rfl, by decide, by decide⟩
  | @array items _ => cases items <;> exact ⟨'[', _, rfl, by decide, by decide⟩
  | @object members _ _ =>
    cases members with
    | nil => exact ⟨'\x7b', _, rfl, by decide, by decide⟩
    | cons m members => exact ⟨'\x7b', _, rfl, by decide, by decide⟩

theorem length_print_pos {value : Json} (h : value.Escaped) (depth : Nat) :
    0 < (print depth value).length := by
  obtain ⟨c, cs, hprint, -⟩ := exists_print_eq_cons h depth
  rw [hprint]
  exact Nat.succ_pos _

/-! ## Values -/

theorem readString_quoted (text rest : List Char) :
    readString (escape text ++ ['"'] ++ rest) = some (escape text, rest) := by
  rw [List.append_assoc]
  exact readString_escape text rest

mutual

/-- The print of a value is read to that value, and to its end. -/
theorem readValue_print {value : Json} {depth fuel : Nat} {rest : List Char} (h : value.Escaped)
    (hfuel : (print depth value).length ≤ fuel + 1) :
    readValue (fuel + 1) (print depth value ++ rest) = some (value, rest) := by
  cases h with
  | null => rfl
  | bool value => cases value <;> rfl
  | string text =>
    rw [print, quoted, List.cons_append, readValue, skipBlanks_cons (by decide)]
    simp only [readString_quoted, Option.map_some]
  | @array items hitems =>
    match items with
    | [] => rfl
    | item :: items =>
      rw [List.forall_mem_cons] at hitems
      obtain ⟨c, cs, hprint, hblank, hc⟩ := exists_print_eq_cons hitems.1 (depth + 1)
      simp only [print, List.length_cons, List.length_append] at hfuel
      obtain ⟨fuel, rfl⟩ : ∃ n, fuel = n + 1 := ⟨fuel - 1, by omega⟩
      have hinner := @readItems_print item items (depth + 1) depth fuel rest hitems.1 hitems.2
        (by omega)
      simp only [print, List.cons_append, List.append_assoc, List.nil_append]
      rw [readValue, skipBlanks_cons (by decide)]
      simp only [skipBlanks_append isBlank_of_mem_newLine]
      rw [hprint, List.cons_append] at hinner ⊢
      rw [skipBlanks_cons hblank]
      split
      · rename_i heq
        exact absurd (List.cons.inj heq).1 hc
      · rw [hinner]
        rfl
  | @object members hkeys hvalues =>
    match members with
    | [] => rfl
    | (key, value) :: members =>
      rw [List.forall_mem_cons] at hkeys hvalues
      simp only [print, List.length_cons, List.length_append] at hfuel
      obtain ⟨fuel, rfl⟩ : ∃ n, fuel = n + 1 := ⟨fuel - 1, by omega⟩
      have hinner := @readMembers_print key value members (depth + 1) depth fuel rest hkeys.1
        hvalues.1 hkeys.2 hvalues.2 (by omega)
      simp only [print, List.cons_append, List.append_assoc, List.nil_append]
      rw [readValue, skipBlanks_cons (by decide)]
      simp only [skipBlanks_append isBlank_of_mem_newLine]
      rw [quoted, List.cons_append] at hinner ⊢
      rw [skipBlanks_cons (by decide)]
      change Option.map _ (readMembers (fuel + 1) _) = _
      rw [hinner]
      rfl
termination_by fuel

/-- The items of an array are read up to the bracket that closes it. -/
theorem readItems_print {item : Json} {items : List Json} {depth outer fuel : Nat}
    {rest : List Char} (hitem : item.Escaped) (hitems : ∀ i ∈ items, Escaped i)
    (hfuel : (print depth item).length + (printItems depth items).length ≤ fuel) :
    readItems (fuel + 1)
      (print depth item ++ (printItems depth items ++ (newLine outer ++ ']' :: rest))) =
        some (item :: items, rest) := by
  have hpos := length_print_pos hitem depth
  obtain ⟨fuel, rfl⟩ : ∃ n, fuel = n + 1 := ⟨fuel - 1, by omega⟩
  rw [readItems, readValue_print hitem (by omega)]
  simp only [Option.bind_eq_bind, Option.bind_some]
  match items with
  | [] =>
    rw [printItems, List.nil_append, skipBlanks_append isBlank_of_mem_newLine,
      skipBlanks_cons (by decide)]
    rfl
  | i :: items =>
    rw [List.forall_mem_cons] at hitems
    simp only [printItems, List.length_cons, List.length_append] at hfuel
    have hinner := @readItems_print i items depth outer fuel rest hitems.1 hitems.2 (by omega)
    simp only [printItems, List.cons_append, List.append_assoc]
    rw [skipBlanks_cons (by decide)]
    simp only [readItems_append isBlank_of_mem_newLine, hinner]
    rfl
termination_by fuel

/-- The members of an object are read up to the brace that closes it. -/
theorem readMembers_print {key : List Char} {value : Json} {members : List (List Char × Json)}
    {depth outer fuel : Nat} {rest : List Char} (hkey : ∃ text, key = escape text)
    (hvalue : value.Escaped) (hkeys : ∀ m ∈ members, ∃ text, m.1 = escape text)
    (hvalues : ∀ m ∈ members, Escaped m.2)
    (hfuel : (print depth value).length + (printMembers depth members).length ≤ fuel) :
    readMembers (fuel + 1) (quoted key ++ (':' :: ' ' :: (print depth value ++
      (printMembers depth members ++ (newLine outer ++ '\x7d' :: rest))))) =
        some ((key, value) :: members, rest) := by
  obtain ⟨text, rfl⟩ := hkey
  have hpos := length_print_pos hvalue depth
  obtain ⟨fuel, rfl⟩ : ∃ n, fuel = n + 1 := ⟨fuel - 1, by omega⟩
  rw [readMembers, quoted, List.cons_append, skipBlanks_cons (by decide)]
  simp only [readString_quoted, Option.bind_eq_bind, Option.bind_some]
  rw [skipBlanks_cons (by decide)]
  simp only
  rw [← List.singleton_append, readValue_append (List.forall_mem_singleton.mpr rfl),
    readValue_print hvalue (by omega)]
  simp only [Option.bind_some]
  match members with
  | [] =>
    rw [printMembers, List.nil_append, skipBlanks_append isBlank_of_mem_newLine,
      skipBlanks_cons (by decide)]
    rfl
  | (key, value) :: members =>
    rw [List.forall_mem_cons] at hkeys hvalues
    simp only [printMembers, List.length_cons, List.length_append] at hfuel
    have hinner := @readMembers_print key value members depth outer fuel rest hkeys.1 hvalues.1
      hkeys.2 hvalues.2 (by omega)
    simp only [printMembers, List.cons_append, List.append_assoc, List.nil_append]
    rw [skipBlanks_cons (by decide)]
    simp only [readMembers_append isBlank_of_mem_newLine, hinner]
    rfl
termination_by fuel

end

/-- **The text of a value holds that value.** -/
theorem read?_pretty {value : Json} (h : value.Escaped) : read? value.pretty = some value := by
  have hread := @readValue_print value 0 (2 * (print 0 value).length + 1) [] h (by omega)
  rw [List.append_nil] at hread
  rw [read?, pretty, String.toList_ofList, hread]
  rfl

end RouteTable.Json
