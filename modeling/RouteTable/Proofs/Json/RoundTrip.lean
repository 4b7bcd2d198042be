import RouteTable.Json.Decode
import RouteTable.Proofs.Json.Printing
import RouteTable.Proofs.SortedMap

/-!
# Encoding and decoding

Values of a known shape are written as trees and read from them. `RoundTrips encode decode x` says
that the tree of `x` can be printed and is decoded to `x`; texts, lists, maps and records round-trip
if what is in them does.

* `RoundTrips.list`, `RoundTrips.map`, `RoundTrips.numberedMap`: containers of values that do.
* `fields?_ofFields`: the fields of a record are found under their names.
* `position?_toDigits`: a number below 2^64 is read from its digits.
-/

namespace RouteTable.Json

variable {α β γ : Type}

/-- The tree that `encode` makes of `x` can be printed, and `decode` makes `x` of it. -/
structure RoundTrips (encode : α → Json) (decode : Json → Option α) (x : α) : Prop where
  escaped : (encode x).Escaped
  decoded : decode (encode x) = some x

/-- Members that are read one by one are all read. -/
theorem mapM_map_eq_some {f : β → Option γ} {e : α → β} {g : α → γ} {xs : List α}
    (h : ∀ x ∈ xs, f (e x) = some (g x)) : (xs.map e).mapM f = some (xs.map g) := by
  induction xs with
  | nil => rfl
  | cons x xs ih =>
    rw [List.forall_mem_cons] at h
    rw [List.map_cons, List.mapM_cons, h.1, ih h.2]
    rfl

/-! ## Texts and lists -/

theorem RoundTrips.string (text : String) : RoundTrips ofString toString? text where
  escaped := .string text.toList
  decoded := by rw [ofString, toString?, unescape?_escape, Option.map_some, String.ofList_toList]

theorem RoundTrips.list {encode : α → Json} {decode : Json → Option α} {xs : List α}
    (h : ∀ x ∈ xs, RoundTrips encode decode x) :
    RoundTrips (fun xs => .array (xs.map encode)) (list? decode) xs where
  escaped := by
    refine .array fun item hitem => ?_
    obtain ⟨x, hx, rfl⟩ := List.mem_map.mp hitem
    exact (h x hx).escaped
  decoded := by
    have hitems := mapM_map_eq_some (g := id) fun x hx => (h x hx).decoded
    rwa [List.map_id] at hitems

/-! ## Maps -/

/-- Keys that are escaped texts are decoded to these texts. -/
theorem decodeKeys?_map (encode : α → Json) (entries : List (String × α)) :
    decodeKeys? (entries.map fun e => (escape e.1.toList, encode e.2)) =
      some (entries.map fun e => (e.1, encode e.2)) := by
  refine mapM_map_eq_some fun e _ => ?_
  simp [unescape?_escape]

/-- Entries whose values are decoded one by one are decoded. -/
theorem mapM_entries {encode : α → Json} {decode : Json → Option α} {κ : Type}
    {entries : List (κ × α)} (h : ∀ e ∈ entries, decode (encode e.2) = some e.2) :
    (entries.map fun e => (e.1, encode e.2)).mapM
      (fun (key, value) => do return (key, ← decode value)) = some entries := by
  have hmap : (entries.map fun e => (e.1, encode e.2)).mapM
      (fun (key, value) => do return (key, ← decode value)) = some (entries.map id) :=
    mapM_map_eq_some fun e he => by simp [h e he]
  rwa [List.map_id] at hmap

theorem RoundTrips.map {encode : α → Json} {decode : Json → Option α} {m : SortedMap String α}
    (h : ∀ e ∈ m.entries, RoundTrips encode decode e.2) :
    RoundTrips (ofMap encode) (map? decode) m where
  escaped := by
    refine .object (fun member hmember => ?_) fun member hmember => ?_
    · obtain ⟨e, -, rfl⟩ := List.mem_map.mp hmember
      exact ⟨e.1.toList, rfl⟩
    · obtain ⟨e, he, rfl⟩ := List.mem_map.mp hmember
      exact (h e he).escaped
  decoded := by
    have hentries : SortedMap.ofList m.entries = m :=
      SortedMap.ext_entries (SortedMap.entries_ofList m.sorted)
    rw [ofMap, map?, decodeKeys?_map, Option.bind_eq_bind, Option.bind_some,
      mapM_entries fun e he => (h e he).decoded, Option.bind_eq_bind, Option.bind_some, hentries]
    rfl

/-! ## Numbers as keys -/

/-- A number has no zero in front, unless it is zero. -/
theorem head?_toDigits {n : Nat} (h : 0 < n) : (Nat.toDigits 10 n).head? ≠ some '0' := by
  induction n using Nat.strongRecOn with
  | ind n ih =>
    by_cases hn : n < 10
    · have all : ∀ n, n < 10 → 0 < n → [n.digitChar].head? ≠ some '0' := by decide
      rw [Nat.toDigits_of_lt_base hn]
      exact all n hn h
    · rw [Nat.toDigits_of_base_le (by omega) (by omega), List.head?_append_of_ne_nil _
        Nat.toDigits_ne_nil]
      exact ih (n / 10) (by omega) (by omega)

theorem digitsValue?_toDigits (n : Nat) : digitsValue? (Nat.toDigits 10 n) = some n := by
  have hvalue : (Nat.toDigits 10 n).foldl (fun n d => 10 * n + (d.toNat - '0'.toNat)) 0 = n := by
    rw [← Nat.ofDigitChars_eq_foldl, Nat.ofDigitChars_toDigits (by decide) (by decide)]
  have hdigits : (Nat.toDigits 10 n).all Char.isDigit = true :=
    List.all_eq_true.mpr fun c hc => Nat.isDigit_of_mem_toDigits (by decide) (by decide) hc
  have hzero : ∀ rest, Nat.toDigits 10 n = '0' :: rest → n = 0 := by
    intro rest hrest
    by_contra hn
    exact head?_toDigits (Nat.pos_of_ne_zero hn) (by rw [hrest]; rfl)
  unfold digitsValue?
  split
  · rename_i heq
    exact absurd heq Nat.toDigits_ne_nil
  · rename_i heq
    rw [hzero _ heq]
  · rename_i rest hne heq
    rw [hzero _ heq] at heq
    exact absurd (List.cons.inj heq).2.symm (fun h => hne h)
  · rw [if_pos hdigits, hvalue]

/-- A number below 2^64 is read from its digits. -/
theorem position?_toDigits {n : Nat} (h : n < 0x10000000000000000) :
    position? (Nat.toDigits 10 n) = some n := by
  rw [position?, digitsValue?_toDigits, Option.filter_some, if_pos (by simpa using h)]

theorem isOrdinary_of_isDigit {c : Char} (h : c.isDigit = true) : isOrdinary c = true := by
  have hlow : 0x30 ≤ c.toNat := by
    rw [Char.isDigit, Bool.and_eq_true, decide_eq_true_eq] at h
    exact h.1
  refine isOrdinary_iff.mpr ⟨?_, ?_, by omega⟩
  · rintro rfl
    exact absurd h (by decide)
  · rintro rfl
    exact absurd h (by decide)

theorem RoundTrips.numberedMap {encode : α → Json} {decode : Json → Option α}
    {m : SortedMap Nat α} (hkeys : ∀ k ∈ m.keys, k < 0x10000000000000000)
    (h : ∀ e ∈ m.entries, RoundTrips encode decode e.2) :
    RoundTrips (ofNumberedMap encode) (numberedMap? decode) m where
  escaped := by
    refine .object (fun member hmember => ?_) fun member hmember => ?_
    · obtain ⟨e, -, rfl⟩ := List.mem_map.mp hmember
      refine ⟨Nat.toDigits 10 e.1, (escape_eq_self fun c hc => ?_).symm⟩
      exact isOrdinary_of_isDigit (Nat.isDigit_of_mem_toDigits (by decide) (by decide) hc)
    · obtain ⟨e, he, rfl⟩ := List.mem_map.mp hmember
      exact (h e he).escaped
  decoded := by
    have hentries : SortedMap.ofList m.entries = m :=
      SortedMap.ext_entries (SortedMap.entries_ofList m.sorted)
    rw [ofNumberedMap, numberedMap?, mapM_map_eq_some (g := id), List.map_id]
    · simp only [Option.bind_eq_bind, Option.bind_some, hentries]
      rfl
    · intro e he
      have hkey := position?_toDigits (hkeys e.1 (List.mem_map_of_mem he))
      simp [hkey, (h e he).decoded]

/-! ## Records -/

/-- Whether the names are different and written as they are. -/
def areFieldNames (names : List String) : Bool :=
  (names.all fun name => name.toList.all isOrdinary) && decide names.Nodup

/-- Of fields with different names one has a name. -/
theorem filter_name_eq {fields : List (String × Json)} (hnodup : (fields.map Prod.fst).Nodup)
    {f : String × Json} (hf : f ∈ fields) : (fields.filter fun m => m.1 == f.1) = [f] := by
  obtain ⟨before, after, rfl⟩ := List.append_of_mem hf
  rw [List.map_append, List.map_cons, List.nodup_append, List.nodup_cons] at hnodup
  obtain ⟨-, ⟨hafter, -⟩, hbefore⟩ := hnodup
  have hother : ∀ m ∈ before ++ after, (m.1 == f.1) = false := by
    intro m hm
    rw [beq_eq_false_iff_ne]
    rcases List.mem_append.mp hm with hm | hm
    · exact hbefore m.1 (List.mem_map_of_mem hm) f.1 List.mem_cons_self
    · rintro heq
      exact hafter (heq ▸ List.mem_map_of_mem hm)
  rw [List.forall_mem_append] at hother
  rw [List.filter_append, List.filter_cons, if_pos (beq_self_eq_true f.1),
    List.filter_eq_nil_iff.mpr fun m hm => by simp [hother.1 m hm],
    List.filter_eq_nil_iff.mpr fun m hm => by simp [hother.2 m hm], List.nil_append]

section Records

variable {names : List String} {values : List Json} (hnames : areFieldNames names = true)

include hnames

theorem escape_fieldName {f : String × Json} (hf : f ∈ names.zip values) :
    escape f.1.toList = f.1.toList := by
  rw [areFieldNames, Bool.and_eq_true, List.all_eq_true] at hnames
  exact escape_eq_self (List.all_eq_true.mp (hnames.1 f.1 (List.of_mem_zip hf).1))

/-- The fields of a record are found under their names. -/
theorem fields?_ofFields (hlength : names.length = values.length) :
    (ofFields (names.zip values)).fields? names = some (values.map some) := by
  have hfst : (names.zip values).map Prod.fst = names := List.map_fst_zip (Nat.le_of_eq hlength)
  have hsnd : (names.zip values).map Prod.snd = values :=
    List.map_snd_zip (Nat.le_of_eq hlength.symm)
  have hnodup : ((names.zip values).map Prod.fst).Nodup := by
    rw [areFieldNames, Bool.and_eq_true, decide_eq_true_eq] at hnames
    rw [hfst]
    exact hnames.2
  have hkeys : ((names.zip values).map fun f => (f.1.toList, f.2)) =
      (names.zip values).map fun f => (escape f.1.toList, id f.2) :=
    List.map_congr_left fun f hf => by rw [escape_fieldName hnames hf]; rfl
  have hdecoded : decodeKeys? ((names.zip values).map fun f => (f.1.toList, f.2)) =
      some (names.zip values) := by
    rw [hkeys, decodeKeys?_map]
    simp
  calc (ofFields (names.zip values)).fields? names
      = names.mapM (fieldOf? (names.zip values)) := by
        rw [ofFields, fields?, hdecoded, Option.bind_eq_bind, Option.bind_some]
    _ = ((names.zip values).map Prod.fst).mapM (fieldOf? (names.zip values)) := by rw [hfst]
    _ = some ((names.zip values).map fun f => some f.2) :=
        mapM_map_eq_some fun f hf => by rw [fieldOf?, filter_name_eq hnodup hf]
    _ = some (((names.zip values).map Prod.snd).map some) := by rw [List.map_map]; rfl
    _ = some (values.map some) := by rw [hsnd]

theorem escaped_ofFields (h : ∀ value ∈ values, value.Escaped) :
    (ofFields (names.zip values)).Escaped := by
  refine .object (fun member hmember => ?_) fun member hmember => ?_
  · obtain ⟨f, hf, rfl⟩ := List.mem_map.mp hmember
    exact ⟨f.1.toList, (escape_fieldName hnames hf).symm⟩
  · obtain ⟨f, hf, rfl⟩ := List.mem_map.mp hmember
    exact h f.2 (List.of_mem_zip hf).2

end Records

end RouteTable.Json
