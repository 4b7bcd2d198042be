/-!
# Maps with sorted keys

The maps of the tables (`BTreeMap`). A finite map is the list of its entries, strictly sorted by
key, so that two maps with the same entries are equal and listing a map needs no further rule of
order.

* `SortedMap.insert` replaces what the key had.
* `get?_insert_self` and `get?_insert_of_ne` say what `insert` does to a lookup.
-/

namespace RouteTable

/-! ## The order of texts -/

instance instIrreflText : Std.Irrefl (α := String) (· < ·) := ⟨String.lt_irrefl⟩

instance instTransText : Trans (α := String) (β := String) (γ := String) (· < ·) (· < ·) (· < ·) :=
  ⟨String.lt_trans⟩

instance instTrichotomousText : Std.Trichotomous (α := String) (· < ·) :=
  ⟨fun _ _ h h' => String.le_antisymm (String.not_lt.mp h') (String.not_lt.mp h)⟩

/-! ## Maps -/

/-- A finite map, its entries sorted by key. -/
structure SortedMap (κ : Type) (α : Type) [LT κ] where
  entries : List (κ × α)
  sorted : entries.Pairwise fun a b => a.1 < b.1

namespace SortedMap

variable {κ α : Type} [LT κ]

instance [DecidableEq κ] [DecidableEq α] : DecidableEq (SortedMap κ α) := fun a b =>
  decidable_of_iff (a.entries = b.entries) ⟨fun h => by cases a; cases b; simp_all, fun h => h ▸ rfl⟩

/-- The map without entries. -/
def empty : SortedMap κ α := ⟨[], .nil⟩

instance : Inhabited (SortedMap κ α) := ⟨empty⟩

/-- Whether there are no entries. -/
def isEmpty (m : SortedMap κ α) : Bool := m.entries.isEmpty

/-- How many entries there are. -/
def size (m : SortedMap κ α) : Nat := m.entries.length

/-- The keys, ascending. -/
def keys (m : SortedMap κ α) : List κ := m.entries.map Prod.fst

/-- The values, by ascending keys. -/
def values (m : SortedMap κ α) : List α := m.entries.map Prod.snd

/-- What the key `k` has. -/
def get? [DecidableEq κ] (m : SortedMap κ α) (k : κ) : Option α := m.entries.lookup k

/-- Whether the key `k` has a value. -/
def contains [DecidableEq κ] (m : SortedMap κ α) (k : κ) : Bool := (m.get? k).isSome

section Insert

variable [DecidableLT κ]

/-- Puts an entry in its place among sorted entries. -/
def insertEntry (k : κ) (v : α) : List (κ × α) → List (κ × α)
  | [] => [(k, v)]
  | e :: es =>
    if k < e.1 then (k, v) :: e :: es
    else if e.1 < k then e :: insertEntry k v es
    else (k, v) :: es

theorem mem_insertEntry {k : κ} {v : α} {x : κ × α} {es : List (κ × α)}
    (h : x ∈ insertEntry k v es) : x = (k, v) ∨ x ∈ es := by
  induction es with
  | nil => simpa [insertEntry] using h
  | cons e es ih =>
    unfold insertEntry at h
    split at h
    · simpa using h
    · split at h
      · rcases List.mem_cons.1 h with rfl | h
        · simp
        · rcases ih h with h | h <;> simp [h]
      · rcases List.mem_cons.1 h with h | h <;> simp [h]

variable [Trans (α := κ) (· < ·) (· < ·) (· < ·)] [Std.Trichotomous (α := κ) (· < ·)]

theorem sorted_insertEntry (k : κ) (v : α) {es : List (κ × α)}
    (h : es.Pairwise fun a b => a.1 < b.1) :
    (insertEntry k v es).Pairwise fun a b => a.1 < b.1 := by
  induction es with
  | nil => simp [insertEntry]
  | cons e es ih =>
    have hd : ∀ x ∈ es, e.1 < x.1 := fun _ hx => List.rel_of_pairwise_cons h hx
    unfold insertEntry
    split
    · next hk =>
      refine .cons (fun x hx => ?_) h
      rcases List.mem_cons.1 hx with rfl | hx
      · exact hk
      · exact Trans.trans hk (hd x hx)
    · next hk =>
      split
      · next hk' =>
        refine .cons (fun x hx => ?_) (ih h.tail)
        rcases mem_insertEntry hx with rfl | hx
        · exact hk'
        · exact hd x hx
      · next hk' =>
        refine .cons (fun x hx => ?_) h.tail
        have : k = e.1 := Std.Trichotomous.trichotomous (r := fun a b : κ => a < b) k e.1 hk hk'
        exact this ▸ hd x hx

/-- The map in which `k` has `v`. -/
def insert (m : SortedMap κ α) (k : κ) (v : α) : SortedMap κ α :=
  ⟨insertEntry k v m.entries, sorted_insertEntry k v m.sorted⟩

/-- The map of a list of entries; of entries with one key the last counts. -/
def ofList (es : List (κ × α)) : SortedMap κ α :=
  es.foldl (fun m e => m.insert e.1 e.2) empty

variable [DecidableEq κ] [Std.Irrefl (α := κ) (· < ·)]

omit [Trans (α := κ) (· < ·) (· < ·) (· < ·)] [Std.Trichotomous (α := κ) (· < ·)] in
theorem lookup_insertEntry_self (k : κ) (v : α) (es : List (κ × α)) :
    (insertEntry k v es).lookup k = some v := by
  induction es with
  | nil => simp [insertEntry]
  | cons e es ih =>
    obtain ⟨k', v'⟩ := e
    unfold insertEntry
    split
    · simp
    · split
      · next h =>
        have : (k == k') = false := by
          simpa using fun h' : k = k' => Std.Irrefl.irrefl (r := fun a b : κ => a < b) k (h' ▸ h)
        simpa [List.lookup_cons, this] using ih
      · simp

omit [Trans (α := κ) (· < ·) (· < ·) (· < ·)] [Std.Irrefl (α := κ) (· < ·)] in
theorem lookup_insertEntry_of_ne {k k' : κ} (v : α) (h : k' ≠ k) (es : List (κ × α)) :
    (insertEntry k v es).lookup k' = es.lookup k' := by
  have hk : (k' == k) = false := by simpa using h
  induction es with
  | nil => simp [insertEntry, List.lookup_cons, hk]
  | cons e es ih =>
    obtain ⟨k₁, v₁⟩ := e
    unfold insertEntry
    split
    · simp [List.lookup_cons, hk]
    · split
      · simp only [List.lookup_cons, ih]
      · next h1 h2 =>
        have : k = k₁ := Std.Trichotomous.trichotomous (r := fun a b : κ => a < b) k k₁ h1 h2
        subst this
        simp [List.lookup_cons, hk]

@[simp]
theorem get?_insert_self (m : SortedMap κ α) (k : κ) (v : α) : (m.insert k v).get? k = some v :=
  lookup_insertEntry_self k v m.entries

omit [Std.Irrefl (α := κ) (· < ·)] in
@[simp]
theorem get?_insert_of_ne (m : SortedMap κ α) {k k' : κ} (v : α) (h : k' ≠ k) :
    (m.insert k v).get? k' = m.get? k' :=
  lookup_insertEntry_of_ne v h m.entries

end Insert

@[simp]
theorem get?_empty [DecidableEq κ] (k : κ) : (empty : SortedMap κ α).get? k = none := rfl

theorem ext_entries {a b : SortedMap κ α} (h : a.entries = b.entries) : a = b := by
  cases a; cases b; simp_all

end SortedMap

end RouteTable
