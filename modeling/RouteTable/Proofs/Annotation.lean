import Mathlib.Data.List.Forall2
import Mathlib.Data.List.TakeWhile
import RouteTable.Annotation

/-!
# Methods as they are noted

An annotation notes its methods by names, with blanks around them and in small letters if one likes.

* `Method.IsNotedBy`: which method a name means. `ofNoted_eq_ok_iff` says that it is found.
* `MethodNames.Misnames`: the first of several names that means no method.
* `mapM_eq_ok_iff`, `mapM_eq_error_iff`: going through a list stops at the first failure.
* `methods_eq_ok_iff`, `methods_eq_error_iff`: all methods are found, or the first name is reported
  that means none.
* `toList_ofList`: of each method the first occurrence is kept.
-/

namespace RouteTable

/-! ## Trimming -/

namespace Text

variable {before inner after : List Char}

/-- Nothing but blanks is trimmed. -/
theorem exists_trimBlank (cs : List Char) : ∃ before after, cs = before ++ trimBlank cs ++ after ∧
    (∀ c ∈ before, isBlank c = true) ∧ ∀ c ∈ after, isBlank c = true := by
  refine ⟨cs.takeWhile isBlank, ((cs.dropWhile isBlank).reverse.takeWhile isBlank).reverse, ?_,
    fun c hc => List.mem_takeWhile_imp hc, fun c hc => ?_⟩
  · rw [trimBlank, List.append_assoc, ← List.reverse_append, List.takeWhile_append_dropWhile,
      List.reverse_reverse, List.takeWhile_append_dropWhile]
  · exact List.mem_takeWhile_imp (List.mem_reverse.mp hc)

theorem dropWhile_blanks (hbefore : ∀ c ∈ before, isBlank c = true) (hne : inner ≠ [])
    (hinner : ∀ c ∈ inner, isBlank c = false) :
    (before ++ (inner ++ after)).dropWhile isBlank = inner ++ after := by
  obtain ⟨c, inner, rfl⟩ := List.exists_cons_of_ne_nil hne
  have hc : ¬ isBlank c = true := by
    rw [hinner c List.mem_cons_self]
    exact Bool.false_ne_true
  rw [List.dropWhile_append_of_pos hbefore, List.cons_append, List.dropWhile_cons_of_neg hc]

/-- A text without blanks is what is left when blanks around it are trimmed. -/
theorem trimBlank_append (hbefore : ∀ c ∈ before, isBlank c = true)
    (hafter : ∀ c ∈ after, isBlank c = true) (hne : inner ≠ [])
    (hinner : ∀ c ∈ inner, isBlank c = false) : trimBlank (before ++ inner ++ after) = inner := by
  have hafter' : ∀ c ∈ after.reverse, isBlank c = true := fun c hc =>
    hafter c (List.mem_reverse.mp hc)
  have hinner' : ∀ c ∈ inner.reverse, isBlank c = false := fun c hc =>
    hinner c (List.mem_reverse.mp hc)
  have hreverse :
      (after.reverse ++ (inner.reverse ++ [])).dropWhile isBlank = inner.reverse ++ [] :=
    dropWhile_blanks hafter' (List.reverse_ne_nil_iff.mpr hne) hinner'
  rw [List.append_nil] at hreverse
  rw [trimBlank, List.append_assoc, dropWhile_blanks hbefore hne hinner, List.reverse_append,
    hreverse, List.reverse_reverse]

end Text

/-! ## Names -/

/-- The name means the method: it is the method's name, with blanks around it and with small
letters for any of its capitals. -/
def Method.IsNotedBy (name : String) (m : Method) : Prop :=
  ∃ before inner after, name.toList = before ++ inner ++ after ∧
    (∀ c ∈ before, Text.isBlank c = true) ∧ (∀ c ∈ after, Text.isBlank c = true) ∧
    m.name.toList = inner.map Char.toUpper

theorem bounds_of_isMethodChar {c : Char} (h : isMethodChar c = true) :
    33 ≤ c.toNat ∧ c.toNat ≤ 126 := by
  rw [isMethodChar, Bool.or_eq_true] at h
  rcases h with h | h
  · delta Char.isAlphanum Char.isAlpha Char.isUpper Char.isLower Char.isDigit at h
    simp only [Bool.or_eq_true, Bool.and_eq_true, decide_eq_true_eq, UInt32.le_iff_toNat_le,
      Char.reduceVal, UInt32.reduceToNat] at h
    have htoNat : c.toNat = c.val.toNat := rfl
    omega
  · simp only [List.contains_iff_mem, List.mem_cons, List.not_mem_nil, or_false] at h
    rcases h with rfl | rfl | rfl | rfl | rfl | rfl | rfl | rfl | rfl | rfl | rfl | rfl | rfl |
      rfl | rfl <;> decide

/-- What is a character of a method in capitals is no blank. -/
theorem isBlank_eq_false {c : Char} (h : isMethodChar c.toUpper = true) :
    Text.isBlank c = false := by
  obtain ⟨hlow, hhigh⟩ := bounds_of_isMethodChar h
  have hupper : c.toUpper.toNat = c.toNat ∨ 97 ≤ c.toNat ∧ c.toNat ≤ 122 := by
    unfold Char.toUpper
    split
    · rename_i hlower
      exact Or.inr hlower
    · exact Or.inl rfl
  simp [Text.isBlank]
  omega

/-- The name of a method is not empty, and its characters are those of methods. -/
theorem token_of_name (m : Method) : m.name.toList ≠ [] ∧ ∀ c ∈ m.name.toList,
    isMethodChar c = true := by
  have hvalid := m.valid
  rwa [isMethodName, Bool.and_eq_true, Bool.not_eq_true', List.isEmpty_eq_false_iff,
    List.all_eq_true] at hvalid

theorem ofString?_eq_some_iff {name : String} {m : Method} :
    Method.ofString? name = some m ↔ m.name = name := by
  constructor
  · intro h
    unfold Method.ofString? at h
    split at h
    · rw [← Option.some.inj h]
    · exact absurd h (by simp)
  · rintro rfl
    exact m.ofString?_name

/-- A name means the method that it names when it is trimmed and written in capitals. -/
theorem isNotedBy_iff {name : String} {m : Method} : Method.IsNotedBy name m ↔
    m.name.toList = (Text.trimBlank name.toList).map Char.toUpper := by
  constructor
  · rintro ⟨before, inner, after, hname, hbefore, hafter, hinner⟩
    obtain ⟨hne, hchars⟩ := token_of_name m
    rw [hinner] at hne hchars
    rw [hname, Text.trimBlank_append hbefore hafter (fun h => hne (by rw [h]; rfl)), hinner]
    intro c hc
    exact isBlank_eq_false (hchars c.toUpper (List.mem_map_of_mem hc))
  · intro h
    obtain ⟨before, after, hname, hbefore, hafter⟩ := Text.exists_trimBlank name.toList
    exact ⟨before, Text.trimBlank name.toList, after, hname, hbefore, hafter, h⟩

/-- A name means no more than one method. -/
theorem Method.IsNotedBy.unique {name : String} {m m' : Method} (h : IsNotedBy name m)
    (h' : IsNotedBy name m') : m = m' := by
  rw [isNotedBy_iff] at h h'
  have hname : m.name = m'.name := String.toList_inj.mp (h.trans h'.symm)
  cases m
  cases m'
  cases hname
  rfl

/-- The method that a name means is found. -/
theorem ofNoted_eq_ok_iff {name : String} {m : Method} :
    Method.ofNoted name = .ok m ↔ Method.IsNotedBy name m := by
  rw [isNotedBy_iff, ← String.toList_ofList (l := List.map _ _), String.toList_inj,
    ← ofString?_eq_some_iff, Method.ofNoted]
  split
  · rename_i m' hm'
    rw [hm', Except.ok.injEq, Option.some.injEq]
  · rename_i hnone
    rw [hnone]
    simp

theorem eq_of_ofNoted_eq_error {name : String} {e : MethodError}
    (h : Method.ofNoted name = .error e) : e = ⟨name⟩ := by
  unfold Method.ofNoted at h
  split at h
  · exact absurd h (by simp)
  · exact (Except.error.inj h).symm

/-- A name that means no method is reported. -/
theorem ofNoted_eq_error_iff {name : String} {e : MethodError} :
    Method.ofNoted name = .error e ↔ (∀ m, ¬ Method.IsNotedBy name m) ∧ e = ⟨name⟩ := by
  constructor
  · intro h
    refine ⟨fun m hm => ?_, eq_of_ofNoted_eq_error h⟩
    rw [← ofNoted_eq_ok_iff, h] at hm
    exact absurd hm (by simp)
  · rintro ⟨hnone, rfl⟩
    cases h : Method.ofNoted name with
    | ok m => exact absurd (ofNoted_eq_ok_iff.mp h) (hnone m)
    | error e => rw [eq_of_ofNoted_eq_error h]

/-! ## Lists of names -/

section Traverse

variable {α β ε : Type} {f : α → Except ε β}

theorem mapM_cons_except (x : α) (xs : List α) : (x :: xs).mapM f =
    match f x with
    | .error e => .error e
    | .ok y => (xs.mapM f).map (y :: ·) := by
  rw [List.mapM_cons]
  cases f x with
  | error e => rfl
  | ok y => cases xs.mapM f <;> rfl

/-- Going through a list succeeds if every step does. -/
theorem mapM_eq_ok_iff {xs : List α} {ys : List β} :
    xs.mapM f = .ok ys ↔ List.Forall₂ (fun x y => f x = .ok y) xs ys := by
  induction xs generalizing ys with
  | nil =>
    rw [List.mapM_nil, List.forall₂_nil_left_iff]
    exact ⟨fun h => (Except.ok.inj h).symm, fun h => by rw [h]; rfl⟩
  | cons x xs ih =>
    rw [mapM_cons_except, List.forall₂_cons_left_iff]
    cases f x with
    | error e => simp
    | ok y =>
      simp only [Except.ok.injEq, ← ih]
      cases xs.mapM f with
      | error e => simp [Except.map]
      | ok ys' => simp [Except.map, eq_comm]

/-- Going through a list stops at the first step that fails. -/
theorem mapM_eq_error_iff {xs : List α} {e : ε} :
    xs.mapM f = .error e ↔ ∃ before x after, xs = before ++ x :: after ∧
      (∀ b ∈ before, ∃ y, f b = .ok y) ∧ f x = .error e := by
  induction xs with
  | nil =>
    rw [List.mapM_nil]
    simp [pure, Except.pure]
  | cons x xs ih =>
    rw [mapM_cons_except]
    cases hx : f x with
    | error e' =>
      simp only [Except.error.injEq]
      constructor
      · rintro rfl
        exact ⟨[], x, xs, rfl, by simp, hx⟩
      · rintro ⟨before, x', after, hxs, hbefore, hx'⟩
        cases before with
        | nil =>
          obtain ⟨rfl, rfl⟩ := List.cons.inj hxs
          rw [hx, Except.error.injEq] at hx'
          exact hx'
        | cons b before =>
          obtain ⟨rfl, rfl⟩ := List.cons.inj hxs
          obtain ⟨y, hy⟩ := hbefore x List.mem_cons_self
          rw [hx] at hy
          exact absurd hy (by simp)
    | ok y =>
      have hmap : (xs.mapM f).map (y :: ·) = .error e ↔ xs.mapM f = .error e := by
        cases xs.mapM f <;> simp [Except.map]
      simp only
      rw [hmap, ih]
      constructor
      · rintro ⟨before, x', after, rfl, hbefore, hx'⟩
        refine ⟨x :: before, x', after, rfl, ?_, hx'⟩
        rw [List.forall_mem_cons]
        exact ⟨⟨y, hx⟩, hbefore⟩
      · rintro ⟨before, x', after, hxs, hbefore, hx'⟩
        cases before with
        | nil =>
          obtain ⟨rfl, rfl⟩ := List.cons.inj hxs
          rw [hx] at hx'
          exact absurd hx' (by simp)
        | cons b before =>
          obtain ⟨rfl, rfl⟩ := List.cons.inj hxs
          rw [List.forall_mem_cons] at hbefore
          exact ⟨before, x', after, rfl, hbefore.2, hx'⟩

end Traverse

/-- The first of the names that means no method. -/
def MethodNames.Misnames (names : MethodNames) (name : String) : Prop :=
  ∃ before after, names.toList = before ++ name :: after ∧
    (∀ b ∈ before, ∃ m, Method.IsNotedBy b m) ∧ ∀ m, ¬ Method.IsNotedBy name m

theorem methods_eq_ok_iff {names : MethodNames} {ms : List Method} :
    names.methods = .ok ms ↔ List.Forall₂ Method.IsNotedBy names.toList ms := by
  rw [MethodNames.methods, mapM_eq_ok_iff]
  simp only [ofNoted_eq_ok_iff]

theorem methods_eq_error_iff {names : MethodNames} {e : MethodError} :
    names.methods = .error e ↔ ∃ name, names.Misnames name ∧ e = ⟨name⟩ := by
  rw [MethodNames.methods, mapM_eq_error_iff]
  simp only [ofNoted_eq_ok_iff, ofNoted_eq_error_iff]
  constructor
  · rintro ⟨before, name, after, hnames, hbefore, hname, rfl⟩
    exact ⟨name, ⟨before, after, hnames, hbefore, hname⟩, rfl⟩
  · rintro ⟨name, ⟨before, after, hnames, hbefore, hname⟩, rfl⟩
    exact ⟨before, name, after, hnames, hbefore, hname, rfl⟩

theorem exists_of_forall₂ {α β : Type} {R : α → β → Prop} {xs : List α} {ys : List β} {x : α}
    (h : List.Forall₂ R xs ys) (hx : x ∈ xs) : ∃ y, R x y := by
  induction h with
  | nil => exact absurd hx List.not_mem_nil
  | cons hxy _ ih =>
    rcases List.mem_cons.mp hx with rfl | hx
    · exact ⟨_, hxy⟩
    · exact ih hx

/-- If any of the names means no method, then one of them is the first. -/
theorem exists_misnames_iff {names : MethodNames} : (∃ name, names.Misnames name) ↔
    ∃ name ∈ names.toList, ∀ m, ¬ Method.IsNotedBy name m := by
  constructor
  · rintro ⟨name, before, after, hnames, -, hnone⟩
    exact ⟨name, by simp [hnames], hnone⟩
  · rintro ⟨name, hname, hnone⟩
    cases hms : names.methods with
    | error e =>
      obtain ⟨first, hfirst, -⟩ := methods_eq_error_iff.mp hms
      exact ⟨first, hfirst⟩
    | ok ms =>
      obtain ⟨m, hm⟩ := exists_of_forall₂ (methods_eq_ok_iff.mp hms) hname
      exact absurd hm (hnone m)

/-! ## Methods, each once -/

theorem distinct_eq {seen ms : List Method} :
    Methods.distinct seen ms = (ms.filter fun m => m ∉ seen).eraseDups := by
  induction ms generalizing seen with
  | nil => rfl
  | cons m ms ih =>
    unfold Methods.distinct
    by_cases hm : m ∈ seen
    · rw [if_pos hm, ih, List.filter_cons_of_neg (by simpa using hm)]
    · rw [if_neg hm, ih, List.filter_cons_of_pos (by simpa using hm), List.eraseDups_cons,
        List.filter_filter]
      congr 3
      funext m'
      rw [Bool.eq_iff_iff]
      simp [not_or]

/-- Of each method the first occurrence is kept. -/
theorem toList_ofList (ms : List Method) : (Methods.ofList ms).toList = ms.eraseDups := by
  have h : (Methods.ofList ms).toList = Methods.distinct [] ms := rfl
  rw [h, distinct_eq]
  simp

end RouteTable
