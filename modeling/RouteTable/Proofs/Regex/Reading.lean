import RouteTable.Regex.Ast.Reader

/-!
# Reading is local

What the readers of an expression read, and what they leave, is settled by what they read: a longer
text is read alike. Two things could break this. A reader that stops at the end of the text might
have gone on, and a comment of a verbose expression that runs to the end swallows whatever is
added. `Follows cs r t` excludes both: either a closing parenthesis is left, which no reader of a
part goes past, or what is added starts with one and there is no comment to swallow it.

* `Local f g`: whatever `f` reads, it leaves an end of its text, and `g` reads the same of the text
  with more behind it. For readers with fuel, `g` is `f` with at least as much.
* `local_readEscape` and the lemmas before it: the readers below brackets and groups are local.
-/

namespace RouteTable.Regex

open Text (isBlank)

/-! ## What may follow -/

/-- What may stand after the text `cs` when reading it leaves `r`. -/
def Follows (cs r t : List Char) : Prop :=
  t = [] ∨ ')' ∈ r ∨ (∃ t', t = ')' :: t') ∧ (r = [] → '#' ∉ cs)

/-- What follows the whole may follow a part that leaves more. -/
theorem Follows.of_suffix {cs cs' r r' t : List Char} (h : Follows cs r t) (hcs : cs' <:+ cs)
    (hr : r <:+ r') : Follows cs' r' t := by
  rcases h with h | h | ⟨h, hr'⟩
  · exact Or.inl h
  · exact Or.inr (Or.inl (hr.subset h))
  · refine Or.inr (Or.inr ⟨h, fun hnil hmem => hr' ?_ (hcs.subset hmem)⟩)
    exact List.suffix_nil.mp (hnil ▸ hr)

/-- What follows a text of which nothing is left is nothing, or starts with the parenthesis. -/
theorem Follows.of_nil {cs t : List Char} (h : Follows cs [] t) :
    t = [] ∨ ∃ t', t = ')' :: t' := by
  rcases h with h | h | ⟨h, -⟩
  · exact Or.inl h
  · exact absurd h (by simp)
  · exact Or.inr h

theorem Follows.dropWhile_append {cs t : List Char} {p : Char → Bool}
    (h : Follows cs (cs.dropWhile p) t) (hp : p ')' = false) :
    (cs ++ t).dropWhile p = cs.dropWhile p ++ t := by
  rw [List.dropWhile_append]
  split
  · rename_i hnil
    rw [List.isEmpty_iff] at hnil
    rw [hnil] at h ⊢
    rcases h.of_nil with rfl | ⟨t', rfl⟩
    · rfl
    · simp [hp]
  · rfl

/-- The first character of a lengthened text is its own, or the closing parenthesis. -/
theorem Follows.append_eq_cons {cs u t v : List Char} {c : Char} (h : Follows cs u t)
    (heq : u ++ t = c :: v) : (∃ u', u = c :: u') ∨ u = [] ∧ c = ')' := by
  cases u with
  | cons d u =>
    obtain ⟨rfl, -⟩ := List.cons.inj heq
    exact Or.inl ⟨u, rfl⟩
  | nil =>
    rcases h.of_nil with rfl | ⟨t', rfl⟩
    · exact absurd heq (by simp)
    · exact Or.inr ⟨rfl, (List.cons.inj heq).1.symm⟩

/-- Whatever `f` reads, it leaves an end of its text, and `g` reads it with more text behind. -/
def Local {α : Type} (f g : List Char → Option (α × List Char)) : Prop :=
  ∀ cs x r, f cs = some (x, r) →
    r <:+ cs ∧ ∀ t, Follows cs r t → g (cs ++ t) = some (x, r ++ t)

/-- What is made of the thing read does not matter. -/
theorem Local.map {α β : Type} {f g : List Char → Option (α × List Char)} (hf : Local f g)
    (m : α → β) :
    Local (fun cs => (f cs).map fun p => (m p.1, p.2))
      (fun cs => (g cs).map fun p => (m p.1, p.2)) := by
  intro cs y r h
  obtain ⟨⟨x, r'⟩, hx, hy⟩ := Option.map_eq_some_iff.mp h
  obtain ⟨rfl, rfl⟩ := Prod.mk.inj hy
  obtain ⟨hs, he⟩ := hf cs x r' hx
  exact ⟨hs, fun t ht => by simp only [he t ht, Option.map_some]⟩

/-- A reader that reads nothing is local. -/
theorem local_done {α : Type} (x : α) :
    Local (fun cs => some (x, cs)) (fun cs => some (x, cs)) := by
  intro cs y r h
  obtain ⟨rfl, rfl⟩ := Prod.mk.inj (Option.some.inj h)
  exact ⟨List.suffix_refl _, fun t _ => rfl⟩

/-- What a local reader reads behind a character. -/
theorem Local.behind {α : Type} {f g : List Char → Option (α × List Char)} (hf : Local f g)
    {c : Char} {cs r : List Char} {x : α} (h : f cs = some (x, r)) :
    r <:+ c :: cs ∧ ∀ t, Follows (c :: cs) r t → g (cs ++ t) = some (x, r ++ t) := by
  obtain ⟨hs, he⟩ := hf cs x r h
  exact ⟨hs.trans (List.suffix_cons c cs),
    fun t ht => he t (ht.of_suffix (List.suffix_cons c cs) (List.suffix_refl _))⟩

/-- A reader that goes on by what another has read. -/
theorem Local.bind {α β : Type} {f g : List Char → Option (α × List Char)}
    {k l : α → List Char → Option (β × List Char)} (hf : Local f g) (hk : ∀ a, Local (k a) (l a)) :
    Local (fun cs => (f cs).bind fun p => k p.1 p.2)
      (fun cs => (g cs).bind fun p => l p.1 p.2) := by
  intro cs x r h
  obtain ⟨⟨a, r₁⟩, hfirst, h⟩ := Option.bind_eq_some_iff.mp h
  obtain ⟨hs₁, he₁⟩ := hf cs a r₁ hfirst
  obtain ⟨hs, he⟩ := hk a r₁ x r h
  refine ⟨hs.trans hs₁, fun t ht => ?_⟩
  simp only [he₁ t (ht.of_suffix (List.suffix_refl _) hs), Option.bind_some]
  exact he t (ht.of_suffix hs₁ (List.suffix_refl _))

/-! ## Blanks and comments -/

theorem isBlank_parenthesis : isBlank ')' = false := by decide

theorem skipBlanks_suffix : ∀ (b : Bool) (cs : List Char), skipBlanks b cs <:+ cs
  | b, [] => by cases b <;> exact List.suffix_refl _
  | true, c :: cs => (skipBlanks_suffix _ cs).trans (List.suffix_cons c cs)
  | false, c :: cs => by
    unfold skipBlanks
    split
    · exact (skipBlanks_suffix _ cs).trans (List.suffix_cons c cs)
    · split
      · exact (skipBlanks_suffix _ cs).trans (List.suffix_cons c cs)
      · exact List.suffix_refl _

theorem skip_suffix (verbose : Bool) (cs : List Char) : skip verbose cs <:+ cs := by
  unfold skip
  split
  · exact skipBlanks_suffix _ cs
  · exact List.suffix_refl _

theorem suffix_of_skip {verbose : Bool} {cs rest : List Char} {c : Char}
    (h : skip verbose cs = c :: rest) : rest <:+ cs :=
  (List.suffix_cons c rest).trans (h ▸ skip_suffix verbose cs)

/-- What stops at a character stops there whatever is added. -/
theorem skipBlanks_append_cons : ∀ {b : Bool} {cs rest : List Char} {c : Char} (t : List Char),
    skipBlanks b cs = c :: rest → skipBlanks b (cs ++ t) = c :: (rest ++ t)
  | b, [], _, _, _, h => absurd h (by cases b <;> simp [skipBlanks])
  | true, _ :: cs, _, _, t, h => @skipBlanks_append_cons _ cs _ _ t h
  | false, d :: cs, rest, c, t, h => by
    rw [List.cons_append]
    unfold skipBlanks at h ⊢
    split
    · rename_i hd
      rw [if_pos hd] at h
      exact skipBlanks_append_cons t h
    · rename_i hd
      rw [if_neg hd] at h
      split
      · rename_i hd'
        rw [if_pos hd'] at h
        exact skipBlanks_append_cons t h
      · rename_i hd'
        rw [if_neg hd'] at h
        obtain ⟨rfl, rfl⟩ := List.cons.inj h
        rfl

/-- A text without comments that is skipped to its end is blank. -/
theorem skipBlanks_append_of_nil : ∀ {cs : List Char} (t : List Char), '#' ∉ cs →
    skipBlanks false cs = [] → skipBlanks false (cs ++ t) = skipBlanks false t
  | [], _, _, _ => rfl
  | c :: cs, t, hcomment, h => by
    rw [List.cons_append]
    unfold skipBlanks at h
    split at h
    · rename_i hc
      rw [skipBlanks, if_pos hc]
      exact skipBlanks_append_of_nil t (fun hmem => hcomment (List.mem_cons_of_mem c hmem)) h
    · split at h
      · rename_i hc
        exact absurd (hc ▸ List.mem_cons_self) hcomment
      · exact absurd h (by simp)

/-- A reader that stops at a character does not see what is added. -/
theorem skip_append_cons {verbose : Bool} {cs rest : List Char} {c : Char}
    (h : skip verbose cs = c :: rest) (t : List Char) :
    skip verbose (cs ++ t) = c :: (rest ++ t) := by
  unfold skip at h ⊢
  split
  · rename_i hv
    rw [if_pos hv] at h
    exact skipBlanks_append_cons t h
  · rename_i hv
    rw [if_neg hv] at h
    rw [h, List.cons_append]

theorem skip_append {verbose : Bool} {cs t : List Char} (h : Follows cs (skip verbose cs) t) :
    skip verbose (cs ++ t) = skip verbose cs ++ t := by
  cases hskip : skip verbose cs with
  | cons c rest => exact skip_append_cons hskip t
  | nil =>
    rw [hskip] at h
    rcases h with rfl | h | ⟨⟨t', rfl⟩, hcomment⟩
    · rw [List.append_nil, hskip]; rfl
    · exact absurd h (by simp)
    · unfold skip at hskip ⊢
      split
      · rename_i hv
        rw [if_pos hv] at hskip
        rw [skipBlanks_append_of_nil _ (hcomment rfl) hskip]
        simp [skipBlanks, isBlank_parenthesis]
      · rename_i hv
        rw [if_neg hv] at hskip
        rw [hskip]

/-- Skipping first keeps a reader local. -/
theorem Local.skip {α : Type} {f g : List Char → Option (α × List Char)} (hf : Local f g)
    (verbose : Bool) : Local (fun cs => f (skip verbose cs)) (fun cs => g (skip verbose cs)) := by
  intro cs x r h
  obtain ⟨hs, he⟩ := hf _ x r h
  refine ⟨hs.trans (skip_suffix verbose cs), fun t ht => ?_⟩
  simp only
  rw [skip_append (ht.of_suffix (List.suffix_refl _) hs)]
  exact he t (ht.of_suffix (skip_suffix verbose cs) (List.suffix_refl _))

theorem firstCounting_append {c : Char} : ∀ (b : Bool) (cs t : List Char),
    firstCounting b cs = some c → firstCounting b (cs ++ t) = some c
  | _, [], _, h => by simp [firstCounting] at h
  | b, d :: cs, t, h => by
    rw [List.cons_append]
    unfold firstCounting at h ⊢
    split
    · rename_i hd
      rw [if_pos hd] at h
      exact firstCounting_append b cs t h
    · rename_i hd
      rw [if_neg hd] at h
      split
      · rename_i hd'
        rw [if_pos hd'] at h
        exact firstCounting_append true cs t h
      · rename_i hd'
        rwa [if_neg hd'] at h

/-- A text in which no character counts is skipped, whether or not it starts inside a comment. -/
theorem skipBlanks_eq_nil_of_comment : ∀ (b : Bool) (cs : List Char),
    firstCounting true cs = none → skipBlanks b cs = []
  | b, [], _ => by cases b <;> rfl
  | b, c :: cs, h => by
    unfold firstCounting at h
    split at h
    · rename_i hc
      cases b
      · unfold skipBlanks
        rw [if_pos hc]
        exact skipBlanks_eq_nil_of_comment false cs h
      · exact skipBlanks_eq_nil_of_comment _ cs h
    · simp at h

theorem skipBlanks_eq_nil : ∀ cs : List Char,
    firstCounting false cs = none → skipBlanks false cs = []
  | [], _ => rfl
  | c :: cs, h => by
    unfold firstCounting at h
    unfold skipBlanks
    split
    · rename_i hc
      rw [if_pos hc] at h
      exact skipBlanks_eq_nil cs h
    · rename_i hc
      rw [if_neg hc] at h
      split
      · rename_i hc'
        rw [if_pos (by simp [hc'])] at h
        exact skipBlanks_eq_nil_of_comment true cs h
      · rename_i hc'
        rw [if_neg (by simp [hc'])] at h
        exact absurd h (by simp)

/-- The character after a hyphen is settled by any text that has a character that counts. -/
theorem afterHyphen_append {verbose : Bool} {cs : List Char} (t : List Char)
    (h : skip verbose cs ≠ []) : afterHyphen verbose (cs ++ t) = afterHyphen verbose cs := by
  unfold afterHyphen
  unfold skip at h
  split
  · rename_i hv
    rw [if_pos hv] at h
    cases hc : firstCounting false cs with
    | none => exact absurd (skipBlanks_eq_nil cs hc) h
    | some c => rw [firstCounting_append false cs t hc, Option.some_or, Option.some_or]
  · rename_i hv
    rw [if_neg hv] at h
    cases cs with
    | nil => exact absurd rfl h
    | cons c cs => rfl

/-- So is a closing bracket or a hyphen there, even inside a comment. -/
theorem afterHyphen_append_of_eq {verbose : Bool} {cs : List Char} {c : Char} (t : List Char)
    (h : afterHyphen verbose cs = some c) (hc : c = ']' ∨ c = '-') :
    afterHyphen verbose (cs ++ t) = some c := by
  cases cs with
  | nil => cases verbose <;> simp [afterHyphen, firstCounting] at h
  | cons d cs =>
    cases verbose with
    | false => exact h
    | true =>
      unfold afterHyphen at h ⊢
      rw [if_pos rfl] at h ⊢
      cases hd : firstCounting false (d :: cs) with
      | some e =>
        rw [hd] at h
        rw [firstCounting_append false (d :: cs) t hd]
        exact h
      | none =>
        rw [hd, Option.none_or, List.head?_cons] at h
        obtain rfl := Option.some.inj h
        rcases hc with rfl | rfl <;> simp [firstCounting, isBlank] at hd

/-! ## Numbers -/

/-- The characters at the start for which `p` holds, and the rest. Digits, the names of word
boundaries and the hyphens at the start of a class are read so. -/
def readRun (p : Char → Bool) (verbose : Bool) : Nat → List Char → List Char × List Char
  | 0, cs => ([], cs)
  | fuel + 1, c :: cs =>
    if p c then
      let (ds, rest) := readRun p verbose fuel (skip verbose cs)
      (c :: ds, rest)
    else ([], c :: cs)
  | _ + 1, [] => ([], [])

theorem readDigits_eq (verbose : Bool) : ∀ (fuel : Nat) (cs : List Char),
    readDigits verbose fuel cs = readRun Char.isDigit verbose fuel cs
  | 0, _ => rfl
  | _ + 1, [] => rfl
  | fuel + 1, c :: cs => by rw [readDigits, readRun, readDigits_eq verbose fuel]

theorem readRun_suffix (p : Char → Bool) (verbose : Bool) : ∀ (fuel : Nat) (cs : List Char),
    (readRun p verbose fuel cs).2 <:+ cs
  | 0, cs => List.suffix_refl cs
  | fuel + 1, [] => List.suffix_refl []
  | fuel + 1, c :: cs => by
    unfold readRun
    split
    · exact ((readRun_suffix p verbose fuel _).trans (skip_suffix verbose cs)).trans
        (List.suffix_cons c cs)
    · exact List.suffix_refl _

theorem readRun_append {p : Char → Bool} (hp : p ')' = false) {verbose : Bool} :
    ∀ {fuel fuel' : Nat} {cs t : List Char}, cs.length ≤ fuel → (cs ++ t).length ≤ fuel' →
      Follows cs (readRun p verbose fuel cs).2 t →
        readRun p verbose fuel' (cs ++ t) =
          ((readRun p verbose fuel cs).1, (readRun p verbose fuel cs).2 ++ t)
  | fuel, fuel', [], t, _, _, ht => by
    have hnil : readRun p verbose fuel [] = ([], []) := by cases fuel <;> rfl
    rw [hnil, List.nil_append]
    rw [hnil] at ht
    rcases ht.of_nil with rfl | ⟨t', rfl⟩
    · cases fuel' <;> rfl
    · cases fuel' <;> simp [readRun, hp]
  | 0, _, _ :: _, _, h, _, _ => absurd h (by simp)
  | _ + 1, 0, _ :: _, _, _, h, _ => absurd h (by simp)
  | fuel + 1, fuel' + 1, c :: cs, t, h, h', ht => by
    rw [List.cons_append]
    unfold readRun at ht ⊢
    split
    · rename_i hc
      rw [if_pos hc] at ht
      have hlen := (skip_suffix verbose cs).length_le
      have hskip : Follows cs (skip verbose cs) t :=
        ht.of_suffix (List.suffix_cons c cs) (readRun_suffix p verbose fuel _)
      have hrec : Follows (skip verbose cs) (readRun p verbose fuel (skip verbose cs)).2 t :=
        ht.of_suffix ((skip_suffix verbose cs).trans (List.suffix_cons c cs)) (List.suffix_refl _)
      simp only [List.length_cons, List.length_append, List.cons_append] at h h'
      rw [skip_append hskip, readRun_append hp (show (skip verbose cs).length ≤ fuel by omega)
        (by rw [List.length_append]; omega) hrec]
    · rfl

/-- What is left after the blanks behind a number. -/
def skipAfterNumber (verbose : Bool) (cs : List Char) : List Char :=
  match cs with
  | c :: _ => if isBlank c then skip verbose (cs.dropWhile isBlank) else cs
  | [] => []

theorem skipAfterNumber_suffix (verbose : Bool) : ∀ cs : List Char,
    skipAfterNumber verbose cs <:+ cs
  | [] => List.suffix_refl []
  | c :: cs => by
    simp only [skipAfterNumber]
    split
    · exact (skip_suffix verbose _).trans (List.dropWhile_suffix _)
    · exact List.suffix_refl _

theorem skipAfterNumber_append {verbose : Bool} : ∀ {cs t : List Char},
    Follows cs (skipAfterNumber verbose cs) t →
      skipAfterNumber verbose (cs ++ t) = skipAfterNumber verbose cs ++ t
  | [], t, ht => by
    rcases ht.of_nil with rfl | ⟨t', rfl⟩
    · rfl
    · simp [skipAfterNumber, isBlank_parenthesis]
  | c :: cs, t, ht => by
    simp only [skipAfterNumber, List.cons_append] at ht ⊢
    split
    · rename_i hc
      rw [if_pos hc] at ht
      have hdrop : Follows (c :: cs) ((c :: cs).dropWhile isBlank) t :=
        ht.of_suffix (List.suffix_refl _) (skip_suffix verbose _)
      rw [← List.cons_append, hdrop.dropWhile_append isBlank_parenthesis]
      exact skip_append (ht.of_suffix (List.dropWhile_suffix _) (List.suffix_refl _))
    · rfl

theorem readDecimal?_eq (verbose : Bool) (cs : List Char) :
    readDecimal? verbose cs =
      let start := cs.dropWhile isBlank
      let number := readRun Char.isDigit verbose start.length start
      if number.1.isEmpty then none
      else if decimalValue number.1 ≤ maxCount then
        some (decimalValue number.1, skipAfterNumber verbose number.2)
      else none := by
  simp only [← readDigits_eq]
  rfl

theorem local_readDecimal (verbose : Bool) :
    Local (readDecimal? verbose) (readDecimal? verbose) := by
  intro cs x r h
  rw [readDecimal?_eq] at h
  simp only at h
  split at h
  · exact absurd h (by simp)
  · rename_i hds
    split at h
    · rename_i hmax
      obtain ⟨rfl, rfl⟩ := Prod.mk.inj (Option.some.inj h)
      have hstart : cs.dropWhile isBlank <:+ cs := List.dropWhile_suffix _
      have hnumber := readRun_suffix Char.isDigit verbose (cs.dropWhile isBlank).length
        (cs.dropWhile isBlank)
      have hafter := skipAfterNumber_suffix verbose
        (readRun Char.isDigit verbose (cs.dropWhile isBlank).length (cs.dropWhile isBlank)).2
      refine ⟨(hafter.trans hnumber).trans hstart, fun t ht => ?_⟩
      have hdrop : (cs ++ t).dropWhile isBlank = cs.dropWhile isBlank ++ t :=
        (ht.of_suffix (List.suffix_refl _) (hafter.trans hnumber)).dropWhile_append
          isBlank_parenthesis
      have hdigits := readRun_append (p := Char.isDigit) rfl (Nat.le_refl _) (Nat.le_refl _)
        (ht.of_suffix hstart hafter)
      rw [readDecimal?_eq]
      simp only [hdrop, hdigits]
      rw [if_neg hds, if_pos hmax,
        skipAfterNumber_append (ht.of_suffix (hnumber.trans hstart) (List.suffix_refl _))]
    · exact absurd h (by simp)

theorem local_readHexDigits (verbose : Bool) : ∀ n : Nat,
    Local (readHexDigits? verbose n) (readHexDigits? verbose n)
  | 0, cs, x, r, h => by
    obtain ⟨rfl, rfl⟩ := Prod.mk.inj (Option.some.inj h)
    exact ⟨List.suffix_refl _, fun t _ => rfl⟩
  | n + 1, [], x, r, h => absurd h (by simp [readHexDigits?])
  | n + 1, c :: cs, x, r, h => by
    unfold readHexDigits? at h
    split at h
    · rename_i hc
      obtain ⟨hs, he⟩ := (((local_readHexDigits verbose n).skip verbose).map (c :: ·)) cs x r h
      refine ⟨hs.trans (List.suffix_cons c cs), fun t ht => ?_⟩
      rw [List.cons_append]
      unfold readHexDigits?
      rw [if_pos hc]
      exact he t (ht.of_suffix (List.suffix_cons c cs) (List.suffix_refl _))
    · exact absurd h (by simp)

theorem local_readBracedHex {verbose : Bool} : ∀ {fuel fuel' : Nat}, fuel ≤ fuel' →
    Local (readBracedHex? verbose fuel) (readBracedHex? verbose fuel')
  | 0, _, _, cs, x, r, h => absurd h (by simp [readBracedHex?])
  | _ + 1, 0, hf, _, _, _, _ => absurd hf (by simp)
  | fuel + 1, fuel' + 1, hf, cs, x, r, h => by
    unfold readBracedHex? at h ⊢
    have hcs := skip_suffix verbose cs
    split at h
    · rename_i rest hskip
      obtain ⟨rfl, rfl⟩ := Prod.mk.inj (Option.some.inj h)
      have hrest := suffix_of_skip hskip
      refine ⟨(skip_suffix verbose rest).trans hrest, fun t ht => ?_⟩
      rw [skip_append_cons hskip t]
      simp only
      rw [skip_append (ht.of_suffix hrest (List.suffix_refl _))]
    · rename_i c rest hc hskip
      have hrest := suffix_of_skip hskip
      split at h
      · rename_i hhex
        obtain ⟨hs, he⟩ :=
          ((local_readBracedHex (Nat.le_of_succ_le_succ hf)).map (c :: ·)) rest x r h
        refine ⟨hs.trans hrest, fun t ht => ?_⟩
        rw [skip_append_cons hskip t]
        split
        · rename_i heq
          exact absurd (List.cons.inj heq).1 (by simpa using hc)
        · rename_i heq
          obtain ⟨rfl, rfl⟩ := List.cons.inj heq
          rw [if_pos hhex]
          exact he t (ht.of_suffix hrest (List.suffix_refl _))
        · rename_i heq
          exact absurd heq (by simp)
      · exact absurd h (by simp)
    · exact absurd h (by simp)

theorem local_readHexEscape (verbose : Bool) (digits : Nat) :
    Local (readHexEscape? verbose digits) (readHexEscape? verbose digits) := by
  intro cs x r h
  unfold readHexEscape? at h ⊢
  have hcs := skip_suffix verbose cs
  split at h
  · rename_i rest hskip
    have hrest := suffix_of_skip hskip
    simp only [Option.bind_eq_bind, Option.bind_eq_some_iff, Prod.exists] at h
    obtain ⟨ds, r', hds, h⟩ := h
    split at h
    · exact absurd h (by simp)
    · rename_i hne
      simp only [Option.pure_def, Option.bind_eq_some_iff] at h
      obtain ⟨c, hc, hx⟩ := h
      obtain ⟨rfl, rfl⟩ := Prod.mk.inj (Option.some.inj hx)
      obtain ⟨hs, -⟩ := local_readBracedHex (Nat.le_refl _) rest ds r' hds
      refine ⟨hs.trans hrest, fun t ht => ?_⟩
      have hfuel : rest.length + 1 ≤ (rest ++ t).length + 1 := by simp
      have he := (local_readBracedHex hfuel rest ds r' hds).2 t
        (ht.of_suffix hrest (List.suffix_refl _))
      rw [skip_append_cons hskip t]
      simp only [Option.bind_eq_bind, he, Option.bind_some]
      rw [if_neg hne]
      simp only [Option.pure_def, Option.bind_some, hc]
  · rename_i hne
    simp only [Option.bind_eq_bind, Option.bind_eq_some_iff, Prod.exists] at h
    obtain ⟨ds, r', hds, c, hc, hx⟩ := h
    obtain ⟨rfl, rfl⟩ := Prod.mk.inj (Option.some.inj hx)
    obtain ⟨hs, he⟩ := local_readHexDigits verbose digits (skip verbose cs) ds r' hds
    refine ⟨hs.trans hcs, fun t ht => ?_⟩
    rw [skip_append (ht.of_suffix (List.suffix_refl _) hs)]
    split
    · rename_i heq
      rcases (ht.of_suffix (List.suffix_refl _) hs).append_eq_cons heq with ⟨u, hu⟩ | ⟨-, hu⟩
      · exact absurd hu (hne u)
      · exact absurd hu (by decide)
    · simp only [Option.bind_eq_bind, Option.bind_some, hc, Option.pure_def,
        he t (ht.of_suffix hcs (List.suffix_refl _))]

/-! ## Escapes -/

theorem local_readBraced {verbose : Bool} : ∀ {fuel fuel' : Nat}, fuel ≤ fuel' →
    Local (readBraced? verbose fuel) (readBraced? verbose fuel')
  | 0, _, _, cs, x, r, h => absurd h (by simp [readBraced?])
  | _ + 1, 0, hf, _, _, _, _ => absurd hf (by simp)
  | fuel + 1, fuel' + 1, hf, cs, x, r, h => by
    unfold readBraced? at h ⊢
    have hcs := skip_suffix verbose cs
    split at h
    · rename_i rest hskip
      obtain ⟨rfl, rfl⟩ := Prod.mk.inj (Option.some.inj h)
      refine ⟨suffix_of_skip hskip, fun t ht => ?_⟩
      rw [skip_append_cons hskip t]
      rfl
    · rename_i c rest hc hskip
      have hrest := suffix_of_skip hskip
      obtain ⟨hs, he⟩ := ((local_readBraced (Nat.le_of_succ_le_succ hf)).map (c :: ·)) rest x r h
      refine ⟨hs.trans hrest, fun t ht => ?_⟩
      rw [skip_append_cons hskip t]
      split
      · rename_i heq
        exact absurd (List.cons.inj heq).1 (by simpa using hc)
      · rename_i heq
        obtain ⟨rfl, rfl⟩ := List.cons.inj heq
        exact he t (ht.of_suffix hrest (List.suffix_refl _))
      · rename_i heq
        exact absurd heq (by simp)
    · exact absurd h (by simp)

theorem local_readProperty (verbose negated : Bool) :
    Local (readProperty? verbose negated) (readProperty? verbose negated) := by
  intro cs x r h
  unfold readProperty? at h ⊢
  have hcs := skip_suffix verbose cs
  split at h
  · rename_i rest hskip
    have hrest := suffix_of_skip hskip
    simp only [Option.bind_eq_bind, Option.bind_eq_some_iff, Prod.exists] at h
    obtain ⟨name, r', hname, hx⟩ := h
    obtain ⟨rfl, rfl⟩ := Prod.mk.inj (Option.some.inj hx)
    obtain ⟨hs, -⟩ := local_readBraced (Nat.le_refl _) rest name r' hname
    refine ⟨hs.trans hrest, fun t ht => ?_⟩
    have hfuel : rest.length + 1 ≤ (rest ++ t).length + 1 := by simp
    have he := (local_readBraced hfuel rest name r' hname).2 t
      (ht.of_suffix hrest (List.suffix_refl _))
    rw [skip_append_cons hskip t]
    simp only [Option.bind_eq_bind, he, Option.bind_some, Option.pure_def]
  · rename_i c rest hc hskip
    have hrest := suffix_of_skip hskip
    split at h
    · exact absurd h (by simp)
    · rename_i hne
      obtain ⟨rfl, rfl⟩ := Prod.mk.inj (Option.some.inj h)
      refine ⟨(skip_suffix verbose rest).trans hrest, fun t ht => ?_⟩
      rw [skip_append_cons hskip t]
      split
      · rename_i heq
        exact absurd (List.cons.inj heq).1 (by simpa using hc)
      · rename_i heq
        obtain ⟨rfl, rfl⟩ := List.cons.inj heq
        rw [if_neg hne, skip_append (ht.of_suffix hrest (List.suffix_refl _))]
      · rename_i heq
        exact absurd heq (by simp)
  · exact absurd h (by simp)

/-- What may stand in the name of a word boundary. -/
def isBoundaryChar (c : Char) : Bool := c.isAlpha || c == '-'

theorem readBoundaryName_eq (verbose : Bool) : ∀ (fuel : Nat) (cs : List Char),
    readBoundaryName verbose fuel cs = readRun isBoundaryChar verbose fuel cs
  | 0, _ => rfl
  | _ + 1, [] => rfl
  | fuel + 1, c :: cs => by
    rw [readBoundaryName, readRun, readBoundaryName_eq verbose fuel]
    rfl

theorem local_readBoundary (verbose : Bool) :
    Local (readBoundary? verbose) (readBoundary? verbose) := by
  intro cs x r h
  unfold readBoundary? at h ⊢
  split at h
  · rename_i rest
    split at h
    · exact absurd h (by simp)
    · rename_i c rest' hskip
      have hrest' : c :: rest' <:+ '{' :: rest :=
        (hskip ▸ skip_suffix verbose rest).trans (List.suffix_cons _ rest)
      split at h
      · rename_i hc
        split at h
        · rename_i name rest'' hname
          rw [readBoundaryName_eq] at hname
          have hs := readRun_suffix isBoundaryChar verbose (rest'.length + 1) (c :: rest')
          rw [hname] at hs
          have hr : r = rest'' := by split at h <;> simp_all
          subst hr
          refine ⟨((List.suffix_cons _ r).trans hs).trans hrest', fun t ht => ?_⟩
          have hfuel : (c :: rest').length ≤ rest'.length + 1 := by simp
          have hfuel' : ((c :: rest') ++ t).length ≤ (rest' ++ t).length + 1 := by simp
          have hrun := readRun_append (p := isBoundaryChar) rfl hfuel hfuel'
            (by rw [hname]; exact ht.of_suffix hrest' (List.suffix_cons _ r))
          rw [hname, List.cons_append] at hrun
          simp only [List.cons_append, skip_append_cons hskip t, hc, if_true, readBoundaryName_eq,
            hrun]
          split at h
          all_goals
            rename_i hword
            simp only [Option.some.injEq, Prod.mk.injEq, reduceCtorEq] at h
            try (obtain ⟨rfl, -⟩ := h; simp only)
        · exact absurd h (by simp)
      · rename_i hc
        obtain ⟨rfl, rfl⟩ := Prod.mk.inj (Option.some.inj h)
        refine ⟨List.suffix_refl _, fun t ht => ?_⟩
        simp only [List.cons_append, skip_append_cons hskip t, hc]
        rfl
  · rename_i hne
    obtain ⟨rfl, rfl⟩ := Prod.mk.inj (Option.some.inj h)
    refine ⟨List.suffix_refl _, fun t ht => ?_⟩
    split
    · rename_i heq
      rcases ht.append_eq_cons heq with ⟨u, hu⟩ | ⟨-, hu⟩
      · exact absurd hu (hne u)
      · exact absurd hu (by decide)
    · rfl

theorem local_readEscape (verbose : Bool) :
    Local (readEscape? verbose) (readEscape? verbose) := by
  intro cs x r h
  unfold readEscape? at h ⊢
  simp only at h
  split at h
  · exact absurd h (by simp)
  · exact ((local_readHexEscape verbose 2).map Ast.literal).behind h
  · exact ((local_readHexEscape verbose 4).map Ast.literal).behind h
  · exact ((local_readHexEscape verbose 8).map Ast.literal).behind h
  · exact (local_readProperty verbose false).behind h
  · exact (local_readProperty verbose true).behind h
  case h_21 => exact ((local_readBoundary verbose).map Ast.anchor).behind h
  case h_25 =>
    split at h
    · rename_i hc
      obtain ⟨rfl, rfl⟩ := Prod.mk.inj (Option.some.inj h)
      refine ⟨List.suffix_cons _ _, fun t _ => ?_⟩
      simp_all
    · exact absurd h (by simp)
  all_goals exact (local_done _).behind h

end RouteTable.Regex
