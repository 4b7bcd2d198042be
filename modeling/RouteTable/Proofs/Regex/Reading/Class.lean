import RouteTable.Proofs.Regex.Reading

/-!
# Reading bracketed classes is local

* `local_readRange`: a member of a class, or a range.
* `readPosix_append`, `readPosix_append_none`: whether a class is given by its name does not depend
  on what follows. A name is looked for as far as the next colon, which may be far behind the
  class; but no name has a closing parenthesis in it.
* `local_readSet`, `local_readBracket`: the inside of a class up to its bracket.
-/

namespace RouteTable.Regex

open Text (isBlank)

/-! ## Members of classes -/

theorem local_readMember (verbose : Bool) :
    Local (readMember? verbose) (readMember? verbose) := by
  intro cs x r h
  unfold readMember? at h ⊢
  split at h
  · exact absurd h (by simp)
  · exact (local_readEscape verbose).behind h
  · rename_i c rest hc
    obtain ⟨rfl, rfl⟩ := Prod.mk.inj (Option.some.inj h)
    refine ⟨List.suffix_cons _ _, fun t _ => ?_⟩
    rw [List.cons_append]
    split
    · rename_i heq
      exact absurd heq (by simp)
    · rename_i heq
      exact absurd (List.cons.inj heq).1 (by simpa using hc)
    · rename_i heq
      obtain ⟨rfl, rfl⟩ := List.cons.inj heq
      rfl

theorem local_readRange (verbose : Bool) :
    Local (readRange? verbose) (readRange? verbose) := by
  intro cs x r h
  unfold readRange? at h ⊢
  simp only [Option.bind_eq_bind, Option.bind_eq_some_iff, Prod.exists] at h
  obtain ⟨first, r₁, hfirst, h⟩ := h
  obtain ⟨hs₁, he₁⟩ := local_readMember verbose cs first r₁ hfirst
  have hs₁' := skip_suffix verbose r₁
  split at h
  · exact absurd h (by simp)
  · rename_i rest hskip
    have hrest : rest <:+ r₁ := (List.suffix_cons _ rest).trans (hskip ▸ hs₁')
    split at h
    · rename_i hafter
      simp only [Option.pure_def, Option.bind_eq_some_iff, Option.some.injEq, Prod.mk.injEq] at h
      obtain ⟨item, hitem, rfl, rfl⟩ := h
      refine ⟨(hskip ▸ hs₁').trans hs₁, fun t ht => ?_⟩
      have ht₁ := ht.of_suffix hs₁ (List.suffix_refl _)
      simp only [Option.bind_eq_bind, he₁ t (ht.of_suffix (List.suffix_refl _) (hskip ▸ hs₁')),
        Option.bind_some, skip_append_cons hskip t]
      rw [if_pos]
      · simp only [Option.pure_def, hitem, Option.bind_some, List.cons_append]
      · rcases hafter with hafter | hafter
        · exact Or.inl (afterHyphen_append_of_eq t hafter (Or.inl rfl))
        · exact Or.inr (afterHyphen_append_of_eq t hafter (Or.inr rfl))
    · rename_i hafter
      simp only [Option.bind_eq_some_iff, Prod.exists] at h
      obtain ⟨last, r₂, hlast, h⟩ := h
      obtain ⟨hs₂, he₂⟩ := ((local_readMember verbose).skip verbose) rest last r₂ hlast
      have hne : skip verbose rest ≠ [] := fun hnil => by
        rw [hnil] at hlast
        exact absurd hlast (by simp [readMember?])
      have hrs : r = r₂ := by split at h <;> simp_all
      subst hrs
      refine ⟨(hs₂.trans hrest).trans hs₁, fun t ht => ?_⟩
      have ht₁ := ht.of_suffix hs₁ (List.suffix_refl _)
      have hread := he₂ t (ht₁.of_suffix hrest (List.suffix_refl _))
      simp only [Option.bind_eq_bind, he₁ t (ht.of_suffix (List.suffix_refl _) (hs₂.trans hrest)),
        Option.bind_some, skip_append_cons hskip t]
      rw [afterHyphen_append t hne, if_neg hafter]
      simp only at hread
      rw [hread]
      simp only [Option.bind_some]
      split at h
      · split at h
        · rename_i hle
          simp_all
        · exact absurd h (by simp)
      · exact absurd h (by simp)
  · rename_i hnil hhyphen
    simp only [Option.pure_def, Option.bind_eq_some_iff, Option.some.injEq, Prod.mk.injEq] at h
    obtain ⟨item, hitem, rfl, rfl⟩ := h
    refine ⟨hs₁'.trans hs₁, fun t ht => ?_⟩
    have ht₁ := ht.of_suffix hs₁ (List.suffix_refl _)
    simp only [Option.bind_eq_bind, he₁ t (ht.of_suffix (List.suffix_refl _) hs₁'),
        Option.bind_some, skip_append ht₁]
    cases hskip : skip verbose r₁ with
    | nil => exact absurd hskip hnil
    | cons c rest =>
      simp only [List.cons_append]
      split
      · rename_i heq
        exact absurd heq (by simp)
      · rename_i heq
        exact absurd (hskip.trans (by rw [(List.cons.inj heq).1])) (hhyphen rest)
      · simp only [Option.pure_def, hitem, Option.bind_some]

/-! ## Classes by name -/

theorem not_mem_of_ofName {name : String} {kind : PosixClass}
    (h : PosixClass.ofName? name = some kind) : ')' ∉ name.toList := by
  unfold PosixClass.ofName? at h
  split at h
  all_goals first | decide | exact absurd h (by simp)

theorem readPosix_named_append {negated : Bool} {cs r : List Char} {x : ClassSet}
    (h : readPosix?.named negated cs = some (x, r)) :
    r <:+ cs ∧ ∀ t, readPosix?.named negated (cs ++ t) = some (x, r ++ t) := by
  unfold readPosix?.named at h ⊢
  split at h
  · rename_i rest hdrop
    obtain ⟨kind, hkind, hx⟩ := Option.map_eq_some_iff.mp h
    obtain ⟨rfl, rfl⟩ := Prod.mk.inj hx
    have hrest : rest <:+ cs :=
      ((List.suffix_cons _ rest).trans (List.suffix_cons _ _)).trans
        (hdrop ▸ List.dropWhile_suffix _)
    refine ⟨hrest, fun t => ?_⟩
    rw [List.dropWhile_append, List.takeWhile_append, hdrop, if_neg (by simp), if_neg]
    · simp only [List.cons_append, hkind, Option.map_some]
    · intro hlen
      have hsplit :=
        congrArg List.length (List.takeWhile_append_dropWhile (p := (· != ':')) (l := cs))
      rw [List.length_append, hlen, hdrop] at hsplit
      simp at hsplit
  · exact absurd h (by simp)

/-- A parenthesis comes before anything else that is added to `cs`. -/
def Ends (cs t : List Char) : Prop := t = [] ∨ ')' ∈ cs ∨ ∃ t', t = ')' :: t'

theorem Follows.ends {cs r t : List Char} (h : Follows cs r t) (hr : r <:+ cs) : Ends cs t :=
  h.imp_right fun h => h.imp (hr.subset ·) And.left

/-- A lengthened text starts with a character of its own, if not with the parenthesis. -/
theorem Ends.eq_cons {c : Char} {cs t v : List Char} (h : Ends cs t) (hc : c ≠ ')')
    (heq : cs ++ t = c :: v) : ∃ u, cs = c :: u ∧ u ++ t = v := by
  cases cs with
  | cons d u =>
    obtain ⟨rfl, hv⟩ := List.cons.inj heq
    exact ⟨u, rfl, hv⟩
  | nil =>
    rcases h with rfl | hmem | ⟨t', rfl⟩
    · exact absurd heq (by simp)
    · exact absurd hmem (by simp)
    · exact absurd (List.cons.inj heq).1.symm hc

theorem Ends.tail {c : Char} {cs t : List Char} (h : Ends (c :: cs) t) (hc : c ≠ ')') :
    Ends cs t :=
  h.imp_right fun h => h.imp_left fun hmem => (List.mem_cons.mp hmem).resolve_left hc.symm

/-- What is no class by name does not become one: no name has a closing parenthesis. -/
theorem readPosix_named_append_none {negated : Bool} {cs t : List Char}
    (h : readPosix?.named negated cs = none) (ht : Ends cs t) :
    readPosix?.named negated (cs ++ t) = none := by
  have hsplit := List.takeWhile_append_dropWhile (p := (· != ':')) (l := cs)
  unfold readPosix?.named at h ⊢
  rw [List.dropWhile_append, List.takeWhile_append]
  cases hdrop : cs.dropWhile (· != ':') with
  | nil =>
    rw [hdrop, List.append_nil] at hsplit
    rw [hsplit, if_pos rfl]
    split
    · rename_i hcolon
      cases hkind : PosixClass.ofName? (String.ofList (cs ++ t.takeWhile (· != ':'))) with
      | none => rfl
      | some kind =>
        have hname := not_mem_of_ofName hkind
        rw [String.toList_ofList, List.mem_append, not_or] at hname
        rcases ht with rfl | hmem | ⟨t', rfl⟩
        · simp at hcolon
        · exact absurd hmem hname.1
        · exact absurd (by simp) hname.2
    · rfl
  | cons c rest =>
    have hne : ¬ (cs.takeWhile (· != ':')).length = cs.length := fun hlen => by
      have hlength := congrArg List.length hsplit
      rw [List.length_append, hlen, hdrop] at hlength
      simp at hlength
    rw [if_neg hne, if_neg (by simp), List.cons_append]
    rw [hdrop] at h hsplit
    split
    · rename_i heq
      obtain ⟨rfl, htail⟩ := List.cons.inj heq
      cases rest with
      | cons d rest =>
        rw [List.cons_append] at htail
        obtain rfl := (List.cons.inj htail).1
        simp only [Option.map_eq_none_iff] at h ⊢
        exact h
      | nil =>
        -- the name is complete in `cs`, and the parenthesis is not behind it
        rw [List.nil_append] at htail
        cases hkind : PosixClass.ofName? (String.ofList (cs.takeWhile (· != ':'))) with
        | none => rfl
        | some kind =>
          have hname := not_mem_of_ofName hkind
          rw [String.toList_ofList] at hname
          rcases ht with rfl | hmem | ⟨t', rfl⟩
          · exact absurd htail (by simp)
          · rw [← hsplit, List.mem_append] at hmem
            exact absurd hmem (by simp [hname])
          · exact absurd (List.cons.inj htail).1 (by decide)
    · rfl

theorem readPosix_colon (cs : List Char) :
    readPosix? ('[' :: ':' :: cs) =
      if cs.head? = some '^' then readPosix?.named true cs.tail else readPosix?.named false cs := by
  unfold readPosix?
  split
  · rename_i heq
    obtain rfl := (List.cons.inj (List.cons.inj heq).2).2
    rfl
  · rename_i rest hcaret heq
    obtain rfl := (List.cons.inj (List.cons.inj heq).2).2
    cases cs with
    | nil => rfl
    | cons c cs =>
      rw [if_neg]
      intro hc
      exact hcaret cs (by rw [Option.some.inj hc])
  · rename_i hne
    exact absurd rfl (hne cs)

theorem readPosix_of_ne {c : Char} (cs : List Char) (hc : c ≠ ':') :
    readPosix? ('[' :: c :: cs) = none := by
  unfold readPosix?
  split
  · rename_i heq
    exact absurd (List.cons.inj (List.cons.inj heq).2).1 hc
  · rename_i heq
    exact absurd (List.cons.inj (List.cons.inj heq).2).1 hc
  · rfl

/-- A class that is read by its name is read so whatever follows. -/
theorem readPosix_append {cs r : List Char} {x : ClassSet}
    (h : readPosix? ('[' :: cs) = some (x, r)) :
    r <:+ cs ∧ ∀ t, readPosix? ('[' :: (cs ++ t)) = some (x, r ++ t) := by
  cases cs with
  | nil => exact absurd h (by simp [readPosix?])
  | cons c cs =>
    by_cases hc : c = ':'
    · subst hc
      rw [readPosix_colon] at h
      cases cs with
      | nil => exact absurd h (by simp [readPosix?.named])
      | cons d cs =>
        split at h
        · rename_i hd
          obtain ⟨hs, he⟩ := readPosix_named_append h
          refine ⟨hs.trans ⟨[':', d], rfl⟩, fun t => ?_⟩
          rw [List.cons_append, readPosix_colon, List.cons_append, List.head?_cons,
            if_pos (by simpa using hd)]
          exact he t
        · rename_i hd
          obtain ⟨hs, he⟩ := readPosix_named_append h
          refine ⟨hs.trans ⟨[':'], rfl⟩, fun t => ?_⟩
          rw [List.cons_append, readPosix_colon, List.cons_append, List.head?_cons,
            if_neg (by simpa using hd)]
          exact he t
    · rw [readPosix_of_ne cs hc] at h
      exact absurd h (by simp)

theorem readPosix_append_none {cs t : List Char} (h : readPosix? ('[' :: cs) = none)
    (ht : Ends cs t) : readPosix? ('[' :: (cs ++ t)) = none := by
  cases cs with
  | nil =>
    rcases ht with rfl | hmem | ⟨t', rfl⟩
    · exact h
    · exact absurd hmem (by simp)
    · exact readPosix_of_ne t' (by decide)
  | cons c cs =>
    by_cases hc : c = ':'
    · subst hc
      rw [readPosix_colon] at h
      rw [List.cons_append, readPosix_colon]
      have ht' := ht.tail (by decide)
      cases cs with
      | nil =>
        rw [if_neg]
        · exact readPosix_named_append_none h ht'
        · rcases ht' with rfl | hmem | ⟨t', rfl⟩
          · decide
          · exact absurd hmem (by simp)
          · simp
      | cons d cs =>
        rw [List.cons_append, List.head?_cons]
        rw [List.head?_cons] at h
        split
        · rename_i hd
          rw [if_pos hd] at h
          exact readPosix_named_append_none h (ht'.tail (by simp [Option.some.inj hd]))
        · rename_i hd
          rw [if_neg hd] at h
          exact readPosix_named_append_none h ht'
    · rw [List.cons_append]
      exact readPosix_of_ne _ hc

/-! ## Bracketed classes -/

theorem readHyphens_eq (verbose : Bool) : ∀ (fuel : Nat) (cs : List Char),
    readHyphens verbose fuel cs =
      ((readRun (· == '-') verbose fuel cs).1.map fun _ => .literal { char := '-' },
        (readRun (· == '-') verbose fuel cs).2)
  | 0, _ => rfl
  | _ + 1, [] => rfl
  | fuel + 1, c :: cs => by
    by_cases hc : c = '-'
    · subst hc
      rw [readHyphens, readRun, readHyphens_eq verbose fuel]
      rfl
    · rw [readRun, if_neg (by simpa using hc)]
      unfold readHyphens
      split <;> simp_all

/-- Whether a class is negated, and what is left of its text. -/
def readCaret (verbose : Bool) (cs : List Char) : Bool × List Char :=
  match skip verbose cs with
  | '^' :: rest => (true, skip verbose rest)
  | rest => (false, rest)

theorem readCaret_suffix (verbose : Bool) (cs : List Char) : (readCaret verbose cs).2 <:+ cs := by
  unfold readCaret
  have hcs := skip_suffix verbose cs
  split
  · rename_i rest hskip
    exact ((skip_suffix verbose rest).trans (List.suffix_cons _ rest)).trans (hskip ▸ hcs)
  · exact hcs

theorem readCaret_append {verbose : Bool} {cs t : List Char}
    (ht : Follows cs (readCaret verbose cs).2 t) :
    readCaret verbose (cs ++ t) =
      ((readCaret verbose cs).1, (readCaret verbose cs).2 ++ t) := by
  unfold readCaret at ht ⊢
  have hcs := skip_suffix verbose cs
  cases hskip : skip verbose cs with
  | nil =>
    rw [hskip] at ht
    rw [skip_append (hskip ▸ ht), hskip, List.nil_append]
    rcases ht.of_nil with rfl | ⟨t', rfl⟩
    · rfl
    · rfl
  | cons c rest =>
    rw [hskip] at ht hcs
    rw [skip_append_cons hskip t]
    by_cases hc : c = '^'
    · subst hc
      simp only at ht ⊢
      rw [skip_append (ht.of_suffix ((List.suffix_cons _ rest).trans hcs) (List.suffix_refl _))]
    · split
      · rename_i heq
        exact absurd (List.cons.inj heq).1 hc
      · split
        · rename_i heq
          exact absurd (List.cons.inj heq).1 hc
        · rfl

/-- The opening of a class, by what is left after its hyphens. -/
def openSet (verbose negated : Bool) : List ClassSet × List Char →
    Option (Bool × List ClassSet × List Char)
  | (_, []) => none
  | ([], ']' :: rest) =>
    match skip verbose rest with
    | [] => none
    | rest => some (negated, [.literal { char := ']' }], rest)
  | (items, rest) => some (negated, items, rest)

theorem readSetOpening?_eq (verbose : Bool) (cs : List Char) :
    readSetOpening? verbose cs =
      let opening := readCaret verbose cs
      openSet verbose opening.1 (readHyphens verbose opening.2.length opening.2) := rfl

theorem openSet_append {verbose negated negated' : Bool} {items items' : List ClassSet}
    {cs r : List Char} (h : openSet verbose negated (items, cs) = some (negated', items', r)) :
    r <:+ cs ∧ ∀ t, Follows cs r t →
      openSet verbose negated (items, cs ++ t) = some (negated', items', r ++ t) := by
  unfold openSet at h
  split at h
  · exact absurd h (by simp)
  · rename_i rest heq
    obtain ⟨rfl, rfl⟩ := Prod.mk.inj heq
    split at h
    · exact absurd h (by simp)
    · rename_i hne
      simp only [Option.some.injEq, Prod.mk.injEq] at h
      obtain ⟨rfl, rfl, rfl⟩ := h
      refine ⟨(skip_suffix verbose rest).trans (List.suffix_cons _ rest), fun t ht => ?_⟩
      cases hskip : skip verbose rest with
      | nil => exact absurd hskip hne
      | cons c rest' =>
        simp only [List.cons_append, openSet]
        rw [skip_append_cons hskip t]
  · rename_i items₁ cs₁ hnil hbracket heq
    obtain ⟨rfl, rfl⟩ := Prod.mk.inj heq
    simp only [Option.some.injEq, Prod.mk.injEq] at h
    obtain ⟨rfl, rfl, rfl⟩ := h
    refine ⟨List.suffix_refl _, fun t ht => ?_⟩
    cases cs with
    | nil => exact absurd rfl hnil
    | cons c cs =>
      rw [List.cons_append]
      unfold openSet
      split
      · rename_i heq
        exact absurd heq (by simp)
      · rename_i heq
        simp only [Prod.mk.injEq, List.cons.injEq] at heq
        exact (hbracket cs heq.1 (by rw [heq.2.1])).elim
      · rename_i heq
        obtain ⟨rfl, rfl⟩ := Prod.mk.inj heq
        rfl

/-- The opening of a class leaves some text, and is read alike whatever follows. -/
theorem readSetOpening_append {verbose negated : Bool} {cs r : List Char} {items : List ClassSet}
    (h : readSetOpening? verbose cs = some (negated, items, r)) :
    r <:+ cs ∧ ∀ t, Follows cs r t →
      readSetOpening? verbose (cs ++ t) = some (negated, items, r ++ t) := by
  simp only [readSetOpening?_eq, readHyphens_eq] at h ⊢
  have hcaret := readCaret_suffix verbose cs
  have hrun := readRun_suffix (· == '-') verbose (readCaret verbose cs).2.length
    (readCaret verbose cs).2
  obtain ⟨hs, he⟩ := openSet_append h
  refine ⟨(hs.trans hrun).trans hcaret, fun t ht => ?_⟩
  rw [readCaret_append (ht.of_suffix (List.suffix_refl _) (hs.trans hrun))]
  simp only
  rw [readRun_append (p := (· == '-')) rfl (Nat.le_refl _) (Nat.le_refl _)
    (ht.of_suffix hcaret hs)]
  exact he t (ht.of_suffix (hrun.trans hcaret) (List.suffix_refl _))

/-- Reading the inside of a class with so much fuel is local. -/
def LocalSets (verbose : Bool) (fuel fuel' : Nat) : Prop :=
  ∀ (pending : Option (ClassOp × ClassSet)) (items : List ClassSet),
    Local (readSet? verbose fuel pending items) (readSet? verbose fuel' pending items)

/-- What is read behind the bracket of a class inside a class. -/
def readNested? (verbose : Bool) (fuel : Nat) (pending : Option (ClassOp × ClassSet))
    (items : List ClassSet) (rest : List Char) : Option (ClassSet × List Char) :=
  match readPosix? ('[' :: rest) with
  | some (item, rest) => readSet? verbose fuel pending (item :: items) rest
  | none =>
    (readSetOpening? verbose rest).bind fun p =>
      (readSet? verbose fuel none p.2.1.reverse p.2.2).bind fun q =>
        readSet? verbose fuel pending (.bracket p.1 q.1 :: items) q.2

/-- The class that has been read when a side of an operator ends. -/
def readSide (pending : Option (ClassOp × ClassSet)) (items : List ClassSet) : ClassSet :=
  ClassSet.applyPending pending (.ofItems items.reverse)

/-- What is read from the first character that counts. -/
def readSetItem? (verbose : Bool) (fuel : Nat) (pending : Option (ClassOp × ClassSet))
    (items : List ClassSet) : List Char → Option (ClassSet × List Char)
  | [] => none
  | '[' :: rest => readNested? verbose fuel pending items rest
  | ']' :: rest => some (readSide pending items, rest)
  | '&' :: '&' :: rest => readSet? verbose fuel (some (.inter, readSide pending items)) [] rest
  | '-' :: '-' :: rest => readSet? verbose fuel (some (.diff, readSide pending items)) [] rest
  | '~' :: '~' :: rest => readSet? verbose fuel (some (.symmDiff, readSide pending items)) [] rest
  | cs => (readRange? verbose cs).bind fun p => readSet? verbose fuel pending (p.1 :: items) p.2

theorem readSet?_succ (verbose : Bool) (fuel : Nat) (pending : Option (ClassOp × ClassSet))
    (items : List ClassSet) (cs : List Char) :
    readSet? verbose (fuel + 1) pending items cs =
      readSetItem? verbose fuel pending items (skip verbose cs) := rfl

section Sets

variable {verbose : Bool} {fuel fuel' : Nat} (ih : LocalSets verbose fuel fuel')
  (pending : Option (ClassOp × ClassSet)) (items : List ClassSet)

include ih

theorem local_readNested :
    Local (readNested? verbose fuel pending items) (readNested? verbose fuel' pending items) := by
  intro cs x r h
  unfold readNested? at h ⊢
  split at h
  · rename_i item r₁ hposix
    obtain ⟨hs₁, he₁⟩ := readPosix_append hposix
    obtain ⟨hs, he⟩ := ih pending (item :: items) r₁ x r h
    refine ⟨hs.trans hs₁, fun t ht => ?_⟩
    rw [he₁ t]
    exact he t (ht.of_suffix hs₁ (List.suffix_refl _))
  · rename_i hposix
    simp only [Option.bind_eq_some_iff, Prod.exists] at h
    obtain ⟨negated, opening, r₁, hopening, set, r₂, hset, h⟩ := h
    obtain ⟨hs₁, he₁⟩ := readSetOpening_append hopening
    obtain ⟨hs₂, he₂⟩ := ih none opening.reverse r₁ set r₂ hset
    obtain ⟨hs, he⟩ := ih pending (.bracket negated set :: items) r₂ x r h
    refine ⟨(hs.trans hs₂).trans hs₁, fun t ht => ?_⟩
    simp only [readPosix_append_none hposix (ht.ends ((hs.trans hs₂).trans hs₁)),
      he₁ t (ht.of_suffix (List.suffix_refl _) (hs.trans hs₂)), Option.bind_some,
      he₂ t (ht.of_suffix hs₁ hs)]
    exact he t (ht.of_suffix (hs₂.trans hs₁) (List.suffix_refl _))

/-- What is read behind the operator of a class. -/
theorem local_behind_operator (pending : Option (ClassOp × ClassSet)) {c : Char}
    {cs r : List Char} {x : ClassSet} (h : readSet? verbose fuel pending [] cs = some (x, r)) :
    r <:+ c :: c :: cs ∧ ∀ t, Follows (c :: c :: cs) r t →
      readSet? verbose fuel' pending [] (cs ++ t) = some (x, r ++ t) := by
  obtain ⟨hs, he⟩ := ih pending [] cs x r h
  have hcs : cs <:+ c :: c :: cs := ⟨[c, c], rfl⟩
  exact ⟨hs.trans hcs, fun t ht => he t (ht.of_suffix hcs (List.suffix_refl _))⟩

theorem local_readSetItem :
    Local (readSetItem? verbose fuel pending items) (readSetItem? verbose fuel' pending items) := by
  intro cs x r h
  unfold readSetItem? at h
  split at h
  · exact absurd h (by simp)
  · exact (local_readNested ih pending items).behind h
  · obtain ⟨rfl, rfl⟩ := Prod.mk.inj (Option.some.inj h)
    exact ⟨List.suffix_cons _ _, fun t _ => rfl⟩
  · exact local_behind_operator ih _ h
  · exact local_behind_operator ih _ h
  · exact local_behind_operator ih _ h
  · rename_i hnil hopen hclose hinter hdiff hsymm
    obtain ⟨hs, he⟩ :=
      (local_readRange verbose).bind (fun item => ih pending (item :: items)) cs x r h
    refine ⟨hs, fun t ht => ?_⟩
    have hends := ht.ends hs
    -- no operator and no bracket comes into being where `t` is added
    have hpair : ∀ {c : Char} {v : List Char}, cs ++ t = c :: c :: v → c ≠ ')' →
        ∃ u, cs = c :: c :: u := fun heq hc => by
      obtain ⟨u, rfl, hv⟩ := hends.eq_cons hc heq
      obtain ⟨u', rfl, -⟩ := (hends.tail hc).eq_cons hc hv
      exact ⟨u', rfl⟩
    rw [← he t ht]
    unfold readSetItem?
    split
    · rename_i heq
      exact absurd (List.append_eq_nil_iff.mp heq).1 hnil
    · rename_i heq
      obtain ⟨u, hu, -⟩ := hends.eq_cons (by decide) heq
      exact absurd hu (hopen u)
    · rename_i heq
      obtain ⟨u, hu, -⟩ := hends.eq_cons (by decide) heq
      exact absurd hu (hclose u)
    · rename_i heq
      obtain ⟨u, hu⟩ := hpair heq (by decide)
      exact absurd hu (hinter u)
    · rename_i heq
      obtain ⟨u, hu⟩ := hpair heq (by decide)
      exact absurd hu (hdiff u)
    · rename_i heq
      obtain ⟨u, hu⟩ := hpair heq (by decide)
      exact absurd hu (hsymm u)
    · rfl

end Sets

theorem local_readSet {verbose : Bool} : ∀ {fuel fuel' : Nat}, fuel ≤ fuel' →
    LocalSets verbose fuel fuel'
  | 0, _, _, _, _, cs, x, r, h => absurd h (by simp [readSet?])
  | _ + 1, 0, hf, _, _, _, _, _, _ => absurd hf (by simp)
  | fuel + 1, fuel' + 1, hf, pending, items, cs, x, r, h => by
    have ih := @local_readSet verbose _ _ (Nat.le_of_succ_le_succ hf)
    rw [readSet?_succ] at h
    obtain ⟨hs, he⟩ := ((local_readSetItem ih pending items).skip verbose) cs x r h
    refine ⟨hs, fun t ht => ?_⟩
    rw [readSet?_succ]
    exact he t ht

theorem local_readBracket (verbose : Bool) :
    Local (readBracket? verbose) (readBracket? verbose) := by
  intro cs x r h
  unfold readBracket? at h ⊢
  simp only [Option.bind_eq_bind, Option.bind_eq_some_iff, Option.pure_def, Option.some.injEq,
    Prod.exists, Prod.mk.injEq] at h
  obtain ⟨negated, opening, r₁, hopening, set, r₂, hset, rfl, rfl⟩ := h
  obtain ⟨hs₁, he₁⟩ := readSetOpening_append hopening
  obtain ⟨hs₂, -⟩ := local_readSet (Nat.le_refl _) none opening.reverse r₁ set r₂ hset
  refine ⟨hs₂.trans hs₁, fun t ht => ?_⟩
  have hfuel : r₁.length + 1 ≤ (r₁ ++ t).length + 1 := by simp
  have he₂ := (local_readSet hfuel none opening.reverse r₁ set r₂ hset).2 t
    (ht.of_suffix hs₁ (List.suffix_refl _))
  simp only [Option.bind_eq_bind, he₁ t (ht.of_suffix (List.suffix_refl _) hs₂), Option.bind_some,
    he₂, Option.pure_def]

end RouteTable.Regex
