import RouteTable.Proofs.Regex.Reading.Class

/-!
# Reading the items of a group is local

* `local_readGroupHead`, `local_readBounds`: what opens a group, and the bounds of a repetition.
* `local_readItems`: what is read up to the parenthesis that closes a group is read alike whatever
  comes after it.
-/

namespace RouteTable.Regex

/-! ## Heads of groups -/

theorem readFlags_append : ∀ {negated dangling : Bool} {fs fs' : FlagList} {cs r : List Char}
    {c : Char}, readFlags? negated dangling fs cs = some (fs', c, r) →
      r <:+ cs ∧ ∀ t, readFlags? negated dangling fs (cs ++ t) = some (fs', c, r ++ t)
  | _, _, _, _, [], _, _, h => absurd h (by simp [readFlags?])
  | negated, dangling, fs, fs', d :: cs, r, c, h => by
    simp only [List.cons_append]
    unfold readFlags? at h ⊢
    split at h
    · rename_i hd
      split at h
      · exact absurd h (by simp)
      · rename_i hdangling
        simp only [Option.some.injEq, Prod.mk.injEq] at h
        obtain ⟨rfl, rfl, rfl⟩ := h
        exact ⟨List.suffix_cons _ _, fun t => by rw [if_pos hd, if_neg hdangling]⟩
    · rename_i hd
      split at h
      · rename_i hhyphen
        split at h
        · exact absurd h (by simp)
        · rename_i hnegated
          obtain ⟨hs, he⟩ := readFlags_append h
          refine ⟨hs.trans (List.suffix_cons _ _), fun t => ?_⟩
          rw [if_neg hd, if_pos hhyphen, if_neg hnegated]
          exact he t
      · rename_i hhyphen
        cases hf : Flag.ofChar? d with
        | none => simp [hf] at h
        | some f =>
          simp only [hf] at h
          split at h
          · exact absurd h (by simp)
          · rename_i hrepeated
            obtain ⟨hs, he⟩ := readFlags_append h
            refine ⟨hs.trans (List.suffix_cons _ _), fun t => ?_⟩
            rw [if_neg hd, if_neg hhyphen]
            simp only
            rw [if_neg hrepeated]
            exact he t

theorem local_readGroupName : Local readGroupName? readGroupName? := by
  intro cs x r h
  unfold readGroupName? at h ⊢
  split at h
  · rename_i first others rest htake hdrop
    split at h
    · rename_i hname
      obtain ⟨rfl, rfl⟩ := Prod.mk.inj (Option.some.inj h)
      refine ⟨(List.suffix_cons _ rest).trans (hdrop ▸ List.dropWhile_suffix _), fun t _ => ?_⟩
      have hne : ¬ (cs.takeWhile (· != '>')).length = cs.length := fun hlen => by
        have hsplit :=
          congrArg List.length (List.takeWhile_append_dropWhile (p := (· != '>')) (l := cs))
        rw [List.length_append, hlen, hdrop] at hsplit
        simp at hsplit
      rw [List.dropWhile_append, List.takeWhile_append, if_neg hne, hdrop, if_neg (by simp), htake]
      simp only [List.cons_append]
      rw [if_pos hname]
    · exact absurd h (by simp)
  · exact absurd h (by simp)

/-- What an opening parenthesis starts, by the text behind it. -/
def groupHeadOf : List Char → Option (GroupHead × List Char)
  | '?' :: '=' :: _ => none
  | '?' :: '!' :: _ => none
  | '?' :: '<' :: '=' :: _ => none
  | '?' :: '<' :: '!' :: _ => none
  | '?' :: 'P' :: '<' :: rest =>
    (readGroupName? rest).map fun (name, rest) => (.opens (.namedCapture name), rest)
  | '?' :: '<' :: rest =>
    (readGroupName? rest).map fun (name, rest) => (.opens (.namedCapture name), rest)
  | '?' :: rest =>
    match readFlags? false false [] rest with
    | none => none
    | some (fs, last, rest) =>
      if last = ':' then some (.opens (.plain fs), rest)
      else if fs.isEmpty then none
      else some (.directive fs, rest)
  | rest => some (.opens .capture, rest)

theorem groupHeadOf_capture {d : Char} (hd : d ≠ '?') (rest : List Char) :
    groupHeadOf (d :: rest) = some (.opens .capture, d :: rest) := by
  simp [groupHeadOf, hd]

theorem groupHeadOf_name {d : Char} (hequals : d ≠ '=') (hexcl : d ≠ '!') (rest : List Char) :
    groupHeadOf ('?' :: '<' :: d :: rest) =
      (readGroupName? (d :: rest)).map fun (name, rest) => (.opens (.namedCapture name), rest) := by
  simp [groupHeadOf, hequals, hexcl]

theorem groupHeadOf_flags {d : Char} (h : d ∉ ['=', '!', '<', 'P']) (rest : List Char) :
    groupHeadOf ('?' :: d :: rest) =
      match readFlags? false false [] (d :: rest) with
      | none => none
      | some (fs, last, rest) =>
        if last = ':' then some (.opens (.plain fs), rest)
        else if fs.isEmpty then none
        else some (.directive fs, rest) := by
  simp only [List.mem_cons, List.not_mem_nil, or_false, not_or] at h
  obtain ⟨hequals, hexcl, hless, hnamed⟩ := h
  exact groupHeadOf.eq_7 _ (by simp [hequals]) (by simp [hexcl]) (by simp [hless])
    (by simp [hless]) (by simp [hnamed]) (by simp [hless])

/-- No flag is read from a character with which another head starts. -/
theorem not_mem_of_readFlags {d : Char} {rest r : List Char} {fs : FlagList} {last : Char}
    (h : readFlags? false false [] (d :: rest) = some (fs, last, r)) :
    d ∉ ['=', '!', '<', 'P'] := by
  intro hd
  simp only [List.mem_cons, List.not_mem_nil, or_false] at hd
  rcases hd with rfl | rfl | rfl | rfl <;> simp [readFlags?, Flag.ofChar?] at h

theorem local_groupHeadOf : Local groupHeadOf groupHeadOf := by
  intro cs x r h
  unfold groupHeadOf at h
  split at h
  · exact absurd h (by simp)
  · exact absurd h (by simp)
  · exact absurd h (by simp)
  · exact absurd h (by simp)
  · rename_i rest
    obtain ⟨hs, he⟩ := (local_readGroupName.map
      fun name => GroupHead.opens (.namedCapture name)) rest x r h
    have hrest : rest <:+ '?' :: 'P' :: '<' :: rest := ⟨['?', 'P', '<'], rfl⟩
    exact ⟨hs.trans hrest, fun t ht => he t (ht.of_suffix hrest (List.suffix_refl _))⟩
  · rename_i rest hequals hexcl
    obtain ⟨hs, he⟩ := (local_readGroupName.map
      fun name => GroupHead.opens (.namedCapture name)) rest x r h
    have hrest : rest <:+ '?' :: '<' :: rest := ⟨['?', '<'], rfl⟩
    refine ⟨hs.trans hrest, fun t ht => ?_⟩
    rw [← he t (ht.of_suffix hrest (List.suffix_refl _))]
    cases rest with
    | nil => exact absurd h (by simp [readGroupName?])
    | cons d rest =>
      have hd₁ : d ≠ '=' := fun hd => hequals rest (by rw [hd])
      have hd₂ : d ≠ '!' := fun hd => hexcl rest (by rw [hd])
      exact groupHeadOf_name hd₁ hd₂ (rest ++ t)
  · rename_i rest _ _ _ _ _ _
    cases hflags : readFlags? false false [] rest with
    | none =>
      rw [hflags] at h
      exact absurd h (by simp)
    | some p =>
      obtain ⟨fs, last, r'⟩ := p
      obtain ⟨hs, he⟩ := readFlags_append hflags
      rw [hflags] at h
      simp only at h
      cases rest with
      | nil => exact absurd hflags (by simp [readFlags?])
      | cons d rest =>
        have hhead : ∀ t, groupHeadOf ('?' :: d :: rest ++ t) =
            if last = ':' then some (.opens (.plain fs), r' ++ t)
            else if fs.isEmpty then none
            else some (.directive fs, r' ++ t) := by
          intro t
          have hd := groupHeadOf_flags (not_mem_of_readFlags hflags) (rest ++ t)
          rw [← List.cons_append, he t] at hd
          exact hd
        have hsuffix : r' <:+ '?' :: d :: rest := hs.trans (List.suffix_cons '?' (d :: rest))
        split at h
        · rename_i hcolon
          obtain ⟨rfl, rfl⟩ := Prod.mk.inj (Option.some.inj h)
          exact ⟨hsuffix, fun t _ => by rw [hhead, if_pos hcolon]⟩
        · rename_i hcolon
          split at h
          · exact absurd h (by simp)
          · rename_i hfs
            obtain ⟨rfl, rfl⟩ := Prod.mk.inj (Option.some.inj h)
            exact ⟨hsuffix, fun t _ => by rw [hhead, if_neg hcolon, if_neg hfs]⟩
  · rename_i hquestion
    obtain ⟨rfl, rfl⟩ := Prod.mk.inj (Option.some.inj h)
    refine ⟨List.suffix_refl _, fun t ht => ?_⟩
    cases cs with
    | nil =>
      rcases ht.of_nil with rfl | ⟨t', rfl⟩ <;> rfl
    | cons d cs =>
      have hd : d ≠ '?' := fun hd => hquestion cs (by rw [hd])
      exact groupHeadOf_capture hd (cs ++ t)

theorem local_readGroupHead (verbose : Bool) :
    Local (readGroupHead? verbose) (readGroupHead? verbose) :=
  local_groupHeadOf.skip verbose

/-! ## Repetitions -/

theorem local_readBounds (verbose : Bool) :
    Local (readBounds? verbose) (readBounds? verbose) := by
  intro cs x r h
  unfold readBounds? at h ⊢
  simp only [Option.bind_eq_bind, Option.bind_eq_some_iff, Prod.exists] at h
  obtain ⟨min, r₁, hmin, h⟩ := h
  obtain ⟨hs₁, he₁⟩ := ((local_readDecimal verbose).skip verbose) cs min r₁ hmin
  split at h
  · rename_i rest
    split at h
    · rename_i rest' hskip
      obtain ⟨rfl, rfl⟩ := Prod.mk.inj (Option.some.inj h)
      have hrest' := (suffix_of_skip hskip).trans (List.suffix_cons ',' rest)
      refine ⟨hrest'.trans hs₁, fun t ht => ?_⟩
      simp only [Option.bind_eq_bind, he₁ t (ht.of_suffix (List.suffix_refl _) hrest'),
        Option.bind_some, List.cons_append, skip_append_cons hskip t, Option.pure_def]
    · rename_i hclose
      simp only [Option.bind_eq_some_iff, Prod.exists] at h
      obtain ⟨max, r₂, hmax, h⟩ := h
      obtain ⟨hs₂, he₂⟩ := local_readDecimal verbose _ max r₂ hmax
      have hskip := skip_suffix verbose rest
      split at h
      · rename_i rest'
        split at h
        · rename_i hle
          obtain ⟨rfl, rfl⟩ := Prod.mk.inj (Option.some.inj h)
          have hr := (List.suffix_cons _ rest').trans hs₂
          have hrest := (hr.trans hskip).trans (List.suffix_cons ',' rest)
          refine ⟨hrest.trans hs₁, fun t ht => ?_⟩
          have ht₁ := (ht.of_suffix hs₁ (List.suffix_refl _)).of_suffix (List.suffix_cons _ rest)
            (List.suffix_refl _)
          simp only [Option.bind_eq_bind, he₁ t (ht.of_suffix (List.suffix_refl _) hrest),
            Option.bind_some, List.cons_append, skip_append (ht₁.of_suffix (List.suffix_refl _) hr)]
          have hmax' := he₂ t (ht₁.of_suffix hskip (List.suffix_cons _ rest'))
          split
          · rename_i heq
            rcases (ht₁.of_suffix hskip hr).append_eq_cons heq with ⟨u, hu⟩ | ⟨-, hu⟩
            · exact absurd hu (hclose u)
            · exact absurd hu (by decide)
          · simp only [hmax', Option.bind_some, List.cons_append]
            rw [if_pos hle]
            rfl
        · exact absurd h (by simp)
      · exact absurd h (by simp)
  · rename_i rest
    obtain ⟨rfl, rfl⟩ := Prod.mk.inj (Option.some.inj h)
    refine ⟨(List.suffix_cons _ rest).trans hs₁, fun t ht => ?_⟩
    simp only [Option.bind_eq_bind,
      he₁ t (ht.of_suffix (List.suffix_refl _) (List.suffix_cons _ rest)),
      Option.bind_some, List.cons_append, Option.pure_def]
  · exact absurd h (by simp)

theorem readGreed_suffix (cs : List Char) : (readGreed cs).2 <:+ cs := by
  unfold readGreed
  split
  · exact List.suffix_cons _ _
  · exact List.suffix_refl _

theorem readGreed_append {cs t : List Char} (ht : Follows cs (readGreed cs).2 t) :
    readGreed (cs ++ t) = ((readGreed cs).1, (readGreed cs).2 ++ t) := by
  cases cs with
  | nil =>
    rcases ht.of_nil with rfl | ⟨t', rfl⟩ <;> rfl
  | cons c cs =>
    simp only [List.cons_append]
    unfold readGreed
    split <;> simp_all

/-! ## Items -/

/-- Reading items with so much fuel is local. -/
def LocalItems (fuel fuel' : Nat) : Prop :=
  ∀ (verbose : Bool) (branches items : List Ast),
    Local (readItems? fuel verbose branches items) (readItems? fuel' verbose branches items)

/-- What is read behind an opening parenthesis. -/
def readGroup? (fuel : Nat) (verbose : Bool) (branches items : List Ast) (rest : List Char) :
    Option (Ast × List Char) :=
  match readGroupHead? verbose rest with
  | none => none
  | some (.directive fs, rest) =>
    readItems? fuel ((fs.value? .verbose).getD verbose) branches (.flags fs :: items) rest
  | some (.opens kind, rest) =>
    let inner := match kind with
      | .plain fs => (fs.value? .verbose).getD verbose
      | _ => verbose
    match readItems? fuel inner [] [] rest with
    | some (sub, ')' :: rest) => readItems? fuel verbose branches (.group kind sub :: items) rest
    | _ => none

/-- What is read behind an operator that repeats the last item. -/
def readRepeat? (fuel : Nat) (verbose : Bool) (branches items : List Ast) (min : Nat)
    (max : Option Nat) (rest : List Char) : Option (Ast × List Char) :=
  (repeatLast? items min max (readGreed rest).1).bind fun items =>
    readItems? fuel verbose branches items (readGreed rest).2

/-- What is read from the first character that counts. -/
def readItem? (fuel : Nat) (verbose : Bool) (branches items : List Ast) :
    List Char → Option (Ast × List Char)
  | [] => some (Ast.ofBranches (Ast.ofItems items.reverse :: branches).reverse, [])
  | ')' :: rest =>
    some (Ast.ofBranches (Ast.ofItems items.reverse :: branches).reverse, ')' :: rest)
  | '(' :: rest => readGroup? fuel verbose branches items rest
  | '|' :: rest => readItems? fuel verbose (Ast.ofItems items.reverse :: branches) [] rest
  | '[' :: rest => (readBracket? verbose rest).bind fun p =>
    readItems? fuel verbose branches (p.1 :: items) p.2
  | '?' :: rest => readRepeat? fuel verbose branches items 0 (some 1) rest
  | '*' :: rest => readRepeat? fuel verbose branches items 0 none rest
  | '+' :: rest => readRepeat? fuel verbose branches items 1 none rest
  | '{' :: rest => (readBounds? verbose rest).bind fun p =>
    readRepeat? fuel verbose branches items p.1.1 p.1.2 (skip verbose p.2)
  | '\\' :: rest => (readEscape? verbose rest).bind fun p =>
    readItems? fuel verbose branches (p.1 :: items) p.2
  | '.' :: rest => readItems? fuel verbose branches (.dot :: items) rest
  | '^' :: rest => readItems? fuel verbose branches (.anchor .startLine :: items) rest
  | '$' :: rest => readItems? fuel verbose branches (.anchor .endLine :: items) rest
  | c :: rest => readItems? fuel verbose branches (.literal { char := c } :: items) rest

theorem readItems?_succ (fuel : Nat) (verbose : Bool) (branches items : List Ast) (cs : List Char) :
    readItems? (fuel + 1) verbose branches items cs =
      readItem? fuel verbose branches items (skip verbose cs) := rfl

section Items

variable {fuel fuel' : Nat} (ih : LocalItems fuel fuel') (verbose : Bool)
  (branches items : List Ast)

include ih

theorem local_readGroup :
    Local (readGroup? fuel verbose branches items) (readGroup? fuel' verbose branches items) := by
  intro cs x r h
  unfold readGroup? at h ⊢
  simp only at h ⊢
  split at h
  · exact absurd h (by simp)
  · rename_i fs r₁ hhead
    obtain ⟨hs₁, he₁⟩ := local_readGroupHead verbose cs _ r₁ hhead
    obtain ⟨hs, he⟩ := ih _ branches (.flags fs :: items) r₁ x r h
    refine ⟨hs.trans hs₁, fun t ht => ?_⟩
    rw [he₁ t (ht.of_suffix (List.suffix_refl _) hs)]
    exact he t (ht.of_suffix hs₁ (List.suffix_refl _))
  · rename_i kind r₁ hhead
    obtain ⟨hs₁, he₁⟩ := local_readGroupHead verbose cs _ r₁ hhead
    split at h
    · rename_i sub r₂ hsub
      obtain ⟨hs₂, he₂⟩ := ih _ [] [] r₁ sub (')' :: r₂) hsub
      obtain ⟨hs, he⟩ := ih verbose branches (.group kind sub :: items) r₂ x r h
      have hr₂ := (List.suffix_cons ')' r₂).trans hs₂
      refine ⟨(hs.trans hr₂).trans hs₁, fun t ht => ?_⟩
      simp only [he₁ t (ht.of_suffix (List.suffix_refl _) (hs.trans hr₂)),
        he₂ t (ht.of_suffix hs₁ (hs.trans (List.suffix_cons ')' r₂))), List.cons_append]
      exact he t (ht.of_suffix (hr₂.trans hs₁) (List.suffix_refl _))
    · exact absurd h (by simp)

theorem local_readRepeat (min : Nat) (max : Option Nat) :
    Local (readRepeat? fuel verbose branches items min max)
      (readRepeat? fuel' verbose branches items min max) := by
  intro cs x r h
  obtain ⟨items', hitems, h⟩ := Option.bind_eq_some_iff.mp h
  have hgreed := readGreed_suffix cs
  obtain ⟨hs, he⟩ := ih verbose branches items' _ x r h
  refine ⟨hs.trans hgreed, fun t ht => ?_⟩
  rw [readRepeat?, readGreed_append (ht.of_suffix (List.suffix_refl _) hs), hitems,
    Option.bind_some]
  exact he t (ht.of_suffix hgreed (List.suffix_refl _))

theorem local_readItem :
    Local (readItem? fuel verbose branches items) (readItem? fuel' verbose branches items) := by
  intro cs x r h
  unfold readItem? at h
  split at h
  · obtain ⟨rfl, rfl⟩ := Prod.mk.inj (Option.some.inj h)
    refine ⟨List.suffix_refl _, fun t ht => ?_⟩
    rcases ht.of_nil with rfl | ⟨t', rfl⟩ <;> rfl
  · obtain ⟨rfl, rfl⟩ := Prod.mk.inj (Option.some.inj h)
    exact ⟨List.suffix_refl _, fun t _ => rfl⟩
  · exact (local_readGroup ih verbose branches items).behind h
  · exact (ih verbose (Ast.ofItems items.reverse :: branches) []).behind h
  · exact ((local_readBracket verbose).bind fun ast =>
      ih verbose branches (ast :: items)).behind h
  · exact (local_readRepeat ih verbose branches items 0 (some 1)).behind h
  · exact (local_readRepeat ih verbose branches items 0 none).behind h
  · exact (local_readRepeat ih verbose branches items 1 none).behind h
  · exact ((local_readBounds verbose).bind fun bounds =>
      (local_readRepeat ih verbose branches items bounds.1 bounds.2).skip verbose).behind h
  · exact ((local_readEscape verbose).bind fun ast =>
      ih verbose branches (ast :: items)).behind h
  · exact (ih verbose branches (.dot :: items)).behind h
  · exact (ih verbose branches (.anchor .startLine :: items)).behind h
  · exact (ih verbose branches (.anchor .endLine :: items)).behind h
  · rename_i c rest _ _ _ _ _ _ _ _ _ _ _ _
    obtain ⟨hs, he⟩ := (ih verbose branches (.literal { char := c } :: items)).behind h
    refine ⟨hs, fun t ht => ?_⟩
    rw [← he t ht, List.cons_append]
    unfold readItem?
    split
    case h_14 heq =>
      obtain ⟨rfl, rfl⟩ := List.cons.inj heq
      rfl
    all_goals
      rename_i heq
      first
        | exact absurd (List.cons.inj heq).1 (by assumption)
        | exact absurd heq (by simp)

end Items

/-- What is read up to the parenthesis that closes a group is read alike whatever comes after it. -/
theorem local_readItems : ∀ {fuel fuel' : Nat}, fuel ≤ fuel' → LocalItems fuel fuel'
  | 0, _, _, _, _, _, cs, x, r, h => absurd h (by simp [readItems?])
  | _ + 1, 0, hf, _, _, _, _, _, _, _ => absurd hf (by simp)
  | fuel + 1, fuel' + 1, hf, verbose, branches, items, cs, x, r, h => by
    have ih := local_readItems (Nat.le_of_succ_le_succ hf)
    rw [readItems?_succ] at h
    obtain ⟨hs, he⟩ := ((local_readItem ih verbose branches items).skip verbose) cs x r h
    refine ⟨hs, fun t ht => ?_⟩
    rw [readItems?_succ]
    exact he t ht

end RouteTable.Regex
