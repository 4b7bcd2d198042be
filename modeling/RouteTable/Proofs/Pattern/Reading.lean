import RouteTable.Pattern.Compiled

/-!
# What is read of a pattern

* `step_cases`: what one character does to a reading.
* `read_induction`: what every character keeps holds of the whole pattern.
* `exists_placeholder`: a pattern that is no literal path has a placeholder.
* `isRead_of_read`: braces delimit placeholders and stand nowhere else in tokens where they matter.
* `text_of_read`: a literal path is the pattern itself.
-/

namespace RouteTable

/-! ## One character -/

/-- A placeholder has the name it is read with, and that is an identifier. -/
theorem placeholder_eq_ok {name sub : String} {t : Token}
    (h : Token.placeholder? name sub = .ok t) :
    isIdentifier name = true ∧ ∃ sub', t = .placeholder name sub' := by
  unfold Token.placeholder? at h
  split at h
  · exact absurd h (by simp)
  · rename_i hname
    rw [Bool.not_eq_false] at hname
    split at h
    · exact ⟨hname, _, (Except.ok.inj h).symm⟩
    · split at h
      · exact absurd h (by simp)
      · split at h
        · exact ⟨hname, _, (Except.ok.inj h).symm⟩
        · exact absurd h (by simp)

theorem exists_of_placeholder {name sub : String} {r r' : Reading}
    (h : (do return (⟨(← Token.placeholder? name sub) :: r.tokens, .literal []⟩ : Reading) :
      Except PatternFault Reading) = .ok r') :
    ∃ name sub, isIdentifier name = true ∧
      r' = ⟨.placeholder name sub :: r.tokens, .literal []⟩ := by
  cases ht : Token.placeholder? name sub with
  | error e => rw [ht] at h; exact absurd h (by simp [bind, Except.bind])
  | ok t =>
    rw [ht] at h
    obtain ⟨hname, sub', rfl⟩ := placeholder_eq_ok ht
    exact ⟨name, sub', hname, (Except.ok.inj h).symm⟩

/-- A character continues a literal, ends one, completes a placeholder or is a part of it. -/
theorem step_cases {r r' : Reading} {c : Char} (h : r.step c = .ok r') :
    (∃ text, r.place = .literal text ∧ c ≠ '\x7b' ∧ r' = ⟨r.tokens, .literal (c :: text)⟩) ∨
      (∃ text, r.place = .literal text ∧ r' = ⟨withLiteral r.tokens text, .name []⟩) ∨
      (∃ name sub, isIdentifier name = true ∧
        r' = ⟨.placeholder name sub :: r.tokens, .literal []⟩) ∨
      (∃ place, (∀ text, place ≠ .literal text) ∧ r' = ⟨r.tokens, place⟩) := by
  have inside : ∀ {place}, (∀ text, place ≠ .literal text) →
      (.ok { r with place } : Except PatternFault Reading) = .ok r' →
        ∃ place, (∀ text, place ≠ .literal text) ∧ r' = ⟨r.tokens, place⟩ :=
    fun hplace h => ⟨_, hplace, (Except.ok.inj h).symm⟩
  unfold Reading.step at h
  split at h
  · rename_i text hplace
    split at h
    · exact Or.inr (Or.inl ⟨text, hplace, (Except.ok.inj h).symm⟩)
    · rename_i hc
      exact Or.inl ⟨text, hplace, hc, (Except.ok.inj h).symm⟩
  · split at h
    · exact Or.inr (Or.inr (Or.inl (exists_of_placeholder h)))
    · split at h <;> exact Or.inr (Or.inr (Or.inr (inside (by simp) h)))
  · split at h
    · exact Or.inr (Or.inr (Or.inr (inside (by simp) h)))
    · split at h
      · exact Or.inr (Or.inr (Or.inr (inside (by simp) h)))
      · split at h
        · exact Or.inr (Or.inr (Or.inr (inside (by simp) h)))
        · split at h
          · split at h
            · exact Or.inr (Or.inr (Or.inl (exists_of_placeholder h)))
            · exact Or.inr (Or.inr (Or.inr (inside (by simp) h)))
          · exact Or.inr (Or.inr (Or.inr (inside (by simp) h)))

/-! ## Whole patterns -/

/-- What holds at the start and is kept by every character holds of what is read. -/
theorem read_induction {P : List Char → Reading → Prop} (start : P [] .start)
    (step : ∀ {cs c r r'}, P cs r → r.step c = .ok r' → P (cs ++ [c]) r') :
    ∀ {cs : List Char} {r : Reading}, cs.foldlM Reading.step .start = .ok r → P cs r := by
  have hfrom : ∀ (cs before : List Char) {r r' : Reading}, P before r →
      cs.foldlM Reading.step r = .ok r' → P (before ++ cs) r' := by
    intro cs
    induction cs with
    | nil =>
      intro before r r' hr h
      rw [List.append_nil, ← Except.ok.inj h]
      exact hr
    | cons c cs ih =>
      intro before r r' hr h
      rw [List.foldlM_cons] at h
      cases hstep : r.step c with
      | error e => rw [hstep] at h; exact absurd h (by simp [bind, Except.bind])
      | ok r₁ =>
        rw [hstep] at h
        have hnext := ih (before ++ [c]) (step hr hstep) h
        rwa [List.append_assoc, List.singleton_append] at hnext
  intro cs r h
  exact hfrom cs [] start h

/-- The tokens of a pattern are those of the reading at its end, which is behind a literal. -/
theorem exists_reading {pattern : String} {tokens : List Token}
    (h : readTokens pattern = .ok tokens) :
    ∃ r text, pattern.toList.foldlM Reading.step .start = .ok r ∧ r.place = .literal text ∧
      ((tokens = [.literal ""] ∧ text = [] ∧ r.tokens = []) ∨
        (withLiteral r.tokens text ≠ [] ∧ tokens = (withLiteral r.tokens text).reverse)) := by
  unfold readTokens at h
  cases hread : pattern.toList.foldlM Reading.step .start with
  | error e => rw [hread] at h; exact absurd h (by simp [bind, Except.bind])
  | ok r =>
    rw [hread] at h
    change r.finish = .ok tokens at h
    unfold Reading.finish at h
    split at h
    · rename_i text hplace
      refine ⟨r, text, rfl, hplace, ?_⟩
      split at h
      · rename_i hnil
        unfold withLiteral at hnil
        split at hnil
        · rename_i htext
          exact Or.inl ⟨(Except.ok.inj h).symm, htext, hnil⟩
        · exact absurd hnil (by simp)
      · rename_i hne
        exact Or.inr ⟨hne, (Except.ok.inj h).symm⟩
    · exact absurd h (by simp)
    · exact absurd h (by simp)

theorem names_withLiteral (ts : List Token) (text : List Char) :
    (withLiteral ts text).filterMap Token.name? = ts.filterMap Token.name? := by
  unfold withLiteral
  split
  · rfl
  · rfl

variable {pattern : String} {tokens : List Token}

/-- Behind a literal either nothing else has been read, or a placeholder has. -/
theorem names_of_reading {cs : List Char} {r : Reading} {text : List Char}
    (h : cs.foldlM Reading.step .start = .ok r) (hplace : r.place = .literal text) :
    r.tokens = [] ∨ r.tokens.filterMap Token.name? ≠ [] := by
  refine read_induction (P := fun _ r => ∀ text, r.place = .literal text →
    r.tokens = [] ∨ r.tokens.filterMap Token.name? ≠ []) (fun _ _ => Or.inl rfl) ?_ h text hplace
  intro cs c r r' hr hstep text' hplace'
  rcases step_cases hstep with ⟨text, hplace, -, rfl⟩ | ⟨text, -, rfl⟩ | ⟨name, sub, -, rfl⟩ |
    ⟨place, hne, rfl⟩
  · exact hr text hplace
  · exact absurd hplace' (by simp)
  · exact Or.inr (by simp [Token.name?])
  · exact absurd hplace' (hne text')

/-- A pattern that is no literal path has a placeholder. -/
theorem exists_placeholder (h : readTokens pattern = .ok tokens) :
    (∃ path, tokens = [.literal path]) ∨ tokens.filterMap Token.name? ≠ [] := by
  obtain ⟨r, text, hread, hplace, ⟨rfl, -, -⟩ | ⟨hne, rfl⟩⟩ := exists_reading h
  · exact Or.inl ⟨"", rfl⟩
  · rcases names_of_reading hread hplace with hnil | hnames
    · rw [hnil] at hne ⊢
      unfold withLiteral at hne ⊢
      split
      · rename_i htext
        exact absurd (if_pos htext) hne
      · exact Or.inl ⟨ofReversed text, rfl⟩
    · refine Or.inr fun hnil => hnames ?_
      rw [List.filterMap_reverse, List.reverse_eq_nil_iff, names_withLiteral] at hnil
      exact hnil

/-! ## Braces -/

/-- What tokens are like that have been read: no brace opens in a literal text, and the name of a
placeholder is an identifier. -/
def Token.IsRead : Token → Prop
  | .literal text => '\x7b' ∉ text.toList
  | .placeholder name _ => isIdentifier name = true

theorem isRead_withLiteral {ts : List Token} {text : List Char} (hts : ∀ t ∈ ts, t.IsRead)
    (htext : '\x7b' ∉ text) : ∀ t ∈ withLiteral ts text, t.IsRead := by
  unfold withLiteral
  split
  · exact hts
  · rw [List.forall_mem_cons]
    refine ⟨?_, hts⟩
    rwa [Token.IsRead, ofReversed, String.toList_ofList, List.mem_reverse]

/-- What is read of a pattern are such tokens. -/
theorem isRead_of_read (h : readTokens pattern = .ok tokens) : ∀ t ∈ tokens, t.IsRead := by
  obtain ⟨r, text, hread, hplace, htokens⟩ := exists_reading h
  have hr : (∀ t ∈ r.tokens, t.IsRead) ∧ ∀ text, r.place = .literal text → '\x7b' ∉ text := by
    refine read_induction (P := fun _ r => (∀ t ∈ r.tokens, t.IsRead) ∧
      ∀ text, r.place = .literal text → '\x7b' ∉ text) ?_ ?_ hread
    · refine ⟨fun t ht => absurd ht List.not_mem_nil, fun text htext => ?_⟩
      rw [← Place.literal.inj htext]
      exact List.not_mem_nil
    · intro cs c r r' ⟨hts, hliteral⟩ hstep
      rcases step_cases hstep with ⟨text, hplace, hc, rfl⟩ | ⟨text, hplace, rfl⟩ |
        ⟨name, sub, hname, rfl⟩ | ⟨place, hne, rfl⟩
      · refine ⟨hts, fun text' htext' => ?_⟩
        rw [← Place.literal.inj htext', List.mem_cons, not_or]
        exact ⟨fun h => hc h.symm, hliteral text hplace⟩
      · refine ⟨isRead_withLiteral hts (hliteral text hplace), fun text' htext' => ?_⟩
        exact absurd htext' (by simp)
      · rw [List.forall_mem_cons]
        refine ⟨⟨hname, hts⟩, fun text' htext' => ?_⟩
        rw [← Place.literal.inj htext']
        exact List.not_mem_nil
      · exact ⟨hts, fun text' htext' => absurd htext' (hne text')⟩
  obtain ⟨hts, hliteral⟩ := hr
  rcases htokens with ⟨rfl, -, -⟩ | ⟨-, rfl⟩
  · simp [Token.IsRead]
  · intro t ht
    exact isRead_withLiteral hts (hliteral text hplace) t (List.mem_reverse.mp ht)

theorem not_mem_of_isIdentifier {name : String} (h : isIdentifier name = true) {c : Char}
    (hc : isIdentifierChar c = false) : c ∉ name.toList := by
  have hall : ∀ d ∈ name.toList, isIdentifierChar d = true := by
    unfold isIdentifier at h
    split at h
    · exact absurd h (by simp)
    · rename_i d ds hname
      rw [Bool.and_eq_true, List.all_eq_true] at h
      rw [hname, List.forall_mem_cons]
      refine ⟨?_, h.2⟩
      rw [isIdentifierChar, Char.isAlphanum, Bool.or_assoc, Bool.or_comm d.isDigit, ← Bool.or_assoc,
        h.1, Bool.true_or]
  intro hmem
  rw [hall c hmem] at hc
  exact absurd hc (by simp)

/-! ## Literal paths -/

/-- A literal path is the pattern itself. -/
theorem text_of_read {path : String} (h : readTokens pattern = .ok [.literal path]) :
    path = pattern := by
  obtain ⟨r, text, hread, hplace, htokens⟩ := exists_reading h
  have hr : ∀ text, r.tokens = [] → r.place = .literal text → text.reverse = pattern.toList := by
    refine read_induction (P := fun cs r => ∀ text, r.tokens = [] → r.place = .literal text →
      text.reverse = cs) ?_ ?_ hread
    · intro text _ htext
      rw [← Place.literal.inj htext]
      rfl
    · intro cs c r r' hr hstep text' hnil htext'
      rcases step_cases hstep with ⟨text, hplace, -, rfl⟩ | ⟨text, -, rfl⟩ | ⟨name, sub, -, rfl⟩ |
        ⟨place, hne, rfl⟩
      · rw [← Place.literal.inj htext', List.reverse_cons, hr text hnil hplace]
      · exact absurd htext' (by simp)
      · exact absurd hnil (by simp)
      · exact absurd htext' (hne text')
  have hnil : r.tokens = [] := by
    rcases names_of_reading hread hplace with hnil | hnames
    · exact hnil
    · rcases htokens with ⟨-, -, hnil⟩ | ⟨-, hreverse⟩
      · exact hnil
      · have hnone := congrArg (List.filterMap Token.name?) hreverse
        rw [List.filterMap_reverse, names_withLiteral] at hnone
        exact absurd (List.reverse_eq_nil_iff.mp hnone.symm) hnames
  have htext := hr text hnil hplace
  rcases htokens with ⟨hpath, rfl, -⟩ | ⟨-, hreverse⟩
  · rw [Token.literal.inj (List.singleton_inj.mp hpath)]
    exact String.toList_inj.mp htext
  · rw [hnil] at hreverse
    unfold withLiteral at hreverse
    split at hreverse
    · exact absurd hreverse (by simp)
    · rw [List.reverse_singleton, List.singleton_inj, Token.literal.injEq] at hreverse
      rw [hreverse, ofReversed, htext, String.ofList_toList]

end RouteTable
