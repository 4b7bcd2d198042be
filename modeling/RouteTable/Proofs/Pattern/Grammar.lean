import Mathlib.Data.List.Chain
import RouteTable.Proofs.Pattern.Reading

/-!
# The grammar of route patterns

What a pattern is, told without the reader, and which tokens it stands for.

* `IsPattern`: characters other than `{`, and placeholders `{name}`, `{name:}` and `{name:sub}`.
* `Canonical`, `Spells`: the tokens of patterns, and the texts that stand for tokens.
* `Reading.Holds`: what has been read at each place of the reader; `Opened` counts the braces.
* `readTokens_eq_ok_iff`: the reader gives the canonical tokens that the pattern spells.
* `readTokens_grammar`: it reads the grammar, and tokens that are written are read again.
-/

namespace RouteTable

/-! ## Names and expressions -/

/-- A letter of ASCII or an underscore. -/
def IsNameStart (c : Char) : Prop := 'A' ≤ c ∧ c ≤ 'Z' ∨ 'a' ≤ c ∧ c ≤ 'z' ∨ c = '_'

/-- The names of placeholders: `[A-Za-z_][A-Za-z0-9_]*`. -/
def IsName (name : String) : Prop :=
  ∃ c cs, name.toList = c :: cs ∧ IsNameStart c ∧ ∀ d ∈ cs, IsNameStart d ∨ '0' ≤ d ∧ d ≤ '9'

/-- Texts in which braces are closed in the order they are opened, where a backslash stands for
itself with the character behind it. None ends with a lone backslash: in a placeholder, the brace
that closes the placeholder would belong to it. -/
inductive Balanced : List Char → Prop
  | nil : Balanced []
  | char {c : Char} {cs : List Char} (hslash : c ≠ '\\') (hopen : c ≠ '\x7b')
      (hclose : c ≠ '\x7d') : Balanced cs → Balanced (c :: cs)
  | escape (c : Char) {cs : List Char} : Balanced cs → Balanced ('\\' :: c :: cs)
  | braces {inner cs : List Char} : Balanced inner → Balanced cs →
      Balanced ('\x7b' :: (inner ++ '\x7d' :: cs))

/-- The expressions of placeholders. -/
structure IsSubPattern (sub : String) : Prop where
  nonempty : sub ≠ ""
  compiles : ∃ r, Regex.compile sub = .ok r ∧ r.groupCount = 0
  balanced : Balanced sub.toList

/-! ## Patterns and tokens -/

/-- The texts that are patterns. -/
inductive IsPattern : List Char → Prop
  | nil : IsPattern []
  | char {c : Char} {cs : List Char} : c ≠ '\x7b' → IsPattern cs → IsPattern (c :: cs)
  | named {name : String} {cs : List Char} : IsName name → IsPattern cs →
      IsPattern ('\x7b' :: (name.toList ++ '\x7d' :: cs))
  | colon {name : String} {cs : List Char} : IsName name → IsPattern cs →
      IsPattern ('\x7b' :: (name.toList ++ ':' :: '\x7d' :: cs))
  | sub {name sub : String} {cs : List Char} : IsName name → IsSubPattern sub → IsPattern cs →
      IsPattern ('\x7b' :: (name.toList ++ ':' :: (sub.toList ++ '\x7d' :: cs)))

namespace Token

def isLiteral : Token → Bool
  | .literal _ => true
  | .placeholder .. => false

/-- What tokens of patterns are made of. -/
def IsCanonical : Token → Prop
  | .literal text => '\x7b' ∉ text.toList
  | .placeholder name sub => IsName name ∧ IsSubPattern sub

/-- The texts of a token. The default expression need not be written. -/
inductive Spelled : Token → List Char → Prop
  | literal (text : String) : Spelled (.literal text) text.toList
  | named (name : String) : Spelled (.placeholder name defaultSubPattern)
      ('\x7b' :: (name.toList ++ ['\x7d']))
  | colon (name : String) : Spelled (.placeholder name defaultSubPattern)
      ('\x7b' :: (name.toList ++ [':', '\x7d']))
  | sub (name sub : String) : Spelled (.placeholder name sub)
      ('\x7b' :: (name.toList ++ ':' :: (sub.toList ++ ['\x7d'])))

end Token

/-- The lists of tokens that patterns stand for. -/
structure Canonical (ts : List Token) : Prop where
  nonempty : ts ≠ []
  /-- No two literals are side by side. -/
  apart : ts.IsChain fun t t' => t.isLiteral = false ∨ t'.isLiteral = false
  /-- The only empty literal is that of the empty pattern. -/
  empty : .literal "" ∈ ts → ts = [.literal ""]
  tokens : ∀ t ∈ ts, t.IsCanonical

/-- Canonical tokens, or none, of which no literal is empty. In reverse order they are the same. -/
structure Merged (ts : List Token) : Prop where
  apart : ts.IsChain fun t t' => t.isLiteral = false ∨ t'.isLiteral = false
  tokens : ∀ t ∈ ts, t.IsCanonical ∧ t ≠ .literal ""

namespace Merged

variable {t : Token} {ts : List Token}

theorem nil : Merged [] := ⟨.nil, fun _ ht => absurd ht List.not_mem_nil⟩

theorem reverse (h : Merged ts) : Merged ts.reverse where
  apart := by
    rw [List.isChain_reverse]
    exact h.apart.imp fun _ _ => Or.symm
  tokens t ht := h.tokens t (List.mem_reverse.mp ht)

theorem tail (h : Merged (t :: ts)) : Merged ts :=
  ⟨h.apart.tail, fun _ ht => h.tokens _ (List.mem_cons_of_mem t ht)⟩

theorem canonical (h : Merged ts) (hne : ts ≠ []) : Canonical ts where
  nonempty := hne
  apart := h.apart
  empty hempty := absurd rfl (h.tokens _ hempty).2
  tokens t ht := (h.tokens t ht).1

end Merged

theorem Canonical.merged {ts : List Token} (h : Canonical ts) :
    ts = [.literal ""] ∨ Merged ts := by
  by_cases hempty : .literal "" ∈ ts
  · exact Or.inl (h.empty hempty)
  · exact Or.inr ⟨h.apart, fun t ht => ⟨h.tokens t ht, fun heq => hempty (heq ▸ ht)⟩⟩

/-- The texts of a list of tokens. -/
inductive Spells : List Token → List Char → Prop
  | nil : Spells [] []
  | cons {t : Token} {ts : List Token} {cs ds : List Char} : t.Spelled cs → Spells ts ds →
      Spells (t :: ts) (cs ++ ds)

theorem Spells.append {ts us : List Token} {cs ds : List Char} (h : Spells ts cs)
    (h' : Spells us ds) : Spells (ts ++ us) (cs ++ ds) := by
  induction h with
  | nil => exact h'
  | cons ht _ ih =>
    rw [List.append_assoc]
    exact .cons ht ih

theorem Spells.concat {t : Token} {ts : List Token} {cs ds : List Char} (h : Spells ts cs)
    (ht : t.Spelled ds) : Spells (ts ++ [t]) (cs ++ ds) := by
  have h' := h.append (.cons ht .nil)
  rwa [List.append_nil] at h'

theorem Token.spelled_spelling (t : Token) : t.Spelled t.spelling.toList := by
  cases t with
  | literal text => exact .literal text
  | placeholder name sub =>
    have htext : (spelling (.placeholder name sub)).toList =
        '\x7b' :: (name.toList ++ ':' :: (sub.toList ++ ['\x7d'])) := by
      simp [spelling]
    rw [htext]
    exact .sub name sub

theorem spells_spelling (ts : List Token) :
    Spells ts (String.join (ts.map Token.spelling)).toList := by
  rw [String.toList_join]
  induction ts with
  | nil => exact .nil
  | cons t ts ih => exact .cons t.spelled_spelling ih

/-! ## What the parts are for the reader -/

theorem isIdentifier_iff {name : String} : isIdentifier name = true ↔ IsName name := by
  have hstart : ∀ c : Char, (c.isAlpha || c == '_') = true ↔ IsNameStart c := by
    intro c
    delta Char.isAlpha Char.isUpper Char.isLower IsNameStart
    simp [Char.le_def, or_assoc, UInt32.le_iff_toNat_le]
  have hrest : ∀ c : Char, isIdentifierChar c = true ↔ IsNameStart c ∨ '0' ≤ c ∧ c ≤ '9' := by
    intro c
    rw [isIdentifierChar, Char.isAlphanum, Bool.or_assoc, Bool.or_comm c.isDigit, ← Bool.or_assoc,
      Bool.or_eq_true, hstart]
    simp [Char.isDigit, Char.le_def, UInt32.le_iff_toNat_le]
  unfold isIdentifier IsName
  split
  · rename_i hname
    simp [hname]
  · rename_i c cs hname
    rw [Bool.and_eq_true, hstart, List.all_eq_true]
    simp only [hrest]
    constructor
    · exact fun h => ⟨c, cs, hname, h⟩
    · rintro ⟨c', cs', hname', h⟩
      obtain ⟨rfl, rfl⟩ := List.cons.inj (hname.symm.trans hname')
      exact h

theorem IsName.not_mem {name : String} (h : IsName name) :
    '\x7d' ∉ name.toList ∧ ':' ∉ name.toList :=
  ⟨not_mem_of_isIdentifier (isIdentifier_iff.mpr h) (by decide),
    not_mem_of_isIdentifier (isIdentifier_iff.mpr h) (by decide)⟩

theorem exists_compile {sub : String}
    (h : (Regex.compile sub).toOption.any (·.groupCount = 0) = true) :
    ∃ r, Regex.compile sub = .ok r ∧ r.groupCount = 0 := by
  cases hr : Regex.compile sub with
  | error e => rw [hr] at h; exact absurd h (by simp [Except.toOption])
  | ok r =>
    rw [hr] at h
    exact ⟨r, rfl, by simpa [Except.toOption] using h⟩

/-- A text without braces and backslashes is balanced. -/
theorem Balanced.of_all {cs : List Char}
    (h : cs.all (fun c => c ≠ '\\' ∧ c ≠ '\x7b' ∧ c ≠ '\x7d') = true) : Balanced cs := by
  induction cs with
  | nil => exact .nil
  | cons c cs ih =>
    rw [List.all_cons, Bool.and_eq_true, decide_eq_true_iff] at h
    exact .char h.1.1 h.1.2.1 h.1.2.2 (ih h.2)

/-- The default expression is one that could be written. -/
theorem isSubPattern_default : IsSubPattern defaultSubPattern where
  nonempty := by decide
  compiles := exists_compile (by decide +kernel)
  balanced := .of_all (by decide)

theorem placeholder?_eq_ok_iff {name sub : String} {t : Token} :
    Token.placeholder? name sub = .ok t ↔ IsName name ∧
      (sub = "" ∧ t = .placeholder name defaultSubPattern ∨
        sub ≠ "" ∧ (∃ r, Regex.compile sub = .ok r ∧ r.groupCount = 0) ∧
          t = .placeholder name sub) := by
  rw [← isIdentifier_iff]
  unfold Token.placeholder?
  split
  · rename_i hname
    simp [hname]
  · rename_i hname
    rw [Bool.not_eq_false] at hname
    split
    · rename_i hsub
      simp [hname, hsub, eq_comm]
    · rename_i hsub
      split
      · rename_i hcompile
        simp [hname, hsub, hcompile]
      · rename_i hcompile
        split
        · rename_i hcount
          simp [hname, hsub, hcompile, hcount, eq_comm]
        · rename_i hcount
          simp [hname, hsub, hcompile, hcount]

/-! ## What is read is what has been written -/

/-- The beginnings of balanced texts in which that many braces are open. -/
inductive Opened : Nat → List Char → Prop
  | zero {cs : List Char} : Balanced cs → Opened 0 cs
  | succ {n : Nat} {outer inner : List Char} : Opened n outer → Balanced inner →
      Opened (n + 1) (outer ++ '\x7b' :: inner)

theorem Balanced.append {cs ds : List Char} (h : Balanced cs) (h' : Balanced ds) :
    Balanced (cs ++ ds) := by
  induction h with
  | nil => exact h'
  | char hslash hopen hclose _ ih => exact .char hslash hopen hclose ih
  | escape c _ ih => exact .escape c ih
  | braces hinner _ _ ih =>
    rw [List.cons_append, List.append_assoc]
    exact .braces hinner ih

namespace Opened

variable {n : Nat} {cs ds : List Char}

theorem append (h : Opened n cs) (h' : Balanced ds) : Opened n (cs ++ ds) := by
  cases h with
  | zero h => exact .zero (h.append h')
  | succ houter hinner =>
    rw [List.append_assoc]
    exact .succ houter (hinner.append h')

theorem close (h : Opened (n + 1) cs) : Opened n (cs ++ ['\x7d']) := by
  obtain _ | ⟨houter, hinner⟩ := h
  rw [List.append_assoc]
  exact houter.append (.braces hinner .nil)

end Opened

/-- The tokens before a literal place, of which the latest is no literal. -/
structure Separated (ts : List Token) : Prop extends Merged ts where
  latest : ∀ t ∈ ts.head?, t.isLiteral = false

theorem Merged.placeholder {ts : List Token} (h : Merged ts) {t : Token}
    (ht : t.isLiteral = false) (hcanonical : t.IsCanonical) : Separated (t :: ts) where
  apart := by
    rw [List.isChain_cons]
    exact ⟨fun _ _ => Or.inl ht, h.apart⟩
  tokens := by
    rw [List.forall_mem_cons]
    refine ⟨⟨hcanonical, ?_⟩, h.tokens⟩
    rintro rfl
    exact absurd ht (by simp [Token.isLiteral])
  latest t' ht' := by
    rw [← Option.some.inj ht']
    exact ht

theorem Separated.withLiteral {ts : List Token} (h : Separated ts) {text : List Char}
    (htext : '\x7b' ∉ text) : Merged (withLiteral ts text.reverse) := by
  unfold RouteTable.withLiteral
  split
  · exact h.toMerged
  · rename_i hne
    rw [ofReversed, List.reverse_reverse]
    refine ⟨?_, ?_⟩
    · rw [List.isChain_cons]
      exact ⟨fun t ht => Or.inr (h.latest t ht), h.apart⟩
    · rw [List.forall_mem_cons]
      refine ⟨⟨?_, fun heq => ?_⟩, h.tokens⟩
      · rwa [Token.IsCanonical, String.toList_ofList]
      · have hnil := congrArg String.toList (Token.literal.inj heq)
        rw [String.toList_ofList, String.toList_empty] at hnil
        exact hne (List.reverse_eq_nil_iff.mpr hnil)

theorem spells_withLiteral {ts : List Token} {cs text : List Char} (h : Spells ts.reverse cs) :
    Spells (withLiteral ts text.reverse).reverse (cs ++ text) := by
  unfold withLiteral
  split
  · rename_i hnil
    rw [List.reverse_eq_nil_iff.mp hnil, List.append_nil]
    exact h
  · rw [ofReversed, List.reverse_reverse, List.reverse_cons]
    have ht := Token.Spelled.literal (String.ofList text)
    rw [String.toList_ofList] at ht
    exact h.concat ht

/-- What has been read of a pattern: complete tokens, spelled by a part of it, and behind that part
what the place holds. -/
inductive Reading.Holds : List Char → Reading → Prop
  | literal {ts : List Token} {before text : List Char} (hts : Separated ts)
      (hspells : Spells ts.reverse before) (htext : '\x7b' ∉ text) :
      Holds (before ++ text) ⟨ts, .literal text.reverse⟩
  | name {ts : List Token} {before : List Char} (hts : Merged ts)
      (hspells : Spells ts.reverse before) (name : List Char) :
      Holds (before ++ '\x7b' :: name) ⟨ts, .name name.reverse⟩
  | sub {ts : List Token} {before : List Char} (hts : Merged ts)
      (hspells : Spells ts.reverse before) (name : List Char) {n : Nat} {sub : List Char}
      (hsub : Opened n sub) :
      Holds (before ++ '\x7b' :: (name ++ ':' :: sub)) ⟨ts, .sub name.reverse n false sub.reverse⟩
  | escaped {ts : List Token} {before : List Char} (hts : Merged ts)
      (hspells : Spells ts.reverse before) (name : List Char) {n : Nat} {sub : List Char}
      (hsub : Opened n sub) :
      Holds (before ++ '\x7b' :: (name ++ ':' :: (sub ++ ['\\'])))
        ⟨ts, .sub name.reverse n true ('\\' :: sub.reverse)⟩

theorem exists_of_placeholder_step {name sub : String} {ts : List Token} {r : Reading}
    (h : (do return (⟨(← Token.placeholder? name sub) :: ts, .literal []⟩ : Reading) :
      Except PatternFault Reading) = .ok r) :
    ∃ t, Token.placeholder? name sub = .ok t ∧ r = ⟨t :: ts, .literal []⟩ := by
  cases ht : Token.placeholder? name sub with
  | error e => rw [ht] at h; exact absurd h (by simp [bind, Except.bind])
  | ok t =>
    rw [ht] at h
    exact ⟨t, rfl, (Except.ok.inj h).symm⟩

namespace Reading.Holds

variable {ts : List Token} {before text name sub cs : List Char} {c : Char} {r r' : Reading}

theorem start : Holds [] .start :=
  @literal [] [] [] ⟨.nil, fun _ ht => nomatch ht⟩ .nil List.not_mem_nil

theorem placeholder (hts : Merged ts) (hspells : Spells ts.reverse before) {t : Token}
    (ht : t.isLiteral = false) (hcanonical : t.IsCanonical) (hspelled : t.Spelled text) :
    Holds (before ++ text) ⟨t :: ts, .literal []⟩ := by
  have hspells' : Spells (t :: ts).reverse (before ++ text) := by
    rw [List.reverse_cons]
    exact hspells.concat hspelled
  have hread := literal (hts.placeholder ht hcanonical) hspells' List.not_mem_nil
  rwa [List.append_nil] at hread

/-- A placeholder without an expression, whether or not there is a colon. -/
theorem placeholder_default (hts : Merged ts) (hspells : Spells ts.reverse before) {t : Token}
    (ht : Token.placeholder? (String.ofList name) "" = .ok t)
    (htext : Token.Spelled (.placeholder (String.ofList name) defaultSubPattern) text) :
    Holds (before ++ text) ⟨t :: ts, .literal []⟩ := by
  obtain ⟨hname, ⟨-, rfl⟩ | ⟨hne, -⟩⟩ := placeholder?_eq_ok_iff.mp ht
  · exact placeholder hts hspells rfl ⟨hname, isSubPattern_default⟩ htext
  · exact absurd rfl hne

theorem placeholder_sub (hts : Merged ts) (hspells : Spells ts.reverse before)
    (hsub : Balanced sub) {t : Token}
    (ht : Token.placeholder? (String.ofList name) (String.ofList sub) = .ok t) :
    Holds (before ++ '\x7b' :: (name ++ ':' :: (sub ++ ['\x7d']))) ⟨t :: ts, .literal []⟩ := by
  cases sub with
  | nil =>
    have hspelled := Token.Spelled.colon (String.ofList name)
    rw [String.toList_ofList] at hspelled
    exact placeholder_default hts hspells ht hspelled
  | cons c sub =>
    have hspelled := Token.Spelled.sub (String.ofList name) (String.ofList (c :: sub))
    rw [String.toList_ofList, String.toList_ofList] at hspelled
    obtain ⟨hname, ⟨hnil, -⟩ | ⟨hne, hcompile, rfl⟩⟩ := placeholder?_eq_ok_iff.mp ht
    · have hlist := congrArg String.toList hnil
      rw [String.toList_ofList] at hlist
      exact absurd hlist (List.cons_ne_nil c sub)
    · rw [← @String.toList_ofList (c :: sub)] at hsub
      exact placeholder hts hspells rfl ⟨hname, hne, hcompile, hsub⟩ hspelled

theorem step_literal (hts : Separated ts) (hspells : Spells ts.reverse before)
    (htext : '\x7b' ∉ text) (hstep : Reading.step ⟨ts, .literal text.reverse⟩ c = .ok r') :
    Holds (before ++ text ++ [c]) r' := by
  simp only [Reading.step] at hstep
  split at hstep
  · rename_i hc
    rw [← Except.ok.inj hstep, hc]
    exact name (hts.withLiteral htext) (spells_withLiteral hspells) []
  · rename_i hc
    have htext' : '\x7b' ∉ text ++ [c] := by
      rw [List.mem_append, List.mem_singleton, not_or]
      exact ⟨htext, fun h => hc h.symm⟩
    have hread := literal hts hspells htext'
    rw [List.reverse_concat, ← List.append_assoc] at hread
    rwa [← Except.ok.inj hstep]

theorem step_name (hts : Merged ts) (hspells : Spells ts.reverse before)
    (hstep : Reading.step ⟨ts, .name text.reverse⟩ c = .ok r') :
    Holds (before ++ '\x7b' :: text ++ [c]) r' := by
  rw [List.append_assoc, List.cons_append]
  simp only [Reading.step] at hstep
  split at hstep
  · rename_i hc
    obtain ⟨t, ht, rfl⟩ := exists_of_placeholder_step hstep
    rw [ofReversed, List.reverse_reverse] at ht
    have hspelled := Token.Spelled.named (String.ofList text)
    rw [String.toList_ofList] at hspelled
    rw [hc]
    exact placeholder_default hts hspells ht hspelled
  · split at hstep
    · rename_i hc
      rw [← Except.ok.inj hstep, hc]
      exact Holds.sub hts hspells text (.zero .nil)
    · have hread := Holds.name hts hspells (text ++ [c])
      rw [List.reverse_concat] at hread
      rwa [← Except.ok.inj hstep]

/-- The expression goes on, with more or fewer braces open, or the placeholder is complete. -/
theorem step_sub {n : Nat} (hts : Merged ts) (hspells : Spells ts.reverse before)
    (hsub : Opened n sub)
    (hstep : Reading.step ⟨ts, .sub text.reverse n false sub.reverse⟩ c = .ok r') :
    Holds (before ++ '\x7b' :: (text ++ ':' :: sub) ++ [c]) r' := by
  have goesOn : ∀ {m}, Opened m (sub ++ [c]) →
      Holds (before ++ '\x7b' :: (text ++ ':' :: sub) ++ [c])
        ⟨ts, .sub text.reverse m false (c :: sub.reverse)⟩ := fun hsub' => by
    have hread := Holds.sub hts hspells text hsub'
    rw [List.reverse_concat] at hread
    simpa using hread
  simp only [Reading.step, Bool.false_eq_true, if_false] at hstep
  split at hstep
  · rename_i hc
    rw [← Except.ok.inj hstep, hc]
    simpa using Holds.escaped hts hspells text hsub
  · rename_i hslash
    split at hstep
    · rename_i hopen
      rw [← Except.ok.inj hstep]
      subst hopen
      exact goesOn (.succ hsub .nil)
    · rename_i hopen
      split at hstep
      · rename_i hclose
        subst hclose
        split at hstep
        · -- no brace is open, so this one closes the placeholder
          obtain ⟨t, ht, rfl⟩ := exists_of_placeholder_step hstep
          rw [ofReversed, ofReversed, List.reverse_reverse, List.reverse_reverse] at ht
          obtain ⟨hbalanced⟩ := hsub
          simpa using placeholder_sub hts hspells hbalanced ht
        · rw [← Except.ok.inj hstep]
          exact goesOn hsub.close
      · rename_i hclose
        rw [← Except.ok.inj hstep]
        exact goesOn (hsub.append (.char hslash hopen hclose .nil))

/-- **Each character keeps what holds of a reading.** -/
theorem step (h : Holds cs r) (hstep : r.step c = .ok r') : Holds (cs ++ [c]) r' := by
  cases h with
  | literal hts hspells htext => exact step_literal hts hspells htext hstep
  | name hts hspells text => exact step_name hts hspells hstep
  | sub hts hspells text hsub => exact step_sub hts hspells hsub hstep
  | escaped hts hspells text hsub =>
    have hread := Holds.sub hts hspells text (hsub.append (.escape c .nil))
    rw [← Except.ok.inj hstep]
    simpa using hread

end Reading.Holds

variable {pattern : String} {tokens : List Token}

/-- The tokens that are read are canonical, and the pattern spells them. -/
theorem canonical_of_read (h : readTokens pattern = .ok tokens) :
    Canonical tokens ∧ Spells tokens pattern.toList := by
  obtain ⟨⟨ts, place⟩, reversed, hread, hplace, htokens⟩ := exists_reading h
  have hholds : Reading.Holds pattern.toList ⟨ts, place⟩ :=
    read_induction (P := Reading.Holds) .start (fun h hstep => h.step hstep) hread
  obtain rfl : place = .literal reversed := hplace
  generalize pattern.toList = cs at hholds
  obtain @⟨ts, before, text, hts, hspells, htext⟩ := hholds
  rcases htokens with ⟨rfl, htext', hnil⟩ | ⟨hne, rfl⟩
  · obtain rfl : ts = [] := hnil
    obtain ⟨⟩ := hspells
    rw [List.reverse_eq_nil_iff.mp htext']
    refine ⟨⟨List.cons_ne_nil _ _, .singleton _, fun _ => rfl, ?_⟩, .cons (.literal "") .nil⟩
    simp [Token.IsCanonical]
  · have hmerged := (hts.withLiteral htext).reverse
    exact ⟨hmerged.canonical fun h => hne (List.reverse_eq_nil_iff.mp h),
      spells_withLiteral hspells⟩

/-! ## What has been written is read -/

section Runs

variable {ts : List Token} {cs ds : List Char} {c : Char} {r r' : Reading}

theorem foldlM_cons_of_ok (h : r.step c = .ok r') :
    (c :: cs).foldlM Reading.step r = cs.foldlM Reading.step r' := by
  rw [List.foldlM_cons, h]
  rfl

theorem foldlM_append_of_ok (h : cs.foldlM Reading.step r = .ok r') :
    (cs ++ ds).foldlM Reading.step r = ds.foldlM Reading.step r' := by
  rw [List.foldlM_append, h]
  rfl

theorem foldlM_literal (h : '\x7b' ∉ cs) (text : List Char) :
    cs.foldlM Reading.step ⟨ts, .literal text⟩ = .ok ⟨ts, .literal (cs.reverse ++ text)⟩ := by
  induction cs generalizing text with
  | nil => rfl
  | cons c cs ih =>
    rw [List.mem_cons, not_or] at h
    have hstep : Reading.step ⟨ts, .literal text⟩ c = .ok ⟨ts, .literal (c :: text)⟩ := by
      simp [Reading.step, Ne.symm h.1]
    rw [foldlM_cons_of_ok hstep, ih h.2, List.reverse_cons, List.append_assoc]
    rfl

theorem foldlM_name (h : '\x7d' ∉ cs) (h' : ':' ∉ cs) (name : List Char) :
    cs.foldlM Reading.step ⟨ts, .name name⟩ = .ok ⟨ts, .name (cs.reverse ++ name)⟩ := by
  induction cs generalizing name with
  | nil => rfl
  | cons c cs ih =>
    rw [List.mem_cons, not_or] at h h'
    have hstep : Reading.step ⟨ts, .name name⟩ c = .ok ⟨ts, .name (c :: name)⟩ := by
      simp [Reading.step, Ne.symm h.1, Ne.symm h'.1]
    rw [foldlM_cons_of_ok hstep, ih h.2 h'.2, List.reverse_cons, List.append_assoc]
    rfl

theorem foldlM_sub (h : Balanced cs) (name : List Char) (n : Nat) (sub : List Char) :
    cs.foldlM Reading.step ⟨ts, .sub name n false sub⟩ =
      .ok ⟨ts, .sub name n false (cs.reverse ++ sub)⟩ := by
  induction h generalizing n sub with
  | nil => rfl
  | @char c cs hslash hopen hclose _ ih =>
    have hstep : Reading.step ⟨ts, .sub name n false sub⟩ c =
        .ok ⟨ts, .sub name n false (c :: sub)⟩ := by
      simp [Reading.step, hslash, hopen, hclose]
    rw [foldlM_cons_of_ok hstep, ih, List.reverse_cons, List.append_assoc]
    rfl
  | @escape c cs _ ih =>
    have hslash : Reading.step ⟨ts, .sub name n false sub⟩ '\\' =
        .ok ⟨ts, .sub name n true ('\\' :: sub)⟩ := rfl
    have hchar : Reading.step ⟨ts, .sub name n true ('\\' :: sub)⟩ c =
        .ok ⟨ts, .sub name n false (c :: '\\' :: sub)⟩ := rfl
    rw [foldlM_cons_of_ok hslash, foldlM_cons_of_ok hchar, ih]
    simp
  | @braces inner cs _ _ ihinner ih =>
    have hopen : Reading.step ⟨ts, .sub name n false sub⟩ '\x7b' =
        .ok ⟨ts, .sub name (n + 1) false ('\x7b' :: sub)⟩ := rfl
    have hclose : ∀ sub', Reading.step ⟨ts, .sub name (n + 1) false sub'⟩ '\x7d' =
        .ok ⟨ts, .sub name n false ('\x7d' :: sub')⟩ := fun _ => rfl
    rw [foldlM_cons_of_ok hopen, foldlM_append_of_ok (ihinner _ _), foldlM_cons_of_ok (hclose _),
      ih]
    simp

theorem foldlM_named {name : String} {t : Token} (hname : IsName name)
    (ht : Token.placeholder? name "" = .ok t) (text : List Char) :
    ('\x7b' :: (name.toList ++ ['\x7d'])).foldlM Reading.step ⟨ts, .literal text⟩ =
      .ok ⟨t :: withLiteral ts text, .literal []⟩ := by
  have hopen : Reading.step ⟨ts, .literal text⟩ '\x7b' = .ok ⟨withLiteral ts text, .name []⟩ := rfl
  have hclose : Reading.step ⟨withLiteral ts text, .name (name.toList.reverse ++ [])⟩ '\x7d' =
      .ok ⟨t :: withLiteral ts text, .literal []⟩ := by
    simp only [Reading.step, if_true, List.append_nil, ofReversed, List.reverse_reverse,
      String.ofList_toList, ht]
    rfl
  rw [foldlM_cons_of_ok hopen, foldlM_append_of_ok (foldlM_name hname.not_mem.1 hname.not_mem.2 []),
    foldlM_cons_of_ok hclose]
  rfl

theorem foldlM_colon {name : String} {sub : List Char} {t : Token} (hname : IsName name)
    (hsub : Balanced sub) (ht : Token.placeholder? name (String.ofList sub) = .ok t)
    (text : List Char) :
    ('\x7b' :: (name.toList ++ ':' :: (sub ++ ['\x7d']))).foldlM Reading.step
        ⟨ts, .literal text⟩ = .ok ⟨t :: withLiteral ts text, .literal []⟩ := by
  have hopen : Reading.step ⟨ts, .literal text⟩ '\x7b' = .ok ⟨withLiteral ts text, .name []⟩ := rfl
  have hcolon : Reading.step ⟨withLiteral ts text, .name (name.toList.reverse ++ [])⟩ ':' =
      .ok ⟨withLiteral ts text, .sub name.toList.reverse 0 false []⟩ := by
    simp [Reading.step]
  have hclose : Reading.step ⟨withLiteral ts text,
      .sub name.toList.reverse 0 false (sub.reverse ++ [])⟩ '\x7d' =
        .ok ⟨t :: withLiteral ts text, .literal []⟩ := by
    simp only [Reading.step, Bool.false_eq_true, if_false, if_true, Char.reduceEq, List.append_nil,
      ofReversed, List.reverse_reverse, String.ofList_toList, ht]
    rfl
  rw [foldlM_cons_of_ok hopen, foldlM_append_of_ok (foldlM_name hname.not_mem.1 hname.not_mem.2 []),
    foldlM_cons_of_ok hcolon, foldlM_append_of_ok (foldlM_sub hsub _ 0 []),
    foldlM_cons_of_ok hclose]
  rfl

/-- A placeholder is read, and the literal before it is complete. -/
theorem foldlM_placeholder {t : Token} (h : t.Spelled cs) (ht : t.IsCanonical)
    (hplaceholder : t.isLiteral = false) (text : List Char) :
    cs.foldlM Reading.step ⟨ts, .literal text⟩ = .ok ⟨t :: withLiteral ts text, .literal []⟩ := by
  have hdefault : ∀ {name}, IsName name →
      Token.placeholder? name "" = .ok (.placeholder name defaultSubPattern) := fun hname =>
    placeholder?_eq_ok_iff.mpr ⟨hname, Or.inl ⟨rfl, rfl⟩⟩
  cases h with
  | literal => exact absurd hplaceholder (by simp [Token.isLiteral])
  | named name => exact foldlM_named ht.1 (hdefault ht.1) text
  | colon name => exact foldlM_colon ht.1 .nil (hdefault ht.1) text
  | sub name sub =>
    obtain ⟨hname, hsub⟩ := ht
    refine foldlM_colon hname hsub.balanced (placeholder?_eq_ok_iff.mpr ⟨hname, Or.inr ?_⟩) text
    rw [String.ofList_toList]
    exact ⟨hsub.nonempty, hsub.compiles, rfl⟩

/-- The reader completes the tokens that it reads. -/
theorem exists_foldlM_of_spells {us : List Token} (h : Spells us cs) (hmerged : Merged us) :
    ∀ (ts : List Token) (text : List Char),
      (text ≠ [] → ∀ t ∈ us.head?, t.isLiteral = false) →
        ∃ ts' text', cs.foldlM Reading.step ⟨ts, .literal text⟩ = .ok ⟨ts', .literal text'⟩ ∧
          withLiteral ts' text' = us.reverse ++ withLiteral ts text := by
  induction h with
  | nil => exact fun ts text _ => ⟨ts, text, rfl, rfl⟩
  | @cons t us cs ds hspelled _ ih =>
    obtain ⟨ht, hne⟩ := hmerged.tokens t List.mem_cons_self
    have hhead := (List.isChain_cons.mp hmerged.apart).1
    intro ts text htext
    cases hliteral : t.isLiteral with
    | true =>
      obtain @⟨literal⟩ | _ | _ | _ := hspelled
      · have hnil : text = [] := by
          by_contra hne
          exact absurd (htext hne _ rfl) (by simp [hliteral])
        subst hnil
        have hne : literal.toList ≠ [] := fun hnil =>
          hne (congrArg Token.literal (String.toList_eq_nil_iff.mp hnil))
        obtain ⟨ts', text', hread, heq⟩ := ih hmerged.tail ts (literal.toList.reverse ++ [])
          fun _ t ht => (hhead t ht).resolve_left (by simp [hliteral])
        refine ⟨ts', text', ?_, ?_⟩
        · rw [foldlM_append_of_ok (foldlM_literal ht []), hread]
        · rw [heq]
          simp [withLiteral, hne, ofReversed]
      · exact absurd hliteral (by simp [Token.isLiteral])
      · exact absurd hliteral (by simp [Token.isLiteral])
      · exact absurd hliteral (by simp [Token.isLiteral])
    | false =>
      obtain ⟨ts', text', hread, heq⟩ := ih hmerged.tail (t :: withLiteral ts text) []
        fun hne => absurd rfl hne
      refine ⟨ts', text', ?_, ?_⟩
      · rw [foldlM_append_of_ok (foldlM_placeholder hspelled ht hliteral text), hread]
      · rw [heq]
        simp [withLiteral]

end Runs

/-- Canonical tokens are read of the patterns that spell them. -/
theorem read_of_canonical (h : Canonical tokens) (hspells : Spells tokens pattern.toList) :
    readTokens pattern = .ok tokens := by
  rcases h.merged with rfl | hmerged
  · generalize hcs : pattern.toList = cs at hspells
    obtain _ | ⟨⟨⟩, ⟨⟩⟩ := hspells
    rw [readTokens, hcs]
    rfl
  · obtain ⟨ts, text, hread, hts⟩ := exists_foldlM_of_spells hspells hmerged [] []
      fun hne => absurd rfl hne
    have hfinish : Reading.finish ⟨ts, .literal text⟩ = .ok tokens := by
      unfold Reading.finish
      simp only
      split
      · rename_i hnil
        rw [hts, withLiteral, if_pos rfl, List.append_nil] at hnil
        exact absurd (List.reverse_eq_nil_iff.mp hnil) h.nonempty
      · rw [hts, withLiteral, if_pos rfl, List.append_nil, List.reverse_reverse]
    rw [readTokens, Reading.start, hread]
    exact hfinish

/-- The reader gives the canonical tokens that the pattern spells. -/
theorem readTokens_eq_ok_iff :
    readTokens pattern = .ok tokens ↔ Canonical tokens ∧ Spells tokens pattern.toList :=
  ⟨canonical_of_read, fun h => read_of_canonical h.1 h.2⟩

/-! ## The grammar -/

theorem IsPattern.append_literal {text cs : List Char} (htext : '\x7b' ∉ text)
    (h : IsPattern cs) : IsPattern (text ++ cs) := by
  induction text with
  | nil => exact h
  | cons c text ih =>
    rw [List.mem_cons, not_or] at htext
    exact .char (Ne.symm htext.1) (ih htext.2)

/-- What spells tokens of patterns is a pattern. -/
theorem isPattern_of_spells {ts : List Token} {cs : List Char} (h : Spells ts cs)
    (hts : ∀ t ∈ ts, t.IsCanonical) : IsPattern cs := by
  induction h with
  | nil => exact .nil
  | @cons t ts cs ds hspelled _ ih =>
    rw [List.forall_mem_cons] at hts
    have hds := ih hts.2
    have ht := hts.1
    cases hspelled with
    | literal => exact .append_literal ht hds
    | named name => simpa using IsPattern.named ht.1 hds
    | colon name => simpa using IsPattern.colon ht.1 hds
    | sub name sub => simpa using IsPattern.sub ht.1 ht.2 hds

/-- Whether a text is read from every literal place on, up to a literal place. -/
def IsReadable (cs : List Char) : Prop :=
  ∀ ts text, ∃ ts' text',
    cs.foldlM Reading.step ⟨ts, .literal text⟩ = .ok ⟨ts', .literal text'⟩

theorem IsReadable.placeholder {t : Token} {text cs : List Char} (h : IsReadable cs)
    (hspelled : t.Spelled text) (ht : t.IsCanonical) (hplaceholder : t.isLiteral = false) :
    IsReadable (text ++ cs) := by
  intro ts before
  rw [foldlM_append_of_ok (foldlM_placeholder hspelled ht hplaceholder before)]
  exact h _ _

/-- Behind a pattern the reader is behind a literal. -/
theorem isReadable_of_isPattern {cs : List Char} (h : IsPattern cs) : IsReadable cs := by
  induction h with
  | nil => exact fun ts text => ⟨ts, text, rfl⟩
  | @char c cs hc _ ih =>
    intro ts text
    have hread := @foldlM_literal ts [c] (by simpa using Ne.symm hc) text
    rw [← List.singleton_append, foldlM_append_of_ok hread]
    exact ih _ _
  | named hname _ ih =>
    simpa using ih.placeholder (.named _) ⟨hname, isSubPattern_default⟩ rfl
  | colon hname _ ih =>
    simpa using ih.placeholder (.colon _) ⟨hname, isSubPattern_default⟩ rfl
  | sub hname hsub _ ih => simpa using ih.placeholder (.sub _ _) ⟨hname, hsub⟩ rfl

/-- Every pattern is read. -/
theorem exists_read_of_isPattern (h : IsPattern pattern.toList) :
    ∃ tokens, readTokens pattern = .ok tokens := by
  obtain ⟨ts, text, hread⟩ := isReadable_of_isPattern h [] []
  rw [readTokens, Reading.start, hread]
  change ∃ tokens, Reading.finish ⟨ts, .literal text⟩ = .ok tokens
  unfold Reading.finish
  simp only
  split
  · exact ⟨_, rfl⟩
  · exact ⟨_, rfl⟩

/-- A pattern without braces is one literal. -/
theorem read_literal_iff : readTokens pattern = .ok [.literal pattern] ↔
    '\x7b' ∉ pattern.toList := by
  rw [readTokens_eq_ok_iff]
  constructor
  · exact fun h => h.1.tokens _ (List.mem_singleton_self _)
  · intro hbrace
    refine ⟨⟨List.cons_ne_nil _ _, .singleton _, ?_, ?_⟩, ?_⟩
    · intro hempty
      rw [List.mem_singleton.mp hempty]
    · rw [List.forall_mem_singleton]
      exact hbrace
    · have h := Spells.cons (Token.Spelled.literal pattern) .nil
      rwa [List.append_nil] at h

/-- A pattern with a brace has a placeholder. -/
theorem placeholder_mem_of_read (h : readTokens pattern = .ok tokens)
    (hbrace : '\x7b' ∈ pattern.toList) : ∃ name sub, .placeholder name sub ∈ tokens := by
  rcases exists_placeholder h with ⟨path, rfl⟩ | hnames
  · rw [← text_of_read h] at hbrace
    exact absurd hbrace (isRead_of_read h _ (List.mem_singleton_self _))
  · obtain ⟨name, hname⟩ := List.exists_mem_of_ne_nil _ hnames
    obtain ⟨t, ht, hname⟩ := List.mem_filterMap.mp hname
    cases t with
    | literal text => exact absurd hname (by simp [Token.name?])
    | placeholder name' sub => exact ⟨name', sub, ht⟩

/-- **The reader accepts the grammar, and reading undoes writing.** What is read are the canonical
tokens that the pattern spells, and canonical tokens that are written out are read again. -/
theorem readTokens_grammar (pattern : String) :
    ((∃ tokens, readTokens pattern = .ok tokens) ↔ IsPattern pattern.toList) ∧
      (∀ tokens, readTokens pattern = .ok tokens ↔
        Canonical tokens ∧ Spells tokens pattern.toList) ∧
      (∀ tokens, Canonical tokens →
        readTokens (String.join (tokens.map Token.spelling)) = .ok tokens) ∧
      (readTokens pattern = .ok [.literal pattern] ↔ '\x7b' ∉ pattern.toList) ∧
      ∀ tokens, readTokens pattern = .ok tokens → '\x7b' ∈ pattern.toList →
        ∃ name sub, .placeholder name sub ∈ tokens := by
  refine ⟨⟨fun ⟨tokens, h⟩ => ?_, exists_read_of_isPattern⟩, fun _ => readTokens_eq_ok_iff,
    fun tokens h => read_of_canonical h (spells_spelling tokens), read_literal_iff,
    fun _ => placeholder_mem_of_read⟩
  obtain ⟨hcanonical, hspells⟩ := canonical_of_read h
  exact isPattern_of_spells hspells hcanonical.tokens

/-- Tokens with an expression in which there are braces, and with the default expression. -/
def yearAndSlug : List Token :=
  [.literal "/posts/", .placeholder "year" "[0-9]\x7b4\x7d", .literal "/",
    .placeholder "slug" defaultSubPattern, .literal ".html"]

theorem grammar_yearAndSlug : Canonical yearAndSlug ∧
    readTokens "/posts/\x7byear:[0-9]\x7b4\x7d\x7d/\x7bslug:[^/]+\x7d.html" = .ok yearAndSlug := by
  have hyear : IsSubPattern "[0-9]\x7b4\x7d" := by
    refine ⟨by decide, ?_, ?_⟩
    · exact exists_compile (by decide +kernel)
    · have hclass : Balanced "[0-9]".toList := .of_all (by decide)
      exact hclass.append (.braces (.of_all (by decide : ['4'].all _ = true)) .nil)
  have hname : ∀ name ∈ ["year", "slug"], IsName name := fun name h =>
    isIdentifier_iff.mp (by revert name; decide)
  have hcanonical : Canonical yearAndSlug := by
    refine ⟨by decide, by decide, by decide, ?_⟩
    simp only [yearAndSlug, List.forall_mem_cons, Token.IsCanonical]
    exact ⟨by decide, ⟨hname "year" (by simp), hyear⟩, by decide,
      ⟨hname "slug" (by simp), isSubPattern_default⟩, by decide, fun _ h => nomatch h⟩
  exact ⟨hcanonical, (readTokens_grammar "").2.2.1 yearAndSlug hcanonical⟩

end RouteTable
