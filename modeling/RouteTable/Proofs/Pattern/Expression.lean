import RouteTable.Pattern.Compiled
import RouteTable.Proofs.Regex.Branch
import RouteTable.RouteSet.Basic

/-!
# Expressions of patterns

The expression of a pattern is a branch of the chunk it is put in, if the expression of every
placeholder keeps to its parentheses.

* `Token.keepsGroup`: between its parentheses the expression of a placeholder is read to their end,
  and no group opens in it. Expressions are checked alone when a pattern is read, which settles
  neither: a comment at the end of a verbose expression swallows the closing parenthesis, and a
  group that is repeated no times is not counted, but uses up a number.
* `Token.keepsGroup_iff`: without comments, the condition is that no group is written inside.
* `ofTokens_eq_error`: tokens are refused for the first name that repeats.
* `exists_branch`: the pattern's expression is a branch with one group for each placeholder.
-/

namespace RouteTable

open Regex

/-! ## Placeholders -/

/-- Whether the expression of a placeholder, in its parentheses, is one group with none inside. -/
def Token.keepsGroup : Token → Bool
  | .literal _ => true
  | .placeholder _ sub => (Ast.readGrouped? sub.toList).any fun ast => !ast.hasCapture

/-- A placeholder without comments keeps its group exactly if no capturing group is written in it.
The check of placeholders counts the groups of the compiled expression, and misses those that are
gone from it. -/
theorem Token.keepsGroup_iff {name sub : String} {ast : Ast} (h : Ast.read? sub.toList = some ast)
    (hcomment : '#' ∉ sub.toList) :
    (Token.placeholder name sub).keepsGroup = true ↔ ast.hasCapture = false := by
  rw [keepsGroup, readGrouped_of_read h hcomment, Option.any_some, Bool.not_eq_true']

example : (Token.placeholder? "id" "(a){0}b").isOk = true ∧
    (Token.placeholder "id" "(a){0}b").keepsGroup = false := by decide +kernel

/-- The trees of a token. -/
def Token.asts : Token → List Ast
  | .literal text => text.toList.map fun c => .literal { char := c }
  | .placeholder _ sub => ((Ast.readGrouped? sub.toList).map (Ast.group .capture)).toList

namespace Token

variable {t : Token}

theorem reads_regex (h : t.keepsGroup = true) {branches items : List Ast} {cs r : List Char}
    {ast : Ast} (hreads : Reads branches (t.asts.reverse ++ items) cs ast r) :
    Reads branches items (t.regex.toList ++ cs) ast r := by
  cases t with
  | literal text =>
    rw [regex, Regex.escape, String.toList_ofList]
    exact Reads.escape text.toList hreads
  | placeholder name sub =>
    obtain ⟨group, hgroup, -⟩ := (Option.any_eq_true _ _).mp h
    have htext : (regex (.placeholder name sub)).toList ++ cs =
        '(' :: (sub.toList ++ ')' :: cs) := by
      simp [regex]
    rw [htext]
    refine Reads.capture hgroup ?_
    simpa [asts, hgroup] using hreads

theorem isRowItem_asts (h : t.keepsGroup = true) : ∀ ast ∈ t.asts, ast.isRowItem = true := by
  cases t with
  | literal text => simp [asts, Ast.isRowItem]
  | placeholder name sub =>
    obtain ⟨group, hgroup, hfree⟩ := (Option.any_eq_true _ _).mp h
    simpa [asts, hgroup, Ast.isRowItem] using hfree

theorem groupsAmong_asts (h : t.keepsGroup = true) :
    Ast.groupsAmong t.asts = t.name?.toList.length := by
  cases t with
  | literal text => simp [asts, Ast.groupsAmong, name?, List.countP_map, Function.comp_def]
  | placeholder name sub =>
    obtain ⟨group, hgroup, -⟩ := (Option.any_eq_true _ _).mp h
    simp [asts, hgroup, Ast.groupsAmong, name?]

end Token

/-! ## Patterns -/

/-- Whether every placeholder keeps its group. -/
def keepGroups (tokens : List Token) : Bool := tokens.all Token.keepsGroup

variable {tokens : List Token}

theorem reads_tokens (h : ∀ t ∈ tokens, t.keepsGroup = true) {branches items : List Ast}
    {cs r : List Char} {ast : Ast} :
    Reads branches ((tokens.flatMap Token.asts).reverse ++ items) cs ast r →
      Reads branches items ((tokens.flatMap fun t => t.regex.toList) ++ cs) ast r := by
  induction tokens generalizing items with
  | nil => exact id
  | cons t tokens ih =>
    intro hreads
    rw [List.forall_mem_cons] at h
    rw [List.flatMap_cons, List.append_assoc]
    refine Token.reads_regex h.1 (ih h.2 ?_)
    rwa [List.flatMap_cons, List.reverse_append, List.append_assoc] at hreads

/-- The expression of a pattern whose placeholders keep their groups. -/
def Phrase.ofTokens (tokens : List Token) (h : ∀ t ∈ tokens, t.keepsGroup = true) : Phrase where
  text := tokens.flatMap fun t => t.regex.toList
  asts := tokens.flatMap Token.asts
  reads := reads_tokens h
  row ast hast := by
    obtain ⟨t, ht, hast⟩ := List.mem_flatMap.mp hast
    exact Token.isRowItem_asts (h t ht) ast hast

theorem groupsAmong_tokens (h : ∀ t ∈ tokens, t.keepsGroup = true) :
    Ast.groupsAmong (tokens.flatMap Token.asts) = (tokens.filterMap Token.name?).length := by
  induction tokens with
  | nil => rfl
  | cons t tokens ih =>
    rw [List.forall_mem_cons] at h
    have ht := Token.groupsAmong_asts h.1
    have hts := ih h.2
    unfold Ast.groupsAmong at ht hts ⊢
    rw [List.flatMap_cons, List.countP_append, ht, hts, List.filterMap_cons]
    cases t.name? with
    | none => simp
    | some name => simp [Nat.add_comm]

theorem toList_anchored (regex : String) :
    (anchored regex).toList = '^' :: '(' :: '?' :: ':' :: (regex.toList ++ [')', '$']) := by
  simp [anchored]

theorem ofTokens_eq_ok {p : CompiledPattern} (h : CompiledPattern.ofTokens tokens = .ok p) :
    p.regex = String.join (tokens.map Token.regex) ∧
      p.template = String.join (tokens.map Token.template) ∧
      p.names = tokens.filterMap Token.name? := by
  unfold CompiledPattern.ofTokens at h
  simp only at h
  split at h
  · exact absurd h (by simp)
  · obtain rfl := Except.ok.inj h
    exact ⟨rfl, rfl, rfl⟩

/-- The first name that is repeated stands behind names of which none is. -/
theorem firstRepeated?_eq_some_iff {seen names : List String} {name : String} :
    firstRepeated? seen names = some name ↔ ∃ before after, names = before ++ name :: after ∧
      name ∈ seen ++ before ∧ firstRepeated? seen before = none := by
  induction names generalizing seen with
  | nil => simp [firstRepeated?]
  | cons n names ih =>
    by_cases hn : n ∈ seen
    · rw [firstRepeated?, if_pos hn]
      constructor
      · intro h
        obtain rfl := Option.some.inj h
        exact ⟨[], names, rfl, List.mem_append_left [] hn, rfl⟩
      · rintro ⟨_ | ⟨b, before⟩, after, hsplit, -, hnone⟩
        · rw [(List.cons.inj hsplit).1]
        · rw [firstRepeated?, ← (List.cons.inj hsplit).1, if_pos hn] at hnone
          exact absurd hnone (Option.some_ne_none n)
    · rw [firstRepeated?, if_neg hn, ih]
      constructor
      · rintro ⟨before, after, rfl, hname, hnone⟩
        refine ⟨n :: before, after, rfl, List.perm_middle.mem_iff.mpr hname, ?_⟩
        rwa [firstRepeated?, if_neg hn]
      · rintro ⟨_ | ⟨b, before⟩, after, hsplit, hname, hnone⟩
        · rw [List.append_nil, ← (List.cons.inj hsplit).1] at hname
          exact absurd hname hn
        · obtain ⟨rfl, rfl⟩ := List.cons.inj hsplit
          rw [firstRepeated?, if_neg hn] at hnone
          exact ⟨before, after, rfl, List.perm_middle.mem_iff.mp hname, hnone⟩

/-- The name reported stands behind different names, of which it is one. -/
theorem ofTokens_eq_error {name : String} :
    CompiledPattern.ofTokens tokens = .error name ↔
      ∃ before after, tokens.filterMap Token.name? = before ++ name :: after ∧
        name ∈ before ∧ before.Nodup := by
  have hrepeated := @firstRepeated?_eq_some_iff [] (tokens.filterMap Token.name?) name
  simp only [List.nil_append, firstRepeated?_eq_none_iff, List.not_mem_nil, not_false_eq_true,
    implies_true, and_true] at hrepeated
  rw [← hrepeated, CompiledPattern.ofTokens]
  split
  · rename_i repeated heq
    rw [heq, Except.error.injEq, Option.some.injEq]
  · rename_i heq
    simp [heq]

/-- The expression of a pattern is a branch with one group for each placeholder. -/
theorem exists_branch {p : CompiledPattern} {matcher : Regex}
    (hp : CompiledPattern.ofTokens tokens = .ok p) (h : keepGroups tokens = true)
    (hcompile : Regex.compile (anchored p.regex) = .ok matcher) :
    ∃ b : Branch, b.text = p.regex.toList ∧ b.asts = tokens.flatMap Token.asts ∧
      matcher.expr = Expr.anchored [b.expr] ∧ b.size = p.names.length := by
  obtain ⟨hregex, -, hnames⟩ := ofTokens_eq_ok hp
  have hkeep : ∀ t ∈ tokens, t.keepsGroup = true := List.all_eq_true.mp h
  have htext : (Phrase.ofTokens tokens hkeep).text = p.regex.toList := by
    rw [hregex, String.toList_join, List.flatMap_map]
    rfl
  obtain ⟨b, hb, hexpr⟩ := Branch.exists_of_compile (p := Phrase.ofTokens tokens hkeep)
    (by rw [toList_anchored, ← htext]; rfl) hcompile
  refine ⟨b, by rw [hb, htext], by rw [hb]; rfl, hexpr, ?_⟩
  rw [b.size_eq, hb, hnames]
  exact groupsAmong_tokens hkeep

end RouteTable
