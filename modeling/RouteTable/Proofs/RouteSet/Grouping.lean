import RouteTable.Proofs.Pattern.Expression
import RouteTable.Proofs.Pattern.Grammar
import RouteTable.Proofs.RouteSet.History

/-!
# Patterns with one expression

Patterns whose expressions are the same text are one route, with a target for each method. They are
the same pattern but for the names of placeholders, unless a comment swallows a parenthesis.

* `Token.withoutName`: a token up to its name; `Token.isCommentFree`: no comment can start in it.
* `escape_append_inj`, `group_append_inj`: what an expression starts with is read off its text, the
  inside of a group because the reader of expressions ends at the parenthesis that closes it.
* `withoutName_eq_of_regex_eq`: tokens are determined by their text, one after the other.
* `regex_eq_iff_withoutName`: the patterns with one expression, and how many variables they have.
-/

namespace RouteTable

open Regex

/-! ## Tokens up to names -/

namespace Token

/-- The token, with no name if it is a placeholder. -/
def withoutName : Token → Token
  | .literal text => .literal text
  | .placeholder _ sub => .placeholder "" sub

/-- Whether no comment can start in the expression of a placeholder. -/
def isCommentFree : Token → Bool
  | .literal _ => true
  | .placeholder _ sub => '#' ∉ sub.toList

theorem regex_withoutName (t : Token) : t.withoutName.regex = t.regex := by
  cases t <;> rfl

theorem isSome_name? (t : Token) : t.name?.isSome = !t.isLiteral := by
  cases t <;> rfl

theorem isLiteral_withoutName (t : Token) : t.withoutName.isLiteral = t.isLiteral := by
  cases t <;> rfl

theorem toList_regex_literal (text : String) : (regex (.literal text)).toList =
    text.toList.flatMap fun c => if isMeta c then ['\\', c] else [c] := by
  rw [regex, Regex.escape, String.toList_ofList]

theorem toList_regex_placeholder (name sub : String) :
    (regex (.placeholder name sub)).toList = '(' :: (sub.toList ++ [')']) := by
  simp [regex]

end Token

/-- Names make no difference to how many there are. -/
theorem length_names_eq {ts us : List Token}
    (h : ts.map Token.withoutName = us.map Token.withoutName) :
    (ts.filterMap Token.name?).length = (us.filterMap Token.name?).length := by
  have hcount : ∀ ts : List Token, (ts.filterMap Token.name?).length =
      (ts.map Token.withoutName).countP fun t => !t.isLiteral := fun ts => by
    rw [List.length_filterMap_eq_countP, List.countP_map]
    refine List.countP_congr fun t _ => ?_
    rw [Token.isSome_name?, Function.comp_apply, Token.isLiteral_withoutName]
  rw [hcount, hcount, h]

/-! ## The beginning of an expression -/

theorem escapeChar_append_inj {c d : Char} {r s : List Char}
    (h : (if isMeta c then ['\\', c] else [c]) ++ r = (if isMeta d then ['\\', d] else [d]) ++ s) :
    c = d ∧ r = s := by
  split at h
  · split at h
    · simpa using h
    · rename_i hd
      obtain ⟨rfl, -⟩ := List.cons.inj h
      exact absurd (by decide) hd
  · rename_i hc
    split at h
    · obtain ⟨rfl, -⟩ := List.cons.inj h
      exact absurd (by decide) hc
    · simpa using h

/-- What is escaped does not start with a parenthesis. -/
theorem exists_escapeChar_append (c : Char) (cs : List Char) : ∃ d ds,
    (if isMeta c then ['\\', c] else [c]) ++ cs = d :: ds ∧ d ≠ '(' := by
  split
  · exact ⟨'\\', _, rfl, by decide⟩
  · rename_i hc
    refine ⟨c, _, rfl, ?_⟩
    rintro rfl
    exact hc (by decide)

/-- A token that is not empty starts with a parenthesis exactly if it is a placeholder. -/
theorem exists_regex_eq_cons {t : Token} (h : t ≠ .literal "") :
    ∃ c cs, t.regex.toList = c :: cs ∧ (c = '(' ↔ t.isLiteral = false) := by
  cases t with
  | literal text =>
    rw [Token.toList_regex_literal]
    cases htext : text.toList with
    | nil => exact absurd (congrArg Token.literal (String.toList_eq_nil_iff.mp htext)) h
    | cons c cs =>
      obtain ⟨d, ds, heq, hne⟩ := exists_escapeChar_append c (cs.flatMap _)
      exact ⟨d, ds, heq, by simp [Token.isLiteral, hne]⟩
  | placeholder name sub =>
    exact ⟨'(', _, Token.toList_regex_placeholder name sub, by simp [Token.isLiteral]⟩

/-- Before what starts with a parenthesis, an escaped text is the whole literal. -/
theorem escape_append_inj {a b r s : List Char} (hr : ∀ c ∈ r.head?, c = '(')
    (hs : ∀ c ∈ s.head?, c = '(')
    (h : (a.flatMap fun c => if isMeta c then ['\\', c] else [c]) ++ r =
      (b.flatMap fun c => if isMeta c then ['\\', c] else [c]) ++ s) : a = b ∧ r = s := by
  induction a generalizing b with
  | nil =>
    cases b with
    | nil => exact ⟨rfl, h⟩
    | cons d b =>
      rw [List.flatMap_nil, List.nil_append, List.flatMap_cons, List.append_assoc] at h
      obtain ⟨e, es, heq, hne⟩ := exists_escapeChar_append d ((b.flatMap _) ++ s)
      rw [h, heq] at hr
      exact absurd (hr e rfl) hne
  | cons c a ih =>
    rw [List.flatMap_cons, List.append_assoc] at h
    cases b with
    | nil =>
      rw [List.flatMap_nil, List.nil_append] at h
      obtain ⟨e, es, heq, hne⟩ := exists_escapeChar_append c ((a.flatMap _) ++ r)
      rw [← h, heq] at hs
      exact absurd (hs e rfl) hne
    | cons d b =>
      rw [List.flatMap_cons, List.append_assoc] at h
      obtain ⟨rfl, hrest⟩ := escapeChar_append_inj h
      obtain ⟨rfl, hends⟩ := ih hrest
      exact ⟨rfl, hends⟩

/-- What is read of a group ends at its own parenthesis. -/
theorem group_append_inj {sub sub' r r' : List Char} {ast ast' : Ast}
    (hsub : Ast.readGrouped? sub = some ast) (hsub' : Ast.readGrouped? sub' = some ast')
    (h : sub ++ ')' :: r = sub' ++ ')' :: r') : sub = sub' ∧ r = r' := by
  have hread := reads_of_readGrouped hsub r _ (Nat.lt_succ_self _)
  have hread' := reads_of_readGrouped hsub' r' _ (Nat.lt_succ_self _)
  rw [h, hread', Option.some.injEq, Prod.mk.injEq] at hread
  obtain rfl := (List.cons.inj hread.2).2
  exact ⟨List.append_cancel_right h, rfl⟩

/-! ## Whole expressions -/

/-- An expression that compiles and has no comments is read alike in parentheses. -/
theorem exists_readGrouped {name sub : String} (h : Token.IsCanonical (.placeholder name sub))
    (hfree : Token.isCommentFree (.placeholder name sub) = true) :
    ∃ ast, Ast.readGrouped? sub.toList = some ast := by
  obtain ⟨r, hcompile, -⟩ := h.2.compiles
  unfold Regex.compile at hcompile
  cases hast : Ast.read? sub.toList with
  | none => rw [hast] at hcompile; exact absurd hcompile (by simp)
  | some ast => exact ⟨ast, readGrouped_of_read hast (of_decide_eq_true hfree)⟩

/-- Behind a literal, an expression ends or starts with a parenthesis. -/
theorem head?_of_isLiteral {t : Token} {ts : List Token} (h : Merged (t :: ts))
    (ht : t.isLiteral = true) : ∀ c ∈ (ts.flatMap fun t => t.regex.toList).head?, c = '(' := by
  intro c hc
  cases ts with
  | nil => exact absurd hc (by simp)
  | cons u ts =>
    obtain ⟨d, ds, hu, hiff⟩ := exists_regex_eq_cons (h.tail.tokens u List.mem_cons_self).2
    have hplaceholder : u.isLiteral = false :=
      (List.isChain_cons_cons.mp h.apart).1.resolve_left (by simp [ht])
    rw [List.flatMap_cons, hu, List.cons_append, List.head?_cons] at hc
    rw [← Option.some.inj hc]
    exact hiff.mpr hplaceholder

theorem regex_ne_nil {t : Token} {ts : List Token} (h : Merged (t :: ts)) :
    ((t :: ts).flatMap fun t => t.regex.toList) ≠ [] := by
  obtain ⟨c, cs, ht, -⟩ := exists_regex_eq_cons (h.tokens t List.mem_cons_self).2
  rw [List.flatMap_cons, ht]
  exact List.cons_ne_nil _ _

/-- The first token is determined by the text, up to its name, and so is the text of the others. -/
theorem regex_append_inj {t u : Token} {ts us : List Token} (hts : Merged (t :: ts))
    (hus : Merged (u :: us)) (htfree : t.isCommentFree = true) (hufree : u.isCommentFree = true)
    (h : (t.regex.toList ++ ts.flatMap fun t => t.regex.toList) =
      u.regex.toList ++ us.flatMap fun t => t.regex.toList) :
    t.withoutName = u.withoutName ∧
      (ts.flatMap fun t => t.regex.toList) = us.flatMap fun t => t.regex.toList := by
  obtain ⟨htcanonical, htne⟩ := hts.tokens t List.mem_cons_self
  obtain ⟨hucanonical, hune⟩ := hus.tokens u List.mem_cons_self
  have hkind : t.isLiteral = false ↔ u.isLiteral = false := by
    obtain ⟨c, cs, ht, hc⟩ := exists_regex_eq_cons htne
    obtain ⟨d, ds, hu, hd⟩ := exists_regex_eq_cons hune
    have hcons := h
    rw [ht, hu] at hcons
    rw [← hc, ← hd, (List.cons.inj hcons).1]
  cases t with
  | literal a =>
    cases u with
    | literal b =>
      rw [Token.toList_regex_literal, Token.toList_regex_literal] at h
      obtain ⟨hab, hrest⟩ := escape_append_inj (head?_of_isLiteral hts rfl)
        (head?_of_isLiteral hus rfl) h
      rw [String.toList_inj.mp hab]
      exact ⟨rfl, hrest⟩
    | placeholder => exact absurd (hkind.mpr rfl) (by simp [Token.isLiteral])
  | placeholder name sub =>
    cases u with
    | literal => exact absurd (hkind.mp rfl) (by simp [Token.isLiteral])
    | placeholder name' sub' =>
      obtain ⟨ast, hast⟩ := exists_readGrouped htcanonical htfree
      obtain ⟨ast', hast'⟩ := exists_readGrouped hucanonical hufree
      rw [Token.toList_regex_placeholder, Token.toList_regex_placeholder, List.cons_append,
        List.cons_append, List.append_assoc, List.append_assoc] at h
      obtain ⟨hsub, hrest⟩ := group_append_inj hast hast' (List.cons.inj h).2
      rw [String.toList_inj.mp hsub]
      exact ⟨rfl, hrest⟩

/-- **Tokens are determined by the text of their expressions**, up to names. -/
theorem withoutName_eq_of_regex_eq {ts us : List Token} (hts : Merged ts) (hus : Merged us)
    (htsfree : ∀ t ∈ ts, t.isCommentFree = true) (husfree : ∀ t ∈ us, t.isCommentFree = true)
    (h : (ts.flatMap fun t => t.regex.toList) = us.flatMap fun t => t.regex.toList) :
    ts.map Token.withoutName = us.map Token.withoutName := by
  induction ts generalizing us with
  | nil =>
    cases us with
    | nil => rfl
    | cons u us => exact absurd h.symm (regex_ne_nil hus)
  | cons t ts ih =>
    cases us with
    | nil => exact absurd h (regex_ne_nil hts)
    | cons u us =>
      rw [List.forall_mem_cons] at htsfree husfree
      obtain ⟨htoken, hrest⟩ := regex_append_inj hts hus htsfree.1 husfree.1 h
      rw [List.map_cons, List.map_cons, htoken,
        ih hts.tail hus.tail htsfree.2 husfree.2 hrest]

/-- Only the empty pattern has an empty expression. -/
theorem Canonical.eq_of_regex_eq_nil {ts : List Token} (h : Canonical ts)
    (hnil : (ts.flatMap fun t => t.regex.toList) = []) : ts = [.literal ""] := by
  refine h.merged.resolve_right fun hmerged => ?_
  cases ts with
  | nil => exact h.nonempty rfl
  | cons t ts => exact regex_ne_nil hmerged hnil

theorem Canonical.withoutName_eq {ts us : List Token} (hts : Canonical ts) (hus : Canonical us)
    (htsfree : ∀ t ∈ ts, t.isCommentFree = true) (husfree : ∀ t ∈ us, t.isCommentFree = true)
    (h : (ts.flatMap fun t => t.regex.toList) = us.flatMap fun t => t.regex.toList) :
    ts.map Token.withoutName = us.map Token.withoutName := by
  by_cases hnil : (ts.flatMap fun t => t.regex.toList) = []
  · rw [hts.eq_of_regex_eq_nil hnil, hus.eq_of_regex_eq_nil (h ▸ hnil)]
  · have hmerged : ∀ {ts : List Token}, Canonical ts →
        (ts.flatMap fun t => t.regex.toList) ≠ [] → Merged ts := fun h hne =>
      h.merged.resolve_left fun hempty => hne (by rw [hempty]; rfl)
    exact withoutName_eq_of_regex_eq (hmerged hts hnil) (hmerged hus (h ▸ hnil)) htsfree husfree h

section Patterns

variable {pattern pattern' : String} {tokens tokens' : List Token} {p p' : CompiledPattern}

/-- Patterns have one expression exactly if they are the same up to names. -/
theorem regex_eq_iff (hread : readTokens pattern = .ok tokens)
    (hread' : readTokens pattern' = .ok tokens') (hp : CompiledPattern.ofTokens tokens = .ok p)
    (hp' : CompiledPattern.ofTokens tokens' = .ok p')
    (hfree : ∀ t ∈ tokens, t.isCommentFree = true)
    (hfree' : ∀ t ∈ tokens', t.isCommentFree = true) :
    p.regex = p'.regex ↔ tokens.map Token.withoutName = tokens'.map Token.withoutName := by
  rw [(ofTokens_eq_ok hp).1, (ofTokens_eq_ok hp').1]
  constructor
  · intro h
    have htexts := congrArg String.toList h
    rw [String.toList_join, String.toList_join, List.flatMap_map, List.flatMap_map] at htexts
    exact (canonical_of_read hread).1.withoutName_eq (canonical_of_read hread').1 hfree hfree'
      htexts
  · intro h
    have hregex : ∀ ts : List Token,
        ts.map Token.regex = (ts.map Token.withoutName).map Token.regex := fun ts => by
      rw [List.map_map]
      exact List.map_congr_left fun t _ => t.regex_withoutName.symm
    rw [hregex, hregex tokens', h]

end Patterns

/-! ## Routes -/

/-- Every target of an expression has a variable for each of its groups. -/
theorem History.length_names {ds : List Declaration} {s : RouteSet} (h : History ds s)
    (hfree : ∀ d ∈ ds, ∀ tokens, readTokens d.pattern = .ok tokens →
      ∀ t ∈ tokens, t.isCommentFree = true)
    {r : VariableRoute} (hr : r ∈ s.variableRoutes.routes) {method : String} {target : Target}
    (htarget : r.targets.get? method = some target) : target.names.length = r.groupCount := by
  obtain ⟨d, hd, p, hp, hregex, hcount⟩ := h.source r hr
  rw [h.targets r hr, Option.bind_eq_some_iff] at htarget
  obtain ⟨d', hfind, ht⟩ := htarget
  obtain ⟨p', hp', rfl⟩ := Option.map_eq_some_iff.mp ht
  have hregex' := (Declaration.isForRegex_iff.mp (List.find?_some hfind)).1
  rw [Declaration.regex?_of_compiled hp', Option.some.injEq] at hregex'
  obtain ⟨tokens, hread, -, hof⟩ := read_of_compiled hp
  obtain ⟨tokens', hread', -, hof'⟩ := read_of_compiled hp'
  have hsame := (regex_eq_iff hread hread' hof hof' (hfree d hd tokens hread)
    (hfree d' (List.mem_of_find?_eq_some hfind) tokens' hread')).mp (hregex.trans hregex'.symm)
  rw [← hcount, (ofTokens_eq_ok hof).2.2, (ofTokens_eq_ok hof').2.2]
  exact (length_names_eq hsame).symm

/-- **Patterns are one route only if they are the same up to names.** In every set that declarations
lead to, the targets of an expression then have as many variables as it has groups. -/
theorem regex_eq_iff_withoutName :
    (∀ {pattern pattern' : String} {tokens tokens' : List Token} {p p' : CompiledPattern},
      readTokens pattern = .ok tokens → readTokens pattern' = .ok tokens' →
      CompiledPattern.ofTokens tokens = .ok p → CompiledPattern.ofTokens tokens' = .ok p' →
      (∀ t ∈ tokens, t.isCommentFree = true) → (∀ t ∈ tokens', t.isCommentFree = true) →
        (p.regex = p'.regex ↔
          tokens.map Token.withoutName = tokens'.map Token.withoutName)) ∧
      ∀ calls : List Declaration,
        (∀ d ∈ (RouteSet.empty.declareEach calls).1, ∀ tokens,
          readTokens d.pattern = .ok tokens → ∀ t ∈ tokens, t.isCommentFree = true) →
        ∀ r ∈ (RouteSet.empty.declareEach calls).2.variableRoutes.routes,
          ∀ (method : String) (target : Target), r.targets.get? method = some target →
            target.names.length = r.groupCount :=
  ⟨regex_eq_iff, fun calls hfree _ hr _ _ htarget =>
    (history_declareEach calls).length_names hfree hr htarget⟩

/-- One expression in two spellings and under two names, for two methods, and another one. -/
def usersById : List Declaration :=
  [⟨Methods.ofList (Method.ofString? "GET").toList, "/users/\x7bid\x7d", ⟨"Users", "show"⟩, none⟩,
    ⟨Methods.ofList (Method.ofString? "DELETE").toList, "/users/\x7buser:[^/]+\x7d",
      ⟨"Users", "delete"⟩, none⟩,
    ⟨Methods.ofList (Method.ofString? "GET").toList, "/\x7bkind:(?x) [a-z] + \x7d/\x7bid\x7d",
      ⟨"Users", "find"⟩, none⟩]

theorem regex_eq_usersById :
    (∃ p p', usersById[0].compiled? = some p ∧ usersById[1].compiled? = some p' ∧
      p.regex = p'.regex ∧ p.names ≠ p'.names) ∧
    (RouteSet.empty.declareEach usersById).1 = usersById ∧
      ∀ r ∈ (RouteSet.empty.declareEach usersById).2.variableRoutes.routes,
        ∀ (method : String) (target : Target), r.targets.get? method = some target →
          target.names.length = r.groupCount := by
  have haccepted : (RouteSet.empty.declareEach usersById).1 = usersById := by decide +kernel
  have hread : ∀ d ∈ usersById, ∀ tokens, readTokens d.pattern = .ok tokens →
      ∀ t ∈ tokens, t.isCommentFree = true := by
    have hfree : ∀ d ∈ usersById,
        (readTokens d.pattern).toOption.all (fun ts => ts.all Token.isCommentFree) = true := by
      decide +kernel
    intro d hd tokens htokens t ht
    have hall := hfree d hd
    rw [htokens] at hall
    exact List.all_eq_true.mp hall t ht
  have htokens : readTokens usersById[0].pattern =
      .ok [.literal "/users/", .placeholder "id" defaultSubPattern] := by decide +kernel
  have htokens' : readTokens usersById[1].pattern =
      .ok [.literal "/users/", .placeholder "user" defaultSubPattern] := by decide +kernel
  refine ⟨⟨_, _, rfl, rfl, ?_, by decide +kernel⟩, haccepted, ?_⟩
  · exact (regex_eq_iff_withoutName.1 htokens htokens' (by decide +kernel) (by decide +kernel)
      (by decide) (by decide)).mpr rfl
  · exact regex_eq_iff_withoutName.2 usersById (haccepted ▸ hread)

end RouteTable
