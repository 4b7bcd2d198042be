import RouteTable.Proofs.Pattern.Expression
import RouteTable.Proofs.Pattern.Woven
import RouteTable.Proofs.Regex.Segment
import RouteTable.Proofs.RouteSet.Positions

/-!
# Matching takes woven paths apart

The expression of a pattern is a row in which literal characters and groups follow each other as
literal texts and placeholders do in the pattern. Where it matches, the path is woven from the
pattern, and its groups have the values.

* `Spelt`: the items of a row are those of the tokens.
* `woven_of_fills`: where the row matches, the text is woven from the tokens.
* `fills_of_woven`: where segments are apart, the row matches what is woven from the tokens.
* `exists_woven_of_captures`, `isSome_captures_of_woven`: the same for the compiled pattern.
-/

namespace RouteTable

open Regex

/-! ## Parts of a text -/

variable {text : Array Char}

/-- The text between two places. -/
def slice (text : Array Char) (span : Nat × Nat) : String :=
  String.ofList (text.extract span.1 span.2).toList

theorem toList_slice (a m : Nat) :
    (slice text (a, m)).toList = (text.toList.drop a).take (m - a) := by
  rw [slice, String.toList_ofList, Array.toList_extract, List.extract_eq_take_drop]

theorem drop_eq_slice {a m : Nat} (h : a ≤ m) :
    text.toList.drop a = (slice text (a, m)).toList ++ text.toList.drop m := by
  have hm : text.toList.drop m = (text.toList.drop a).drop (m - a) := by
    rw [List.drop_drop, Nat.add_sub_cancel' h]
  rw [toList_slice, hm, List.take_append_drop]

theorem drop_eq_cons {a : Nat} {c : Char} (h : text[a]? = some c) :
    text.toList.drop a = c :: text.toList.drop (a + 1) := by
  rw [List.drop_eq_getElem?_toList_append, Array.getElem?_toList, h]
  rfl

theorem getElem?_of_drop {a : Nat} {c : Char} {cs : List Char}
    (h : text.toList.drop a = c :: cs) :
    text[a]? = some c ∧ text.toList.drop (a + 1) = cs := by
  rw [List.drop_eq_getElem?_toList_append, Array.getElem?_toList] at h
  cases hc : text[a]? with
  | none =>
    have hsize := Array.getElem?_eq_none_iff.mp hc
    rw [hc, List.drop_eq_nil_of_le (by simpa using Nat.le_succ_of_le hsize)] at h
    exact absurd h (by simp)
  | some d =>
    rw [hc] at h
    obtain ⟨rfl, rfl⟩ := List.cons.inj h
    exact ⟨rfl, rfl⟩

/-! ## Segments -/

/-- All characters but the slash. -/
def notSlash : CharSet := ⟨[(0, 46), (48, maxCodePoint)]⟩

theorem contains_notSlash {c : Char} : notSlash.contains c = true ↔ c ≠ '/' := by
  have hslash : c = '/' ↔ c.toNat = 47 := Char.toNat_inj.symm
  have hmax : c.toNat ≤ maxCodePoint := by
    have hvalid := c.valid
    unfold UInt32.isValidChar Nat.isValidChar at hvalid
    simp only [Char.toNat, maxCodePoint]
    omega
  simp only [CharSet.contains, notSlash, List.any_cons, List.any_nil, Bool.or_false,
    Bool.or_eq_true, Bool.and_eq_true, decide_eq_true_eq, Ne, hslash]
  omega

/-- What the expression of a placeholder means in its parentheses. -/
def subExpr? (sub : String) : Option Expr :=
  (Ast.readGrouped? sub.toList).bind fun ast => (Expr.ofNode? ast {} 1).map Prod.fst

theorem subExpr_default :
    subExpr? defaultSubPattern = some (.rep 1 none true (.set notSlash)) := rfl

/-- The default expression leads over segments only. -/
theorem isSegment_of_reaches {a m : Nat}
    (h : Reaches text (.rep 1 none true (.set notSlash)) a m) : IsSegment (slice text (a, m)) := by
  obtain ⟨hlt, hin⟩ := reaches_rep_set.mp h
  have hsize := hin.le_size hlt
  constructor
  · intro hempty
    have hlength := congrArg (fun s => s.toList.length) hempty
    simp [toList_slice] at hlength
    omega
  · intro hmem
    rw [toList_slice] at hmem
    obtain ⟨i, hi⟩ := List.mem_iff_getElem?.mp hmem
    rw [List.getElem?_take] at hi
    split at hi
    · rw [List.getElem?_drop, Array.getElem?_toList] at hi
      obtain ⟨c, hc, hcontains⟩ := hin (a + i) (by omega) (by omega)
      rw [hi] at hc
      exact contains_notSlash.mp hcontains (Option.some.inj hc).symm
    · exact absurd hi (by simp)

/-- And over all of them. -/
theorem reaches_of_isSegment {a : Nat} {value : String} {rest : List Char}
    (hvalue : IsSegment value) (h : text.toList.drop a = value.toList ++ rest) :
    Reaches text (.rep 1 none true (.set notSlash)) a (a + value.toList.length) := by
  have hpositive : 0 < value.toList.length :=
    List.length_pos_iff.mpr fun hnil => hvalue.ne_empty (String.toList_eq_nil_iff.mp hnil)
  refine reaches_rep_set.mpr ⟨by omega, fun i hi hlt => ?_⟩
  have hget : text[i]? = value.toList[i - a]? := by
    have hdrop := congrArg (fun l => l[i - a]?) h
    simp only [List.getElem?_drop, Nat.add_sub_cancel' hi, Array.getElem?_toList] at hdrop
    rw [hdrop, List.getElem?_append_left (by omega)]
  have hc := List.getElem?_eq_getElem (show i - a < value.toList.length by omega)
  refine ⟨_, hget.trans hc, contains_notSlash.mpr fun hslash => hvalue.not_mem ?_⟩
  rw [← hslash]
  exact List.getElem_mem _

/-! ## The items of a pattern -/

/-- The items, their groups numbered from `k`, are those of the tokens. -/
inductive Spelt : Nat → List Token → List Expr → Prop
  | nil (k : Nat) : Spelt k [] []
  | literal {k : Nat} {tokens : List Token} {items : List Expr} (lit : String)
      (h : Spelt k tokens items) :
      Spelt k (.literal lit :: tokens) (lit.toList.map (fun c => .set (.singleton c)) ++ items)
  | placeholder {k : Nat} {tokens : List Token} {items : List Expr} {name sub : String} {e : Expr}
      (hsub : subExpr? sub = some e) (hgroups : e.groups = []) (h : Spelt (k + 1) tokens items) :
      Spelt k (.placeholder name sub :: tokens) (.group k e :: items)

theorem ofNodes_literals {asts : List Ast} {fl : Flags} {k k' : Nat} : ∀ {cs : List Char}
    {items : List Expr},
    Expr.ofNodes? ((cs.map fun c => Ast.literal { char := c }) ++ asts) {} k =
      some (items, fl, k') →
        ∃ rest, items = (cs.map fun c => .set (.singleton c)) ++ rest ∧
          Expr.ofNodes? asts {} k = some (rest, fl, k')
  | [], items, h => ⟨items, rfl, h⟩
  | c :: cs, items, h => by
    rw [List.map_cons, List.cons_append] at h
    simp only [Expr.ofNodes?, Option.bind_eq_bind, Option.bind_eq_some_iff, Option.pure_def,
      Option.some.injEq, Prod.mk.injEq, Prod.exists] at h
    obtain ⟨e, fl₁, k₁, he, items', fl₂, k₂, hrest, rfl, rfl, rfl⟩ := h
    obtain ⟨rfl, rfl, rfl⟩ : Expr.set (.singleton c) = e ∧ {} = fl₁ ∧ k = k₁ := by
      simpa [Expr.ofNode?, Flags.literal?] using he
    obtain ⟨rest, rfl, hasts⟩ := ofNodes_literals hrest
    exact ⟨rest, rfl, hasts⟩

/-- The trees of tokens that keep their groups mean the items of the tokens. -/
theorem spelt_of_ofNodes : ∀ {tokens : List Token} {k k' : Nat} {fl : Flags} {items : List Expr},
    (∀ t ∈ tokens, t.keepsGroup = true) →
      Expr.ofNodes? (tokens.flatMap Token.asts) {} k = some (items, fl, k') → Spelt k tokens items
  | [], k, k', fl, items, _, h => by
    rw [← (Prod.mk.inj (Option.some.inj h)).1]
    exact .nil k
  | .literal lit :: tokens, k, k', fl, items, hkeep, h => by
    rw [List.forall_mem_cons] at hkeep
    rw [List.flatMap_cons] at h
    obtain ⟨rest, rfl, hrest⟩ := ofNodes_literals h
    exact .literal lit (spelt_of_ofNodes hkeep.2 hrest)
  | .placeholder name sub :: tokens, k, k', fl, items, hkeep, h => by
    rw [List.forall_mem_cons] at hkeep
    obtain ⟨ast, hast, hfree⟩ := (Option.any_eq_true _ _).mp hkeep.1
    have hasts : Token.asts (.placeholder name sub) = [.group .capture ast] := by
      rw [Token.asts, hast]
      rfl
    rw [List.flatMap_cons, hasts, List.singleton_append] at h
    simp only [Expr.ofNodes?, Expr.ofNode?, Option.bind_eq_bind, Option.bind_eq_some_iff,
      Option.pure_def, Option.some.injEq, Prod.mk.injEq, Prod.exists] at h
    obtain ⟨e, fl₁, k₁, ⟨e', fl₂, k₂, he, rfl, rfl, rfl⟩, items', fl₃, k₃, hrest, rfl, rfl, rfl⟩ :=
      h
    obtain ⟨rfl, hgroups, hany⟩ := ofNode_of_hasCapture_eq_false ast (by simpa using hfree) he
    refine .placeholder ?_ hgroups (spelt_of_ofNodes hkeep.2 hrest)
    rw [subExpr?, hast, Option.bind_some, hany 1]
    rfl

/-! ## Taking apart -/

theorem fills_char {k a b : Nat} {c : Char} {es : List Expr} {spans : List (Nat × Nat)}
    (h : Fills text k (.set (.singleton c) :: es) a b spans) :
    text[a]? = some c ∧ Fills text k es (a + 1) b spans := by
  generalize hes : (Expr.set (.singleton c) :: es : List Expr) = es' at h
  cases h with
  | nil => exact absurd hes (by simp)
  | @char _ _ _ es₁ _ d hd h =>
    obtain ⟨hset, rfl⟩ := List.cons.inj hes
    have hcd : d = c := by
      rw [← contains_singleton, Expr.set.inj hset]
      exact contains_singleton.mpr rfl
    exact ⟨hcd ▸ hd, h⟩
  | group => exact absurd hes (by simp)

theorem fills_literal {k b : Nat} {es : List Expr} {spans : List (Nat × Nat)} :
    ∀ {cs : List Char} {a : Nat},
      Fills text k ((cs.map fun c => .set (.singleton c)) ++ es) a b spans →
        ∃ m, text.toList.drop a = cs ++ text.toList.drop m ∧ Fills text k es m b spans
  | [], a, h => ⟨a, rfl, h⟩
  | c :: cs, a, h => by
    obtain ⟨hc, hrest⟩ := fills_char h
    obtain ⟨m, hm, hes⟩ := fills_literal hrest
    exact ⟨m, by rw [drop_eq_cons hc, hm, List.cons_append], hes⟩

/-- Where the items of tokens match, the text is woven from the tokens. -/
theorem woven_of_fills {k : Nat} {tokens : List Token} {items : List Expr}
    (h : Spelt k tokens items) : ∀ {a b : Nat} {spans : List (Nat × Nat)},
      Fills text k items a b spans →
        ∃ cs, Woven tokens (spans.map (slice text)) cs ∧
          text.toList.drop a = cs ++ text.toList.drop b := by
  induction h with
  | nil k =>
    intro a b spans hfills
    cases hfills
    exact ⟨[], .nil, rfl⟩
  | literal lit _ ih =>
    intro a b spans hfills
    obtain ⟨m, hm, hrest⟩ := fills_literal hfills
    obtain ⟨cs, hwoven, hcs⟩ := ih hrest
    exact ⟨_, hwoven.literal lit, by rw [hm, hcs, List.append_assoc]⟩
  | @placeholder k tokens items name sub e hsub _ _ ih =>
    intro a b spans hfills
    cases hfills with
    | @group _ _ m _ _ spans _ _ hreaches hrest =>
      obtain ⟨cs, hwoven, hcs⟩ := ih hrest
      have hle : a ≤ m := by
        obtain ⟨t, ht, rfl⟩ := hreaches
        exact pos_le_of_run e ht
      refine ⟨_, hwoven.placeholder name fun hdefault => ?_, ?_⟩
      · rw [hdefault, subExpr_default] at hsub
        obtain rfl := Option.some.inj hsub
        exact isSegment_of_reaches hreaches
      · rw [drop_eq_slice hle, hcs, List.append_assoc]

/-! ## Matching what is woven -/

theorem fills_append {k b : Nat} {es : List Expr} {spans : List (Nat × Nat)} :
    ∀ {cs rest : List Char} {a : Nat}, text.toList.drop a = cs ++ rest →
      Fills text k es (a + cs.length) b spans →
        Fills text k ((cs.map fun c => .set (.singleton c)) ++ es) a b spans
  | [], _, _, _, h => h
  | c :: cs, rest, a, hdrop, h => by
    obtain ⟨hc, hdrop'⟩ := getElem?_of_drop hdrop
    rw [List.length_cons, Nat.add_comm cs.length, ← Nat.add_assoc] at h
    exact .char hc (fills_append hdrop' h)

theorem drop_append_length {a : Nat} {cs rest : List Char}
    (h : text.toList.drop a = cs ++ rest) : text.toList.drop (a + cs.length) = rest := by
  rw [← List.drop_drop, h, List.drop_left]

/-- Where segments are apart, the items of tokens match what is woven from the tokens. -/
theorem fills_of_woven {tokens : List Token} {values : List String} {cs : List Char}
    (h : Woven tokens values cs) : ∀ {k a : Nat} {items : List Expr} {rest : List Char},
      segmentsApart tokens = true → Spelt k tokens items → text.toList.drop a = cs ++ rest →
        ∃ spans, Fills text k items a (a + cs.length) spans := by
  induction h with
  | nil =>
    intro k a items rest _ hspelt _
    cases hspelt
    exact ⟨[], .nil k a⟩
  | @literal tokens values cs lit _ ih =>
    intro k a items rest hapart hspelt hdrop
    cases hspelt with
    | literal _ hspelt =>
      rw [List.append_assoc] at hdrop
      obtain ⟨spans, hfills⟩ := ih hapart hspelt (drop_append_length hdrop)
      rw [Nat.add_assoc, ← List.length_append] at hfills
      exact ⟨spans, fills_append hdrop hfills⟩
  | @placeholder tokens values cs value name sub hvalue _ ih =>
    intro k a items rest hapart hspelt hdrop
    rw [segmentsApart, Bool.and_eq_true, Bool.and_eq_true, beq_iff_eq] at hapart
    obtain ⟨⟨hdefault, -⟩, hapart⟩ := hapart
    cases hspelt with
    | @placeholder _ _ items _ _ e hsub hgroups hspelt =>
      rw [List.append_assoc] at hdrop
      obtain ⟨spans, hfills⟩ := ih hapart hspelt (drop_append_length hdrop)
      rw [hdefault, subExpr_default] at hsub
      obtain rfl := Option.some.inj hsub
      refine ⟨(a, a + value.toList.length) :: spans, .group hgroups ?_ ?_⟩
      · exact reaches_of_isSegment (hvalue hdefault) hdrop
      · rwa [List.length_append, ← Nat.add_assoc]

/-! ## Compiled patterns -/

theorem variables_of_record {spans : List (Nat × Nat)} {names : List String}
    (h : names.length = spans.length) :
    Captures.variables ⟨text, 0, text.size, record 1 [] spans⟩ names =
      names.zip (spans.map (slice text)) := by
  refine List.ext_getElem ?_ fun i hi hi' => ?_
  · simp [Captures.variables, h]
  · have hspan : i < spans.length := by
      simp [Captures.variables] at hi
      omega
    have hfind := @find?_record spans 1 i _ [] (List.getElem?_eq_getElem hspan)
    have hgroup : Captures.group? ⟨text, 0, text.size, record 1 [] spans⟩ (i + 1) =
        some (slice text spans[i]) := by
      rw [Captures.group?, Captures.span?, if_neg (Nat.succ_ne_zero i), Nat.add_comm i 1, hfind]
      rfl
    simp only [Captures.variables, List.getElem_map, List.getElem_zipIdx, List.getElem_zip,
      Nat.zero_add, hgroup, Option.getD_some]

variable {tokens : List Token} {p : CompiledPattern} {matcher : Regex} {path : String}

/-- A pattern compiles to a row of its items, which is all that decides what it finds. -/
theorem exists_spelt (hp : CompiledPattern.ofTokens tokens = .ok p)
    (hkeep : keepGroups tokens = true)
    (hcompile : Regex.compile (anchored p.regex) = .ok matcher) :
    ∃ b : Branch, b.text = p.regex.toList ∧ b.asts = tokens.flatMap Token.asts ∧
      Spelt 1 tokens b.items ∧ ∀ path : String,
        matcher.captures? path = (b.expr.fullMatch? path.toList.toArray).map fun g =>
          ⟨path.toList.toArray, 0, path.toList.toArray.size, g⟩ := by
  obtain ⟨b, htext, hasts, hexpr, -⟩ := exists_branch hp hkeep hcompile
  have hmeans := b.means
  rw [hasts] at hmeans
  refine ⟨b, htext, hasts, spelt_of_ofNodes (List.all_eq_true.mp hkeep) hmeans, fun path => ?_⟩
  rw [captures_anchored hexpr, List.findSome?_cons]
  cases b.expr.fullMatch? path.toList.toArray <;> rfl

/-- What a pattern finds in a path is what the row of its items records on it. -/
theorem exists_fills_of_captures (hp : CompiledPattern.ofTokens tokens = .ok p)
    (hkeep : keepGroups tokens = true)
    (hcompile : Regex.compile (anchored p.regex) = .ok matcher) {c : Captures}
    (hc : matcher.captures? path = some c) :
    ∃ (b : Branch) (spans : List (Nat × Nat)), b.text = p.regex.toList ∧
      b.asts = tokens.flatMap Token.asts ∧ Spelt 1 tokens b.items ∧
        Fills path.toList.toArray 1 b.items 0 path.toList.toArray.size spans ∧
          c.variables p.names = p.names.zip (spans.map (slice path.toList.toArray)) := by
  obtain ⟨b, htext, hasts, hspelt, hcaptures⟩ := exists_spelt hp hkeep hcompile
  rw [hcaptures, Option.map_eq_some_iff] at hc
  obtain ⟨g, hg, rfl⟩ := hc
  obtain ⟨spans, hfills, rfl⟩ := fills_of_fullMatch b.isRow hg
  obtain ⟨cs, hwoven, -⟩ := woven_of_fills hspelt hfills
  refine ⟨b, spans, htext, hasts, hspelt, hfills, variables_of_record ?_⟩
  rw [(ofTokens_eq_ok hp).2.2, ← hwoven.length_eq, List.length_map]

/-- **A pattern takes the paths that it matches apart**: the path is woven from its tokens, with the
values of its variables. -/
theorem exists_woven_of_captures (hp : CompiledPattern.ofTokens tokens = .ok p)
    (hkeep : keepGroups tokens = true)
    (hcompile : Regex.compile (anchored p.regex) = .ok matcher) {c : Captures}
    (hc : matcher.captures? path = some c) :
    ∃ values, Woven tokens values path.toList ∧ c.variables p.names = p.names.zip values := by
  obtain ⟨b, spans, -, -, hspelt, hfills, hvariables⟩ :=
    exists_fills_of_captures hp hkeep hcompile hc
  obtain ⟨cs, hwoven, hcs⟩ := woven_of_fills hspelt hfills
  rw [List.drop_zero, List.drop_eq_nil_of_le (Nat.le_of_eq Array.length_toList), List.append_nil]
    at hcs
  obtain rfl : path.toList = cs := hcs
  exact ⟨_, hwoven, hvariables⟩

/-- **Where segments are apart, a pattern matches every path woven from it.** -/
theorem isSome_captures_of_woven (hp : CompiledPattern.ofTokens tokens = .ok p)
    (hkeep : keepGroups tokens = true)
    (hcompile : Regex.compile (anchored p.regex) = .ok matcher) {values : List String}
    (hapart : segmentsApart tokens = true) (hwoven : Woven tokens values path.toList) :
    (matcher.captures? path).isSome = true := by
  obtain ⟨b, -, -, hspelt, hcaptures⟩ := exists_spelt hp hkeep hcompile
  obtain ⟨spans, hfills⟩ := @fills_of_woven path.toList.toArray _ _ _ hwoven 1 0 _ [] hapart hspelt
    (List.append_nil _).symm
  rw [Nat.zero_add] at hfills
  rw [hcaptures, Option.isSome_map]
  exact hfills.isSome_fullMatch

end RouteTable
