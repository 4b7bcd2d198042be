import RouteTable.Proofs.Pattern.Matching
import RouteTable.Proofs.Regex.Alone
import RouteTable.Proofs.Regex.Window

/-!
# What the values of placeholders match

The value of a placeholder is the text over which its group leads. An expression that looks at no
place around it leads over the same text when it stands alone, so the value is matched by the
expression of the placeholder whatever the rest of the pattern is.

* `hasAssertion`: whether a condition on a place is written in an expression.
* `exists_reaches_of_fills`: where the items of tokens match, the group of a placeholder leads over
  its value.
* `exists_compile_sub`: the expression of a placeholder compiles on its own if the pattern does.
* `exists_value_of_captures`: the value of a placeholder is matched by its expression.
-/

namespace RouteTable

open Regex

/-- Whether the expression of a placeholder has a condition on a place written in it: an anchor or a
word boundary. -/
def hasAssertion (sub : String) : Bool := (Ast.readGrouped? sub.toList).any Ast.hasAnchor

example : hasAssertion "^a" = true ∧ hasAssertion "[^a]\\b" = true ∧
    hasAssertion defaultSubPattern = false := by decide +kernel

/-! ## Values -/

section Fills

variable {text : Array Char} {name sub : String} {e : Expr}

/-- Without conditions on places written in it, an expression has none. -/
theorem lacks_look_of_hasAssertion (h : hasAssertion sub = false) (he : subExpr? sub = some e) :
    e.lacks .look = true := by
  obtain ⟨ast, hast, he⟩ := Option.bind_eq_some_iff.mp he
  obtain ⟨⟨e', fl, n⟩, hmeans, rfl⟩ := Option.map_eq_some_iff.mp he
  rw [hasAssertion, hast, Option.any_some] at h
  exact lacks_look_of_ofNode ast h hmeans

/-- **Where the items of tokens match, the group of a placeholder leads over its value.** -/
theorem exists_reaches_of_fills {k : Nat} {tokens : List Token} {items : List Expr}
    (h : Spelt k tokens items) : ∀ {a b : Nat} {spans : List (Nat × Nat)},
      Fills text k items a b spans → .placeholder name sub ∈ tokens →
        ∃ i e p q, subExpr? sub = some e ∧ e.groups = [] ∧ .group i e ∈ items ∧
          Reaches text e p q ∧ q ≤ b ∧
            (name, slice text (p, q)) ∈
              (tokens.filterMap Token.name?).zip (spans.map (slice text)) := by
  induction h with
  | nil => exact fun _ hmem => absurd hmem List.not_mem_nil
  | @literal k tokens items lit _ ih =>
    intro a b spans hfills hmem
    obtain ⟨m, -, hrest⟩ := fills_literal hfills
    have hmem : .placeholder name sub ∈ tokens :=
      (List.mem_cons.mp hmem).resolve_left fun heq => Token.noConfusion heq
    obtain ⟨i, e, p, q, he, hgroups, hitem, hvalue⟩ := ih hrest hmem
    exact ⟨i, e, p, q, he, hgroups, List.mem_append_right _ hitem, hvalue⟩
  | @placeholder k tokens items name' sub' e hsub hgroups _ ih =>
    intro a b spans hfills hmem
    cases hfills with
    | @group _ _ m _ _ spans _ _ hreaches hrest =>
      rw [List.map_cons, List.filterMap_cons]
      rcases List.mem_cons.mp hmem with heq | hmem
      · obtain ⟨rfl, rfl⟩ := Token.placeholder.inj heq
        exact ⟨k, e, a, m, hsub, hgroups, List.mem_cons_self, hreaches, hrest.le,
          List.mem_cons_self⟩
      · obtain ⟨i, e', p, q, he, hgroups', hitem, hreaches', hq, hvalue⟩ := ih hrest hmem
        exact ⟨i, e', p, q, he, hgroups', List.mem_cons_of_mem _ hitem, hreaches', hq,
          List.mem_cons_of_mem _ hvalue⟩

end Fills

/-! ## Expressions -/

section Compile

variable {tokens : List Token} {p : CompiledPattern} {matcher : Regex} {path name sub : String}

/-- **The expression of a placeholder compiles on its own**, to what it is in the pattern. -/
theorem exists_compile_sub (hkeep : keepGroups tokens = true)
    (hcompile : Regex.compile (anchored p.regex) = .ok matcher)
    (hmem : .placeholder name sub ∈ tokens) {b : Branch} (htext : b.text = p.regex.toList)
    (hasts : b.asts = tokens.flatMap Token.asts) {i : Nat} {e : Expr}
    (he : subExpr? sub = some e) (hitem : .group i e ∈ b.items) :
    Regex.compile (anchored sub) = .ok ⟨Expr.anchored [e]⟩ := by
  obtain ⟨ast, hast, hfree⟩ :=
    (Option.any_eq_true _ _).mp (List.all_eq_true.mp hkeep _ hmem)
  rw [subExpr?, hast, Option.bind_some, Option.map_eq_some_iff] at he
  obtain ⟨⟨e', fl, n⟩, hmeans, rfl⟩ := he
  have htree : .group .capture ast ∈ b.asts := by
    rw [hasts]
    refine List.mem_flatMap.mpr ⟨_, hmem, ?_⟩
    rw [Token.asts, hast]
    exact List.mem_singleton_self _
  have hsource : (anchored p.regex).toList = Phrase.anchoredText [b.toPhrase] := by
    rw [toList_anchored, ← htext]
    rfl
  exact exists_compile_alone hsource hcompile htree (by simpa using hfree) hmeans hitem hast
    (toList_anchored sub)

/-- **The value of a placeholder is matched by its expression**, if that looks at no place around
it; the default expression matches segments. -/
theorem exists_value_of_captures (hp : CompiledPattern.ofTokens tokens = .ok p)
    (hkeep : keepGroups tokens = true) (hcompile : Regex.compile (anchored p.regex) = .ok matcher)
    {c : Captures} (hc : matcher.captures? path = some c) (hmem : .placeholder name sub ∈ tokens) :
    ∃ value, (name, value) ∈ c.variables p.names ∧
      (hasAssertion sub = false → ∃ r, Regex.compile (anchored sub) = .ok r ∧
        (r.captures? value).isSome = true) ∧
      (sub = defaultSubPattern → IsSegment value) := by
  obtain ⟨b, spans, htext, hasts, hspelt, hfills, hvariables⟩ :=
    exists_fills_of_captures hp hkeep hcompile hc
  obtain ⟨i, e, a, m, he, hgroups, hitem, hreaches, hm, hvalue⟩ :=
    exists_reaches_of_fills hspelt hfills hmem
  rw [← (ofTokens_eq_ok hp).2.2, ← hvariables] at hvalue
  refine ⟨_, hvalue, fun hfree => ?_, fun hdefault => ?_⟩
  · have halone := exists_compile_sub hkeep hcompile hmem htext hasts he hitem
    refine ⟨_, halone, ?_⟩
    have hmatch := hreaches.isSome_fullMatch hm hgroups (lacks_look_of_hasAssertion hfree he)
    have hexpr : (⟨Expr.anchored [e]⟩ : Regex).expr = Expr.anchored [e] := rfl
    have hslice : (slice path.toList.toArray (a, m)).toList.toArray =
        path.toList.toArray.extract a m := by
      rw [slice, String.toList_ofList, Array.toArray_toList]
    rw [captures_anchored hexpr, hslice, Option.isSome_map, List.findSome?_cons]
    obtain ⟨g, hg⟩ := Option.isSome_iff_exists.mp hmatch
    rw [hg]
    rfl
  · rw [hdefault, subExpr_default] at he
    obtain rfl := Option.some.inj he
    exact isSegment_of_reaches hreaches

end Compile

end RouteTable
