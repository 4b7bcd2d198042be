import RouteTable.Proofs.Regex.Reading.Items
import RouteTable.Regex.Basic

/-!
# Reading texts that are put together

A text made by escaping, by parentheses and by bars is read to the tree that it was made for.

* `Reads` says what a text is read to, whatever fuel there is beyond its length.
* `compile_eq_ok_iff`: what a text compiles to, from what it is read to.
* `Ast.readGrouped?` is the tree of an expression that stands in parentheses; `Reads.capture` puts
  it to use. It may differ from the tree of the expression alone: a comment at the end of a verbose
  expression would swallow the parenthesis.
-/

namespace RouteTable.Regex

/-- What `cs` is read to after the given branches and items, and what is left of it. -/
def Reads (branches items : List Ast) (cs : List Char) (ast : Ast) (r : List Char) : Prop :=
  ∀ fuel, cs.length < fuel → readItems? fuel false branches items cs = some (ast, r)

namespace Reads

variable {branches items : List Ast} {cs r : List Char} {ast : Ast}

/-- A reader that has a step for the first character goes on with the rest. -/
theorem of_step {items' branches' : List Ast} {cs' : List Char}
    (h : Reads branches' items' cs' ast r)
    (hlength : cs'.length < cs.length)
    (hstep : ∀ fuel, cs.length ≤ fuel →
      readItems? (fuel + 1) false branches items cs = readItems? fuel false branches' items' cs') :
    Reads branches items cs ast r := by
  intro fuel hfuel
  cases fuel with
  | zero => omega
  | succ fuel => rw [hstep fuel (by omega), h fuel (by omega)]

theorem done (branches items : List Ast) :
    Reads branches items []
      (Ast.ofBranches (Ast.ofItems items.reverse :: branches).reverse) [] := by
  intro fuel hfuel
  cases fuel with
  | zero => omega
  | succ fuel => rfl

theorem close (branches items : List Ast) (cs : List Char) :
    Reads branches items (')' :: cs)
      (Ast.ofBranches (Ast.ofItems items.reverse :: branches).reverse) (')' :: cs) := by
  intro fuel hfuel
  cases fuel with
  | zero => omega
  | succ fuel => rfl

theorem bar (h : Reads (Ast.ofItems items.reverse :: branches) [] cs ast r) :
    Reads branches items ('|' :: cs) ast r :=
  h.of_step (by simp) fun _ _ => rfl

theorem startLine (h : Reads branches (.anchor .startLine :: items) cs ast r) :
    Reads branches items ('^' :: cs) ast r :=
  h.of_step (by simp) fun _ _ => rfl

theorem endLine (h : Reads branches (.anchor .endLine :: items) cs ast r) :
    Reads branches items ('$' :: cs) ast r :=
  h.of_step (by simp) fun _ _ => rfl

/-! ## Escaped characters -/

theorem readEscape_of_isMeta {c : Char} (hc : isMeta c = true) (cs : List Char) :
    readEscape? false (c :: cs) = some (.literal { char := c }, cs) := by
  rw [isMeta, List.contains_iff_mem] at hc
  simp only [List.mem_cons, List.not_mem_nil, or_false] at hc
  rcases hc with rfl | rfl | rfl | rfl | rfl | rfl | rfl | rfl | rfl | rfl | rfl | rfl | rfl |
    rfl | rfl | rfl | rfl | rfl <;> rfl

theorem char (c : Char) (h : Reads branches (.literal { char := c } :: items) cs ast r) :
    Reads branches items ((if isMeta c then ['\\', c] else [c]) ++ cs) ast r := by
  split
  · rename_i hc
    have hlength : cs.length < (['\\', c] ++ cs).length := by
      rw [List.length_append]
      exact Nat.lt_add_of_pos_left (Nat.succ_pos _)
    refine h.of_step hlength fun fuel _ => ?_
    simp only [List.cons_append, List.nil_append]
    rw [readItems?]
    simp only [skip, Bool.false_eq_true, if_false, readEscape_of_isMeta hc cs, Option.bind_eq_bind,
      Option.bind_some]
  · rename_i hc
    refine h.of_step (by simp) fun fuel _ => ?_
    simp only [List.cons_append, List.nil_append]
    rw [readItems?]
    simp only [skip, Bool.false_eq_true, if_false]
    split
    case h_1 heq => exact absurd heq (List.cons_ne_nil c cs)
    case h_14 heq =>
      obtain ⟨rfl, rfl⟩ := List.cons.inj heq
      rfl
    all_goals
      rename_i heq
      rw [(List.cons.inj heq).1] at hc
      exact absurd (by decide) hc

/-- An escaped text is read to its characters. -/
theorem escape : ∀ (text : List Char) {items : List Ast},
    Reads branches ((text.map fun c => .literal { char := c }).reverse ++ items) cs ast r →
      Reads branches items ((text.flatMap fun c => if isMeta c then ['\\', c] else [c]) ++ cs) ast r
  | [], _, h => h
  | c :: text, items, h => by
    rw [List.flatMap_cons, List.append_assoc]
    refine char c (escape text ?_)
    rwa [List.map_cons, List.reverse_cons, List.append_assoc, List.singleton_append] at h

/-! ## Groups -/

/-- What is read between parentheses makes a group that captures nothing. -/
theorem plain {sub : Ast} {text : List Char} (hsub : Reads [] [] text sub (')' :: cs))
    (hlength : cs.length < text.length)
    (h : Reads branches (.group (.plain []) sub :: items) cs ast r) :
    Reads branches items ('(' :: '?' :: ':' :: text) ast r := by
  refine h.of_step (by simp; omega) fun fuel hfuel => ?_
  rw [List.length_cons, List.length_cons, List.length_cons] at hfuel
  have hhead : readGroupHead? false ('?' :: ':' :: text) = some (.opens (.plain []), text) := rfl
  have hinner := hsub fuel (by omega)
  rw [readItems?]
  simp only [skip, Bool.false_eq_true, if_false, hhead, FlagList.value?, List.find?_nil,
    Option.map_none, Option.getD_none, hinner]

end Reads

/-- The tree of `sub` where it stands in parentheses: all that is read up to the closing one. -/
def Ast.readGrouped? (sub : List Char) : Option Ast :=
  match readItems? (sub.length + 2) false [] [] (sub ++ [')']) with
  | some (ast, [')']) => some ast
  | _ => none

theorem readGrouped_eq_some {sub : List Char} {ast : Ast} (h : Ast.readGrouped? sub = some ast) :
    readItems? (sub.length + 2) false [] [] (sub ++ [')']) = some (ast, [')']) := by
  unfold Ast.readGrouped? at h
  split at h
  · rename_i heq
    rw [heq, Option.some.inj h]
  · exact absurd h (by simp)

/-- An expression without comments has the tree in parentheses that it has alone. -/
theorem readGrouped_of_read {sub : List Char} {ast : Ast} (h : Ast.read? sub = some ast)
    (hcomment : '#' ∉ sub) : Ast.readGrouped? sub = some ast := by
  unfold Ast.read? at h
  split at h
  · rename_i ast' hread
    have hast : ast' = ast := by
      split at h
      · exact Option.some.inj h
      · exact absurd h (by simp)
    obtain ⟨-, he⟩ := local_readItems (Nat.le_succ (sub.length + 1)) false [] [] sub ast' [] hread
    have hgrouped := he [')'] (Or.inr (Or.inr ⟨⟨[], rfl⟩, fun _ => hcomment⟩))
    unfold Ast.readGrouped?
    rw [hgrouped, hast]
    rfl
  · exact absurd h (by simp)

/-- In parentheses an expression is read alike whatever comes after them. -/
theorem reads_of_readGrouped {sub : List Char} {ast : Ast} (h : Ast.readGrouped? sub = some ast)
    (cs : List Char) : Reads [] [] (sub ++ ')' :: cs) ast (')' :: cs) := by
  intro fuel hfuel
  rw [List.length_append, List.length_cons] at hfuel
  have hfuel : sub.length + 2 ≤ fuel := by omega
  obtain ⟨-, he⟩ := local_readItems hfuel false [] [] _ ast [')'] (readGrouped_eq_some h)
  have hread := he cs (Or.inr (Or.inl (List.mem_singleton_self ')')))
  rwa [List.append_assoc] at hread

theorem head?_of_readGrouped {sub : List Char} {ast : Ast} (h : Ast.readGrouped? sub = some ast) :
    sub.head? ≠ some '?' := by
  intro hhead
  cases sub with
  | nil => exact absurd hhead (by simp)
  | cons c sub =>
    obtain rfl := Option.some.inj hhead
    have hread := readGrouped_eq_some h
    rw [List.cons_append, List.length_cons, readItems?] at hread
    simp [skip, repeatLast?] at hread

theorem readGroupHead_capture {cs : List Char} (h : cs.head? ≠ some '?') :
    readGroupHead? false cs = some (.opens .capture, cs) := by
  unfold readGroupHead?
  simp only [skip, Bool.false_eq_true, if_false]
  split
  case h_8 => rfl
  all_goals exact absurd rfl h

/-- An expression in parentheses is a capturing group. -/
theorem Reads.capture {branches items : List Ast} {sub cs r : List Char} {group ast : Ast}
    (hsub : Ast.readGrouped? sub = some group)
    (h : Reads branches (.group .capture group :: items) cs ast r) :
    Reads branches items ('(' :: (sub ++ ')' :: cs)) ast r := by
  refine h.of_step (by simp; omega) fun fuel hfuel => ?_
  rw [List.length_cons] at hfuel
  have hhead : (sub ++ ')' :: cs).head? ≠ some '?' := by
    have hne := head?_of_readGrouped hsub
    cases sub with
    | nil => simp
    | cons c sub => exact hne
  have hinner := reads_of_readGrouped hsub cs fuel (by omega)
  rw [readItems?]
  simp only [skip, Bool.false_eq_true, if_false, readGroupHead_capture hhead, hinner]

/-! ## Compiling -/

/-- What is read compiles to its meaning, if it keeps the limits. -/
theorem compile_eq_ok_iff {source : String} {ast : Ast} {r : Regex}
    (h : Reads [] [] source.toList ast []) :
    compile source = .ok r ↔ ast.isAdmissible = true ∧ Expr.ofAst? ast = some r.expr ∧
      r.expr.programSize ≤ sizeLimit := by
  rw [compile, Ast.read?, h _ (Nat.lt_succ_self _)]
  simp only
  by_cases hadmissible : ast.isAdmissible = true
  · rw [if_pos hadmissible, Option.bind_some]
    cases hmeaning : Expr.ofAst? ast with
    | none => simp
    | some e =>
      by_cases hsize : e.programSize ≤ sizeLimit
      · simp only [if_pos hsize, Except.ok.injEq, hadmissible, Option.some.injEq, true_and]
        constructor
        · rintro rfl
          exact ⟨rfl, hsize⟩
        · rintro ⟨rfl, -⟩
          rfl
      · simp only [if_neg hsize, reduceCtorEq, Option.some.injEq, false_iff, not_and]
        rintro - rfl
        exact hsize
  · rw [if_neg hadmissible, Option.bind_none]
    simp [hadmissible]

end RouteTable.Regex
