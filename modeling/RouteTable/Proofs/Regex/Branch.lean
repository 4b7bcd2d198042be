import Mathlib.Algebra.GroupWithZero.Nat
import RouteTable.Proofs.Regex.Anchored
import RouteTable.Proofs.Regex.Meaning
import RouteTable.Proofs.Regex.Reading.Text

/-!
# Branches

A `Phrase` is a text that is read, wherever it stands, to literals and capturing groups without
groups inside; a `Branch` is a phrase with its meaning. What an expression of the form `^(?:…|…)$`
does is then known from what its branches do alone.

* `expr_of_compile`: such an expression compiles to its branches, numbered through.
* `exists_of_compile`: a phrase that compiles on its own is a branch.
* `fullMatch_exprAt`: a branch among others records what it records alone, under greater numbers.
* `numbers_fullMatch`: a match of a branch records all its groups and no others.
-/

namespace RouteTable.Regex

/-- A text that is read, wherever it stands, to literals and groups that mean a row. -/
structure Phrase where
  text : List Char
  asts : List Ast
  reads : ∀ {branches items : List Ast} {cs r : List Char} {ast : Ast},
    Reads branches (asts.reverse ++ items) cs ast r → Reads branches items (text ++ cs) ast r
  row : ∀ ast ∈ asts, ast.isRowItem = true

namespace Phrase

/-- The tree of a phrase. -/
def tree (p : Phrase) : Ast := Ast.ofItems p.asts

/-- The texts of phrases with bars between them. -/
def joined : List Phrase → List Char
  | [] => []
  | [p] => p.text
  | p :: ps => p.text ++ '|' :: joined ps

/-- The text of phrases between anchors. -/
def anchoredText (ps : List Phrase) : List Char :=
  '^' :: '(' :: '?' :: ':' :: (joined ps ++ [')', '$'])

/-- The tree of phrases between anchors. -/
def anchoredTree (ps : List Phrase) : Ast :=
  .concat [.anchor .startLine, .group (.plain []) (Ast.ofBranches (ps.map tree)), .anchor .endLine]

theorem reads_joined : ∀ (ps : List Phrase) (p : Phrase) (before : List Ast) (cs : List Char),
    Reads before [] (joined (p :: ps) ++ ')' :: cs)
      (Ast.ofBranches (before.reverse ++ (p :: ps).map tree)) (')' :: cs)
  | [], p, before, cs => by
    have hclose := Reads.close before p.asts.reverse cs
    rw [List.reverse_reverse, List.reverse_cons] at hclose
    refine p.reads ?_
    rwa [List.append_nil]
  | p' :: ps, p, before, cs => by
    have ih := reads_joined ps p' (p.tree :: before) cs
    rw [List.reverse_cons, List.append_assoc, List.singleton_append] at ih
    rw [joined, List.append_assoc, List.cons_append]
    · refine p.reads (.bar ?_)
      rwa [List.append_nil, List.reverse_reverse]
    · exact List.cons_ne_nil p' ps

theorem reads_anchored (p : Phrase) (ps : List Phrase) :
    Reads [] [] (anchoredText (p :: ps)) (anchoredTree (p :: ps)) [] := by
  refine .startLine (.plain (reads_joined ps p [] ['$']) (by simp) (.endLine ?_))
  exact Reads.done [] _

/-- What phrases between anchors compile to is what their tree means. -/
theorem ofAst_of_compile {p : Phrase} {ps : List Phrase} {source : String} {r : Regex}
    (hsource : source.toList = anchoredText (p :: ps)) (h : compile source = .ok r) :
    Expr.ofAst? (anchoredTree (p :: ps)) = some r.expr := by
  have hread := reads_anchored p ps
  rw [← hsource] at hread
  exact ((compile_eq_ok_iff hread).mp h).2.1

end Phrase

/-- A phrase with its meaning: a row whose groups are numbered from 1 to `size`. -/
structure Branch extends Phrase where
  items : List Expr
  size : Nat
  means : Expr.ofNodes? asts {} 1 = some (items, {}, size + 1)

namespace Branch

/-- The expression of a branch that stands alone. -/
def expr (b : Branch) : Expr := Expr.ofRow b.items

/-- The items of a branch that comes after `k` groups. -/
def itemsAt (b : Branch) (k : Nat) : List Expr := b.items.map (Expr.renumber (· + k))

/-- The expression of a branch that comes after `k` groups. -/
def exprAt (b : Branch) (k : Nat) : Expr := b.expr.renumber (· + k)

/-- The rows of branches that come after `k` groups. -/
def rows (k : Nat) : List Branch → List (List Expr)
  | [] => []
  | b :: bs => b.itemsAt k :: rows (k + b.size) bs

/-- The expressions of branches that come after `k` groups. -/
def number (k : Nat) : List Branch → List Expr
  | [] => []
  | b :: bs => b.exprAt k :: number (k + b.size) bs

/-! ## Meaning -/

theorem length_ofNodes : ∀ {asts : List Ast} {fl fl' : Flags} {n n' : Nat} {es : List Expr},
    Expr.ofNodes? asts fl n = some (es, fl', n') → es.length = asts.length
  | [], _, _, _, _, _, h => by
    simp only [Expr.ofNodes?, Option.some.injEq, Prod.mk.injEq] at h
    rw [← h.1]
    rfl
  | ast :: asts, _, _, _, _, _, h => by
    simp only [Expr.ofNodes?, Option.bind_eq_bind, Option.bind_eq_some_iff, Option.pure_def,
      Option.some.injEq, Prod.mk.injEq, Prod.exists] at h
    obtain ⟨e, fl₁, n₁, -, es', fl₂, n₂, hes, rfl, -, -⟩ := h
    rw [List.length_cons, List.length_cons, length_ofNodes hes]

/-- Items that are made one node mean one expression. -/
theorem ofNode_ofItems {asts : List Ast} {fl fl' : Flags} {n n' : Nat} {es : List Expr}
    (h : Expr.ofNodes? asts fl n = some (es, fl', n')) :
    Expr.ofNode? (Ast.ofItems asts) fl n = some (Expr.ofRow es, fl', n') := by
  have hlength := length_ofNodes h
  unfold Ast.ofItems
  split
  · simp only [Expr.ofNodes?, Option.some.injEq, Prod.mk.injEq] at h
    obtain ⟨rfl, rfl, rfl⟩ := h
    rfl
  · rename_i ast
    simp only [Expr.ofNodes?, Option.bind_eq_bind, Option.bind_eq_some_iff, Option.pure_def,
      Option.some.injEq, Prod.mk.injEq, Prod.exists] at h
    obtain ⟨e, fl₁, n₁, he, es', fl₂, n₂, ⟨rfl, rfl, rfl⟩, rfl, rfl, rfl⟩ := h
    exact he
  · rename_i hnil hsingle
    unfold Expr.ofRow
    split
    · rw [List.length_singleton] at hlength
      obtain ⟨ast, rfl⟩ := List.length_eq_one_iff.mp hlength.symm
      exact absurd rfl (hsingle ast)
    · simp [Expr.ofNode?, h]

theorem isRow (b : Branch) : Row 1 b.items (b.size + 1) := (ofNodes_row b.row b.means).2.2.1

theorem size_eq (b : Branch) : b.size = Ast.groupsAmong b.asts := by
  have h := (ofNodes_row b.row b.means).2.1
  omega

theorem isRow_itemsAt (b : Branch) (k : Nat) : Row (k + 1) (b.itemsAt k) (k + b.size + 1) := by
  have h := b.isRow.renumber k
  rwa [Nat.add_comm 1 k, Nat.add_right_comm, Nat.add_comm b.size k] at h

theorem exprAt_eq_ofRow (b : Branch) (k : Nat) : b.exprAt k = Expr.ofRow (b.itemsAt k) :=
  renumber_ofRow _ b.items

theorem number_eq_map : ∀ (k : Nat) (bs : List Branch), number k bs = (rows k bs).map Expr.ofRow
  | _, [] => rfl
  | k, b :: bs => by rw [number, rows, List.map_cons, exprAt_eq_ofRow, number_eq_map _ bs]

theorem isRows : ∀ (k : Nat) (bs : List Branch),
    ∃ k', Rows (k + 1) (rows k bs) k'
  | k, [] => ⟨k + 1, .nil _⟩
  | k, b :: bs => by
    obtain ⟨k', h⟩ := isRows (k + b.size) bs
    exact ⟨k', .cons (b.isRow_itemsAt k) h⟩

theorem ofNode_tree (b : Branch) (k : Nat) :
    Expr.ofNode? b.tree {} (k + 1) = some (b.exprAt k, {}, k + b.size + 1) := by
  have h := (ofNodes_row b.row b.means).2.2.2 k
  rw [Nat.add_comm 1 k, Nat.add_right_comm, Nat.add_comm b.size k] at h
  rw [exprAt_eq_ofRow]
  exact ofNode_ofItems h

theorem exprAt_zero (b : Branch) : b.exprAt 0 = b.expr := by
  have h := (b.ofNode_tree 0).symm.trans (ofNode_ofItems b.means)
  exact congrArg Prod.fst (Option.some.inj h)

theorem ofNodes_trees : ∀ (k : Nat) (bs : List Branch),
    ∃ n, Expr.ofNodes? (bs.map fun b => b.tree) {} (k + 1) = some (number k bs, {}, n)
  | k, [] => ⟨k + 1, rfl⟩
  | k, b :: bs => by
    obtain ⟨n, h⟩ := ofNodes_trees (k + b.size) bs
    exact ⟨n, by simp [Expr.ofNodes?, ofNode_tree, h, number]⟩

theorem ofNode_ofBranches (b : Branch) (bs : List Branch) :
    ∃ n, Expr.ofNode? (Ast.ofBranches ((b :: bs).map fun b => b.tree)) {} 1 =
      some (Expr.ofBranches (number 0 (b :: bs)), {}, n) := by
  cases bs with
  | nil => exact ⟨_, b.ofNode_tree 0⟩
  | cons b' bs =>
    obtain ⟨n, h⟩ := ofNodes_trees 0 (b :: b' :: bs)
    obtain ⟨k', hrows⟩ := isRows 0 (b :: b' :: bs)
    have halt := alternatives_rows hrows
    have hmap := number_eq_map 0 (b :: b' :: bs)
    rw [rows, rows] at hmap
    rw [← hmap] at halt
    have hnode : Expr.ofNode? (.alternation ((b :: b' :: bs).map fun b => b.tree)) {} 1 =
        some (Expr.alternatives (number 0 (b :: b' :: bs)), {}, n) := by
      rw [Expr.ofNode?, h]
      rfl
    rw [halt] at hnode
    exact ⟨n, hnode⟩

/-- Anchored branches compile to themselves, numbered through. -/
theorem expr_of_compile {b : Branch} {bs : List Branch} {source : String} {r : Regex}
    (hsource : source.toList = Phrase.anchoredText ((b :: bs).map toPhrase))
    (h : compile source = .ok r) : r.expr = Expr.anchored (number 0 (b :: bs)) := by
  have hast := Phrase.ofAst_of_compile hsource h
  obtain ⟨n, hbody⟩ := ofNode_ofBranches b bs
  have hmap : (b.toPhrase :: bs.map toPhrase).map Phrase.tree = (b :: bs).map fun b => b.tree := by
    rw [List.map_cons, List.map_map]
    rfl
  have hmeans : Expr.ofAst? (Phrase.anchoredTree ((b :: bs).map toPhrase)) =
      some (Expr.anchored (number 0 (b :: bs))) := by
    rw [List.map_cons, Phrase.anchoredTree, hmap]
    simp only [Expr.ofAst?, Expr.ofNode?, Expr.ofNodes?, Flags.apply, List.foldl_nil, hbody,
      Flags.look, Option.bind_eq_bind, Option.bind_some, Option.pure_def, Option.map_some,
      Expr.anchored, Bool.false_eq_true, if_false]
  exact (Option.some.inj (hmeans.symm.trans hast)).symm

theorem exists_of_ofNode {asts : List Ast} {fl fl' : Flags} {n n' : Nat} {e : Expr}
    (h : Expr.ofNode? (Ast.ofItems asts) fl n = some (e, fl', n')) :
    ∃ es, Expr.ofNodes? asts fl n = some (es, fl', n') := by
  unfold Ast.ofItems at h
  split at h
  · simp only [Expr.ofNode?, Option.some.injEq, Prod.mk.injEq] at h
    exact ⟨[], by simp [Expr.ofNodes?, h]⟩
  · exact ⟨[e], by simp [Expr.ofNodes?, h]⟩
  · simp only [Expr.ofNode?, Option.bind_eq_bind, Option.bind_eq_some_iff, Option.pure_def,
      Option.some.injEq, Prod.mk.injEq, Prod.exists] at h
    obtain ⟨es, fl₁, n₁, hes, -, rfl, rfl⟩ := h
    exact ⟨es, hes⟩

/-- A phrase that compiles on its own is a branch. -/
theorem exists_of_compile {p : Phrase} {source : String} {r : Regex}
    (hsource : source.toList = Phrase.anchoredText [p]) (h : compile source = .ok r) :
    ∃ b : Branch, b.toPhrase = p ∧ r.expr = Expr.anchored [b.expr] := by
  have hast := Phrase.ofAst_of_compile hsource h
  cases hbody : Expr.ofNode? p.tree {} 1 with
  | none =>
    have hnone : Expr.ofAst? (Phrase.anchoredTree [p]) = none := by
      simp [Expr.ofAst?, Phrase.anchoredTree, Expr.ofNode?, Expr.ofNodes?, Flags.apply,
        Ast.ofBranches, hbody]
    exact absurd (hnone.symm.trans hast) (by simp)
  | some m =>
    obtain ⟨e, fl, n⟩ := m
    obtain ⟨es, hes⟩ := exists_of_ofNode hbody
    obtain ⟨rfl, rfl, -, -⟩ := ofNodes_row p.row hes
    rw [Nat.add_comm] at hes
    let b : Branch := { p with items := es, size := Ast.groupsAmong p.asts, means := hes }
    have hexpr : r.expr = Expr.anchored (number 0 [b]) :=
      @expr_of_compile b [] source r hsource h
    exact ⟨b, rfl, by rw [hexpr, number, exprAt_zero, number]⟩

/-! ## Group numbers -/

/-- The last group of a branch has the greatest number. -/
theorem groupCount_exprAt {b : Branch} (hb : 0 < b.size) (k : Nat) :
    (b.exprAt k).groupCount = k + b.size := by
  rw [exprAt_eq_ofRow]
  exact (b.isRow_itemsAt k).groupCount (by omega)

theorem groupCount_anchored (es : List Expr) :
    (Expr.anchored es).groupCount = Expr.groupCountAll es := by
  have hbranches : (Expr.ofBranches es).groupCount = Expr.groupCountAll es := by
    unfold Expr.ofBranches
    split
    · simp [Expr.groupCountAll]
    · rfl
  simp [Expr.anchored, Expr.groupCount, Expr.groupCountAll, hbranches]

theorem groupCount_le_of_mem {e : Expr} : ∀ {es : List Expr}, e ∈ es →
    e.groupCount ≤ Expr.groupCountAll es
  | e' :: es, h => by
    rw [Expr.groupCountAll]
    rcases List.mem_cons.mp h with rfl | h
    · exact Nat.le_max_left _ _
    · exact Nat.le_trans (groupCount_le_of_mem h) (Nat.le_max_right _ _)

theorem exprAt_mem_number (b : Branch) (after : List Branch) : ∀ (k : Nat) (before : List Branch),
    b.exprAt (k + (before.map size).sum) ∈ number k (before ++ b :: after)
  | k, [] => List.mem_cons_self
  | k, a :: before => by
    rw [List.map_cons, List.sum_cons, ← Nat.add_assoc]
    exact List.mem_cons_of_mem _ (exprAt_mem_number b after (k + a.size) before)

/-- Among branches numbered through, the groups of each are counted. -/
theorem le_groupCount_number {b : Branch} (hb : 0 < b.size) (before after : List Branch) :
    (before.map size).sum + b.size ≤
      (Expr.anchored (number 0 (before ++ b :: after))).groupCount := by
  have h := groupCount_le_of_mem (exprAt_mem_number b after 0 before)
  rwa [groupCount_exprAt hb, Nat.zero_add, ← groupCount_anchored] at h

/-! ## Matching -/

variable (text : Array Char)

/-- A branch among others records what it records alone, under greater numbers. -/
theorem fullMatch_exprAt (b : Branch) (k : Nat) :
    (b.exprAt k).fullMatch? text = (b.expr.fullMatch? text).map (Groups.shift k) := by
  have hrun := run_shift text k b.expr [] 0 []
  have hpos : ((fun t : Thread => t.pos == text.size) ∘ Thread.mapGroups (Groups.shift k)) =
      fun t => t.pos == text.size := rfl
  rw [show Groups.shift k [] = [] from rfl] at hrun
  rw [exprAt, Expr.fullMatch?, hrun, List.find?_map, hpos, Expr.fullMatch?, Option.map_map,
    Option.map_map]
  rfl

/-- A match of a branch records all its groups and no others, the last one first. -/
theorem numbers_fullMatch {b : Branch} {g : Groups} (h : b.expr.fullMatch? text = some g) :
    g.numbers = (List.range' 1 b.size).reverse := by
  obtain ⟨t, ht, rfl⟩ := Option.map_eq_some_iff.mp h
  exact b.isRow.numbers_of_run (List.mem_of_find?_eq_some ht)

/-- Of branches numbered through, the first records that matches the whole text. -/
theorem findSome_number : ∀ (k : Nat) (bs : List Branch),
    (number k bs).findSome? (Expr.fullMatch? text) = none ↔
      ∀ b ∈ bs, b.expr.fullMatch? text = none
  | _, [] => by simp [number]
  | k, b :: bs => by
    rw [number, List.findSome?_cons, fullMatch_exprAt, List.forall_mem_cons]
    cases b.expr.fullMatch? text with
    | some g => simp
    | none => simpa using findSome_number (k + b.size) bs

theorem findSome_number_append {before after : List Branch} {b : Branch} {g : Groups}
    (hbefore : ∀ a ∈ before, a.expr.fullMatch? text = none)
    (hb : b.expr.fullMatch? text = some g) : ∀ k : Nat,
      (number k (before ++ b :: after)).findSome? (Expr.fullMatch? text) =
        some (g.shift (k + (before.map size).sum)) := by
  induction before with
  | nil => intro k; simp [number, fullMatch_exprAt, hb]
  | cons a before ih =>
    intro k
    rw [List.forall_mem_cons] at hbefore
    rw [List.cons_append, number, List.findSome?_cons, fullMatch_exprAt, hbefore.1, Option.map_none,
      ih hbefore.2, List.map_cons, List.sum_cons, Nat.add_assoc]

end Branch

end RouteTable.Regex
