import RouteTable.Proofs.Regex.Branch

/-!
# The expression of a group stands alone

What stands in a group of a row compiles alone as well: it nests less deeply than the row, has no
named groups, and takes no more memory.

* `memory_items_ofRow`: a row takes the memory of its items.
* `programSize_anchored_le`: between anchors the expression of a group takes no more than the row.
* `exists_compile_alone`: it compiles, to the expression that the group has.
-/

namespace RouteTable.Regex

/-! ## Memory -/

namespace Shape

variable {dir : Direction}

theorem memoryOfAll_append : ∀ ss ts : List Shape,
    memoryOfAll dir (ss ++ ts) = memoryOfAll dir ss + memoryOfAll dir ts
  | [], ts => (Nat.zero_add _).symm
  | s :: ss, ts => by
    rw [List.cons_append, memoryOfAll, memoryOfAll, memoryOfAll_append ss ts, Nat.add_assoc]

theorem memory_le_of_mem {s : Shape} : ∀ {ss : List Shape}, s ∈ ss →
    s.memory dir ≤ memoryOfAll dir ss
  | t :: ss, h => by
    rw [memoryOfAll]
    rcases List.mem_cons.mp h with rfl | h
    · exact Nat.le_add_right _ _
    · exact Nat.le_trans (memory_le_of_mem h) (Nat.le_add_left _ _)

/-- Literals take as much memory joined as apart. -/
theorem memoryOfAll_joinLiterals : ∀ ss : List Shape,
    memoryOfAll dir (joinLiterals ss) = memoryOfAll dir ss
  | [] => rfl
  | s :: ss => by
    have ih := memoryOfAll_joinLiterals ss
    unfold joinLiterals
    split
    · rename_i a b rest heq
      rw [memoryOfAll, memoryOfAll, ← ih, heq, memoryOfAll, memory, memory, memory,
        List.flatMap_append, List.length_append, Nat.add_mul, Nat.add_assoc]
    · rw [memoryOfAll, memoryOfAll, ih]

theorem memoryOfAll_items_le (s : Shape) : memoryOfAll dir s.items ≤ s.memory dir := by
  unfold items
  split
  · exact Nat.zero_le _
  · rw [memory]
  · exact Nat.le_refl _

/-- A sequence of literals and groups takes the memory of its items. -/
theorem memory_items_ofItems {is : List Nat} {ss : List Shape} (h : ∀ s ∈ ss, s.IsSimple is) :
    memoryOfAll dir (ofItems ss).items = memoryOfAll dir ss := by
  have hjoined := isSimple_joinLiterals h
  have hmemory : memoryOfAll dir (joinLiterals ss) = memoryOfAll dir ss :=
    memoryOfAll_joinLiterals ss
  unfold ofItems
  rw [flatMap_items h]
  split
  · rename_i heq
    rw [← hmemory, heq]
    rfl
  · rename_i s heq
    have hs : s.IsSimple is := hjoined s (heq ▸ List.mem_singleton_self s)
    rw [← hmemory, heq, hs.items]
  · exact hmemory

/-- **A row takes the memory of its items.** -/
theorem memory_items_ofRow {k k' : Nat} {es : List Expr} (h : Row k es k') :
    memoryOfAll dir (ofExpr (Expr.ofRow es)).items = memoryOfAll dir (ofExprs es) := by
  have hsimple := isSimple_ofRow h
  unfold Expr.ofRow
  split
  · rename_i e
    have he := hsimple (ofExpr e) List.mem_cons_self
    rw [he.items]
    rfl
  · exact memory_items_ofItems hsimple

theorem joinLiterals_ne_nil : ∀ {ss : List Shape}, ss ≠ [] → joinLiterals ss ≠ []
  | [], h => absurd rfl h
  | s :: ss, _ => by
    unfold joinLiterals
    split <;> exact List.cons_ne_nil _ _

/-- Between anchors a shape is a sequence that starts at the start of the text. -/
theorem ofExpr_anchored (e : Expr) : ofExpr (Expr.anchored [e]) =
    .concat (.look .start :: joinLiterals ((ofExpr e).items ++ [.look .stop])) := by
  have hitems : [Shape.look .start, ofExpr e, .look .stop].flatMap items =
      .look .start :: ((ofExpr e).items ++ [.look .stop]) := rfl
  have hrest : joinLiterals ((ofExpr e).items ++ [.look .stop]) ≠ [] :=
    joinLiterals_ne_nil (by simp)
  have hjoined : joinLiterals (.look .start :: ((ofExpr e).items ++ [.look .stop])) =
      .look .start :: joinLiterals ((ofExpr e).items ++ [.look .stop]) := rfl
  change ofItems [.look .start, ofExpr e, .look .stop] = _
  rw [ofItems, hitems, hjoined]
  split
  · rename_i heq
    exact absurd heq (List.cons_ne_nil _ _)
  · rename_i heq
    exact absurd (List.cons.inj heq).2 hrest
  · rfl

/-- The size of an anchored expression grows with the memory of what is between the anchors. -/
theorem programSize_anchored (e : Expr) : (ofExpr (Expr.anchored [e])).programSize dir =
    memoryOfAll dir (ofExpr e).items +
      (4 * stateSize + if dir = .forward then 2 * stateSize else 0) := by
  have hanchored : (ofExpr (Expr.anchored [e])).isAnchored = true := by
    rw [ofExpr_anchored]
    rfl
  have hmemory : (ofExpr (Expr.anchored [e])).memory dir =
      stateSize + (memoryOfAll dir (ofExpr e).items + stateSize) := by
    rw [ofExpr_anchored, memory, memoryOfAll, memoryOfAll_joinLiterals, memoryOfAll_append]
    rfl
  rw [programSize, hanchored, hmemory]
  simp only [if_true]
  omega

end Shape

theorem mem_ofExprs {e : Expr} : ∀ {es : List Expr}, e ∈ es → Shape.ofExpr e ∈ Shape.ofExprs es
  | e' :: es, h => by
    rcases List.mem_cons.mp h with rfl | h
    · exact List.mem_cons_self
    · exact List.mem_cons_of_mem _ (mem_ofExprs h)

/-- Between anchors the expression of a group takes no more memory than the row. -/
theorem programSize_anchored_le {k k' i : Nat} {es : List Expr} {e : Expr} (h : Row k es k')
    (he : .group i e ∈ es) :
    (Expr.anchored [e]).programSize ≤ (Expr.anchored [Expr.ofRow es]).programSize := by
  have hmemory : ∀ dir, Shape.memoryOfAll dir (Shape.ofExpr e).items ≤
      Shape.memoryOfAll dir (Shape.ofExpr (Expr.ofRow es)).items := by
    intro dir
    calc Shape.memoryOfAll dir (Shape.ofExpr e).items
        ≤ (Shape.ofExpr e).memory dir := Shape.memoryOfAll_items_le _
      _ ≤ (Shape.ofExpr (.group i e)).memory dir := Nat.le_add_left _ _
      _ ≤ Shape.memoryOfAll dir (Shape.ofExprs es) := Shape.memory_le_of_mem (mem_ofExprs he)
      _ = Shape.memoryOfAll dir (Shape.ofExpr (Expr.ofRow es)).items :=
        (Shape.memory_items_ofRow h).symm
  unfold Expr.programSize
  simp only [Shape.programSize_anchored]
  have hforward := hmemory .forward
  have hbackward := hmemory .backward
  omega

/-! ## Trees -/

theorem depth_le_of_mem {ast : Ast} : ∀ {asts : List Ast}, ast ∈ asts →
    ast.depth ≤ Ast.depthOfAll asts
  | a :: asts, h => by
    rw [Ast.depthOfAll]
    rcases List.mem_cons.mp h with rfl | h
    · exact Nat.le_max_left _ _
    · exact Nat.le_trans (depth_le_of_mem h) (Nat.le_max_right _ _)

theorem depth_le_ofItems {ast : Ast} {asts : List Ast} (h : ast ∈ asts) :
    ast.depth ≤ (Ast.ofItems asts).depth := by
  unfold Ast.ofItems
  split
  · exact absurd h List.not_mem_nil
  · rw [List.mem_singleton.mp h]
  · exact Nat.le_succ_of_le (depth_le_of_mem h)

mutual

/-- Without capturing groups there are no named ones. -/
theorem groupNames_of_hasCapture_eq_false : ∀ ast : Ast, ast.hasCapture = false →
    ast.groupNames = []
  | .empty, _ | .flags _, _ | .literal _, _ | .dot, _ | .anchor _, _ | .perl _ _, _ => rfl
  | .property _ _, _ | .bracket _ _, _ => rfl
  | .repetition _ _ _ sub, h => groupNames_of_hasCapture_eq_false sub h
  | .group (.plain _) sub, h => groupNames_of_hasCapture_eq_false sub h
  | .group .capture _, h | .group (.namedCapture _) _, h => absurd h.symm Bool.false_ne_true
  | .alternation branches, h => groupNamesOfAll_of_anyHasCapture_eq_false branches h
  | .concat items, h => groupNamesOfAll_of_anyHasCapture_eq_false items h

theorem groupNamesOfAll_of_anyHasCapture_eq_false : ∀ asts : List Ast,
    Ast.anyHasCapture asts = false → Ast.groupNamesOfAll asts = []
  | [], _ => rfl
  | ast :: asts, h => by
    rw [Ast.anyHasCapture, Bool.or_eq_false_iff] at h
    rw [Ast.groupNamesOfAll, groupNames_of_hasCapture_eq_false ast h.1,
      groupNamesOfAll_of_anyHasCapture_eq_false asts h.2, List.append_nil]

end

/-- A tree between anchors. -/
def Ast.anchored (ast : Ast) : Ast :=
  .concat [.anchor .startLine, .group (.plain []) ast, .anchor .endLine]

theorem depth_anchored (ast : Ast) : ast.anchored.depth = ast.depth + 2 := by
  simp [Ast.anchored, Ast.depth, Ast.depthOfAll]

/-- Between anchors an expression is read as in parentheses. -/
theorem reads_anchored_of_readGrouped {sub : List Char} {ast : Ast}
    (h : Ast.readGrouped? sub = some ast) :
    Reads [] [] ('^' :: '(' :: '?' :: ':' :: (sub ++ [')', '$'])) ast.anchored [] :=
  .startLine (.plain (reads_of_readGrouped h ['$']) (by simp) (.endLine (.done [] _)))

theorem ofAst_anchored {ast : Ast} {fl : Flags} {n : Nat} {e : Expr}
    (h : Expr.ofNode? ast {} 1 = some (e, fl, n)) :
    Expr.ofAst? ast.anchored = some (Expr.anchored [e]) := by
  simp only [Expr.ofAst?, Ast.anchored, Expr.ofNode?, Expr.ofNodes?, Flags.apply, List.foldl_nil, h,
    Flags.look, Option.bind_eq_bind, Option.bind_some, Option.pure_def, Option.map_some,
    Expr.anchored, Expr.ofBranches, Bool.false_eq_true, if_false]

/-! ## Compiling -/

/-- **The expression of a group compiles alone** if the row with the group compiles. -/
theorem exists_compile_alone {b : Branch} {source : String} {r : Regex}
    (hsource : source.toList = Phrase.anchoredText [b.toPhrase]) (hr : compile source = .ok r)
    {ast : Ast} (hast : .group .capture ast ∈ b.asts) (hfree : ast.hasCapture = false)
    {fl : Flags} {n i : Nat} {e : Expr} (he : Expr.ofNode? ast {} 1 = some (e, fl, n))
    (hitem : .group i e ∈ b.items) {sub : List Char} (hsub : Ast.readGrouped? sub = some ast)
    {alone : String} (halone : alone.toList = '^' :: '(' :: '?' :: ':' :: (sub ++ [')', '$'])) :
    compile alone = .ok ⟨Expr.anchored [e]⟩ := by
  have hwhole := Phrase.reads_anchored b.toPhrase []
  rw [← hsource] at hwhole
  obtain ⟨hadmissible, -, hsize⟩ := (compile_eq_ok_iff hwhole).mp hr
  have hexpr : r.expr = Expr.anchored [b.expr] := by
    have hnumber : r.expr = Expr.anchored (Branch.number 0 [b]) :=
      @Branch.expr_of_compile b [] source r hsource hr
    rw [hnumber, Branch.number, b.exprAt_zero, Branch.number]
  have hread := reads_anchored_of_readGrouped hsub
  rw [← halone] at hread
  refine (compile_eq_ok_iff hread).mpr ⟨?_, ofAst_anchored he, ?_⟩
  · have hdepth : ast.depth + 1 ≤ b.tree.depth := depth_le_ofItems hast
    have hlimit : b.tree.anchored.depth ≤ nestLimit := by
      rw [Ast.isAdmissible, Bool.and_eq_true, decide_eq_true_eq] at hadmissible
      exact hadmissible.1
    have hnames : ast.anchored.groupNames = [] := by
      simp [Ast.anchored, Ast.groupNames, Ast.groupNamesOfAll,
        groupNames_of_hasCapture_eq_false ast hfree]
    rw [depth_anchored] at hlimit
    rw [Ast.isAdmissible, hnames, Bool.and_eq_true, decide_eq_true_eq, depth_anchored]
    exact ⟨by omega, decide_eq_true List.nodup_nil⟩
  · rw [hexpr] at hsize
    exact (programSize_anchored_le b.isRow hitem).trans hsize

end RouteTable.Regex
