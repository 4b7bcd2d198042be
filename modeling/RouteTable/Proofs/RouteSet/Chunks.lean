import RouteTable.Proofs.Pattern.Expression
import RouteTable.Proofs.RouteSet.Positions

/-!
# Chunks

The chunks of a table answer as the list of its routes does: with the first route that matches.

* `BranchRoute`: a route whose expression is a branch with as many groups as the route counts.
* `expr_of_compile_chunk`: a chunk compiles to the branches of its routes, numbered through.
* `captures_chunk`: a chunk finds what the first of its routes finds that matches.
* `findInChunks_eq`: the borders of the chunks make no difference.
-/

namespace RouteTable

open Regex

/-- A route whose expression is a branch with as many groups as the route counts. -/
structure BranchRoute where
  route : VariableRoute
  branch : Branch
  text : branch.text = route.regex.toList
  expr : route.matcher.expr = Expr.anchored [branch.expr]
  size : branch.size = route.groupCount
  positive : 0 < route.groupCount

/-- The routes of a list are such routes. -/
theorem exists_branchRoutes : ∀ {rs : List VariableRoute},
    (∀ r ∈ rs, ∃ b : BranchRoute, b.route = r) →
      ∃ bs : List BranchRoute, bs.map BranchRoute.route = rs
  | [], _ => ⟨[], rfl⟩
  | r :: rs, h => by
    rw [List.forall_mem_cons] at h
    obtain ⟨b, rfl⟩ := h.1
    obtain ⟨bs, rfl⟩ := exists_branchRoutes h.2
    exact ⟨b :: bs, rfl⟩

namespace BranchRoute

/-! ## The expression of a chunk -/

theorem toList_intercalate : ∀ (b : BranchRoute) (bs : List BranchRoute),
    ("|".intercalate ((b :: bs).map fun b => b.route.regex)).toList =
      Phrase.joined ((b :: bs).map fun b => b.branch.toPhrase)
  | b, [] => by
    rw [List.map_singleton, String.intercalate_singleton, ← b.text]
    rfl
  | b, b' :: bs => by
    have ih := toList_intercalate b' bs
    rw [List.map_cons] at ih
    rw [List.map_cons, List.map_cons, String.intercalate_cons_cons, String.toList_append,
      String.toList_append, ih, ← b.text, List.append_assoc]
    rfl

theorem toList_chunk (b : BranchRoute) (bs : List BranchRoute) :
    (Chunk.ofRoutes ((b :: bs).map route)).regex.toList =
      Phrase.anchoredText ((b :: bs).map fun b => b.branch.toPhrase) := by
  have hmap : ((b :: bs).map route).map VariableRoute.regex =
      (b :: bs).map fun b => b.route.regex := List.map_map
  rw [Chunk.ofRoutes, hmap, toList_anchored, toList_intercalate]
  rfl

/-- A chunk compiles to the branches of its routes, numbered through. -/
theorem expr_of_compile_chunk {bs : List BranchRoute} (hne : bs ≠ []) {r : Regex}
    (h : Regex.compile (Chunk.ofRoutes (bs.map route)).regex = .ok r) :
    r.expr = Expr.anchored (Branch.number 0 (bs.map branch)) := by
  obtain ⟨b, bs, rfl⟩ := List.exists_cons_of_ne_nil hne
  have htext := toList_chunk b bs
  have hmap : (b :: bs).map (fun b => b.branch.toPhrase) =
      ((b :: bs).map branch).map Branch.toPhrase := List.map_map.symm
  rw [hmap] at htext
  exact Branch.expr_of_compile htext h

theorem groupCount_pos {bs : List BranchRoute} : ∀ r ∈ bs.map route, 0 < r.groupCount := by
  intro r hr
  obtain ⟨b, -, rfl⟩ := List.mem_map.mp hr
  exact b.positive

/-! ## Matching -/

variable (path : String)

/-- What a route records on the whole path, if it matches. -/
def record? (b : BranchRoute) : Option Groups := b.branch.expr.fullMatch? path.toList.toArray

/-- The match of the whole path that has recorded `g`. -/
def wholeMatch (g : Groups) : Captures :=
  ⟨path.toList.toArray, 0, path.toList.toArray.size, g⟩

theorem captures_route (b : BranchRoute) :
    b.route.matcher.captures? path = (b.record? path).map (wholeMatch path) := by
  rw [captures_anchored b.expr path, List.findSome?_cons, record?]
  cases b.branch.expr.fullMatch? path.toList.toArray <;> rfl

theorem isMatch_eq (b : BranchRoute) : b.route.isMatch path = (b.record? path).isSome := by
  rw [VariableRoute.isMatch, Regex.isMatch, captures_route, Option.isSome_map]

theorem record?_eq_none {b : BranchRoute} (h : b.route.isMatch path = false) :
    b.record? path = none := by
  rw [isMatch_eq, Option.isSome_eq_false_iff, Option.isNone_iff_eq_none] at h
  exact h

theorem sum_sizes (bs : List BranchRoute) :
    ((bs.map branch).map Branch.size).sum = ((bs.map route).map VariableRoute.groupCount).sum := by
  rw [List.map_map, List.map_map]
  exact congrArg List.sum (List.map_congr_left fun b _ => b.size)

variable {path}

theorem captures_chunk_eq_none {bs : List BranchRoute} (hne : bs ≠ []) {r : Regex}
    (h : Regex.compile (Chunk.ofRoutes (bs.map route)).regex = .ok r)
    (hnone : ∀ a ∈ bs, a.route.isMatch path = false) : r.captures? path = none := by
  rw [captures_anchored (expr_of_compile_chunk hne h) path, Option.map_eq_none_iff,
    Branch.findSome_number]
  intro a ha
  obtain ⟨a, hmem, rfl⟩ := List.mem_map.mp ha
  exact record?_eq_none path (hnone a hmem)

/-- **A chunk finds what the first of its routes finds that matches**: its position is that of the
route, and under it are the route's variables. -/
theorem captures_chunk {before after : List BranchRoute} {b : BranchRoute} {r : Regex}
    {c : Captures}
    (h : Regex.compile (Chunk.ofRoutes ((before ++ b :: after).map route)).regex = .ok r)
    (hbefore : ∀ a ∈ before, a.route.isMatch path = false)
    (hb : b.route.matcher.captures? path = some c) :
    ∃ c', r.captures? path = some c' ∧
      c'.position r.groupCount =
        ((before.map route).map VariableRoute.groupCount).sum + b.route.groupCount + 1 ∧
      ∀ names : List String, names.length = b.route.groupCount →
        c'.values (c'.position r.groupCount) names = c.variables names := by
  have hexpr : r.expr = Expr.anchored
      (Branch.number 0 (before.map branch ++ b.branch :: after.map branch)) := by
    have hmap : (before ++ b :: after).map branch =
        before.map branch ++ b.branch :: after.map branch := by
      rw [List.map_append, List.map_cons]
    rw [← hmap]
    exact expr_of_compile_chunk (by simp) h
  have hpositive : 0 < b.branch.size := b.size ▸ b.positive
  rw [captures_route, Option.map_eq_some_iff] at hb
  obtain ⟨g, hg, rfl⟩ := hb
  have hnone : ∀ a ∈ before.map branch, a.expr.fullMatch? path.toList.toArray = none := by
    intro a ha
    obtain ⟨a, hmem, rfl⟩ := List.mem_map.mp ha
    exact record?_eq_none path (hbefore a hmem)
  have hrecord : (Branch.number 0 (before.map branch ++ b.branch :: after.map branch)).findSome?
      (Expr.fullMatch? path.toList.toArray) =
        some (g.shift (0 + ((before.map branch).map Branch.size).sum)) :=
    Branch.findSome_number_append _ hnone hg 0
  rw [Nat.zero_add, sum_sizes] at hrecord
  have hle := Branch.le_groupCount_number hpositive (before.map branch) (after.map branch)
  rw [← hexpr, sum_sizes, b.size] at hle
  have hnumbers : (wholeMatch path
      (g.shift ((before.map route).map VariableRoute.groupCount).sum)).groups.numbers =
        (List.range' (((before.map route).map VariableRoute.groupCount).sum + 1)
          b.route.groupCount).reverse := by
    exact numbers_shift _ _ (b.size ▸ Branch.numbers_fullMatch _ hg)
  have hposition := position_eq hnumbers b.positive hle
  refine ⟨wholeMatch path (g.shift ((before.map route).map VariableRoute.groupCount).sum),
    ?_, hposition, ?_⟩
  · rw [captures_anchored hexpr path, hrecord]
    rfl
  · intro names hnames
    rw [Regex.groupCount, hposition]
    exact values_shift hnames

end BranchRoute

/-! ## Cutting into chunks -/

theorem flatten_splitEvery {α : Type} {size : Nat} (hsize : 0 < size) :
    ∀ {fuel : Nat} {xs : List α},
    xs.length ≤ fuel → (splitEvery size fuel xs).flatten = xs
  | 0, [], _ => rfl
  | 0, _ :: _, h => absurd h (by simp)
  | _ + 1, [], _ => rfl
  | fuel + 1, x :: xs, h => by
    have hlength : ((x :: xs).drop size).length ≤ fuel := by
      rw [List.length_drop]
      omega
    rw [splitEvery, List.flatten_cons, flatten_splitEvery hsize hlength, List.take_append_drop]

theorem ne_nil_of_mem_splitEvery {α : Type} {size : Nat} (hsize : 0 < size) {piece : List α} :
    ∀ {fuel : Nat} {xs : List α}, piece ∈ splitEvery size fuel xs → piece ≠ []
  | fuel + 1, x :: xs, h => by
    rw [splitEvery, List.mem_cons] at h
    rcases h with rfl | h
    · cases size with
      | zero => exact absurd hsize (Nat.lt_irrefl 0)
      | succ size => exact List.cons_ne_nil _ _
    · exact ne_nil_of_mem_splitEvery hsize h

theorem chunkLayout_positive {count : Nat} (h : 0 < count) : 0 < (chunkLayout count).2 := by
  unfold chunkLayout
  rw [if_neg (by omega)]
  simp only
  generalize hparts : max 1 (roundHalfUp _ _) = parts
  have hone : 1 ≤ parts := hparts ▸ Nat.le_max_left _ _
  exact Nat.div_pos (by omega) hone

/-- The pieces are the routes, in order, and none is empty. -/
theorem pieces_eq (rs : VariableRoutes) :
    rs.pieces.flatten = rs.routes ∧ ∀ piece ∈ rs.pieces, piece ≠ [] := by
  unfold VariableRoutes.pieces
  cases hroutes : rs.routes with
  | nil => exact ⟨rfl, fun piece h => absurd h List.not_mem_nil⟩
  | cons r routes =>
    have hsize : 0 < (chunkLayout (r :: routes).length).2 := chunkLayout_positive (by simp)
    exact ⟨flatten_splitEvery hsize (Nat.le_refl _), fun piece => ne_nil_of_mem_splitEvery hsize⟩

/-! ## Answers of chunks -/

theorem compile_of_chunk {c : Chunk} {r : Regex} (h : c.compile = .ok r) :
    Regex.compile c.regex = .ok r := by
  unfold Chunk.compile at h
  split at h
  · exact absurd h (by simp)
  · rename_i regex hregex
    split at h
    · exact absurd h (by simp)
    · rw [hregex, Except.ok.inj h]

theorem compileChunks_cons {i : Nat} {c : Chunk} {cs : List Chunk} {rs : List Regex}
    (h : compileChunks i (c :: cs) = .ok rs) :
    ∃ r rs', c.compile = .ok r ∧ compileChunks (i + 1) cs = .ok rs' ∧ rs = r :: rs' := by
  unfold compileChunks at h
  split at h
  · exact absurd h (by simp)
  · rename_i r hr
    cases hcs : compileChunks (i + 1) cs with
    | error e => rw [hcs] at h; exact absurd h (by simp [bind, Except.bind])
    | ok rs' =>
      rw [hcs] at h
      exact ⟨r, rs', hr, rfl, (Except.ok.inj h).symm⟩

/-- The variables that a route reads off the path on its own. -/
def VariableRoute.variables (r : VariableRoute) (path : String) (names : List String) :
    List (String × String) :=
  (r.matcher.captures? path).elim [] fun c => c.variables names

/-- The answer of routes, of which the first that matches decides. -/
def findInRoutes (method path : String) (allowed : List String) (rs : List VariableRoute) :
    Answer :=
  match rs.find? fun r => r.isMatch path with
  | none => .ofAllowed allowed
  | some r =>
    match r.targets.get? method with
    | some target => .found ⟨target.handler, r.variables path target.names⟩
    | none => .ofAllowed (allowed ++ r.targets.keys)

/-- The expression of the route is a branch, and every target has a name for each of its groups. -/
def VariableRoute.Fits (r : VariableRoute) : Prop :=
  (∃ b : BranchRoute, b.route = r) ∧
    ∀ (m : String) (t : Target), r.targets.get? m = some t → t.names.length = r.groupCount

/-- The chunk of some routes compiles to `regex`, and what it answers its routes answer: the first
of them that matches, under its position. -/
theorem find_chunk {bs : List BranchRoute} {path : String} {regex : Regex} {r : VariableRoute}
    (hcompile : Regex.compile (Chunk.ofRoutes (bs.map BranchRoute.route)).regex = .ok regex)
    (hfind : (bs.map BranchRoute.route).find? (fun r => r.isMatch path) = some r) :
    ∃ c before after, regex.captures? path = some c ∧
      bs.map BranchRoute.route = before ++ r :: after ∧
      c.position regex.groupCount =
        (before.map VariableRoute.groupCount).sum + r.groupCount + 1 ∧
      ∀ names : List String, names.length = r.groupCount →
        c.values (c.position regex.groupCount) names = r.variables path names := by
  obtain ⟨hmatch, before, after, hsplit, hbefore⟩ := List.find?_eq_some_iff_append.mp hfind
  obtain ⟨bs₁, bs₂, rfl, rfl, hbs₂⟩ := List.map_eq_append_iff.mp hsplit
  obtain ⟨b, bs₃, rfl, rfl, rfl⟩ := List.map_eq_cons_iff.mp hbs₂
  obtain ⟨c, hc⟩ := Option.isSome_iff_exists.mp hmatch
  have hnone : ∀ a ∈ bs₁, a.route.isMatch path = false := fun a ha => by
    simpa using hbefore a.route (List.mem_map_of_mem ha)
  obtain ⟨c', hc', hposition, hvalues⟩ := BranchRoute.captures_chunk hcompile hnone hc
  refine ⟨c', _, _, hc', hsplit, hposition, fun names hnames => ?_⟩
  rw [hvalues names hnames, VariableRoute.variables, hc]
  rfl

/-- **The borders of chunks make no difference**: the chunks answer as the list of routes does. -/
theorem findInChunks_eq (method path : String) (allowed : List String) :
    ∀ {pieces : List (List VariableRoute)} {i : Nat} {regexes : List Regex},
      (∀ piece ∈ pieces, piece ≠ [] ∧ ∀ r ∈ piece, r.Fits) →
        compileChunks i (pieces.map Chunk.ofRoutes) = .ok regexes →
          findInChunks method path allowed ((pieces.map Chunk.ofRoutes).zip regexes) =
            findInRoutes method path allowed pieces.flatten
  | [], _, _, _, _ => rfl
  | piece :: pieces, i, regexes, hfits, h => by
    rw [List.forall_mem_cons] at hfits
    obtain ⟨⟨hne, hpiece⟩, hpieces⟩ := hfits
    rw [List.map_cons] at h ⊢
    obtain ⟨regex, regexes', hregex, hrest, rfl⟩ := compileChunks_cons h
    have ih := findInChunks_eq method path allowed hpieces hrest
    have hcompile := compile_of_chunk hregex
    obtain ⟨bs, rfl⟩ := exists_branchRoutes fun r hr => (hpiece r hr).1
    rw [List.zip_cons_cons, findInChunks, List.flatten_cons]
    unfold findInRoutes at ih ⊢
    rw [List.find?_append]
    cases hfind : (bs.map BranchRoute.route).find? fun r => r.isMatch path with
    | none =>
      have hnone : regex.captures? path = none := by
        refine BranchRoute.captures_chunk_eq_none (fun h => hne (by rw [h]; rfl)) hcompile ?_
        intro a ha
        simpa using List.find?_eq_none.mp hfind a.route (List.mem_map_of_mem ha)
      rw [hnone, Option.none_or]
      exact ih
    | some r =>
      obtain ⟨c, before, after, hc, hsplit, hposition, hvalues⟩ := find_chunk hcompile hfind
      have hmap : (Chunk.ofRoutes (bs.map BranchRoute.route)).routeMap.get?
          (c.position regex.groupCount) = some r.targets := by
        rw [get?_routeMap BranchRoute.groupCount_pos, hposition, hsplit,
          routeAt?_eq_some (hsplit ▸ BranchRoute.groupCount_pos)]
        rfl
      rw [hc, Option.some_or]
      simp only [hmap]
      cases htarget : r.targets.get? method with
      | none => rfl
      | some target =>
        have hr := List.mem_of_find?_eq_some hfind
        have hnames := (hpiece r hr).2 method target htarget
        have hle : target.names.length ≤ c.position regex.groupCount := by omega
        simp only
        rw [if_pos hle, hvalues target.names hnames]

end RouteTable
