import Mathlib.Data.List.Forall2
import RouteTable.Proofs.Dispatch.Reference

/-!
# Tables that load

The positions of a chunk are computed from the numbers of placeholders, and a table is refused if a
position lies outside the groups of the expression. The two agree: a position is one more than the
number of the last group inside its alternative.

* `FiledByLastGroup`: every route of a chunk is filed under one more than its last group.
* `filed_chunk`: the chunk of routes that fit has this property and no fault.
* `loads_of_build`: the table that declarations lead to loads, and its chunks have this property.
-/

namespace RouteTable

open Regex

/-- What a route becomes in a chunk: its own expression, with greater group numbers. -/
def IsAlternative (r : VariableRoute) (e : Expr) : Prop :=
  ∃ own k, r.matcher.expr = Expr.anchored [own] ∧ e = own.renumber (· + k)

/-- The expression has one alternative for each route, and the route map lists the targets of each
under one more than the number of the last group inside the alternative. -/
def FiledByLastGroup (routes : List VariableRoute) (chunk : Chunk) (regex : Regex) : Prop :=
  ∃ es : List Expr, regex.expr = Expr.anchored es ∧ List.Forall₂ IsAlternative routes es ∧
    chunk.routeMap.entries.map (fun entry => (some entry.1, entry.2)) =
      List.zipWith (fun r e => (e.groups.getLast?.map (· + 1), r.targets)) routes es

/-! ## One chunk -/

namespace BranchRoute

theorem getLast?_groups (b : BranchRoute) (k : Nat) :
    (b.branch.exprAt k).groups.getLast? = some (k + b.route.groupCount) := by
  have hpositive := b.positive
  rw [b.branch.exprAt_eq_ofRow, groups_ofRow, (b.branch.isRow_itemsAt k).groups, b.size,
    List.getLast?_range', if_neg (by omega)]
  congr 1
  omega

theorem forall₂_number : ∀ (k : Nat) (bs : List BranchRoute),
    List.Forall₂ IsAlternative (bs.map route) (Branch.number k (bs.map branch))
  | _, [] => .nil
  | k, b :: bs => .cons ⟨b.branch.expr, k, b.expr, rfl⟩ (forall₂_number (k + b.branch.size) bs)

/-- The positions of routes are one more than the last groups of their alternatives. -/
theorem zip_positions : ∀ (k : Nat) (bs : List BranchRoute),
    ((positions k (bs.map route)).zip ((bs.map route).map VariableRoute.targets)).map
        (fun entry => (some entry.1, entry.2)) =
      List.zipWith (fun r e => (e.groups.getLast?.map (· + 1), r.targets)) (bs.map route)
        (Branch.number k (bs.map branch))
  | _, [] => rfl
  | k, b :: bs => by
    have ih := zip_positions (k + b.route.groupCount) bs
    rw [List.map_cons, List.map_cons, List.map_cons, positions, Branch.number, List.zip_cons_cons,
      List.map_cons, List.zipWith_cons_cons, b.getLast?_groups, b.size, ih]
    rfl

/-- An entry of a route map is that of a route, under one more than the number of groups so far. -/
theorem exists_of_mem_zip {n : Nat} {targets : SortedMap String Target} :
    ∀ {k : Nat} {bs : List BranchRoute},
      (n, targets) ∈ (positions k (bs.map route)).zip ((bs.map route).map VariableRoute.targets) →
        ∃ before b after, bs = before ++ b :: after ∧ targets = b.route.targets ∧
          n = k + ((before.map branch).map Branch.size).sum + b.branch.size + 1
  | k, b :: bs, h => by
    rw [List.map_cons, List.map_cons, positions, List.zip_cons_cons, List.mem_cons] at h
    rcases h with h | h
    · obtain ⟨rfl, rfl⟩ := Prod.mk.inj h
      exact ⟨[], b, bs, rfl, rfl, by rw [b.size]; rfl⟩
    · obtain ⟨before, b', after, rfl, htargets, hn⟩ := exists_of_mem_zip h
      refine ⟨b :: before, b', after, rfl, htargets, ?_⟩
      rw [hn, List.map_cons, List.map_cons, List.sum_cons, b.size]
      omega

/-- No position of the chunk lies outside the groups, or has as many variables. -/
theorem positionFault_eq_none {bs : List BranchRoute} {regex : Regex} (hne : bs ≠ [])
    (hfits : ∀ r ∈ bs.map route, r.Fits)
    (h : Regex.compile (Chunk.ofRoutes (bs.map route)).regex = .ok regex) :
    ((Chunk.ofRoutes (bs.map route)).routeMap.entries.findSome? fun e =>
      positionFault? regex.groupCount e.1 e.2) = none := by
  rw [List.findSome?_eq_none_iff, entries_routeMap groupCount_pos]
  rintro ⟨n, targets⟩ hentry
  obtain ⟨before, b, after, rfl, rfl, hn⟩ := exists_of_mem_zip hentry
  have hpositive : 0 < b.branch.size := b.size ▸ b.positive
  have hle := Branch.le_groupCount_number hpositive (before.map branch) (after.map branch)
  rw [← List.map_cons, ← List.map_append, ← expr_of_compile_chunk hne h] at hle
  have hgroups : ¬ (n < 2 ∨ regex.groupCount + 1 < n) := by
    rw [Regex.groupCount]
    omega
  have hnames : ∀ e ∈ b.route.targets.entries, ¬ n ≤ e.2.names.length := by
    intro e he
    have hlength := (hfits b.route (List.mem_map_of_mem (by simp))).2 e.1 e.2
      (SortedMap.get?_of_mem he)
    rw [hlength, ← b.size]
    omega
  rw [positionFault?, if_neg hgroups, tooManyVariables?, Option.map_eq_none_iff,
    List.find?_eq_none]
  simpa using hnames

end BranchRoute

/-- The chunk of routes that fit has no fault, and files them by their last groups. -/
theorem filed_chunk {routes : List VariableRoute} {regex : Regex} (hne : routes ≠ [])
    (hfits : ∀ r ∈ routes, r.Fits)
    (h : Regex.compile (Chunk.ofRoutes routes).regex = .ok regex) :
    (Chunk.ofRoutes routes).compile = .ok regex ∧
      FiledByLastGroup routes (Chunk.ofRoutes routes) regex := by
  obtain ⟨bs, rfl⟩ := exists_branchRoutes fun r hr => (hfits r hr).1
  have hbs : bs ≠ [] := fun hnil => hne (by rw [hnil]; rfl)
  constructor
  · unfold Chunk.compile
    rw [h]
    simp only [BranchRoute.positionFault_eq_none hbs hfits h]
    rfl
  · refine ⟨_, BranchRoute.expr_of_compile_chunk hbs h, BranchRoute.forall₂_number 0 bs, ?_⟩
    rw [entries_routeMap BranchRoute.groupCount_pos]
    exact BranchRoute.zip_positions 0 bs

/-! ## All chunks -/

/-- If the chunks of routes that fit compile, they can be answered from. -/
theorem exists_compileChunks : ∀ {pieces : List (List VariableRoute)} {i : Nat} (j : Nat),
    (∀ piece ∈ pieces, piece ≠ [] ∧ ∀ r ∈ piece, r.Fits) →
      checkChunks i (pieces.map Chunk.ofRoutes) = .ok () →
        ∃ regexes, compileChunks j (pieces.map Chunk.ofRoutes) = .ok regexes ∧
          List.Forall₂ (fun piece regex => FiledByLastGroup piece (Chunk.ofRoutes piece) regex)
            pieces regexes
  | [], _, _, _, _ => ⟨[], rfl, .nil⟩
  | piece :: pieces, i, j, hfits, hcheck => by
    rw [List.forall_mem_cons] at hfits
    rw [List.map_cons, checkChunks] at hcheck
    split at hcheck
    · exact absurd hcheck (by simp)
    · rename_i regex hregex
      obtain ⟨hcompile, hfiled⟩ := filed_chunk hfits.1.1 hfits.1.2 hregex
      obtain ⟨regexes, hregexes, hall⟩ := exists_compileChunks (j + 1) hfits.2 hcheck
      refine ⟨regex :: regexes, ?_, .cons hfiled hall⟩
      rw [List.map_cons, compileChunks, hcompile]
      simp only [hregexes]
      rfl

theorem exists_of_compileChunks {table : DispatchTable} {regexes : List Regex}
    (h : compileChunks 0 table.chunks = .ok regexes) :
    ∃ disp, Dispatcher.ofTable table = .ok disp ∧ disp.regexes = regexes := by
  unfold Dispatcher.ofTable
  split
  · rename_i regexes' h'
    exact ⟨_, rfl, Except.ok.inj (h'.symm.trans h)⟩
  · rename_i e he
    exact absurd (he.symm.trans h) (by simp)

/-- The table of a set of routes loads, and every chunk files its routes by their last groups. -/
theorem History.exists_dispatcher {ds : List Declaration} {s : RouteSet} (h : History ds s)
    (hkeep : ∀ d ∈ ds, d.keepsGroups = true) {table : DispatchTable}
    (hbuild : s.build = .ok table) :
    ∃ disp, Dispatcher.ofTable table = .ok disp ∧
      table.chunks = s.variableRoutes.pieces.map Chunk.ofRoutes ∧
      List.Forall₂ (fun piece regex => FiledByLastGroup piece (Chunk.ofRoutes piece) regex)
        s.variableRoutes.pieces disp.regexes := by
  obtain ⟨hcheck, rfl⟩ := build_eq_ok hbuild
  obtain ⟨regexes, hregexes, hall⟩ := exists_compileChunks 0 (h.fits_pieces hkeep) hcheck
  obtain ⟨disp, hload, rfl⟩ := @exists_of_compileChunks ⟨_, _, _⟩ regexes hregexes
  exact ⟨disp, hload, rfl, hall⟩

/-- **The table that declarations lead to loads**, and in every chunk the position of an alternative
is one more than the number of the last group inside it. -/
theorem loads_of_build {calls : List Declaration}
    (hkeep : ∀ d ∈ (RouteSet.empty.declareEach calls).1, d.keepsGroups = true)
    {table : DispatchTable} (hbuild : (RouteSet.empty.declareEach calls).2.build = .ok table) :
    ∃ disp, Dispatcher.ofTable table = .ok disp ∧
      disp.regexes.length = table.chunks.length ∧
      ∀ (i : Nat) (chunk : Chunk) (regex : Regex), table.chunks[i]? = some chunk →
        disp.regexes[i]? = some regex →
          ∃ routes, (RouteSet.empty.declareEach calls).2.variableRoutes.pieces[i]? = some routes ∧
            FiledByLastGroup routes chunk regex := by
  obtain ⟨disp, hload, hchunks, hall⟩ := (history_declareEach calls).exists_dispatcher hkeep hbuild
  rw [hchunks]
  refine ⟨disp, hload, ?_, ?_⟩
  · rw [List.length_map, hall.length_eq]
  · intro i chunk regex hchunk hregex
    rw [List.getElem?_map, Option.map_eq_some_iff] at hchunk
    obtain ⟨routes, hroutes, rfl⟩ := hchunk
    refine ⟨routes, hroutes, ?_⟩
    obtain ⟨hi, rfl⟩ := List.getElem?_eq_some_iff.mp hroutes
    obtain ⟨hi', rfl⟩ := List.getElem?_eq_some_iff.mp hregex
    exact hall.get hi hi'

theorem loads_overlapping : ∃ table disp regex,
    (RouteSet.empty.declareEach overlapping).2.build = .ok table ∧
      Dispatcher.ofTable table = .ok disp ∧ disp.regexes = [regex] ∧
      table.chunks.map (fun chunk => chunk.routeMap.keys) = [[2, 4]] ∧
      ∀ chunk ∈ table.chunks, ∃ routes, FiledByLastGroup routes chunk regex := by
  obtain ⟨table, -, hbuild, -⟩ := exists_of_serves serves_overlapping
  have hkeys : ((RouteSet.empty.declareEach overlapping).2.build.toOption.map fun table =>
      table.chunks.map fun chunk => chunk.routeMap.keys) = some [[2, 4]] := by decide +kernel
  rw [hbuild] at hkeys
  have hkeys : table.chunks.map (fun chunk => chunk.routeMap.keys) = [[2, 4]] :=
    Option.some.inj hkeys
  obtain ⟨disp, hload, hlength, hfiled⟩ := loads_of_build keepsGroups_overlapping hbuild
  obtain ⟨chunk, hchunk⟩ :=
    List.length_eq_one_iff.mp (List.length_map _ ▸ congrArg List.length hkeys)
  rw [hchunk] at hlength hfiled
  obtain ⟨regex, hregex⟩ := List.length_eq_one_iff.mp hlength
  rw [hregex] at hfiled
  obtain ⟨routes, -, hrow⟩ := hfiled 0 chunk regex rfl rfl
  refine ⟨table, disp, regex, hbuild, hload, hregex, hkeys, ?_⟩
  rw [hchunk, List.forall_mem_singleton]
  exact ⟨routes, hrow⟩

end RouteTable
