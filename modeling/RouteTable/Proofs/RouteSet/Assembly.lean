import RouteTable.Proofs.RouteSet.Layout

/-!
# What the chunks hold

The routes are cut into parts of the size that the layout asks for, and each part becomes a chunk.
Route maps are keyed by sums of group numbers. Since every route has a group, no two routes of a
part have one key, so no entry takes the place of another.

* `CutInto size xs parts`: the parts are `xs`, in order, and all but the last have `size` members.
* `Chunk.Holds part chunk`: the chunk has the expression and the targets of the routes of a part.
* `cutInto_splitEvery`, `holds_ofRoutes`: so it is for the pieces and the chunk of each.
* `checkChunks_eq_error_iff`: the check of chunks stops at the first that does not compile.
* `routes_assembled`: what a set of routes is assembled into, or why it is not.
-/

namespace RouteTable

/-! ## Cutting -/

/-- The parts of a list, of which all but the last have `size` members. -/
structure CutInto {α : Type} (size : Nat) (xs : List α) (parts : List (List α)) : Prop where
  /-- Nothing is lost, taken twice or moved. -/
  flatten : parts.flatten = xs
  full : ∀ part ∈ parts.dropLast, part.length = size
  last : ∀ part ∈ parts.getLast?, 1 ≤ part.length ∧ part.length ≤ size

theorem cutInto_splitEvery {α : Type} {size fuel : Nat} {xs : List α} (hsize : 0 < size)
    (hfuel : xs.length ≤ fuel) : CutInto size xs (splitEvery size fuel xs) := by
  by_cases hnil : xs = []
  · subst hnil
    have hsplit : splitEvery size fuel ([] : List α) = [] := by cases fuel <;> rfl
    rw [hsplit]
    exact ⟨rfl, by simp, by simp⟩
  · have hsizes := map_length_splitEvery hsize hnil hfuel
    rw [pieceSizes] at hsizes
    have hpos := List.length_pos_iff.mpr hnil
    refine ⟨flatten_splitEvery hsize hfuel, fun part hpart => ?_, fun part hpart => ?_⟩
    · have hmem := List.mem_map_of_mem (f := List.length) hpart
      rw [List.map_dropLast, hsizes, List.dropLast_concat] at hmem
      exact List.eq_of_mem_replicate hmem
    · have hlast : (((splitEvery size fuel xs).map List.length).getLast?) = some part.length := by
        rw [List.getLast?_map, Option.mem_def.mp hpart, Option.map_some]
      rw [hsizes, List.getLast?_concat, Option.some.injEq] at hlast
      have hdiv := Nat.div_add_mod (xs.length - 1) size
      have hmod := Nat.mod_lt (xs.length - 1) hsize
      rw [Nat.mul_comm] at hdiv
      omega

/-! ## One chunk -/

/-- The expression that matches a whole text if one of the routes does. -/
def alternation (routes : List VariableRoute) : String :=
  "^(?:" ++ "|".intercalate (routes.map VariableRoute.regex) ++ ")$"

/-- The chunk holds the routes and nothing else. -/
structure Chunk.Holds (routes : List VariableRoute) (c : Chunk) : Prop where
  regex : c.regex = alternation routes
  /-- By ascending position, the targets are those of the routes in order. -/
  values : c.routeMap.values = routes.map VariableRoute.targets
  /-- The first position is one more than the number of groups of the first route. -/
  first : c.routeMap.keys.head? = routes.head?.map fun r => r.groupCount + 1
  /-- Every other position is that before it plus the number of groups of its route. -/
  next : ∀ (i n : Nat) (r : VariableRoute), c.routeMap.keys[i]? = some n →
    routes[i + 1]? = some r → c.routeMap.keys[i + 1]? = some (n + r.groupCount)

theorem head?_positions (k : Nat) (rs : List VariableRoute) :
    (positions k rs).head? = rs.head?.map fun r => k + r.groupCount + 1 := by
  cases rs <;> rfl

theorem getElem?_positions_succ {n : Nat} {r : VariableRoute} {rs : List VariableRoute} :
    ∀ {k i : Nat}, (positions k rs)[i]? = some n → rs[i + 1]? = some r →
      (positions k rs)[i + 1]? = some (n + r.groupCount) := by
  induction rs with
  | nil =>
    intro k i hn
    exact absurd hn (by simp [positions])
  | cons a rs ih =>
    intro k i hn hr
    rw [List.getElem?_cons_succ] at hr
    rw [positions, List.getElem?_cons_succ]
    cases i with
    | zero =>
      rw [positions, List.getElem?_cons_zero, Option.some.injEq] at hn
      rw [← List.head?_eq_getElem?] at hr ⊢
      rw [head?_positions, hr, Option.map_some, ← hn]
      congr 1
      omega
    | succ i =>
      rw [positions, List.getElem?_cons_succ] at hn
      exact ih hn hr

theorem keys_routeMap {rs : List VariableRoute} (h : ∀ r ∈ rs, 0 < r.groupCount) :
    (Chunk.ofRoutes rs).routeMap.keys = positions 0 rs := by
  rw [SortedMap.keys, entries_routeMap h]
  refine List.map_fst_zip (Nat.le_of_eq ?_)
  rw [length_positions, List.length_map]

/-- The chunk of routes that have groups holds them. -/
theorem holds_ofRoutes {rs : List VariableRoute} (h : ∀ r ∈ rs, 0 < r.groupCount) :
    (Chunk.ofRoutes rs).Holds rs where
  regex := rfl
  values := values_routeMap h
  first := by
    rw [keys_routeMap h, head?_positions]
    simp only [Nat.zero_add]
  next i n r hn hr := by
    rw [keys_routeMap h] at hn ⊢
    exact getElem?_positions_succ hn hr

/-! ## The check of chunks -/

/-- The first expression that does not compile has the number `number` and fails for `cause`. -/
structure FirstFault (regexes : List String) (number : Nat) (cause : RegexError) : Prop where
  fails : regexes[number]?.map Regex.compile = some (.error cause)
  before : ∀ regex ∈ regexes.take number, ∃ compiled, Regex.compile regex = .ok compiled

theorem firstFault_cons_zero {regex : String} {regexes : List String} {cause : RegexError} :
    FirstFault (regex :: regexes) 0 cause ↔ Regex.compile regex = .error cause := by
  constructor
  · intro h
    exact Option.some.inj h.fails
  · intro h
    exact ⟨congrArg some h, by simp⟩

theorem firstFault_cons_succ {regex : String} {regexes : List String} {number : Nat}
    {cause : RegexError} :
    FirstFault (regex :: regexes) (number + 1) cause ↔
      (∃ compiled, Regex.compile regex = .ok compiled) ∧ FirstFault regexes number cause := by
  constructor
  · intro h
    have hbefore := h.before
    rw [List.take_succ_cons, List.forall_mem_cons] at hbefore
    exact ⟨hbefore.1, h.fails, hbefore.2⟩
  · rintro ⟨hregex, h⟩
    refine ⟨h.fails, ?_⟩
    rw [List.take_succ_cons, List.forall_mem_cons]
    exact ⟨hregex, h.before⟩

/-- The check stops at the first chunk that does not compile, and names it by its number. -/
theorem checkChunks_eq_error_iff {chunks : List Chunk} {e : RouteError} : ∀ {i : Nat},
    checkChunks i chunks = .error e ↔ ∃ number cause,
      FirstFault (chunks.map Chunk.regex) number cause ∧
        e = .invalidPattern s!"chunk {i + number}" (.expression cause) := by
  induction chunks with
  | nil =>
    intro i
    refine ⟨fun h => absurd h (by simp [checkChunks]), ?_⟩
    rintro ⟨number, cause, h, -⟩
    exact absurd h.fails (by simp)
  | cons c chunks ih =>
    intro i
    rw [checkChunks, List.map_cons]
    cases hcompile : Regex.compile c.regex with
    | error cause =>
      constructor
      · intro h
        exact ⟨0, cause, firstFault_cons_zero.mpr hcompile, (Except.error.inj h).symm⟩
      · rintro ⟨number, cause', h, rfl⟩
        cases number with
        | zero =>
          rw [firstFault_cons_zero, hcompile, Except.error.injEq] at h
          rw [h]
          rfl
        | succ number =>
          obtain ⟨compiled, hcompiled⟩ := (firstFault_cons_succ.mp h).1
          exact absurd (hcompile.symm.trans hcompiled) (by simp)
    | ok compiled =>
      simp only
      rw [ih]
      constructor
      · rintro ⟨number, cause, h, rfl⟩
        refine ⟨number + 1, cause, firstFault_cons_succ.mpr ⟨⟨compiled, hcompile⟩, h⟩, ?_⟩
        rw [Nat.add_right_comm, Nat.add_assoc]
      · rintro ⟨number, cause, h, rfl⟩
        cases number with
        | zero =>
          rw [firstFault_cons_zero, hcompile] at h
          exact absurd h (by simp)
        | succ number =>
          refine ⟨number, cause, (firstFault_cons_succ.mp h).2, ?_⟩
          rw [Nat.add_right_comm, Nat.add_assoc]

/-- The check passes exactly if all chunks compile. -/
theorem checkChunks_eq_ok_iff {chunks : List Chunk} : ∀ {i : Nat},
    checkChunks i chunks = .ok () ↔
      ∀ c ∈ chunks, ∃ compiled, Regex.compile c.regex = .ok compiled := by
  induction chunks with
  | nil =>
    intro i
    simp [checkChunks]
  | cons c chunks ih =>
    intro i
    rw [checkChunks, List.forall_mem_cons]
    cases hcompile : Regex.compile c.regex with
    | error cause => simp
    | ok compiled =>
      simp only
      rw [ih]
      exact ⟨fun h => ⟨⟨compiled, rfl⟩, h⟩, fun h => h.2⟩

/-! ## All chunks -/

/-- A set is built if its chunks pass the check, and otherwise fails as the check does. -/
theorem build_eq (s : RouteSet) :
    s.build = (checkChunks 0 (s.variableRoutes.pieces.map Chunk.ofRoutes)).map fun _ =>
      ⟨s.staticRoutes, s.variableRoutes.pieces.map Chunk.ofRoutes, s.named⟩ := by
  unfold RouteSet.build
  simp only
  cases checkChunks 0 (s.variableRoutes.pieces.map Chunk.ofRoutes) <;> rfl

theorem exists_build_eq_ok_iff (s : RouteSet) :
    (∃ table, s.build = .ok table) ↔ ∀ piece ∈ s.variableRoutes.pieces,
      ∃ compiled, Regex.compile (alternation piece) = .ok compiled := by
  have hmap : (∀ piece ∈ s.variableRoutes.pieces,
      ∃ compiled, Regex.compile (alternation piece) = .ok compiled) ↔
        checkChunks 0 (s.variableRoutes.pieces.map Chunk.ofRoutes) = .ok () := by
    rw [checkChunks_eq_ok_iff, List.forall_mem_map]
    rfl
  rw [hmap, build_eq]
  cases checkChunks 0 (s.variableRoutes.pieces.map Chunk.ofRoutes) <;> simp [Except.map]

theorem build_eq_error_iff (s : RouteSet) (e : RouteError) :
    s.build = .error e ↔ ∃ number cause,
      FirstFault (s.variableRoutes.pieces.map alternation) number cause ∧
        e = .invalidPattern s!"chunk {number}" (.expression cause) := by
  have hmap : (s.variableRoutes.pieces.map Chunk.ofRoutes).map Chunk.regex =
      s.variableRoutes.pieces.map alternation := List.map_map
  have hcheck : checkChunks 0 (s.variableRoutes.pieces.map Chunk.ofRoutes) = .error e ↔ _ :=
    checkChunks_eq_error_iff
  rw [hmap] at hcheck
  simp only [Nat.zero_add] at hcheck
  rw [← hcheck, build_eq]
  cases checkChunks 0 (s.variableRoutes.pieces.map Chunk.ofRoutes) <;> simp [Except.map]

theorem cutInto_pieces (rs : VariableRoutes) :
    CutInto (chunkLayout rs.routes.length).2 rs.routes rs.pieces := by
  by_cases hnil : rs.routes = []
  · rw [VariableRoutes.pieces, hnil]
    exact ⟨rfl, by simp [splitEvery], by simp [splitEvery]⟩
  · exact cutInto_splitEvery (chunkLayout_positive (List.length_pos_iff.mpr hnil)) (Nat.le_refl _)

/-- **Assembling loses, doubles and moves nothing.** The expressions that declarations lead to, in
the order in which they were first declared, are cut into parts of the size that the layout asks
for. If all parts compile, there is a table with one chunk for each, which holds the routes of the
part, and all together have the targets of all routes in order. Otherwise there is no table, and the
error names the first part that does not compile. -/
theorem routes_assembled {calls ds : List Declaration} {s : RouteSet}
    (h : RouteSet.empty.declareEach calls = (ds, s)) :
    s.variableRoutes.routes.map VariableRoute.regex =
        (ds.filterMap Declaration.regex?).eraseDups ∧
      (∀ r ∈ s.variableRoutes.routes, 0 < r.groupCount) ∧
      ∃ parts,
        CutInto (chunkLayout s.variableRoutes.routes.length).2 s.variableRoutes.routes parts ∧
        ((∃ table, s.build = .ok table) ↔
          ∀ part ∈ parts, ∃ compiled, Regex.compile (alternation part) = .ok compiled) ∧
        (∀ table, s.build = .ok table →
          List.Forall₂ Chunk.Holds parts table.chunks ∧
            table.chunks.flatMap (fun c => c.routeMap.values) =
              s.variableRoutes.routes.map VariableRoute.targets) ∧
        ∀ e, s.build = .error e ↔ ∃ number cause,
          FirstFault (parts.map alternation) number cause ∧
            e = .invalidPattern s!"chunk {number}" (.expression cause) := by
  have hhistory := history_declareEach calls
  have hregexes := regexes_declareEach calls
  rw [h] at hhistory hregexes
  have hgroups := hhistory.groupCount_pos
  refine ⟨hregexes, fun r hr => ?_, s.variableRoutes.pieces, cutInto_pieces s.variableRoutes,
    exists_build_eq_ok_iff s, fun table hbuild => ?_, build_eq_error_iff s⟩
  · rw [← (pieces_eq s.variableRoutes).1] at hr
    obtain ⟨piece, hpiece, hr⟩ := List.mem_flatten.mp hr
    exact (hgroups piece hpiece r hr).2
  · obtain ⟨-, rfl⟩ := build_eq_ok hbuild
    refine ⟨?_, hhistory.values_chunks⟩
    rw [List.forall₂_map_right_iff, List.forall₂_same]
    intro piece hpiece
    exact holds_ofRoutes fun r hr => (hgroups piece hpiece r hr).2

/-- Fifteen expressions, with one placeholder and with two by turns. -/
def fifteen : List Declaration :=
  (List.range 15).map fun n =>
    ⟨.ofList (Method.ofString? "GET").toList,
      s!"\x7bid:{n}\x7d" ++ if n % 2 = 0 then "" else "\x7bpart:-\x7d",
      ⟨"Pages", toString n⟩, none⟩

/-- Two expressions that are too large for one chunk. -/
def bulky : List Declaration :=
  ["a", "b"].map fun letter =>
    ⟨.ofList (Method.ofString? "GET").toList, s!"\x7bid:{letter}\x7b300000\x7d\x7d",
      ⟨"Pages", letter⟩, none⟩

theorem assembled_fifteen :
    (∃ ds s table parts, RouteSet.empty.declareEach fifteen = (ds, s) ∧ s.build = .ok table ∧
      parts.flatten = s.variableRoutes.routes ∧ List.Forall₂ Chunk.Holds parts table.chunks ∧
      table.chunks.map (fun c => c.routeMap.keys) =
        [[2, 4, 5, 7, 8, 10, 11, 13], [2, 4, 5, 7, 8, 10, 11]]) ∧
      ∃ ds s parts, RouteSet.empty.declareEach bulky = (ds, s) ∧
        parts.flatten = s.variableRoutes.routes ∧
        s.build = .error (.invalidPattern "chunk 0" (.expression .tooLarge)) ∧
        ∃ number, FirstFault (List.map alternation parts) number .tooLarge := by
  constructor
  · have hkeys : (RouteSet.empty.declareEach fifteen).2.build.toOption.map (fun table =>
        table.chunks.map fun c => c.routeMap.keys) =
          some [[2, 4, 5, 7, 8, 10, 11, 13], [2, 4, 5, 7, 8, 10, 11]] := by decide +kernel
    obtain ⟨ds, s, h⟩ : ∃ ds s, RouteSet.empty.declareEach fifteen = (ds, s) := ⟨_, _, rfl⟩
    obtain ⟨-, -, parts, hparts, -, htable, -⟩ := routes_assembled h
    rw [h] at hkeys
    cases hbuild : s.build with
    | error e =>
      rw [hbuild] at hkeys
      exact absurd hkeys (by simp [Except.toOption])
    | ok table =>
      rw [hbuild] at hkeys
      exact ⟨ds, s, table, parts, h, hbuild, hparts.flatten, (htable table hbuild).1,
        Option.some.inj hkeys⟩
  · have hfails : (RouteSet.empty.declareEach bulky).2.build.map (fun _ => ()) =
        .error (.invalidPattern "chunk 0" (.expression .tooLarge)) := by decide +kernel
    obtain ⟨ds, s, h⟩ : ∃ ds s, RouteSet.empty.declareEach bulky = (ds, s) := ⟨_, _, rfl⟩
    obtain ⟨-, -, parts, hparts, -, -, herror⟩ := routes_assembled h
    rw [h] at hfails
    cases hbuild : s.build with
    | ok table =>
      rw [hbuild] at hfails
      exact absurd hfails (by simp [Except.map])
    | error e =>
      rw [hbuild] at hfails
      obtain ⟨number, cause, hfault, he⟩ := (herror e).mp hbuild
      rw [Except.error.inj hfails] at hbuild he
      have hcause := (RouteError.invalidPattern.inj he).2
      rw [← PatternFault.expression.inj hcause] at hfault
      exact ⟨ds, s, parts, h, hparts.flatten, hbuild, number, hfault⟩

end RouteTable
