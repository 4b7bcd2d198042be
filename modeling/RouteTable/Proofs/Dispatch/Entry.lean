import RouteTable.Proofs.Dispatch.Records

/-!
# Where an answer comes from

An answer is read off one entry of the table: the handler of the literal path, or a target of the
route that is filed where the first matching chunk leads. Every entry was made by one declaration.

* `hit?`: the route to which the first matching chunk leads.
* `AnsweredBy`: the declaration made the entry from which the request is answered.
* `exists_answeredBy`, `AnsweredBy.unique`: for what is found there is exactly one.
* `hit?_eq`: if the declarations keep their groups, the chunks lead to the first route that matches.
-/

namespace RouteTable

/-- The route to which the first chunk that matches leads. -/
def hit? (path : String) : List (List VariableRoute × Regex) → Option VariableRoute
  | [] => none
  | (routes, regex) :: rest =>
    match regex.captures? path with
    | none => hit? path rest
    | some c => routeAt? routes (c.position regex.groupCount)

/-- The declaration made the entry of `s` from which the request is answered. -/
inductive AnsweredBy (s : RouteSet) (disp : Dispatcher) (method path : String) (d : Declaration) :
    Prop
  | literal (h : d.isForPath path method = true)
  | expression {r : VariableRoute}
      (hnone : (disp.table.staticRoutes.get? path).bind (·.get? method) = none)
      (hhit : hit? path (s.variableRoutes.pieces.zip disp.regexes) = some r)
      (h : d.isForRegex r.regex method = true)

variable {method path : String}

/-! ## What is found -/

theorem map_fst_values (c : Captures) (position : Nat) (names : List String) :
    (c.values position names).map Prod.fst = names := by
  rw [Captures.values, List.map_map]
  exact List.zipIdx_map_fst 0 names

/-- What chunks find is a target of the route to which they lead. -/
theorem exists_hit {allowed : List String} {f : Found} : ∀ {pieces : List (List VariableRoute)}
    {regexes : List Regex}, (∀ piece ∈ pieces, ∀ r ∈ piece, 0 < r.groupCount) →
      findInChunks method path allowed ((pieces.map Chunk.ofRoutes).zip regexes) = .found f →
        ∃ piece ∈ pieces, ∃ r ∈ piece, ∃ t, hit? path (pieces.zip regexes) = some r ∧
          r.targets.get? method = some t ∧ f.handler = t.handler ∧ f.values.map Prod.fst = t.names
  | [], _, _, h => absurd h (ofAllowed_ne_found allowed f)
  | _ :: _, [], _, h => absurd h (ofAllowed_ne_found allowed f)
  | piece :: pieces, regex :: regexes, hpositive, h => by
    rw [List.forall_mem_cons] at hpositive
    rw [List.map_cons, List.zip_cons_cons, findInChunks] at h
    rw [List.zip_cons_cons, hit?]
    cases hc : regex.captures? path with
    | none =>
      rw [hc] at h
      obtain ⟨piece', hpiece, hrest⟩ := exists_hit hpositive.2 h
      exact ⟨piece', List.mem_cons_of_mem piece hpiece, hrest⟩
    | some c =>
      rw [hc] at h
      simp only [get?_routeMap hpositive.1] at h
      cases hr : routeAt? piece (c.position regex.groupCount) with
      | none =>
        rw [hr] at h
        exact absurd h (ofAllowed_ne_found allowed f)
      | some r =>
        rw [hr] at h
        simp only [Option.map_some] at h
        have hmem : r ∈ piece := by
          obtain ⟨before, after, hsplit, -⟩ := List.lookup_eq_some_iff.mp hr
          exact (List.of_mem_zip (hsplit ▸ List.mem_append_right before List.mem_cons_self)).2
        cases ht : r.targets.get? method with
        | none =>
          rw [ht] at h
          exact absurd h (ofAllowed_ne_found _ f)
        | some t =>
          rw [ht] at h
          simp only at h
          split at h
          · obtain rfl := Answer.found.inj h
            exact ⟨piece, List.mem_cons_self, r, hmem, t, hr, ht, rfl, map_fst_values _ _ _⟩
          · exact absurd h (ofAllowed_ne_found allowed f)

/-- What is found is read off a literal path or a target. -/
theorem found_cases {disp : Dispatcher} {f : Found} (h : disp.find method path = .found f) :
    (∃ handler, (disp.table.staticRoutes.get? path).bind (·.get? method) = some handler ∧
        f = ⟨handler, []⟩) ∨
      ((disp.table.staticRoutes.get? path).bind (·.get? method) = none ∧
        ∃ allowed, findInChunks method path allowed (disp.table.chunks.zip disp.regexes) =
          .found f) := by
  unfold Dispatcher.find at h
  simp only at h
  cases hget : disp.table.staticRoutes.get? path with
  | none =>
    rw [hget] at h
    exact Or.inr ⟨rfl, [], h⟩
  | some handlers =>
    rw [hget] at h
    simp only at h
    rw [Option.bind_some]
    cases hhandler : handlers.get? method with
    | some handler =>
      rw [hhandler] at h
      exact Or.inl ⟨handler, rfl, (Answer.found.inj h).symm⟩
    | none =>
      rw [hhandler] at h
      exact Or.inr ⟨rfl, handlers.keys, h⟩

/-! ## The declaration of an entry -/

section Declarations

variable {calls : List Declaration} {table : DispatchTable} {disp : Dispatcher}

/-- Everything that is found was made by a declaration that was taken in. -/
theorem exists_answeredBy (hbuild : (RouteSet.empty.declareEach calls).2.build = .ok table)
    (hload : Dispatcher.ofTable table = .ok disp) {f : Found}
    (hfound : disp.find method path = .found f) :
    ∃ d ∈ (RouteSet.empty.declareEach calls).1,
      AnsweredBy (RouteSet.empty.declareEach calls).2 disp method path d ∧
        f.handler = d.handler ∧ f.values.map Prod.fst = d.names := by
  have h := history_declareEach calls
  have hrecords := records_declareEach calls
  obtain ⟨-, rfl⟩ := build_eq_ok hbuild
  have htable := table_of_ofTable hload
  rcases found_cases hfound with ⟨handler, hstatic, rfl⟩ | ⟨hnone, allowed, hchunks⟩
  · rw [htable] at hstatic
    obtain ⟨d, hd, hfor, rfl⟩ := (hrecords.static path method handler).mp hstatic
    have hpath := hfor
    rw [Declaration.isForPath_iff] at hpath
    exact ⟨d, hd, .literal hfor, rfl, (Declaration.names_of_path hpath.1).symm⟩
  · rw [htable] at hchunks
    obtain ⟨piece, hpiece, r, hr, t, hhit, ht, hhandler, hnames⟩ :=
      exists_hit (fun piece hpiece r hr => (h.groupCount_pos piece hpiece r hr).2) hchunks
    rw [h.targets r (h.groupCount_pos piece hpiece r hr).1, Option.bind_eq_some_iff] at ht
    obtain ⟨d, hd, htarget⟩ := ht
    have hfor := List.find?_some hd
    rw [target?_eq_some hfor] at htarget
    obtain rfl := Option.some.inj htarget
    exact ⟨d, List.mem_of_find?_eq_some hd, .expression hnone hhit hfor, hhandler, hnames⟩

/-- No two declarations that were taken in made the entry. -/
theorem AnsweredBy.unique (hbuild : (RouteSet.empty.declareEach calls).2.build = .ok table)
    (hload : Dispatcher.ofTable table = .ok disp) {d d' : Declaration}
    (hd : d ∈ (RouteSet.empty.declareEach calls).1)
    (hd' : d' ∈ (RouteSet.empty.declareEach calls).1)
    (h : AnsweredBy (RouteSet.empty.declareEach calls).2 disp method path d)
    (h' : AnsweredBy (RouteSet.empty.declareEach calls).2 disp method path d') : d = d' := by
  have hrecords := records_declareEach calls
  have hsame : ∀ {p : Declaration → Bool},
      ((RouteSet.empty.declareEach calls).1.filter p).length ≤ 1 →
        p d = true → p d' = true → d = d' := by
    intro p honce hp hp'
    have hfind := (find?_eq_some_iff_mem honce).mpr ⟨hd, hp⟩
    rw [(find?_eq_some_iff_mem honce).mpr ⟨hd', hp'⟩] at hfind
    exact (Option.some.inj hfind).symm
  have hliteral : ∀ {e}, e ∈ (RouteSet.empty.declareEach calls).1 →
      e.isForPath path method = true →
        (disp.table.staticRoutes.get? path).bind (·.get? method) ≠ none := by
    intro e he hfor
    obtain ⟨-, rfl⟩ := build_eq_ok hbuild
    rw [table_of_ofTable hload, (hrecords.static path method e.handler).mpr ⟨e, he, hfor, rfl⟩]
    exact Option.some_ne_none _
  cases h with
  | literal h =>
    cases h' with
    | literal h' => exact hsame (hrecords.staticOnce path method) h h'
    | expression hnone => exact absurd hnone (hliteral hd h)
  | expression hnone hhit h =>
    cases h' with
    | literal h' => exact absurd hnone (hliteral hd' h')
    | expression _ hhit' h' =>
      rw [hhit] at hhit'
      obtain rfl := Option.some.inj hhit'
      exact hsame (hrecords.targetsOnce _ method) h h'

end Declarations

/-! ## Chunks of routes that fit -/

/-- Chunks of routes that fit lead to the first route that matches. -/
theorem hit?_eq : ∀ {pieces : List (List VariableRoute)} {i : Nat} {regexes : List Regex},
    (∀ piece ∈ pieces, piece ≠ [] ∧ ∀ r ∈ piece, r.Fits) →
      compileChunks i (pieces.map Chunk.ofRoutes) = .ok regexes →
        hit? path (pieces.zip regexes) = pieces.flatten.find? fun r => r.isMatch path
  | [], _, _, _, _ => rfl
  | piece :: pieces, i, regexes, hfits, h => by
    rw [List.forall_mem_cons] at hfits
    obtain ⟨⟨hne, hpiece⟩, hpieces⟩ := hfits
    rw [List.map_cons] at h
    obtain ⟨regex, regexes', hregex, hrest, rfl⟩ := compileChunks_cons h
    have ih := hit?_eq hpieces hrest
    have hcompile := compile_of_chunk hregex
    obtain ⟨bs, rfl⟩ := exists_branchRoutes fun r hr => (hpiece r hr).1
    rw [List.zip_cons_cons, hit?, List.flatten_cons, List.find?_append]
    cases hfind : (bs.map BranchRoute.route).find? fun r => r.isMatch path with
    | none =>
      have hnone : regex.captures? path = none := by
        refine BranchRoute.captures_chunk_eq_none (fun h => hne (by rw [h]; rfl)) hcompile ?_
        intro a ha
        simpa using List.find?_eq_none.mp hfind a.route (List.mem_map_of_mem ha)
      rw [hnone, Option.none_or]
      exact ih
    | some r =>
      obtain ⟨c, before, after, hc, hsplit, hposition, -⟩ := find_chunk hcompile hfind
      rw [hc, Option.some_or]
      simp only
      rw [hposition, hsplit]
      exact routeAt?_eq_some (hsplit ▸ BranchRoute.groupCount_pos)

/-- If the declarations keep their groups, the chunks lead to the first expression that matches. -/
theorem History.hit_eq {ds : List Declaration} {s : RouteSet} (h : History ds s)
    (hkeep : ∀ d ∈ ds, d.keepsGroups = true) {table : DispatchTable} {disp : Dispatcher}
    (hbuild : s.build = .ok table) (hload : Dispatcher.ofTable table = .ok disp) (path : String) :
    (hit? path (s.variableRoutes.pieces.zip disp.regexes)).map VariableRoute.regex =
      firstMatch? ds path := by
  obtain ⟨-, rfl⟩ := build_eq_ok hbuild
  have hcompiled := disp.compiled
  rw [table_of_ofTable hload] at hcompiled
  rw [hit?_eq (h.fits_pieces hkeep) hcompiled, (pieces_eq s.variableRoutes).1,
    h.find?_isMatch path]

end RouteTable
