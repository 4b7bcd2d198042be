import RouteTable.Proofs.RouteSet.Chunks

/-!
# The methods of a path

Which methods a path has is read off the table before any method is asked for: those with a handler
for the literal path, and those with a target where the first chunk that matches leads. A request is
found exactly for these, and is told of exactly these if it asks for another one.

This holds of every table that is answered from, whatever declarations it comes from or none. What
the table has been checked for is needed in one place: a target with more names than its position
would let a method down that the path has.

* `Dispatcher.methodsOf`: the methods of a path.
* `position_bounds`, `names_lt_position`: in a table that is answered from every position is behind
  a group, and there are fewer names.
* `exists_found_iff`, `find_of_not_mem`: the answer for a method that the path has, and for another.
* `allowed_iff_found`: the answers for all methods of one path fit together.
-/

namespace RouteTable

/-! ## What a table is checked for -/

/-- The expressions of a dispatcher are those of its chunks. -/
theorem compile_of_mem_zip {c : Chunk} {r : Regex} : ∀ {i : Nat} {cs : List Chunk}
    {rs : List Regex}, compileChunks i cs = .ok rs → (c, r) ∈ cs.zip rs → c.compile = .ok r
  | _, [], _, _, hmem => absurd hmem (by simp)
  | i, c' :: cs, _, h, hmem => by
    obtain ⟨r', rs', hr', hrest, rfl⟩ := compileChunks_cons h
    rw [List.zip_cons_cons, List.mem_cons] at hmem
    rcases hmem with heq | hmem
    · obtain ⟨rfl, rfl⟩ := Prod.mk.inj heq
      exact hr'
    · exact compile_of_mem_zip hrest hmem

/-- Nothing is wrong at any position of a chunk. -/
theorem positionFault_of_compile {c : Chunk} {r : Regex} (h : c.compile = .ok r) {n : Nat}
    {targets : SortedMap String Target} (hn : c.routeMap.get? n = some targets) :
    positionFault? r.groupCount n targets = none := by
  unfold Chunk.compile at h
  split at h
  · exact absurd h (by simp)
  · split at h
    · exact absurd h (by simp)
    · rename_i hfault
      rw [← Except.ok.inj h]
      exact List.findSome?_eq_none_iff.mp hfault (n, targets) (SortedMap.mem_of_get? hn)

/-- Every position of a chunk is behind one of its groups. -/
theorem position_bounds {c : Chunk} {r : Regex} (h : c.compile = .ok r) {n : Nat}
    {targets : SortedMap String Target} (hn : c.routeMap.get? n = some targets) :
    2 ≤ n ∧ n ≤ r.groupCount + 1 := by
  have hposition := positionFault_of_compile h hn
  unfold positionFault? at hposition
  split at hposition
  · exact absurd hposition (by simp)
  · omega

/-- Below a position of a chunk there is room for all names of its targets. -/
theorem names_lt_position {c : Chunk} {r : Regex} (h : c.compile = .ok r) {n : Nat}
    {targets : SortedMap String Target} (hn : c.routeMap.get? n = some targets) {m : String}
    {t : Target} (ht : targets.get? m = some t) : t.names.length < n := by
  have hposition := positionFault_of_compile h hn
  unfold positionFault? at hposition
  split at hposition
  · exact absurd hposition (by simp)
  · rw [tooManyVariables?, Option.map_eq_none_iff, List.find?_eq_none] at hposition
    have hlength := hposition (m, t) (SortedMap.mem_of_get? ht)
    simpa using hlength

/-! ## Methods -/

/-- The methods that have a handler for the literal path. -/
def DispatchTable.literalMethods (t : DispatchTable) (path : String) : List String :=
  (t.staticRoutes.get? path).elim [] SortedMap.keys

/-- The methods that have a target where the first chunk that matches leads. -/
def methodsInChunks (path : String) : List (Chunk × Regex) → List String
  | [] => []
  | (chunk, regex) :: rest =>
    match regex.captures? path with
    | none => methodsInChunks path rest
    | some captures =>
      (chunk.routeMap.get? (captures.position regex.groupCount)).elim [] SortedMap.keys

/-- The methods of a path. -/
def Dispatcher.methodsOf (d : Dispatcher) (path : String) : List String :=
  d.table.literalMethods path ++ methodsInChunks path (d.table.chunks.zip d.regexes)

variable {method path : String} {allowed : List String}

/-- The chunks find a method that they have for the path. -/
theorem exists_found_of_mem : ∀ {chunks : List (Chunk × Regex)},
    (∀ e ∈ chunks, e.1.compile = .ok e.2) → method ∈ methodsInChunks path chunks →
      ∃ f, findInChunks method path allowed chunks = .found f
  | [], _, h => absurd h List.not_mem_nil
  | (chunk, regex) :: rest, hcompile, h => by
    rw [List.forall_mem_cons] at hcompile
    unfold methodsInChunks at h
    unfold findInChunks
    cases hcaptures : regex.captures? path with
    | none =>
      rw [hcaptures] at h
      exact exists_found_of_mem hcompile.2 h
    | some c =>
      rw [hcaptures] at h
      simp only at h ⊢
      cases htargets : chunk.routeMap.get? (c.position regex.groupCount) with
      | none => exact absurd (htargets ▸ h) (by simp)
      | some targets =>
        rw [htargets, Option.elim_some, SortedMap.mem_keys, Option.isSome_iff_exists] at h
        obtain ⟨t, ht⟩ := h
        have hlt := names_lt_position hcompile.1 htargets ht
        simp only [ht]
        rw [if_pos (Nat.le_of_lt hlt)]
        exact ⟨_, rfl⟩

/-- For any other method the chunks add theirs to those that are known. -/
theorem findInChunks_of_not_mem : ∀ {chunks : List (Chunk × Regex)},
    method ∉ methodsInChunks path chunks →
      findInChunks method path allowed chunks =
        .ofAllowed (allowed ++ methodsInChunks path chunks)
  | [], _ => by rw [methodsInChunks, List.append_nil, findInChunks]
  | (chunk, regex) :: rest, h => by
    unfold methodsInChunks at h ⊢
    unfold findInChunks
    cases hcaptures : regex.captures? path with
    | none =>
      rw [hcaptures] at h
      exact findInChunks_of_not_mem h
    | some c =>
      rw [hcaptures] at h
      simp only at h ⊢
      cases htargets : chunk.routeMap.get? (c.position regex.groupCount) with
      | none => rw [Option.elim_none, List.append_nil]
      | some targets =>
        rw [htargets, Option.elim_some, SortedMap.mem_keys, Bool.not_eq_true,
          Option.isSome_eq_false_iff, Option.isNone_iff_eq_none] at h
        simp only [h, Option.elim_some]

/-! ## Answers -/

/-- The methods listed are those given, ascending. -/
theorem ofAllowed_eq_methodNotAllowed {texts : List String}
    (h : Answer.ofAllowed texts = .methodNotAllowed allowed) :
    allowed ≠ [] ∧ allowed.Pairwise (· < ·) ∧ ∀ m, m ∈ allowed ↔ m ∈ texts := by
  unfold Answer.ofAllowed at h
  split at h
  · exact Answer.noConfusion h
  · rename_i hne
    obtain rfl := Answer.methodNotAllowed.inj h
    refine ⟨?_, SortedMap.pairwise_keys _, fun m => mem_sortedDistinct⟩
    obtain ⟨m, hm⟩ := List.exists_mem_of_ne_nil texts hne
    exact List.ne_nil_of_mem (mem_sortedDistinct.mpr hm)

theorem ofAllowed_eq_notFound {texts : List String} :
    Answer.ofAllowed texts = .notFound ↔ texts = [] := by
  unfold Answer.ofAllowed
  split
  · rename_i hnil
    exact ⟨fun _ => hnil, fun _ => rfl⟩
  · rename_i hne
    exact ⟨fun h => Answer.noConfusion h, fun h => absurd h hne⟩

namespace Dispatcher

variable (d : Dispatcher)

/-- A request for a method that the path does not have lists the methods that it has. -/
theorem find_of_not_mem (h : method ∉ d.methodsOf path) :
    d.find method path = .ofAllowed (d.methodsOf path) := by
  unfold methodsOf DispatchTable.literalMethods at h ⊢
  rw [List.mem_append, not_or] at h
  unfold find
  cases hstatic : d.table.staticRoutes.get? path with
  | none =>
    simp only [Option.elim_none, List.nil_append]
    exact findInChunks_of_not_mem h.2
  | some handlers =>
    have hmethod := h.1
    rw [hstatic, Option.elim_some, SortedMap.mem_keys, Bool.not_eq_true,
      Option.isSome_eq_false_iff, Option.isNone_iff_eq_none] at hmethod
    simp only [hmethod, Option.elim_some]
    exact findInChunks_of_not_mem h.2

/-- A request is found exactly for the methods of its path. -/
theorem exists_found_iff : (∃ f, d.find method path = .found f) ↔ method ∈ d.methodsOf path := by
  constructor
  · rintro ⟨f, hf⟩
    by_contra h
    rw [d.find_of_not_mem h] at hf
    exact ofAllowed_ne_found _ f hf
  · intro h
    have hcompile : ∀ e ∈ d.table.chunks.zip d.regexes, e.1.compile = .ok e.2 :=
      fun e he => compile_of_mem_zip d.compiled he
    unfold methodsOf DispatchTable.literalMethods at h
    rw [List.mem_append] at h
    unfold find
    cases hstatic : d.table.staticRoutes.get? path with
    | none =>
      rw [hstatic, Option.elim_none] at h
      exact exists_found_of_mem hcompile (h.resolve_left List.not_mem_nil)
    | some handlers =>
      rw [hstatic, Option.elim_some, SortedMap.mem_keys] at h
      cases hhandler : handlers.get? method with
      | some handler =>
        simp only [hhandler]
        exact ⟨_, rfl⟩
      | none =>
        rw [hhandler] at h
        simp only [hhandler]
        exact exists_found_of_mem hcompile (h.resolve_left (by simp))

/-- A path does not have the method if the answer is none of its handlers. -/
theorem not_mem_methodsOf (h : ∀ f, d.find method path ≠ .found f) : method ∉ d.methodsOf path := by
  rw [← d.exists_found_iff]
  rintro ⟨f, hf⟩
  exact h f hf

/-- Nothing is found exactly for a path without methods. -/
theorem find_eq_notFound : d.find method path = .notFound ↔ d.methodsOf path = [] := by
  constructor
  · intro h
    have hnot := d.not_mem_methodsOf fun f hf => Answer.noConfusion (h.symm.trans hf)
    rw [d.find_of_not_mem hnot] at h
    exact ofAllowed_eq_notFound.mp h
  · intro h
    rw [d.find_of_not_mem (h ▸ List.not_mem_nil), h]
    rfl

end Dispatcher

/-- **The answers for all methods of one path fit together**, whatever table is answered from. If
the method is not allowed, those listed are the ones for which the request is found, in ascending
order; and nothing is found for one method exactly if it is for none. -/
theorem allowed_iff_found (d : Dispatcher) (method path : String) :
    (∀ allowed, d.find method path = .methodNotAllowed allowed →
        allowed ≠ [] ∧ allowed.Pairwise (· < ·) ∧ method ∉ allowed ∧
          ∀ m, m ∈ allowed ↔ ∃ f, d.find m path = .found f) ∧
      (d.find method path = .notFound ↔ ∀ m, ¬ ∃ f, d.find m path = .found f) ∧
      (d.find method path = .notFound → ∀ m, d.find m path = .notFound) := by
  refine ⟨fun allowed hanswer => ?_, ?_, ?_⟩
  · have hnot := d.not_mem_methodsOf fun f hf => Answer.noConfusion (hanswer.symm.trans hf)
    rw [d.find_of_not_mem hnot] at hanswer
    obtain ⟨hne, hsorted, hmem⟩ := ofAllowed_eq_methodNotAllowed hanswer
    refine ⟨hne, hsorted, fun h => hnot ((hmem method).mp h), fun m => ?_⟩
    rw [hmem, d.exists_found_iff]
  · simp only [d.exists_found_iff, d.find_eq_notFound, List.eq_nil_iff_forall_not_mem]
  · intro h m
    rw [d.find_eq_notFound] at h ⊢
    exact h

/-- A table as it may be written by hand: the position of the second pattern leads nowhere, and a
method leads to no variables where there is a group. -/
def handwritten : DispatchTable where
  staticRoutes := .ofList [("/users/me", .ofList [("POST", ⟨"Users", "update"⟩)])]
  chunks := [⟨"^(?:/users/([^/]+)|/([a-z]+)/([0-9]+)?)$",
    .ofList [(2, .ofList [("GET", ⟨⟨"Users", "show"⟩, ["id"]⟩),
        ("PATCH", ⟨⟨"Users", "edit"⟩, []⟩)]),
      (3, .ofList [])]⟩]
  named := .empty

theorem allowed_handwritten : ∃ d, Dispatcher.ofTable handwritten = .ok d ∧
    d.find "PUT" "/users/me" = .methodNotAllowed ["GET", "PATCH", "POST"] ∧
    (∃ f, d.find "PATCH" "/users/me" = .found f) ∧
    d.find "GET" "/posts/" = .notFound ∧ d.find "POST" "/posts/" = .notFound := by
  have hanswers : ((Dispatcher.ofTable handwritten).toOption.map fun d =>
      (d.find "PUT" "/users/me", d.find "GET" "/posts/")) =
        some (.methodNotAllowed ["GET", "PATCH", "POST"], .notFound) := by decide +kernel
  cases hload : Dispatcher.ofTable handwritten with
  | error e => exact absurd (hload ▸ hanswers) (by simp [Except.toOption])
  | ok d =>
    rw [hload] at hanswers
    obtain ⟨hput, hget⟩ := Prod.mk.inj (Option.some.inj hanswers)
    obtain ⟨-, -, -, hiff⟩ := (allowed_iff_found d "PUT" "/users/me").1 _ hput
    exact ⟨d, rfl, hput, (hiff "PATCH").mp (by simp), hget,
      (allowed_iff_found d "GET" "/posts/").2.2 hget "POST"⟩

end RouteTable
