import RouteTable.Proofs.Dispatch.Entry
import RouteTable.Proofs.Dispatch.Methods

/-!
# What variables are read off

A target is filed under a position, one more than a group number, and its variables are read off the
groups before the position. Nothing but the check of the table on loading says that there are such
groups: the table may be written by hand, with groups that need not take part, groups without a
name, or positions of no group.

* `Captures.LastGroup`: the group takes part in the match, and none behind it does.
* `Dispatcher.leadsTo?`: the match of the first chunk that matches, and the target it leads to.
* `ReadOff`: the values of the variables are the texts of the groups up to the last that takes part.
* `found_iff_leadsTo`: a request is found by its literal path or by the target it is led to, and the
  values are then read off.
-/

namespace RouteTable

open Regex

/-! ## The last group -/

/-- The group takes part in the match, and none behind it does. The match itself is no group. -/
structure Captures.LastGroup (c : Captures) (group : Nat) : Prop where
  positive : 1 ≤ group
  present : (c.span? group).isSome = true
  last : ∀ i, group < i → c.span? i = none

/-- A match has no groups but those of the expression. -/
theorem span?_eq_none_of_lt {r : Regex} {path : String} {c : Captures}
    (hc : r.captures? path = some c) {i : Nat} (hi : r.groupCount < i) : c.span? i = none := by
  obtain ⟨⟨start, t⟩, ht, rfl⟩ := Option.map_eq_some_iff.mp hc
  obtain ⟨pos, -, hmatch⟩ := List.exists_of_findSome?_eq_some ht
  obtain ⟨t, hrun, heq⟩ := Option.map_eq_some_iff.mp hmatch
  obtain ⟨rfl, rfl⟩ := Prod.mk.inj heq
  have hmem := List.mem_of_mem_head? hrun
  rw [Captures.span?, if_neg (by omega), Option.map_eq_none_iff, List.find?_eq_none]
  intro s hs hsi
  have hle := le_groupCount (mem_groups_of_run _ hmem hs)
  rw [beq_iff_eq] at hsi
  rw [Regex.groupCount] at hi
  omega

theorem find?_reverse_range_eq_some {p : Nat → Bool} {n : Nat} : ∀ {m : Nat},
    (List.range m).reverse.find? p = some n →
      n < m ∧ p n = true ∧ ∀ i, n < i → i < m → p i = false
  | 0, h => absurd h (by simp)
  | m + 1, h => by
    rw [List.range_succ, List.reverse_append, List.reverse_singleton, List.singleton_append,
      List.find?_cons] at h
    cases hm : p m with
    | true =>
      rw [hm] at h
      obtain rfl := Option.some.inj h
      exact ⟨Nat.lt_succ_self m, hm, fun i hlt hle => absurd hle (by omega)⟩
    | false =>
      rw [hm] at h
      obtain ⟨hlt, hn, hlast⟩ := find?_reverse_range_eq_some h
      refine ⟨by omega, hn, fun i hlt hle => ?_⟩
      by_cases hi : i = m
      · rwa [hi]
      · exact hlast i hlt (by omega)

/-- A position behind the match itself is one more than the number of the last group. -/
theorem lastGroup_of_position {r : Regex} {path : String} {c : Captures}
    (hc : r.captures? path = some c) (h : 2 ≤ c.position r.groupCount) :
    c.LastGroup (c.position r.groupCount - 1) ∧ c.position r.groupCount - 1 ≤ r.groupCount := by
  unfold Captures.position at h ⊢
  cases hfind : (List.range r.groupCount).reverse.find? fun i => (c.span? (i + 1)).isSome with
  | none => rw [hfind] at h; exact absurd h (by simp)
  | some n =>
    obtain ⟨hlt, hn, hlast⟩ := find?_reverse_range_eq_some hfind
    refine ⟨⟨by simp, hn, fun i hi => ?_⟩, hlt⟩
    by_cases hle : i ≤ r.groupCount
    · obtain ⟨i, rfl⟩ := Nat.exists_eq_add_one_of_ne_zero (show i ≠ 0 by omega)
      have hnone := hlast i (by simpa using hi) hle
      simpa using hnone
    · exact span?_eq_none_of_lt hc (by omega)

/-! ## Reading off -/

/-- The values of the variables of a target are read off the groups up to the last that takes part,
as many as there are names: in their order, and a group that does not take part has no text. -/
structure ReadOff (c : Captures) (groups : Nat) (t : Target) (f : Found) : Prop where
  handler : f.handler = t.handler
  names : f.values.map Prod.fst = t.names
  value : ∀ i < t.names.length, (f.values.map Prod.snd)[i]? =
    some ((c.group? (c.position groups - t.names.length + i)).getD "")
  last : c.LastGroup (c.position groups - 1)
  inside : c.position groups - 1 ≤ groups
  room : t.names.length < c.position groups
  within : ∀ i < t.names.length, 1 ≤ c.position groups - t.names.length + i ∧
    c.position groups - t.names.length + i ≤ c.position groups - 1

theorem ReadOff.length_eq {c : Captures} {groups : Nat} {t : Target} {f : Found}
    (h : ReadOff c groups t f) : f.values.length = t.names.length := by
  rw [← h.names, List.length_map]

/-- What is read off is determined. -/
theorem ReadOff.unique {c : Captures} {groups : Nat} {t : Target} {f f' : Found}
    (h : ReadOff c groups t f) (h' : ReadOff c groups t f') : f = f' := by
  have hsnd : f.values.map Prod.snd = f'.values.map Prod.snd := by
    refine List.ext_getElem? fun i => ?_
    by_cases hi : i < t.names.length
    · rw [h.value i hi, h'.value i hi]
    · rw [List.getElem?_eq_none (by rw [List.length_map, h.length_eq]; omega),
        List.getElem?_eq_none (by rw [List.length_map, h'.length_eq]; omega)]
  have hvalues : f.values = f'.values := by
    rw [← List.zip_unzip f.values, ← List.zip_unzip f'.values, List.unzip_eq_map,
      List.unzip_eq_map, hsnd, h.names, h'.names]
  cases f
  cases f'
  exact congr (congrArg Found.mk (h.handler.trans h'.handler.symm)) hvalues

theorem getElem?_values (c : Captures) (position : Nat) {names : List String} {i : Nat}
    (hi : i < names.length) : ((c.values position names).map Prod.snd)[i]? =
      some ((c.group? (position - names.length + i)).getD "") := by
  rw [Captures.values, List.map_map, List.getElem?_map, List.getElem?_zipIdx,
    List.getElem?_eq_getElem hi, Nat.zero_add]
  rfl

/-- What is filed in a chunk that has been checked can be read off. -/
theorem readOff_of_compile {chunk : Chunk} {r : Regex} (hcompile : chunk.compile = .ok r)
    {path : String} {c : Captures} (hc : r.captures? path = some c)
    {targets : SortedMap String Target}
    (htargets : chunk.routeMap.get? (c.position r.groupCount) = some targets) {method : String}
    {t : Target} (ht : targets.get? method = some t) :
    ReadOff c r.groupCount t ⟨t.handler, c.values (c.position r.groupCount) t.names⟩ := by
  have hbounds := position_bounds hcompile htargets
  have hroom := names_lt_position hcompile htargets ht
  obtain ⟨hlast, hinside⟩ := lastGroup_of_position hc hbounds.1
  exact ⟨rfl, map_fst_values _ _ _, fun i hi => getElem?_values c _ hi, hlast, hinside, hroom,
    fun i hi => by omega⟩

/-! ## Requests -/

/-- The first of the chunks that matches, with its match. -/
def firstMatching? (path : String) (chunks : List (Chunk × Regex)) :
    Option (Chunk × Regex × Captures) :=
  chunks.findSome? fun e => (e.2.captures? path).map fun c => (e.1, e.2, c)

/-- The target to which the first of the chunks that matches leads. -/
def targetOf? (method path : String) (chunks : List (Chunk × Regex)) :
    Option (Regex × Captures × Target) := do
  let (chunk, regex, c) ← firstMatching? path chunks
  let targets ← chunk.routeMap.get? (c.position regex.groupCount)
  let t ← targets.get? method
  return (regex, c, t)

/-- The match of the first chunk that matches, and the target to which it leads. -/
def Dispatcher.leadsTo? (d : Dispatcher) (method path : String) :
    Option (Regex × Captures × Target) :=
  targetOf? method path (d.table.chunks.zip d.regexes)

variable {method path : String} {allowed : List String}

/-- The target to which chunks lead is filed in one of them. -/
theorem targetOf_eq_some {chunks : List (Chunk × Regex)} {regex : Regex} {c : Captures}
    {t : Target} (h : targetOf? method path chunks = some (regex, c, t)) :
    ∃ chunk targets, (chunk, regex) ∈ chunks ∧ regex.captures? path = some c ∧
      chunk.routeMap.get? (c.position regex.groupCount) = some targets ∧
      targets.get? method = some t := by
  obtain ⟨⟨chunk, regex', c'⟩, hfirst, h⟩ := Option.bind_eq_some_iff.mp h
  obtain ⟨targets, htargets, h⟩ := Option.bind_eq_some_iff.mp h
  obtain ⟨t', ht, h⟩ := Option.bind_eq_some_iff.mp h
  obtain ⟨rfl, rfl, rfl⟩ : regex' = regex ∧ c' = c ∧ t' = t := by simpa using h
  obtain ⟨e, he, hmap⟩ := List.exists_of_findSome?_eq_some hfirst
  obtain ⟨c, hc, heq⟩ := Option.map_eq_some_iff.mp hmap
  obtain ⟨rfl, rfl, rfl⟩ : e.1 = chunk ∧ e.2 = regex' ∧ c = c' := by simpa using heq
  exact ⟨e.1, targets, he, hc, htargets, ht⟩

/-- Chunks answer with what is read off, or not at all. -/
theorem findInChunks_eq_found {f : Found} : ∀ {chunks : List (Chunk × Regex)},
    (∀ e ∈ chunks, e.1.compile = .ok e.2) →
      (findInChunks method path allowed chunks = .found f ↔ ∃ regex c t,
        targetOf? method path chunks = some (regex, c, t) ∧ ReadOff c regex.groupCount t f)
  | [], _ => ⟨fun h => absurd h (ofAllowed_ne_found allowed f), fun ⟨_, _, _, h, _⟩ => by
      simp [targetOf?, firstMatching?] at h⟩
  | (chunk, regex) :: rest, hcompile => by
    rw [List.forall_mem_cons] at hcompile
    have ih := findInChunks_eq_found (f := f) hcompile.2
    unfold targetOf? firstMatching? at ih ⊢
    rw [findInChunks, List.findSome?_cons]
    cases hc : regex.captures? path with
    | none => exact ih
    | some c =>
      simp only [Option.map_some, Option.bind_eq_bind, Option.bind_some]
      cases htargets : chunk.routeMap.get? (c.position regex.groupCount) with
      | none => simp [ofAllowed_ne_found]
      | some targets =>
        cases ht : targets.get? method with
        | none => simp [ht, ofAllowed_ne_found]
        | some t =>
          have hread := readOff_of_compile hcompile.1 hc htargets ht
          simp only [ht, Option.bind_some, if_pos (Nat.le_of_lt hread.room)]
          constructor
          · intro h
            obtain rfl := Answer.found.inj h
            exact ⟨regex, c, t, rfl, hread⟩
          · rintro ⟨_, _, _, heq, h⟩
            obtain ⟨rfl, rfl, rfl⟩ : regex = _ ∧ c = _ ∧ t = _ := by simpa using heq
            rw [hread.unique h]

/-- **A request is found by its literal path or by the target it is led to**, whatever table is
answered from. The variables are then as many as the target has names, and are read off groups that
the expression has, of which the last takes part in the match; no target is passed over because
there were too few. -/
theorem found_iff_leadsTo (d : Dispatcher) (method path : String) :
    (∀ f, d.find method path = .found f ↔
      (∃ handler, (d.table.staticRoutes.get? path).bind (·.get? method) = some handler ∧
        f = ⟨handler, []⟩) ∨
      ((d.table.staticRoutes.get? path).bind (·.get? method) = none ∧ ∃ regex c t,
        d.leadsTo? method path = some (regex, c, t) ∧ ReadOff c regex.groupCount t f)) ∧
    ∀ regex c t, d.leadsTo? method path = some (regex, c, t) →
      ∃ f, ReadOff c regex.groupCount t f := by
  have hcompile : ∀ e ∈ d.table.chunks.zip d.regexes, e.1.compile = .ok e.2 :=
    fun e he => compile_of_mem_zip d.compiled he
  constructor
  · intro f
    constructor
    · intro h
      rcases found_cases h with ⟨handler, hstatic, rfl⟩ | ⟨hnone, allowed, hchunks⟩
      · exact Or.inl ⟨handler, hstatic, rfl⟩
      · exact Or.inr ⟨hnone, (findInChunks_eq_found hcompile).mp hchunks⟩
    · rintro (⟨handler, hstatic, rfl⟩ | ⟨hnone, hread⟩)
      · obtain ⟨handlers, hpath, hmethod⟩ := Option.bind_eq_some_iff.mp hstatic
        unfold Dispatcher.find
        simp only [hpath, hmethod]
      · unfold Dispatcher.find
        cases hpath : d.table.staticRoutes.get? path with
        | none => exact (findInChunks_eq_found hcompile).mpr hread
        | some handlers =>
          rw [hpath, Option.bind_some] at hnone
          simp only [hnone]
          exact (findInChunks_eq_found hcompile).mpr hread
  · intro regex c t h
    obtain ⟨chunk, targets, hmem, hc, htargets, ht⟩ := targetOf_eq_some h
    exact ⟨_, readOff_of_compile (hcompile _ hmem) hc htargets ht⟩

/-- A table as it may be written by hand: the year of a post may be left out, and a handler for all
posts has a group that it does not name. -/
def archive : DispatchTable where
  staticRoutes := .empty
  chunks := [⟨"^(?:/posts/(?:([0-9]+)/)?([a-z]+)|/all/([a-z]+))$",
    .ofList [(3, .ofList [("GET", ⟨⟨"Posts", "show"⟩, ["year", "slug"]⟩)]),
      (4, .ofList [("GET", ⟨⟨"Posts", "index"⟩, []⟩)])]⟩]
  named := .empty

theorem found_archive : ∃ d c t, Dispatcher.ofTable archive = .ok d ∧
    d.find "GET" "/posts/rain" = .found ⟨⟨"Posts", "show"⟩, [("year", ""), ("slug", "rain")]⟩ ∧
    ReadOff c 3 t ⟨⟨"Posts", "show"⟩, [("year", ""), ("slug", "rain")]⟩ ∧
    c.span? 1 = none ∧ c.span? 2 = some (7, 11) := by
  have hanswer : (Dispatcher.ofTable archive).toOption.map (·.find "GET" "/posts/rain") =
      some (.found ⟨⟨"Posts", "show"⟩, [("year", ""), ("slug", "rain")]⟩) := by decide +kernel
  have hspans : ((Dispatcher.ofTable archive).toOption.bind (·.leadsTo? "GET" "/posts/rain")).map
      (fun e => (e.1.groupCount, e.2.1.span? 1, e.2.1.span? 2)) =
        some (3, none, some (7, 11)) := by decide +kernel
  cases hload : Dispatcher.ofTable archive with
  | error e => exact absurd (hload ▸ hanswer) (by simp [Except.toOption])
  | ok d =>
    rw [hload] at hanswer hspans
    have hfind : d.find "GET" "/posts/rain" = _ := Option.some.inj hanswer
    rcases ((found_iff_leadsTo d "GET" "/posts/rain").1 _).mp hfind with h | ⟨-, _, c, t, hlead, h⟩
    · obtain ⟨_, -, h⟩ := h
      exact absurd h (by simp)
    · rw [Except.toOption, Option.bind_some, hlead, Option.map_some, Option.some.injEq,
        Prod.mk.injEq, Prod.mk.injEq] at hspans
      obtain ⟨hcount, hfirst, hsecond⟩ := hspans
      exact ⟨d, c, t, rfl, hfind, hcount ▸ h, hfirst, hsecond⟩

end RouteTable
