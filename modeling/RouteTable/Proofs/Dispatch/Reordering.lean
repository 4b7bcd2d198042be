import RouteTable.Proofs.Dispatch.Loading
import RouteTable.Proofs.Dispatch.RoundTrip

/-!
# Declarations in another order

The order of declarations settles which of two expressions answers a path that both match, and
nothing else. Declarations in another order may be cut into other chunks, with other groups and
other positions; as long as no two patterns that meet change places, the answers are the same.

* `Declaration.Meets d e`: some path is matched by both patterns. Patterns that begin with different
  texts do not meet (`Declaration.Meets.heads`).
* `filter_eq_of_pairs`: members that keep their order in pairs keep it all together.
* `nodup_of_ok`: declarations that are all taken in are different.
* `reference_eq_of_perm`: the reference is the same in both orders.
* `find_eq_of_perm`: so are the answers of dispatchers.
-/

namespace RouteTable

/-! ## Patterns that meet -/

namespace Declaration

/-- Whether the pattern has placeholders and matches the whole path. -/
def catches (path : String) (d : Declaration) : Bool :=
  d.regex?.any fun regex => (matchAlone? regex path).isSome

/-- Both patterns have placeholders, and both match some one path. -/
def Meets (d e : Declaration) : Prop :=
  ∃ path : String, d.catches path = true ∧ e.catches path = true

/-- The text with which all that the pattern matches begins. -/
def head (d : Declaration) : String :=
  match d.tokens with
  | .literal text :: _ => text
  | _ => ""

variable {d e : Declaration} {path : String}

theorem isSome_regex?_of_catches (h : d.catches path = true) : d.regex?.isSome = true := by
  obtain ⟨regex, hregex, -⟩ := (Option.any_eq_true _ _).mp h
  rw [hregex]
  rfl

theorem Meets.isSome_regex? (h : d.Meets e) :
    d.regex?.isSome = true ∧ e.regex?.isSome = true := by
  obtain ⟨path, hd, he⟩ := h
  exact ⟨isSome_regex?_of_catches hd, isSome_regex?_of_catches he⟩

theorem exists_woven_of_catches (hkeep : d.keepsGroups = true) (h : d.catches path = true) :
    ∃ values, Woven d.tokens values path.toList := by
  obtain ⟨regex, hregex, hmatch⟩ := (Option.any_eq_true _ _).mp h
  obtain ⟨p, hp, rfl⟩ := Option.map_eq_some_iff.mp hregex
  obtain ⟨values, hwoven, -⟩ := exists_woven_of_matchAlone hkeep hp hmatch
  exact ⟨values, hwoven⟩

theorem head_prefix_of_woven {values : List String} {cs : List Char}
    (h : Woven d.tokens values cs) : d.head.toList <+: cs := by
  unfold head
  split
  · rename_i text tokens htokens
    rw [htokens] at h
    cases h with
    | literal _ _ => exact List.prefix_append _ _
  · exact List.nil_prefix

/-- Patterns that begin with different texts do not meet. -/
theorem Meets.heads (hd : d.keepsGroups = true) (he : e.keepsGroups = true) (h : d.Meets e) :
    d.head.toList <+: e.head.toList ∨ e.head.toList <+: d.head.toList := by
  obtain ⟨path, hdpath, hepath⟩ := h
  obtain ⟨_, hdwoven⟩ := exists_woven_of_catches hd hdpath
  obtain ⟨_, hewoven⟩ := exists_woven_of_catches he hepath
  exact List.prefix_or_prefix_of_prefix (head_prefix_of_woven hdwoven)
    (head_prefix_of_woven hewoven)

end Declaration

/-! ## The first of several -/

section Lists

variable {α : Type} {a b : α} {xs ys : List α}

/-- Of two different members one comes first. -/
theorem eq_of_sublist_pairs : ∀ {xs : List α}, xs.Nodup → [a, b].Sublist xs →
    [b, a].Sublist xs → a = b
  | [], _, hab, _ => by simp at hab
  | x :: xs, hnodup, hab, hba => by
    rw [List.nodup_cons] at hnodup
    cases hab with
    | cons _ hab =>
      cases hba with
      | cons _ hba => exact eq_of_sublist_pairs hnodup.2 hab hba
      | cons_cons _ _ => exact absurd (hab.subset (by simp)) hnodup.1
    | cons_cons _ hb =>
      cases hba with
      | cons _ hba => exact absurd (hba.subset (by simp)) hnodup.1
      | cons_cons _ _ => rfl

/-- The members with a property are the same in both orders, if any two of them keep their
order. -/
theorem filter_eq_of_pairs {p : α → Bool} (hperm : xs.Perm ys) (hnodup : xs.Nodup)
    (horder : ∀ a b, p a = true → p b = true → [a, b].Sublist xs → [a, b].Sublist ys) :
    xs.filter p = ys.filter p := by
  have hys : (ys.filter p).Nodup := (hperm.nodup_iff.mp hnodup).filter p
  have hpairs : (xs.filter p).Pairwise fun a b => [a, b].Sublist (ys.filter p) := by
    refine List.pairwise_iff_forall_sublist.mpr fun {a b} hab => ?_
    have ha : p a = true := (List.mem_filter.mp (hab.subset (by simp))).2
    have hb : p b = true := (List.mem_filter.mp (hab.subset (by simp))).2
    have hfilter := (horder a b ha hb (hab.trans List.filter_sublist)).filter p
    rwa [List.filter_cons_of_pos ha, List.filter_cons_of_pos hb, List.filter_nil] at hfilter
  exact List.Perm.eq_of_pairwise (fun a b _ _ => eq_of_sublist_pairs hys) hpairs
    (List.pairwise_iff_forall_sublist.mpr fun hab => hab) (hperm.filter p)

end Lists

/-! ## Declarations that are taken in -/

variable {ds ds' : List Declaration} {s s' : RouteSet} {method path : String}

/-- Every declaration that is taken in lists a method. -/
theorem exists_lists (h : (declareAll ds).run s = (.ok (), s')) :
    ∀ d ∈ ds, ∃ method : String, d.lists method = true := by
  induction ds generalizing s with
  | nil => exact fun d hd => absurd hd List.not_mem_nil
  | cons d ds ih =>
    obtain ⟨s₁, hd, hds⟩ := run_declareAll_cons.mp h
    refine List.forall_mem_cons.mpr ⟨?_, ih hds⟩
    have hmethods := methods_of_ok hd
    rw [Methods.isEmpty, List.isEmpty_eq_false_iff] at hmethods
    obtain ⟨m, hm⟩ := List.exists_mem_of_ne_nil _ hmethods
    exact ⟨m.name, List.any_eq_true.mpr ⟨m, hm, beq_self_eq_true m.name⟩⟩

/-- Of declarations that are all taken in, no two are for one path or one expression and a
method. -/
theorem once_of_ok (h : (declareAll ds).run .empty = (.ok (), s)) :
    ∀ text method : String, (ds.filter (Declaration.isForPath text method)).length ≤ 1 ∧
      (ds.filter (Declaration.isForRegex text method)).length ≤ 1 := by
  have honce := once_of_accepts ds
  rwa [declareEach_of_declareAll h] at honce

/-- Declarations that are all taken in are different. -/
theorem nodup_of_ok (h : (declareAll ds).run .empty = (.ok (), s)) : ds.Nodup := by
  have hds : (RouteSet.empty.declareEach ds).1 = ds := by rw [declareEach_of_declareAll h]
  have honce := once_of_ok h
  rw [List.nodup_iff_count_le_one]
  intro d
  by_cases hd : d ∈ ds
  · have hcount : ∀ p : Declaration → Bool, p d = true → ds.count d ≤ (ds.filter p).length := by
      intro p hp
      rw [← List.countP_eq_length_filter, List.count]
      exact List.countP_mono_left fun e _ he => eq_of_beq he ▸ hp
    obtain ⟨method, hlists⟩ := exists_lists h d hd
    rw [← hds] at hd
    rcases path_or_compiled hd with ⟨path, hpath⟩ | ⟨p, hp⟩
    · exact Nat.le_trans (hcount _ (Declaration.isForPath_iff.mpr ⟨hpath, hlists⟩))
        (honce path method).1
    · have hregex := Declaration.regex?_of_compiled hp
      exact Nat.le_trans (hcount _ (Declaration.isForRegex_iff.mpr ⟨hregex, hlists⟩))
        (honce p.regex method).2
  · rw [List.count_eq_zero_of_not_mem hd]
    exact Nat.zero_le 1

/-! ## The reference -/

/-- The first expression that matches is that of the first pattern that matches. -/
theorem firstMatch?_eq (ds : List Declaration) (path : String) :
    firstMatch? ds path = (ds.find? (Declaration.catches path)).bind Declaration.regex? :=
  List.find?_filterMap ..

/-- The first expression that matches is the same, if patterns that meet keep their order. -/
theorem firstMatch?_eq_of_perm (hperm : ds.Perm ds') (hnodup : ds.Nodup)
    (horder : ∀ d e : Declaration, d.Meets e → [d, e].Sublist ds → [d, e].Sublist ds') :
    firstMatch? ds path = firstMatch? ds' path := by
  have hfilter : ds.filter (Declaration.catches path) = ds'.filter (Declaration.catches path) :=
    filter_eq_of_pairs hperm hnodup fun d e hd he => horder d e ⟨path, hd, he⟩
  rw [firstMatch?_eq, firstMatch?_eq, ← List.head?_filter, hfilter, List.head?_filter]

/-- Methods depend on no order. -/
theorem refusal_eq_of_perm (hperm : ds.Perm ds')
    (hfirst : firstMatch? ds path = firstMatch? ds' path) :
    refusal (methodsFor ds path) = refusal (methodsFor ds' path) := by
  have hmethods : ∀ (p : Declaration → Bool) (m : String),
      m ∈ (ds.filter p).flatMap Declaration.methodNames ↔
        m ∈ (ds'.filter p).flatMap Declaration.methodNames :=
    fun p m => ((hperm.filter p).flatMap_right Declaration.methodNames).mem_iff
  rw [← ofAllowed_eq_refusal, ← ofAllowed_eq_refusal]
  refine ofAllowed_congr fun m => ?_
  rw [methodsFor, methodsFor, hfirst, List.mem_append, List.mem_append]
  refine or_congr (hmethods _ m) ?_
  cases firstMatch? ds' path with
  | none => exact Iff.rfl
  | some regex => exact hmethods _ m

/-- The reference is the same for declarations in another order, if no two declarations are for one
path or one expression and a method, and the first expression that matches is the same. -/
theorem reference_eq_of_perm (hperm : ds.Perm ds')
    (honce : ∀ text method : String, (ds.filter (Declaration.isForPath text method)).length ≤ 1 ∧
      (ds.filter (Declaration.isForRegex text method)).length ≤ 1)
    (hfirst : firstMatch? ds path = firstMatch? ds' path) :
    reference ds method path = reference ds' method path := by
  have hchosen : chosen? ds method path = chosen? ds' method path := by
    rw [chosen?, chosen?, hfirst]
    exact congrArg _ (funext fun regex => find?_eq_of_perm hperm (honce regex method).2)
  rw [reference, reference, find?_eq_of_perm hperm (honce path method).1, referenceByRegex,
    referenceByRegex, hchosen, refusal_eq_of_perm hperm hfirst]

/-! ## Dispatchers -/

/-- **The order of unrelated declarations makes no difference.** If two orders of the same
declarations are taken in and built, and patterns that match some one path are in the same order in
both, then both dispatchers give the same answer to every request. -/
theorem find_eq_of_perm {table table' : DispatchTable} (hperm : ds.Perm ds')
    (hkeep : ∀ d ∈ ds, d.keepsGroups = true)
    (hds : RouteSet.ofDeclarations ds = .ok s) (hds' : RouteSet.ofDeclarations ds' = .ok s')
    (hbuild : s.build = .ok table) (hbuild' : s'.build = .ok table')
    (horder : ∀ d e : Declaration, d.Meets e → [d, e].Sublist ds → [d, e].Sublist ds') :
    ∃ disp disp', Dispatcher.ofTable table = .ok disp ∧ Dispatcher.ofTable table' = .ok disp' ∧
      ∀ method path : String, disp.find method path = disp'.find method path := by
  rw [ofDeclarations_eq_ok] at hds hds'
  have h := history_of_declareAll hds
  have h' := history_of_declareAll hds'
  have hkeep' : ∀ d ∈ ds', d.keepsGroups = true := fun d hd => hkeep d (hperm.mem_iff.mpr hd)
  obtain ⟨disp, hload, -⟩ := h.exists_dispatcher hkeep hbuild
  obtain ⟨disp', hload', -⟩ := h'.exists_dispatcher hkeep' hbuild'
  refine ⟨disp, disp', hload, hload', fun method path => ?_⟩
  rw [h.find_eq hkeep hbuild hload, h'.find_eq hkeep' hbuild' hload']
  exact reference_eq_of_perm hperm (once_of_ok hds)
    (firstMatch?_eq_of_perm hperm (nodup_of_ok hds) horder)

/-- Patterns of which the last meets the first two, with a literal path between. -/
def unrelated : List Declaration :=
  let get := Methods.ofList (["GET"].filterMap Method.ofString?)
  [⟨get, "/posts/{slug}", ⟨"Posts", "show"⟩, none⟩, ⟨get, "/about", ⟨"Pages", "about"⟩, none⟩,
    ⟨get, "/users/{id}", ⟨"Users", "show"⟩, none⟩, ⟨get, "/{kind}/{name}", ⟨"Any", "show"⟩, none⟩]

/-- The same, with the first two patterns swapped and the literal path at the end. -/
def reordered : List Declaration :=
  [unrelated[2], unrelated[0], unrelated[3], unrelated[1]]

theorem find_reordered : ∃ s s' table table' disp disp',
    RouteSet.ofDeclarations unrelated = .ok s ∧ RouteSet.ofDeclarations reordered = .ok s' ∧
      s.build = .ok table ∧ s'.build = .ok table' ∧
      Dispatcher.ofTable table = .ok disp ∧ Dispatcher.ofTable table' = .ok disp' ∧
      ∀ method path : String, disp.find method path = disp'.find method path := by
  have hkeep : ∀ d ∈ unrelated, d.keepsGroups = true := by decide +kernel
  have hpairs : ∀ d ∈ unrelated, ∀ e ∈ unrelated,
      d.regex?.isSome = true → e.regex?.isSome = true →
        (d.head.toList <+: e.head.toList ∨ e.head.toList <+: d.head.toList) →
          [d, e].Sublist unrelated → [d, e].Sublist reordered := by decide +kernel
  have horder : ∀ d e : Declaration, d.Meets e → [d, e].Sublist unrelated →
      [d, e].Sublist reordered := by
    intro d e hmeets hsub
    have hd : d ∈ unrelated := hsub.subset (by simp)
    have he : e ∈ unrelated := hsub.subset (by simp)
    exact hpairs d hd e he hmeets.isSome_regex?.1 hmeets.isSome_regex?.2
      (hmeets.heads (hkeep d hd) (hkeep e he)) hsub
  obtain ⟨s, table, -, hds, hbuild, -⟩ := exists_of_ofDeclarations unrelated
    (by decide +kernel)
  obtain ⟨s', table', -, hds', hbuild', -⟩ := exists_of_ofDeclarations reordered
    (by decide +kernel)
  obtain ⟨disp, disp', hload, hload', hfind⟩ :=
    find_eq_of_perm (by decide +kernel) hkeep hds hds' hbuild hbuild' horder
  exact ⟨s, s', table, table', disp, disp', hds, hds', hbuild, hbuild', hload, hload', hfind⟩

end RouteTable
