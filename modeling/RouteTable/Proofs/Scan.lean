import Mathlib.Data.List.Infix
import RouteTable.Proofs.Annotation
import RouteTable.Proofs.RouteSet.History
import RouteTable.Scan

/-!
# From annotations to routes

Annotations are scanned in two steps that fail differently. A method that does not exist stops the
scan before anything is declared. A route that is refused stops it where it stands, and the routes
before it stay.

* `Module.IsFor`: the module a class belongs to. `moduleOf?_eq_some_iff` says that it is found.
* `Annotation.IsFaulty`: an annotation that names a method wrong. Only those count whose class
  belongs to a module.
* `Annotation.Declares`: the declaration that an annotation stands for.
* `Scanned`: what the first step gives, and `DeclaredUpTo`: what the second leaves.
* `scan_faithful`: scanning does both for all modules, annotations and sets of routes.
-/

namespace RouteTable

variable {modules : List Module} {className : String}

/-! ## Modules of classes -/

theorem owns_iff {m : Module} :
    m.owns className = true ↔ m.namespaceName.toList <+: className.toList :=
  List.isPrefixOf_iff_prefix

/-- The module that a class belongs to. -/
structure Module.IsFor (modules : List Module) (className : String) (m : Module) : Prop where
  /-- The class starts with the namespace. -/
  starts : m.namespaceName.toList <+: className.toList
  /-- Whatever namespace the class starts with, this one starts with it too, so is no shorter. -/
  longest : ∀ m' ∈ modules, m'.namespaceName.toList <+: className.toList →
    m'.namespaceName.toList <+: m.namespaceName.toList
  /-- No later module has the same namespace. -/
  last : ∃ before after, modules = before ++ m :: after ∧
    ∀ m' ∈ after, m'.namespaceName ≠ m.namespaceName

namespace Module.IsFor

variable {m m' : Module}

theorem mem (h : IsFor modules className m) : m ∈ modules := by
  obtain ⟨before, after, hmodules, -⟩ := h.last
  rw [hmodules]
  exact List.mem_append_right before List.mem_cons_self

/-- A class belongs to no more than one module. -/
theorem unique (h : IsFor modules className m) (h' : IsFor modules className m') : m = m' := by
  have hspace : m.namespaceName = m'.namespaceName :=
    String.toList_inj.mp ((h'.longest m h.mem h.starts).eq_of_length_le
      (h.longest m' h'.mem h'.starts).length_le)
  obtain ⟨before, after, hmodules, hlast⟩ := h.last
  obtain ⟨before', after', hmodules', hlast'⟩ := h'.last
  rw [hmodules] at hmodules'
  rcases List.append_eq_append_iff.mp hmodules' with ⟨_ | ⟨x, between⟩, -, hafter⟩ |
    ⟨_ | ⟨x, between⟩, -, hafter⟩
  · exact (List.cons.inj hafter).1
  · obtain ⟨-, rfl⟩ := List.cons.inj hafter
    exact absurd hspace.symm (hlast m' (by simp))
  · exact (List.cons.inj hafter).1.symm
  · obtain ⟨-, rfl⟩ := List.cons.inj hafter
    exact absurd hspace (hlast' m (by simp))

end Module.IsFor

theorem foldl_longer_eq_none_iff {ms : List Module} :
    ms.foldl Module.longer none = none ↔ ms = [] := by
  induction ms using List.reverseRecOn with
  | nil => simp
  | append_singleton ms x ih =>
    rw [List.foldl_append, List.foldl_cons, List.foldl_nil]
    simp only [List.append_eq_nil_iff, List.cons_ne_nil, and_false, iff_false]
    unfold Module.longer
    split
    · simp
    · split <;> simp

/-- What is kept has the longest namespace, and a longer one than all that come after it. -/
theorem exists_of_foldl_longer {ms : List Module} {m : Module}
    (h : ms.foldl Module.longer none = some m) : ∃ before after, ms = before ++ m :: after ∧
      (∀ b ∈ before, b.namespaceName.length ≤ m.namespaceName.length) ∧
      ∀ a ∈ after, a.namespaceName.length < m.namespaceName.length := by
  induction ms using List.reverseRecOn generalizing m with
  | nil => exact absurd h (by simp)
  | append_singleton ms x ih =>
    rw [List.foldl_append, List.foldl_cons, List.foldl_nil] at h
    cases hbest : ms.foldl Module.longer none with
    | none =>
      rw [hbest] at h
      cases foldl_longer_eq_none_iff.mp hbest
      cases h
      exact ⟨[], [], rfl, by simp, by simp⟩
    | some best =>
      obtain ⟨before, after, rfl, hbefore, hafter⟩ := ih hbest
      rw [hbest, Module.longer] at h
      split at h
      · rename_i hlt
        cases h
        refine ⟨before, after ++ [x], by simp, hbefore, ?_⟩
        simp only [List.forall_mem_append, List.forall_mem_singleton]
        exact ⟨hafter, hlt⟩
      · rename_i hge
        cases h
        refine ⟨before ++ best :: after, [], rfl, ?_, by simp⟩
        have hle := Nat.le_of_not_lt hge
        simp only [List.forall_mem_append, List.forall_mem_cons]
        exact ⟨fun b hb => (hbefore b hb).trans hle, hle, fun a ha => (hafter a ha).le.trans hle⟩

theorem moduleOf?_eq_none_iff : moduleOf? modules className = none ↔
    ∀ m ∈ modules, ¬ m.namespaceName.toList <+: className.toList := by
  simp only [moduleOf?, foldl_longer_eq_none_iff, List.filter_eq_nil_iff, owns_iff]

theorem isFor_of_moduleOf? {m : Module} (h : moduleOf? modules className = some m) :
    Module.IsFor modules className m := by
  obtain ⟨before, after, hfilter, hbefore, hafter⟩ := exists_of_foldl_longer h
  have hlength : ∀ m' ∈ modules, m'.namespaceName.toList <+: className.toList →
      m'.namespaceName.length ≤ m.namespaceName.length := by
    intro m' hm' hstarts
    have hkept : m' ∈ before ++ m :: after := by
      rw [← hfilter]
      exact List.mem_filter.mpr ⟨hm', owns_iff.mpr hstarts⟩
    rcases List.mem_append.mp hkept with hb | hm
    · exact hbefore m' hb
    · rcases List.mem_cons.mp hm with rfl | ha
      · exact Nat.le_refl _
      · exact (hafter m' ha).le
  obtain ⟨earlier, rest, rfl, -, hrest⟩ := List.filter_eq_append_iff.mp hfilter
  obtain ⟨skipped, later, rfl, -, howns, hlater⟩ := List.filter_eq_cons_iff.mp hrest
  refine ⟨owns_iff.mp howns, fun m' hm' hstarts => ?_,
    earlier ++ skipped, later, by simp, fun m' hm' hspace => ?_⟩
  · exact List.prefix_of_prefix_length_le hstarts (owns_iff.mp howns) (hlength m' hm' hstarts)
  · have hkept : m' ∈ after := by
      rw [← hlater]
      refine List.mem_filter.mpr ⟨hm', ?_⟩
      rwa [owns_iff, hspace, ← owns_iff]
    have hlt := hafter m' hkept
    rw [hspace] at hlt
    exact absurd hlt (Nat.lt_irrefl _)

/-- The module that a class belongs to is found. -/
theorem moduleOf?_eq_some_iff {m : Module} :
    moduleOf? modules className = some m ↔ Module.IsFor modules className m := by
  refine ⟨isFor_of_moduleOf?, fun h => ?_⟩
  cases hfound : moduleOf? modules className with
  | none => exact absurd h.starts (moduleOf?_eq_none_iff.mp hfound m h.mem)
  | some m' => rw [(isFor_of_moduleOf? hfound).unique h]

/-! ## Declarations of annotations -/

/-- The class of the annotation starts with the namespace of a module. -/
def Annotation.IsOwned (modules : List Module) (a : Annotation) : Prop :=
  ∃ m ∈ modules, m.namespaceName.toList <+: a.className.toList

instance (modules : List Module) (a : Annotation) : Decidable (a.IsOwned modules) :=
  inferInstanceAs (Decidable (∃ m ∈ modules, m.namespaceName.toList <+: a.className.toList))

/-- The annotation belongs to a module, and one of its names means no method. -/
def Annotation.IsFaulty (modules : List Module) (a : Annotation) : Prop :=
  a.IsOwned modules ∧ ∃ name ∈ a.methods.toList, ∀ m, ¬ Method.IsNotedBy name m

/-- The declaration that an annotation stands for. -/
structure Annotation.Declares (modules : List Module) (a : Annotation) (d : Declaration) :
    Prop where
  /-- The methods are those that the names mean, of each the first occurrence. -/
  methods : ∃ ms, List.Forall₂ Method.IsNotedBy a.methods.toList ms ∧
    d.methods.toList = ms.eraseDups
  /-- The route is mounted below the path of the module. -/
  pattern : ∃ m, Module.IsFor modules a.className m ∧ d.pattern = m.mountPath ++ a.path
  handler : d.handler = ⟨a.className, a.methodName⟩
  name : d.name = a.name

variable {a : Annotation} {as : List Annotation} {m : Module}

theorem not_isOwned_iff : ¬ a.IsOwned modules ↔ moduleOf? modules a.className = none := by
  rw [moduleOf?_eq_none_iff, Annotation.IsOwned]
  simp only [not_exists, not_and]

theorem isOwned_of_moduleOf? (h : moduleOf? modules a.className = some m) : a.IsOwned modules :=
  ⟨m, (moduleOf?_eq_some_iff.mp h).mem, (moduleOf?_eq_some_iff.mp h).starts⟩

theorem declare_eq_ok_iff {d : Declaration} (h : moduleOf? modules a.className = some m) :
    a.declare m = .ok d ↔ a.Declares modules d := by
  constructor
  · intro hd
    unfold Annotation.declare at hd
    split at hd
    · exact absurd hd (by simp)
    · rename_i ms hms
      obtain rfl := Except.ok.inj hd
      exact ⟨⟨ms, methods_eq_ok_iff.mp hms, toList_ofList ms⟩,
        ⟨m, moduleOf?_eq_some_iff.mp h, rfl⟩, rfl, rfl⟩
  · rintro ⟨⟨ms, hms, hmethods⟩, ⟨m', hm', hpattern⟩, hhandler, hname⟩
    obtain rfl := hm'.unique (moduleOf?_eq_some_iff.mp h)
    unfold Annotation.declare
    rw [methods_eq_ok_iff.mpr hms]
    obtain ⟨⟨ms', hnodup⟩, pattern, handler, name⟩ := d
    cases hpattern
    cases hhandler
    cases hname
    rw [← toList_ofList] at hmethods
    cases hmethods
    rfl

theorem declare_eq_error_iff {e : ScanError} : a.declare m = .error e ↔
    ∃ name, a.methods.Misnames name ∧ e = .invalidMethod a.handler ⟨name⟩ := by
  constructor
  · intro h
    unfold Annotation.declare at h
    split at h
    · rename_i cause hms
      obtain ⟨name, hname, rfl⟩ := methods_eq_error_iff.mp hms
      exact ⟨name, hname, (Except.error.inj h).symm⟩
    · exact absurd h (by simp)
  · rintro ⟨name, hname, rfl⟩
    unfold Annotation.declare
    rw [methods_eq_error_iff.mpr ⟨name, hname, rfl⟩]

/-- What an annotation gives: nothing, if its class belongs to no module. -/
def declareIn (modules : List Module) (a : Annotation) : Except ScanError (Option Declaration) :=
  match moduleOf? modules a.className with
  | none => .ok none
  | some m => (a.declare m).map some

theorem declareIn_eq_none_iff : declareIn modules a = .ok none ↔ ¬ a.IsOwned modules := by
  rw [not_isOwned_iff, declareIn]
  cases moduleOf? modules a.className with
  | none => simp
  | some m =>
    dsimp only
    cases a.declare m <;> simp [Except.map]

theorem declareIn_eq_some_iff {d : Declaration} :
    declareIn modules a = .ok (some d) ↔ a.IsOwned modules ∧ a.Declares modules d := by
  rw [declareIn]
  cases h : moduleOf? modules a.className with
  | none => simp [not_isOwned_iff.mpr h]
  | some m =>
    rw [← declare_eq_ok_iff h]
    dsimp only
    cases a.declare m <;> simp [Except.map, isOwned_of_moduleOf? h]

theorem declareIn_eq_error_iff {e : ScanError} : declareIn modules a = .error e ↔
    a.IsOwned modules ∧ ∃ name, a.methods.Misnames name ∧ e = .invalidMethod a.handler ⟨name⟩ := by
  rw [declareIn]
  cases h : moduleOf? modules a.className with
  | none => simp [not_isOwned_iff.mpr h]
  | some m =>
    rw [← declare_eq_error_iff (m := m)]
    dsimp only
    cases a.declare m <;> simp [Except.map, isOwned_of_moduleOf? h]

/-- The faulty annotations are those that give an error. -/
theorem isFaulty_iff : a.IsFaulty modules ↔ ∃ e, declareIn modules a = .error e := by
  unfold Annotation.IsFaulty
  simp only [← exists_misnames_iff, declareIn_eq_error_iff]
  constructor
  · rintro ⟨howned, name, hname⟩
    exact ⟨_, howned, name, hname, rfl⟩
  · rintro ⟨e, howned, name, hname, -⟩
    exact ⟨howned, name, hname⟩

theorem not_isFaulty_iff : ¬ a.IsFaulty modules ↔ ∃ d, declareIn modules a = .ok d := by
  rw [isFaulty_iff]
  cases declareIn modules a <;> simp

/-! ## Lists of annotations -/

theorem declarationsOf_cons : declarationsOf modules (a :: as) =
    match declareIn modules a with
    | .error e => .error e
    | .ok none => declarationsOf modules as
    | .ok (some d) => (declarationsOf modules as).map (d :: ·) := by
  rw [declarationsOf, declareIn]
  cases moduleOf? modules a.className with
  | none => rfl
  | some m =>
    dsimp only
    cases a.declare m with
    | error e => rfl
    | ok d => cases declarationsOf modules as <;> rfl

theorem declarationsOf_eq_mapM : declarationsOf modules as =
    (as.mapM (declareIn modules)).map (List.filterMap id) := by
  induction as with
  | nil => rfl
  | cons a as ih =>
    rw [mapM_cons_except, declarationsOf_cons, ih]
    rcases declareIn modules a with e | _ | d
    · rfl
    · cases as.mapM (declareIn modules) <;> rfl
    · cases as.mapM (declareIn modules) <;> rfl

/-- The declarations are those of the annotations whose class belongs to a module. -/
theorem declarationsOf_eq_ok_iff {ds : List Declaration} : declarationsOf modules as = .ok ds ↔
    List.Forall₂ (·.Declares modules ·) (as.filter (·.IsOwned modules)) ds := by
  induction as generalizing ds with
  | nil => simp [declarationsOf, eq_comm]
  | cons a as ih =>
    rw [declarationsOf_cons]
    by_cases howned : a.IsOwned modules
    · rw [List.filter_cons_of_pos (by simpa using howned), List.forall₂_cons_left_iff]
      simp only [← ih]
      have hd (d : Declaration) : a.Declares modules d ↔ declareIn modules a = .ok (some d) := by
        rw [declareIn_eq_some_iff, and_iff_right howned]
      simp only [hd]
      rcases h : declareIn modules a with e | _ | d
      · simp
      · exact absurd howned (declareIn_eq_none_iff.mp h)
      · cases declarationsOf modules as <;> simp [Except.map, eq_comm]
    · rw [List.filter_cons_of_neg (by simpa using howned), declareIn_eq_none_iff.mpr howned]
      exact ih

/-- The first faulty annotation is reported. -/
theorem declarationsOf_eq_error_iff {e : ScanError} : declarationsOf modules as = .error e ↔
    ∃ before a after name, as = before ++ a :: after ∧ (∀ b ∈ before, ¬ b.IsFaulty modules) ∧
      a.IsOwned modules ∧ a.methods.Misnames name ∧ e = .invalidMethod a.handler ⟨name⟩ := by
  have hmap : declarationsOf modules as = .error e ↔ as.mapM (declareIn modules) = .error e := by
    rw [declarationsOf_eq_mapM]
    cases as.mapM (declareIn modules) <;> simp [Except.map]
  rw [hmap, mapM_eq_error_iff]
  simp only [← not_isFaulty_iff, declareIn_eq_error_iff]
  constructor
  · rintro ⟨before, a, after, has, hbefore, howned, name, hname, he⟩
    exact ⟨before, a, after, name, has, hbefore, howned, hname, he⟩
  · rintro ⟨before, a, after, name, has, hbefore, howned, hname, he⟩
    exact ⟨before, a, after, has, hbefore, howned, name, hname, he⟩

/-- What the declarations of annotations are: those of the annotations that belong to a module, or
the first annotation that is faulty, with the first of its names that means no method. -/
inductive Scanned (modules : List Module) (as : List Annotation) :
    Except ScanError (List Declaration) → Prop
  | taken {ds : List Declaration}
      (declares : List.Forall₂ (·.Declares modules ·) (as.filter (·.IsOwned modules)) ds) :
      Scanned modules as (.ok ds)
  | refused {before after : List Annotation} {a : Annotation} {name : String}
      (split : as = before ++ a :: after) (clean : ∀ b ∈ before, ¬ b.IsFaulty modules)
      (owned : a.IsOwned modules) (misnames : a.methods.Misnames name) :
      Scanned modules as (.error (.invalidMethod a.handler ⟨name⟩))

theorem declarationsOf_eq_iff {result : Except ScanError (List Declaration)} :
    declarationsOf modules as = result ↔ Scanned modules as result := by
  cases result with
  | ok ds =>
    rw [declarationsOf_eq_ok_iff]
    refine ⟨.taken, ?_⟩
    rintro ⟨hds⟩
    exact hds
  | error e =>
    rw [declarationsOf_eq_error_iff]
    constructor
    · rintro ⟨before, a, after, name, has, hbefore, howned, hname, rfl⟩
      exact .refused has hbefore howned hname
    · intro h
      cases h with
      | refused has hbefore howned hname => exact ⟨_, _, _, _, has, hbefore, howned, hname, rfl⟩

/-- Annotations are refused if and only if one of them is faulty. -/
theorem exists_error_iff :
    (∃ e, declarationsOf modules as = .error e) ↔ ∃ a ∈ as, a.IsFaulty modules := by
  constructor
  · rintro ⟨e, he⟩
    obtain ⟨before, a, after, name, rfl, -, howned, hname, -⟩ := declarationsOf_eq_error_iff.mp he
    exact ⟨a, by simp, howned, exists_misnames_iff.mp ⟨name, hname⟩⟩
  · rintro ⟨a, ha, hfaulty⟩
    cases hds : declarationsOf modules as with
    | error e => exact ⟨e, rfl⟩
    | ok ds =>
      obtain ⟨d, hd⟩ := exists_of_forall₂ (declarationsOf_eq_ok_iff.mp hds)
        (List.mem_filter.mpr ⟨ha, decide_eq_true hfaulty.1⟩)
      refine absurd hfaulty (not_isFaulty_iff.mpr ⟨some d, ?_⟩)
      exact declareIn_eq_some_iff.mpr ⟨hfaulty.1, hd⟩

/-! ## Declaring them -/

/-- What declaring routes one after another leaves: all of them, or those before the first that is
refused, which is reported with its pattern. -/
inductive DeclaredUpTo (s : RouteSet) (ds : List Declaration) :
    Except ScanError Unit × RouteSet → Prop
  | all {s' : RouteSet} (run : (declareAll ds).run s = (.ok (), s')) :
      DeclaredUpTo s ds (.ok (), s')
  | upTo {before after : List Declaration} {d : Declaration} {s' : RouteSet} {cause : RouteError}
      (split : ds = before ++ d :: after) (run : (declareAll before).run s = (.ok (), s'))
      (refused : ((declare d).run s').1 = .error cause) :
      DeclaredUpTo s ds (.error (.refused d.pattern cause), s')

theorem run_declareScanned_cons (d : Declaration) (ds : List Declaration) (s : RouteSet) :
    (declareScanned (d :: ds)).run s = match (declare d).run s with
      | (.ok (), s') => (declareScanned ds).run s'
      | (.error cause, s') => (.error (.refused d.pattern cause), s') := by
  have hadapt : (ExceptT.adapt (ScanError.refused d.pattern) (declare d)).run s =
      (((declare d).run s).1.mapError (.refused d.pattern), ((declare d).run s).2) := rfl
  rw [declareScanned, ExceptT.run_bind]
  simp only [bind, StateT.bind, hadapt]
  rcases (declare d).run s with ⟨_ | _, _⟩ <;> rfl

theorem DeclaredUpTo.cons {d : Declaration} {ds : List Declaration} {s s₁ : RouteSet}
    {result : Except ScanError Unit × RouteSet} (hd : (declare d).run s = (.ok (), s₁))
    (h : DeclaredUpTo s₁ ds result) : DeclaredUpTo s (d :: ds) result := by
  cases h with
  | all hds => exact .all (run_declareAll_cons.mpr ⟨s₁, hd, hds⟩)
  | upTo hsplit hbefore hrefused =>
    exact .upTo (by rw [hsplit, List.cons_append]) (run_declareAll_cons.mpr ⟨s₁, hd, hbefore⟩)
      hrefused

theorem declaredUpTo_declareScanned (s : RouteSet) (ds : List Declaration) :
    DeclaredUpTo s ds ((declareScanned ds).run s) := by
  induction ds generalizing s with
  | nil => exact .all rfl
  | cons d ds ih =>
    rw [run_declareScanned_cons]
    rcases hd : (declare d).run s with ⟨cause | _, s₁⟩
    · obtain rfl := eq_of_error hd
      have hnone : d :: ds = [] ++ d :: ds := rfl
      refine .upTo hnone rfl ?_
      rw [hd]
    · exact (ih s₁).cons hd

/-- **Scanning declares the routes of the annotations and stops cleanly.** Annotations are refused
if and only if one of them is faulty; then the first is reported and no route is declared.
Otherwise each annotation that belongs to a module stands for one declaration, in order, and the
declarations before the first that is refused are taken in, or all. -/
theorem scan_faithful (modules : List Module) (as : List Annotation) (s : RouteSet) :
    ((∃ e, declarationsOf modules as = .error e) ↔ ∃ a ∈ as, a.IsFaulty modules) ∧
    (∀ result, declarationsOf modules as = result ↔ Scanned modules as result) ∧
    (∀ e, declarationsOf modules as = .error e → (scan modules as).run s = (.error e, s)) ∧
    ∀ ds, declarationsOf modules as = .ok ds →
      DeclaredUpTo s ds ((scan modules as).run s) := by
  refine ⟨exists_error_iff, fun _ => declarationsOf_eq_iff, fun e he => ?_, fun ds hds => ?_⟩
  · rw [scan, he]
    rfl
  · rw [scan, hds]
    exact declaredUpTo_declareScanned s ds

/-- A module within another. -/
def sites : List Module := [⟨"front", "App\\", none⟩, ⟨"admin", "App\\Admin\\", none⟩]

/-- Annotations of both modules and of none. The second is wrong but belongs to no module, and the
last repeats the first. -/
def pages : List Annotation :=
  [⟨"App\\Home", "index", .many [" get ", "GET", "post"], "/a", some "home"⟩,
    ⟨"Vendor\\Thing", "index", .one "GE T", "/thing", none⟩,
    ⟨"App\\Admin\\Users", "index", .one "get", "/a", none⟩,
    ⟨"App\\Other", "show", .one "GET", "/a", none⟩]

theorem faithful_pages : (¬ ∃ a ∈ pages, a.IsFaulty sites) ∧
    ∃ ds, Scanned sites pages (.ok ds) ∧ ds.map (·.pattern) = ["/a", "/admin/a", "/a"] ∧
      ds.map (·.methods.toList.map (·.name)) = [["GET", "POST"], ["GET"], ["GET"]] ∧
      DeclaredUpTo .empty ds ((scan sites pages).run .empty) ∧
      ((scan sites pages).run .empty).1 =
        .error (.refused "/a" (.duplicateRoute "/a" "GET")) := by
  obtain ⟨hfaulty, hscanned, -, hdeclared⟩ := scan_faithful sites pages .empty
  have hds : ((declarationsOf sites pages).toOption.map fun ds =>
      (ds.map (·.pattern), ds.map (·.methods.toList.map (·.name)))) =
        some (["/a", "/admin/a", "/a"], [["GET", "POST"], ["GET"], ["GET"]]) := by
    decide +kernel
  cases h : declarationsOf sites pages with
  | error e =>
    rw [h] at hds
    exact absurd hds (by simp [Except.toOption])
  | ok ds =>
    rw [h, Except.toOption, Option.map_some, Option.some.injEq, Prod.mk.injEq] at hds
    refine ⟨?_, ds, (hscanned _).mp h, hds.1, hds.2, hdeclared ds h, ?_⟩
    · rw [← hfaulty, h]
      simp
    · decide +kernel

end RouteTable
