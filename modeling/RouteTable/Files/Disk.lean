import RouteTable.Files.Tree

/-!
# Operations on files

`FileOperations` are the operations that the program needs of a file system: `fs::read_to_string`,
`fs::create_dir_all`, `NamedTempFile::new_in`, `write_all`, `sync_all` and `persist`, each of which
may fail, and taking away a temporary file that is dropped. `Disk.operations` carries them out on a
tree of files, with failures chosen beforehand, and keeps every state of the tree on the way. Where
temporary files are placed is a parameter of `Disk.operationsAt`.

A failing operation may have done part of its work: some of the directories may have been made,
some of the text written. Moving a file is done in whole or not at all.
-/

namespace RouteTable

/-- Operations on files, in a monad `m`; `τ` identifies a temporary file. -/
structure FileOperations (m : Type → Type) (τ : Type) where
  readText? : (path : String) → m (Option String)
  makeDirectories : (path : String) → m Bool
  makeTemporary? : (directory : String) → m (Option τ)
  write : τ → (text : String) → m Bool
  sync : τ → m Bool
  move : τ → (path : String) → m Bool
  discard : τ → m Unit

/-- A file system: the tree, the number of operations so far, which operations fail and after how
much of their work, and all trees there have been, the latest first. -/
structure Disk where
  tree : FileTree
  count : Nat
  fault? : Nat → Option Nat
  history : List FileTree

namespace Disk

/-- A file system that holds `tree`. -/
def ofTree (tree : FileTree) (fault? : Nat → Option Nat) : Disk := ⟨tree, 0, fault?, []⟩

/-- A file system in which nothing fails of itself. -/
def reliable (tree : FileTree) : Disk := ofTree tree fun _ => none

/-- Carries out an operation on the tree; it is given how much it may do if it is to fail. -/
def operate {α : Type} (f : FileTree → Option Nat → FileTree × α) : StateM Disk α := fun d =>
  let (tree, result) := f d.tree (d.fault? d.count)
  (result, { d with tree, count := d.count + 1, history := tree :: d.history })

/-- Carries out an operation that does nothing if it fails. -/
def operateAtOnce {α : Type} (failed : α) (f : FileTree → FileTree × α) : StateM Disk α :=
  operate fun t fault =>
    match fault with
    | some _ => (t, failed)
    | none => f t

/-- The operations on a tree; `place` chooses the locations of temporary files in a directory. -/
def operationsAt (place : FileTree → Location → Location) :
    FileOperations (StateM Disk) Location where
  readText? path := operateAtOnce none fun t => (t, (t.locate? path).bind t.text?)
  makeDirectories path := operate fun t fault =>
    let parts := pathParts path.toList
    match fault with
    | none => FileTree.makeDirectories parts.length t (t.start path) parts
    | some limit => ((FileTree.makeDirectories limit t (t.start path) parts).1, false)
  makeTemporary? directory := operateAtOnce none fun t =>
    match t.locate? directory with
    | some l =>
      if t.isDirectory l then
        let fresh := place t l
        (t.set fresh (.file ""), some fresh)
      else (t, none)
    | none => (t, none)
  write file text := operate fun t fault =>
    match fault with
    | none => (t.set file (.file text), true)
    | some length => (t.set file (.file (String.ofList (text.toList.take length))), false)
  sync _ := operateAtOnce false fun t => (t, true)
  move file path := operateAtOnce false fun t =>
    match t.locate? path, t.text? file with
    | some l, some text =>
      if t.isDirectory l then (t, false) else ((t.remove file).set l (.file text), true)
    | _, _ => (t, false)
  discard file := operate fun t _ => (t.remove file, ())

/-- The operations on a tree, with temporary files under the first name that is free. -/
def operations : FileOperations (StateM Disk) Location := operationsAt FileTree.freshLocation

end Disk

end RouteTable
