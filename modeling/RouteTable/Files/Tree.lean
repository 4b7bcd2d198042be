import RouteTable.Files.Path
import RouteTable.SortedMap

/-!
# Trees of files

Files and directories below the root, by their locations: the names of the directories that lead to
them, and their own. `FileTree.locate?` follows a path, from the root if it is absolute and from the
working directory if it is not. The root is its own parent.

No name is longer than 255 bytes or contains a null character, and there are no links.
-/

namespace RouteTable

/-- What is at a location. -/
inductive FileNode where
  | file (text : String)
  | directory
  deriving DecidableEq, Repr

/-- The names that lead to a file or directory. -/
abbrev Location := List String

/-- Files and directories by location. -/
structure FileTree where
  nodes : SortedMap Location FileNode
  /-- The working directory, where relative paths start. -/
  home : Location
  deriving DecidableEq

namespace FileTree

/-- The tree that holds nothing, with the root as working directory. -/
def empty : FileTree := ⟨.empty, []⟩

/-- What is at a location; the root is a directory. -/
def node? (t : FileTree) (l : Location) : Option FileNode :=
  if l = [] then some .directory else t.nodes.get? l

/-- Whether there is a directory at the location. -/
def isDirectory (t : FileTree) (l : Location) : Bool := t.node? l == some .directory

/-- The text of the file at the location. -/
def text? (t : FileTree) (l : Location) : Option String :=
  match t.node? l with
  | some (.file text) => some text
  | _ => none

/-- The tree with a file or directory at the location. -/
def set (t : FileTree) (l : Location) (n : FileNode) : FileTree :=
  { t with nodes := t.nodes.insert l n }

/-- The tree without what is at the location. -/
def remove (t : FileTree) (l : Location) : FileTree :=
  { t with nodes := ⟨t.nodes.entries.filter fun e => e.1 ≠ l, t.nodes.sorted.filter _⟩ }

/-- Whether a file can have the name. -/
def isName (name : List Char) : Bool :=
  (String.ofList name).utf8ByteSize ≤ 255 && !name.contains '\x00'

/-- Follows the parts of a path from a location. The location may be one where nothing is, but all
directories on the way are there. -/
def follow? (t : FileTree) : Location → List (List Char) → Option Location
  | l, [] => some l
  | l, part :: parts =>
    if t.isDirectory l then
      if isVoidPart part then follow? t l parts
      else if part = ['.', '.'] then follow? t l.dropLast parts
      else if isName part then follow? t (l ++ [String.ofList part]) parts
      else none
    else none

/-- Where a path starts. -/
def start (t : FileTree) (path : String) : Location := if isAbsolute path then [] else t.home

/-- The location of a path. -/
def locate? (t : FileTree) (path : String) : Option Location :=
  if path.isEmpty then none else t.follow? (t.start path) (pathParts path.toList)

/-- Makes the directories of a path that are missing, but no more than `limit`, and none where there
is no directory to make it in. Returns the tree and whether all are there. -/
def makeDirectories (limit : Nat) : FileTree → Location → List (List Char) → FileTree × Bool
  | t, _, [] => (t, true)
  | t, l, part :: parts =>
    if isVoidPart part then makeDirectories limit t l parts
    else if part = ['.', '.'] then makeDirectories limit t l.dropLast parts
    else if !isName part then (t, false)
    else
      let next := l ++ [String.ofList part]
      match t.node? next, limit with
      | some .directory, _ => makeDirectories limit t next parts
      | some (.file _), _ => (t, false)
      | none, 0 => (t, false)
      | none, limit + 1 =>
        if t.isDirectory l then makeDirectories limit (t.set next .directory) next parts
        else (t, false)

/-- A name for a temporary file. -/
def temporaryName (n : Nat) : String := s!".tmp{n}"

/-- A location in a directory where nothing is: one of the first names that are more in number than
the files and directories of the tree. -/
def freshLocation (t : FileTree) (directory : Location) : Location :=
  let candidates := (List.range (t.nodes.size + 1)).map fun n => directory ++ [temporaryName n]
  (candidates.find? fun l => (t.node? l).isNone).getD (directory ++ [temporaryName 0])

/-- The paths of all files, seen from the root, sorted. -/
def files (t : FileTree) : List String :=
  (SortedMap.ofList (t.nodes.entries.filterMap fun (l, n) =>
    match n with
    | .file _ => some ("/".intercalate l, ())
    | .directory => none)).keys

end FileTree

end RouteTable
