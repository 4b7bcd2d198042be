/-!
# TOML documents

What a configuration text holds, and the rules by which keys and headers build it up. A table is
explicit if its own header or braces define it, and implicit if it exists only because something
in it was named; it is dotted if a dotted key named it. No table is defined twice, and no key is
given two values.

* `Toml.Node.descend?` changes the table at the end of a path.
* `Toml.Document` is a document being read: the tables that are complete, and the one that is not.
-/

namespace RouteTable

/-- How a table has come to be. -/
structure Toml.Origin where
  implicit : Bool := false
  dotted : Bool := false
  deriving DecidableEq, Repr

/-- A value, or a table with a header. Numbers and times are kept as they are written. -/
inductive Toml where
  | string (value : String)
  | truth (value : Bool)
  | number (source : List Char)
  | time (source : List Char)
  | array (items : List Toml)
  | inlineTable (origin : Toml.Origin) (entries : List (String × Toml))
  | table (origin : Toml.Origin) (entries : List (String × Toml))
  | tables (elements : List (List (String × Toml)))
  deriving Repr

namespace Toml

/-- The entries of a table. -/
abbrev Entries := List (String × Toml)

/-- A table with what is known of it while it is changed. -/
structure Node where
  origin : Origin
  entries : Entries

/-- Puts a value in the place of the one that the key has, or at the end. -/
def Entries.set (es : Entries) (key : String) (value : Toml) : Entries :=
  match es with
  | [] => [(key, value)]
  | (k, v) :: es => if k = key then (k, value) :: es else (k, v) :: Entries.set es key value

/-- The entries without the key. -/
def Entries.erase (es : Entries) (key : String) : Entries :=
  es.filter fun e => e.1 ≠ key

/-- Adds a value under a key that has none. -/
def Entries.add? (es : Entries) (key : String) (value : Toml) : Option Entries :=
  match es.lookup key with
  | some _ => none
  | none => some (es ++ [(key, value)])

/-- Changes the table at the end of `path`, which starts at `node`, and returns what `change` has
found there; tables that are missing are made. Through an array of tables the path goes to the last
one. A dotted path (`dotted`) does not go through explicit tables, and no path goes through
values. -/
def Node.descend? {α : Type} (change : Node → Option (α × Node)) (dotted : Bool) :
    List String → Node → Option (α × Node)
  | [], node => change node
  | key :: path, node =>
    match node.entries.lookup key with
    | none => do
      let (found, child) ← Node.descend? change dotted path ⟨⟨true, dotted⟩, []⟩
      let value := .table child.origin child.entries
      return (found, { node with entries := node.entries ++ [(key, value)] })
    | some (.table origin entries) => do
      if dotted && !origin.implicit then none
      let (found, child) ← Node.descend? change dotted path ⟨origin, entries⟩
      let value := .table child.origin child.entries
      return (found, { node with entries := node.entries.set key value })
    | some (.tables elements) => do
      let last ← elements.getLast?
      let (found, child) ← Node.descend? change dotted path ⟨{}, last⟩
      let value := .tables (elements.dropLast ++ [child.entries])
      return (found, { node with entries := node.entries.set key value })
    | some _ => none

/-- As `Node.descend?` for a dotted path, inside an inline table. -/
def Node.descendInline? (change : Node → Option Node) : List String → Node → Option Node
  | [], node => change node
  | key :: path, node =>
    match node.entries.lookup key with
    | none => do
      let child ← Node.descendInline? change path ⟨⟨true, true⟩, []⟩
      let value := .inlineTable child.origin child.entries
      return { node with entries := node.entries ++ [(key, value)] }
    | some (.inlineTable origin entries) => do
      if !origin.implicit then none
      let child ← Node.descendInline? change path ⟨origin, entries⟩
      let value := .inlineTable child.origin child.entries
      return { node with entries := node.entries.set key value }
    | some _ => none

/-- Adds a value to the table at the end of `path`. A dotted key extends dotted tables only, a
plain one only others. -/
def Node.addAt? (path : List String) (key : String) (value : Toml) (node : Node) : Option Node :=
  if node.origin.dotted = path.isEmpty then none
  else do return { node with entries := ← node.entries.add? key value }

/-- The path of a key and its last part. -/
def splitKey (key : List String) : List String × String :=
  (key.dropLast, key.getLast?.getD "")

/-- The inline table of the given keys and values. -/
def inlineOf? (pairs : List (List String × Toml)) : Option Toml := do
  let node ← pairs.foldlM
    (fun node (key, value) =>
      let (path, last) := splitKey key
      Node.descendInline? (Node.addAt? path last value) path node)
    (Node.mk {} [])
  return .inlineTable {} node.entries

/-! ## Documents -/

/-- A document being read: the complete tables, the entries of the current table, its path, and
whether it is an element of an array. -/
structure Document where
  root : Entries
  current : Entries
  path : List String
  isElement : Bool

/-- The document before the first line. -/
def Document.empty : Document := ⟨[], [], [], false⟩

/-- Adds a key and its value to the current table. -/
def Document.addPair? (d : Document) (key : List String) (value : Toml) : Option Document := do
  let (path, last) := splitKey key
  let add (node : Node) : Option (Unit × Node) := do return ((), ← Node.addAt? path last value node)
  let ((), node) ← Node.descend? add true path ⟨{}, d.current⟩
  return { d with current := node.entries }

/-- Puts the table `entries` under `key`, as a new element if it is one. -/
def Node.place? (key : String) (entries : Entries) (isElement : Bool) (node : Node) :
    Option (Unit × Node) :=
  if isElement then
    match node.entries.lookup key with
    | some (.tables elements) =>
      some ((), { node with entries := node.entries.set key (.tables (elements ++ [entries])) })
    | some _ => none
    | none => some ((), { node with entries := node.entries ++ [(key, .tables [entries])] })
  else do return ((), { node with entries := ← node.entries.add? key (.table {} entries) })

/-- Puts the current table in its place. -/
def Document.close? (d : Document) : Option Entries :=
  if d.path = [] then some d.current
  else do
    let (path, last) := splitKey d.path
    let ((), node) ← Node.descend? (Node.place? last d.current d.isElement) false path ⟨{}, d.root⟩
    return node.entries

/-- Takes out the table under `key`, so that it can be continued. Only an implicit table that is not
dotted can be; a table that is missing is empty. -/
def Node.take? (key : String) (node : Node) : Option (Entries × Node) :=
  let rest := { node with entries := node.entries.erase key }
  match node.entries.lookup key with
  | none => some ([], rest)
  | some (.table origin entries) =>
    if origin.implicit && !origin.dotted then some (entries, rest) else none
  | some _ => none

/-- Opens the table of a header. -/
def Document.openTable? (d : Document) (key : List String) : Option Document := do
  let root ← d.close?
  let (path, last) := splitKey key
  let (entries, node) ← Node.descend? (Node.take? last) false path ⟨{}, root⟩
  return ⟨node.entries, entries, key, false⟩

/-- Opens a new element of the array of tables of a header. -/
def Document.openElement? (d : Document) (key : List String) : Option Document := do
  return ⟨← d.close?, [], key, true⟩

end Toml

end RouteTable
