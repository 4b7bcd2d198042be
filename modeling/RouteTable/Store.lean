import RouteTable.Files.Disk
import RouteTable.Table

/-!
# Tables in files

Model of `dispatch::store`. A table is written to a temporary file beside its place and then moved
there, so that at no time does anyone find half of a table.

* `FileOperations.publish` (`dump`, `write_and_persist`) writes a table. If the temporary file
  cannot be moved, the error that is returned keeps it.
* `FileOperations.letGo` lets go of an error, and so takes away the file that it keeps.
* `FileOperations.dump` is one after the other: a call of `dump` whose error has been reported.
* `FileOperations.load` (`load`) reads a table.
-/

namespace RouteTable

/-- Why a table is not read or written. -/
inductive StoreError where
  | unreadable (path : String)
  | malformed (path : String)
  | noDirectory (path : String)
  | noTemporary (directory : String)
  | unwritable
  | unmovable (path : String)
  deriving DecidableEq, Repr

/-- What is said of a failing operation on files. -/
def fileFailure : String := "<io error>"

/-- What is said of a text that is not JSON, or not of the right shape. -/
def jsonFailure : String := "<json error>"

/-- The wording of an error, the general statement first. -/
def StoreError.messages : StoreError → List String
  | .unreadable path => [s!"Failed to read {path}", fileFailure]
  | .malformed path => [s!"Failed to parse dispatch table {path}", jsonFailure]
  | .noDirectory path => [s!"Failed to create {path}", fileFailure]
  | .noTemporary directory => [s!"Failed to create a temporary file in {directory}", fileFailure]
  | .unwritable => [fileFailure]
  | .unmovable path => [s!"Failed to move table to {path}", fileFailure]

/-- Why a table has not been written, and the temporary file if that is still there. -/
structure Unwritten (τ : Type) where
  cause : StoreError
  kept : Option τ
  deriving DecidableEq, Repr

namespace FileOperations

variable {m : Type → Type} [Monad m] {τ : Type}

/-- Writes a text to a new temporary file and moves it to its place. A temporary file that cannot be
written is taken away at once; one that cannot be moved goes to the error. -/
def writeAndMove (files : FileOperations m τ) (directory path text : String) :
    m (Except (Unwritten τ) Unit) := do
  match ← files.makeTemporary? directory with
  | none => return .error ⟨.noTemporary directory, none⟩
  | some file =>
    let written ← do
      if ← files.write file text then files.sync file else pure false
    if !written then
      files.discard file
      return .error ⟨.unwritable, none⟩
    else if ← files.move file path then return .ok ()
    else return .error ⟨.unmovable path, some file⟩

/-- Writes a table to a file, in place of what is there. Directories on the way are made. -/
def publish (files : FileOperations m τ) (table : DispatchTable) (path : String) :
    m (Except (Unwritten τ) Unit) := do
  match directoryOf path with
  | none => files.writeAndMove "." path table.toJson
  | some directory =>
    if ← files.makeDirectories directory then files.writeAndMove directory path table.toJson
    else return .error ⟨.noDirectory directory, none⟩

/-- Lets go of an error: of what it keeps nothing is left but the cause. -/
def letGo (files : FileOperations m τ) (e : Unwritten τ) : m StoreError := do
  match e.kept with
  | some file => files.discard file
  | none => pure ()
  return e.cause

/-- Writes a table to a file, and lets go of the error if there is one. -/
def dump (files : FileOperations m τ) (table : DispatchTable) (path : String) :
    m (Except StoreError Unit) := do
  match ← files.publish table path with
  | .ok () => return .ok ()
  | .error e => return .error (← files.letGo e)

/-- Reads a table from a file. -/
def load (files : FileOperations m τ) (path : String) : m (Except StoreError DispatchTable) := do
  match ← files.readText? path with
  | none => return .error (.unreadable path)
  | some text =>
    match DispatchTable.ofJson? text with
    | none => return .error (.malformed path)
    | some table => return .ok table

end FileOperations

end RouteTable
