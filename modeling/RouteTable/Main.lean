import RouteTable.CommandLine.Basic

/-!
# The program

Model of `main`. Carries out the command that it is called with on the files of the machine.
-/

namespace RouteTable

/-- Whether the action succeeds. -/
def succeeds (action : IO Unit) : IO Bool := do
  try
    action
    return true
  catch _ => return false

/-- A file that is there for a short time: its path and the handle to write to it. -/
structure TemporaryFile where
  path : String
  handle : IO.FS.Handle

/-- Makes a file with one of `attempts` names that no file has yet, from the number `n`. -/
def makeTemporaryFile (directory : String) (n : Nat) : Nat → IO (Option TemporaryFile)
  | 0 => return none
  | attempts + 1 => do
    let path := joinPaths directory (FileTree.temporaryName n)
    try
      return some ⟨path, ← IO.FS.Handle.mk path .writeNew⟩
    catch _ => makeTemporaryFile directory (n + 1) attempts

/-- The operations on the files of the machine. -/
def machineFiles : FileOperations IO TemporaryFile where
  readText? path := do
    try
      return some (← IO.FS.readFile path)
    catch _ => return none
  makeDirectories path := succeeds (IO.FS.createDirAll path)
  makeTemporary? directory := do makeTemporaryFile directory (← IO.monoNanosNow) 100
  write file text := succeeds (file.handle.putStr text)
  sync file := succeeds file.handle.flush
  move file path := succeeds (IO.FS.rename file.path path)
  discard file := discard (succeeds (IO.FS.removeFile file.path))

/-- The lines of a cause: the first behind its head, the others below its text. -/
def causeLines (head message : String) : List String :=
  match message.splitOn "\n" with
  | [] => [head]
  | first :: rest =>
    let blanks := String.ofList (head.toList.map fun _ => ' ')
    (head ++ first) :: rest.map (blanks ++ ·)

/-- The lines that tell of a failure: the causes are numbered if there are several. -/
def failureLines : List String → List String
  | [] => []
  | [message] => ["Error: " ++ message]
  | [message, cause] => ["Error: " ++ message, "", "Caused by:"] ++ causeLines "    " cause
  | message :: causes =>
    ["Error: " ++ message, "", "Caused by:"] ++
      causes.zipIdx.flatMap fun (cause, n) => causeLines s!"    {n}: " cause

end RouteTable

open RouteTable in
/-- Runs the command line; failures and misuse end with the code 1. -/
def main (words : List String) : IO UInt32 := do
  match Command.ofWords words with
  | .error .help =>
    IO.println usage
    return 0
  | .error (.version command) =>
    IO.println (versionText command)
    return 0
  | .error .misuse =>
    IO.eprintln usage
    return 1
  | .ok command =>
    match ← command.run machineFiles with
    | .success output =>
      IO.print output
      return 0
    | .failure messages =>
      IO.eprint (textOfLines (failureLines messages))
      return 1
