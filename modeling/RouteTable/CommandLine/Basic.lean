import RouteTable.CommandLine.Arguments
import RouteTable.Dispatcher
import RouteTable.RouteSet.Build
import RouteTable.Scan
import RouteTable.Url

/-!
# The command line

Model of `Command`, `main` and `compile` (`main`). There are three commands: `compile` makes a table
of annotations, `match` answers a request from a table, and `url` makes the path of a named route.

* `Command.ofWords` reads a command.
* `Command.run` carries it out on any file system.
-/

namespace RouteTable

/-- What is to be done. -/
inductive Command where
  | compile (config annotations : String) (output : Option String)
  | find (table method path : String)
  | url (table name : String) (parameters : List String)
  deriving DecidableEq, Repr

/-- What has come of it: text, or why there is none, the general statement first. -/
inductive Outcome where
  | success (output : String)
  | failure (messages : List String)
  deriving DecidableEq, Repr

/-! ## Reading -/

/-- What `compile` takes. -/
def compileSpec : CommandSpec :=
  ⟨"compile", [⟨'c', "config", true⟩, ⟨'a', "annotations", true⟩, ⟨'o', "output", false⟩], 0,
    false⟩

/-- What `match` takes. -/
def matchSpec : CommandSpec := ⟨"match", [⟨'t', "table", true⟩], 2, false⟩

/-- What `url` takes. -/
def urlSpec : CommandSpec := ⟨"url", [⟨'t', "table", true⟩], 1, true⟩

/-- The name and version of the program, or of one of its commands. -/
def versionText (command : String) : String :=
  (if command = "" then "route-compiler" else "route-compiler-" ++ command) ++ " 0.1.0"

/-- How the program is to be called. -/
def usage : String :=
  "USAGE:\n" ++
    "    route-compiler compile --config <config> --annotations <annotations> [--output <output>]\n" ++
    "    route-compiler match --table <table> <method> <path>\n" ++
    "    route-compiler url --table <table> <name> [<key>=<value>]..."

/-- The command that words ask for. -/
def Command.ofWords : List String → Except ArgumentStop Command
  | "compile" :: words => do
    let a ← Arguments.ofWords compileSpec words
    match a.value? 'c', a.value? 'a' with
    | some config, some annotations => return .compile config annotations (a.value? 'o')
    | _, _ => throw .misuse
  | "match" :: words => do
    let a ← Arguments.ofWords matchSpec words
    match a.value? 't', a.operands with
    | some table, [method, path] => return .find table method path
    | _, _ => throw .misuse
  | "url" :: words => do
    let a ← Arguments.ofWords urlSpec words
    match a.value? 't', a.operands with
    | some table, name :: parameters => return .url table name parameters
    | _, _ => throw .misuse
  | ["help"] => .error .help
  | ["help", word] => .error (if word ∈ ["compile", "match", "url"] then .help else .misuse)
  | word :: _ =>
    match readArguments ⟨"", [], 0, false⟩ false [word] ⟨[], []⟩ with
    | .error stop => .error stop
    | .ok _ => .error .misuse
  | [] => .error .misuse

/-- A parameter of the form `key=value`. -/
def splitParameter? (text : String) : Option (String × String) :=
  let chars := text.toList
  match chars.dropWhile (· != '=') with
  | [] => none
  | _ :: value => some (String.ofList (chars.takeWhile (· != '=')), String.ofList value)

/-- The parameters that words give, or the first word that gives none. -/
def parametersOf : List String → Except String (List (String × String))
  | [] => .ok []
  | word :: words =>
    match splitParameter? word with
    | none => .error word
    | some p => do return p :: (← parametersOf words)

/-! ## Printing -/

/-- The lines that tell of an answer. -/
def Answer.lines : Answer → List String
  | .found result =>
    toString result.handler :: result.values.map fun (name, value) => s!"  {name} = {value}"
  | .notFound => ["404 Not Found"]
  | .methodNotAllowed allowed =>
    ["405 Method Not Allowed (allowed: " ++ ", ".intercalate allowed ++ ")"]

/-- The text of lines. -/
def textOfLines (lines : List String) : String := String.join (lines.map (· ++ "\n"))

/-! ## Running -/

section Run

variable {m : Type → Type} [Monad m] {τ : Type} (files : FileOperations m τ)

/-- Reads a table and makes it ready. -/
def FileOperations.openTable (path : String) : m (Except (List String) Dispatcher) := do
  match ← files.load path with
  | .error e => return .error e.messages
  | .ok table =>
    match Dispatcher.ofTable table with
    | .error e => return .error e.messages
    | .ok d => return .ok d

/-- The table of annotations. -/
def compileTable (config : Config) (annotations : List Annotation) :
    Except (List String) DispatchTable :=
  match (scan config.modules annotations).run .empty with
  | (.error e, _) => .error e.messages
  | (.ok (), routes) =>
    match routes.build with
    | .error e => .error [e.message]
    | .ok table => .ok table

/-- Compiles annotations and writes the table. -/
def runCompile (configPath annotationsPath : String) (output : Option String) : m Outcome := do
  match ← files.loadConfig configPath with
  | .error e => return .failure e.messages
  | .ok config =>
    match ← files.readText? annotationsPath with
    | none => return .failure [s!"Failed to read {annotationsPath}", fileFailure]
    | some text =>
      match readAnnotations? text with
      | none => return .failure ["Failed to parse route annotations", jsonFailure]
      | some annotations =>
        match compileTable config annotations with
        | .error messages => return .failure messages
        | .ok table =>
          match ← files.dump table (output.getD config.outputPath) with
          | .error e => return .failure e.messages
          | .ok () => return .success ""

/-- Answers a request. -/
def runFind (tablePath methodName path : String) : m Outcome := do
  match ← files.openTable tablePath with
  | .error messages => return .failure messages
  | .ok d =>
    match Method.ofString? (String.ofList (methodName.toList.map Char.toUpper)) with
    | none => return .failure (MethodError.mk methodName).messages
    | some method => return .success (textOfLines (d.find method.name path).lines)

/-- Makes a path. -/
def runUrl (tablePath name : String) (words : List String) : m Outcome := do
  match ← files.openTable tablePath with
  | .error messages => return .failure messages
  | .ok d =>
    match parametersOf words with
    | .error word => return .failure [s!"Expected key=value, got \"{word}\""]
    | .ok parameters =>
      match d.table.named.generate name parameters with
      | .error e => return .failure [e.message]
      | .ok path => return .success (textOfLines [path])

/-- Carries out a command. -/
def Command.run : Command → m Outcome
  | .compile config annotations output => runCompile files config annotations output
  | .find table method path => runFind files table method path
  | .url table name parameters => runUrl files table name parameters

end Run

end RouteTable
