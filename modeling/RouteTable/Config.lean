import RouteTable.Files.Path
import RouteTable.Store
import RouteTable.Toml.Reader

/-!
# Configurations

Model of `AppConfig` and `ModuleConfig` (`config`). A configuration says where the table goes and
which modules there are. A module is a namespace of classes, whose routes are mounted below a path.

* `Module.mountPath` (`url_prefix`) is that path.
* `Config.problems` (`validate`) lists everything that is wrong with a configuration.
* `Config.ofToml` (`from_str`) reads a configuration and refuses one with problems;
  `FileOperations.loadConfig` (`load`) takes it from a file.
-/

namespace RouteTable

/-- A group of classes with the path that its routes are mounted below. -/
structure Module where
  name : String
  namespaceName : String
  mount : Option String
  deriving DecidableEq, Repr

/-- The name of the module that is mounted at the top if nothing else is said. -/
def frontModule : String := "front"

/-- The path that the routes of a module are mounted below. -/
def Module.mountPath (m : Module) : String :=
  match m.mount with
  | some path => path
  | none => if m.name = frontModule then "" else "/" ++ m.name

/-- Where the table goes and which modules there are. -/
structure Config where
  writablePath : String := "writable/generated"
  output : String := "routes.json"
  modules : List Module := []
  deriving DecidableEq, Repr

/-- What is wrong with a configuration. -/
inductive ConfigProblem where
  | emptyOutput
  | declaredTwice (name : String)
  | emptyNamespace (name : String)
  deriving DecidableEq, Repr

/-- The wording of a problem. -/
def ConfigProblem.message : ConfigProblem → String
  | .emptyOutput => "output file name must not be empty"
  | .declaredTwice name => s!"module \"{name}\" is declared twice"
  | .emptyNamespace name => s!"module \"{name}\" has an empty namespace"

/-- Why there is no configuration. -/
inductive ConfigError where
  | malformed
  | invalid (problems : List ConfigProblem)
  deriving DecidableEq, Repr

/-- What is said of a text that is not TOML, or not of the right shape. -/
def tomlFailure : String := "<toml error>"

/-- The wording of an error, the general statement first. -/
def ConfigError.messages : ConfigError → List String
  | .malformed => ["Failed to parse configuration", tomlFailure]
  | .invalid problems =>
    ["Invalid configuration: " ++ ", ".intercalate (problems.map ConfigProblem.message)]

/-! ## Decoding -/

namespace Toml

/-- The text of a string. -/
def toString? : Toml → Option String
  | .string value => some value
  | _ => none

/-- The values of a record with the given fields: a table, or an array of the first of them. -/
def fields? (names : List String) : Toml → Option (List (Option Toml))
  | .table _ entries => some (names.map fun name => entries.lookup name)
  | .inlineTable _ entries => some (names.map fun name => entries.lookup name)
  | .array items => some ((List.range names.length).map fun i => items[i]?)
  | _ => none

/-- The items of an array. -/
def items? : Toml → Option (List Toml)
  | .array items => some items
  | .tables elements => some (elements.map fun es => .table {} es)
  | _ => none

/-- The text under a key, or `default` if there is none. -/
def Entries.stringAt? (es : Entries) (key : String) (default : String) : Option String :=
  match es.lookup key with
  | none => some default
  | some value => value.toString?

end Toml

/-- The module that a value describes. -/
def Module.decode? (value : Toml) : Option Module := do
  match ← value.fields? ["name", "namespace", "url_prefix"] with
  | [some name, some namespaceName, mount] =>
    return ⟨← name.toString?, ← namespaceName.toString?,
      ← match mount with
        | none => some none
        | some mount => mount.toString?.map some⟩
  | _ => none

/-- The configuration that a document describes. -/
def Config.decode? (es : Toml.Entries) : Option Config := do
  let default : Config := {}
  return {
    writablePath := ← es.stringAt? "writable_path" default.writablePath
    output := ← es.stringAt? "output" default.output
    modules := ← match es.lookup "modules" with
      | none => some []
      | some value => do (← value.items?).mapM Module.decode? }

/-! ## Checks -/

/-- What is wrong with modules that come after modules with the given names. -/
def moduleProblems (seen : List String) : List Module → List ConfigProblem
  | [] => []
  | m :: ms =>
    (if m.name ∈ seen then [.declaredTwice m.name] else []) ++
      (if m.namespaceName = "" then [.emptyNamespace m.name] else []) ++
      moduleProblems (m.name :: seen) ms

/-- What is wrong with a configuration. -/
def Config.problems (c : Config) : List ConfigProblem :=
  (if c.output = "" then [.emptyOutput] else []) ++ moduleProblems [] c.modules

/-- Where the table goes. -/
def Config.outputPath (c : Config) : String := joinPaths c.writablePath c.output

/-- The configuration of a text. -/
def Config.ofToml (text : String) : Except ConfigError Config :=
  match (Toml.read? text).bind Config.decode? with
  | none => .error .malformed
  | some c => if c.problems = [] then .ok c else .error (.invalid c.problems)

/-! ## Files -/

/-- Why a configuration file gives no configuration. -/
inductive ConfigFileError where
  | unreadable (path : String)
  | unusable (path : String) (cause : ConfigError)
  deriving DecidableEq, Repr

/-- The wording of an error, the general statement first. -/
def ConfigFileError.messages : ConfigFileError → List String
  | .unreadable path => [s!"Failed to read configuration {path}", fileFailure]
  | .unusable path cause => s!"Failed to load configuration {path}" :: cause.messages

/-- Reads a configuration from a file. -/
def FileOperations.loadConfig {m : Type → Type} [Monad m] {τ : Type} (files : FileOperations m τ)
    (path : String) : m (Except ConfigFileError Config) := do
  match ← files.readText? path with
  | none => return .error (.unreadable path)
  | some text =>
    match Config.ofToml text with
    | .error cause => return .error (.unusable path cause)
    | .ok config => return .ok config

end RouteTable
