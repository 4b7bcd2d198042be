import RouteTable.Table
import RouteTable.Regex.Basic

/-!
# Matching requests

Model of `Dispatcher` (`dispatch::dispatcher`): a table whose chunks are compiled. A request is
answered by the handler of its path, else by the first chunk that matches the path.

* `Dispatcher.ofTable` (`Dispatcher::new`, `validate_positions`) refuses a table that could not be
  answered from.
* `Captures.position` (`position`) is the key under which the answer of a chunk is filed.
* `Dispatcher.find` (`matches`) answers a request.
-/

namespace RouteTable

/-! ## Tables that can be answered from -/

/-- What is wrong with a route map. -/
inductive RouteMapFault where
  | outsideGroups (position : Nat)
  | tooManyVariables (method : String) (position count : Nat)
  deriving DecidableEq, Repr

/-- The wording of a fault. -/
def RouteMapFault.message : RouteMapFault → String
  | .outsideGroups position => s!"position {position} is outside the expression's groups"
  | .tooManyVariables method position count =>
    s!"{method} at position {position} declares {count} variables"

/-- What is wrong with a chunk. -/
inductive ChunkFault where
  | expression (cause : RegexError)
  | routeMap (cause : RouteMapFault)
  deriving DecidableEq, Repr

/-- Why a table is refused: the first chunk with a fault, and the fault. -/
structure TableError where
  chunk : Nat
  fault : ChunkFault
  deriving DecidableEq, Repr

/-- The wording of an error, the general statement first. -/
def TableError.messages (e : TableError) : List String :=
  match e.fault with
  | .expression cause => [s!"Invalid expression in chunk {e.chunk}", cause.message]
  | .routeMap cause => [s!"Invalid route map in chunk {e.chunk}", cause.message]

/-- The first target with as many variables as its position, or more. -/
def tooManyVariables? (position : Nat) (targets : SortedMap String Target) :
    Option RouteMapFault :=
  (targets.entries.find? fun e => position ≤ e.2.names.length).map fun e =>
    .tooManyVariables e.1 position e.2.names.length

/-- What is wrong at a position, in an expression with `groups` groups. -/
def positionFault? (groups position : Nat) (targets : SortedMap String Target) :
    Option RouteMapFault :=
  if position < 2 ∨ groups + 1 < position then some (.outsideGroups position)
  else tooManyVariables? position targets

/-- The compiled expression of a chunk. -/
def Chunk.compile (c : Chunk) : Except ChunkFault Regex := do
  match Regex.compile c.regex with
  | .error e => throw (.expression e)
  | .ok regex =>
    match c.routeMap.entries.findSome? fun e => positionFault? regex.groupCount e.1 e.2 with
    | some fault => throw (.routeMap fault)
    | none => return regex

/-- The compiled expressions of chunks numbered from `i`. -/
def compileChunks (i : Nat) : List Chunk → Except TableError (List Regex)
  | [] => .ok []
  | c :: cs =>
    match c.compile with
    | .error fault => .error ⟨i, fault⟩
    | .ok regex => return regex :: (← compileChunks (i + 1) cs)

/-- A table ready to answer requests. -/
structure Dispatcher where
  table : DispatchTable
  regexes : List Regex
  compiled : compileChunks 0 table.chunks = .ok regexes

/-- The dispatcher of a table. -/
def Dispatcher.ofTable (table : DispatchTable) : Except TableError Dispatcher :=
  match h : compileChunks 0 table.chunks with
  | .ok regexes => .ok ⟨table, regexes, h⟩
  | .error e => .error e

/-! ## Requests -/

/-- A handler and the variables of the path, in the order of the pattern. -/
structure Found where
  handler : Handler
  values : List (String × String)
  deriving DecidableEq, Repr

/-- The value of a variable. -/
def Found.get? (f : Found) (name : String) : Option String := f.values.lookup name

/-- The answer to a request. If only other methods have the path, these are listed. -/
inductive Answer where
  | found (result : Found)
  | notFound
  | methodNotAllowed (allowed : List String)
  deriving DecidableEq, Repr

/-- The number of the last group that has taken part, plus one. -/
def Captures.position (c : Captures) (groups : Nat) : Nat :=
  ((List.range groups).reverse.find? fun i => (c.span? (i + 1)).isSome).elim 1 (· + 2)

/-- The variables of a target filed under `position`: each has the text of its group, or no text if
the group has not taken part. -/
def Captures.values (c : Captures) (position : Nat) (names : List String) :
    List (String × String) :=
  names.zipIdx.map fun (name, i) =>
    (name, (c.group? (position - names.length + i)).getD "")

/-- A list of texts sorted, each once. -/
def sortedDistinct (texts : List String) : List String :=
  (SortedMap.ofList (texts.map fun t => (t, ()))).keys

/-- The answer if there is no handler for the method. -/
def Answer.ofAllowed (allowed : List String) : Answer :=
  if allowed = [] then .notFound else .methodNotAllowed (sortedDistinct allowed)

/-- The answer of the chunks, where the path is already known to be there for some methods. The
first chunk that matches decides. -/
def findInChunks (method path : String) (allowed : List String) : List (Chunk × Regex) → Answer
  | [] => .ofAllowed allowed
  | (chunk, regex) :: rest =>
    match regex.captures? path with
    | none => findInChunks method path allowed rest
    | some captures =>
      let position := captures.position regex.groupCount
      match chunk.routeMap.get? position with
      | none => .ofAllowed allowed
      | some targets =>
        match targets.get? method with
        | some target =>
          if target.names.length ≤ position then
            .found ⟨target.handler, captures.values position target.names⟩
          else .ofAllowed allowed
        | none => .ofAllowed (allowed ++ targets.keys)

/-- The answer to a request. -/
def Dispatcher.find (d : Dispatcher) (method path : String) : Answer :=
  let chunks := d.table.chunks.zip d.regexes
  match d.table.staticRoutes.get? path with
  | none => findInChunks method path [] chunks
  | some handlers =>
    match handlers.get? method with
    | some handler => .found ⟨handler, []⟩
    | none => findInChunks method path handlers.keys chunks

end RouteTable
