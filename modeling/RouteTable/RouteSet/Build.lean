import RouteTable.Layout
import RouteTable.RouteSet.Basic

/-!
# Building a table

The expressions are split into chunks, in order, and each chunk is made one alternation. Groups are
numbered through the alternation, so the last group that takes part in a match tells which
alternative has matched.

* `Chunk.ofRoutes` (`chunk::process_chunk`) makes a chunk; `positions` are the keys of its route
  map.
* `VariableRoutes.pieces` and `checkChunks` are `chunk::assemble`.
* `RouteSet.build` (`RouteCompiler::build`) fails at the first chunk whose expression does not
  compile.
-/

namespace RouteTable

/-- Cuts a list into pieces of `size` members, of which the last may be shorter. -/
def splitEvery {α : Type} (size : Nat) : Nat → List α → List (List α)
  | 0, _ => []
  | _ + 1, [] => []
  | fuel + 1, x :: xs => (x :: xs).take size :: splitEvery size fuel ((x :: xs).drop size)

/-- The positions of routes that come after `groups` groups: for each, one more than the number of
groups up to its end. -/
def positions (groups : Nat) : List VariableRoute → List Nat
  | [] => []
  | r :: rs => (groups + r.groupCount + 1) :: positions (groups + r.groupCount) rs

/-- The chunk of some routes. -/
def Chunk.ofRoutes (routes : List VariableRoute) : Chunk where
  regex := anchored ("|".intercalate (routes.map VariableRoute.regex))
  routeMap := .ofList ((positions 0 routes).zip (routes.map VariableRoute.targets))

/-- The pieces into which routes are cut. -/
def VariableRoutes.pieces (rs : VariableRoutes) : List (List VariableRoute) :=
  splitEvery (chunkLayout rs.routes.length).2 rs.routes.length rs.routes

/-- Checks that the chunks, numbered from `i`, compile. -/
def checkChunks (i : Nat) : List Chunk → Except RouteError Unit
  | [] => .ok ()
  | c :: cs =>
    match Regex.compile c.regex with
    | .error e => .error (.invalidPattern s!"chunk {i}" (.expression e))
    | .ok _ => checkChunks (i + 1) cs

/-- The table of the routes. -/
def RouteSet.build (s : RouteSet) : Except RouteError DispatchTable := do
  let chunks := s.variableRoutes.pieces.map Chunk.ofRoutes
  checkChunks 0 chunks
  return ⟨s.staticRoutes, chunks, s.named⟩

end RouteTable
