import RouteTable.Method
import RouteTable.Pattern.Compiled
import RouteTable.Table

/-!
# Sets of routes

Model of `RouteCompiler` (`compiler`) with its `StaticRoutes` (`compiler::static_routes`) and
`VariableRoutes` (`compiler::variable_routes`): the routes accepted so far, in the three parts of
which a table is made. These are handlers of literal paths, the expressions of patterns with
placeholders in the order in which they were first declared, and named routes.

* `RouteError` (`CompileError`) lists why a declaration is refused, or why the accepted ones do not
  make a table.
* `VariableRoute` holds an expression together with its compiled form (`VariableRoute::new`).
* `VariableRoutes.shadowing?` (`shadowing`) is the first expression that would catch a literal path.
* `RouteSet.registerName` (`register_name`) keeps the first route of a name.
-/

namespace RouteTable

/-! ## Why a route is refused -/

/-- Why a declaration is refused. -/
inductive RouteError where
  | noMethods (pattern : String)
  | invalidPattern (pattern : String) (fault : PatternFault)
  | duplicatePlaceholder (name pattern : String)
  | duplicateRoute (route method : String)
  | shadowedRoute (route regex method : String)
  deriving DecidableEq, Repr

/-- The wording of an error. -/
def RouteError.message : RouteError → String
  | .noMethods pattern => s!"Route \"{pattern}\" declares no methods"
  | .invalidPattern pattern fault => s!"Invalid route pattern \"{pattern}\": {fault.message}"
  | .duplicatePlaceholder name pattern =>
    s!"Cannot use the same placeholder \"{name}\" twice in \"{pattern}\""
  | .duplicateRoute route method =>
    s!"Cannot register two routes matching \"{route}\" for method \"{method}\""
  | .shadowedRoute route regex method =>
    s!"Static route \"{route}\" is shadowed by previously defined variable route \"{regex}\" for method \"{method}\""

/-! ## Literal paths -/

namespace StaticTable

/-- Whether the path has a handler for the method. -/
def hasRoute (t : StaticTable) (path method : String) : Bool :=
  (t.get? path).any fun handlers => handlers.contains method

/-- Gives the path the handler for all methods. -/
def insertAll (t : StaticTable) (path : String) (methods : Methods) (h : Handler) : StaticTable :=
  t.insert path
    (methods.toList.foldl (fun handlers m => handlers.insert m.name h)
      ((t.get? path).getD .empty))

/-- The number of pairs of a path and a method. -/
def routeCount (t : StaticTable) : Nat := (t.values.map SortedMap.size).foldr (· + ·) 0

end StaticTable

/-! ## Patterns with placeholders -/

/-- The expression that matches a whole text if `regex` does. -/
def anchored (regex : String) : String := "^(?:" ++ regex ++ ")$"

/-- An expression made from a pattern, with what it leads to for each method. -/
structure VariableRoute where
  regex : String
  groupCount : Nat
  targets : SortedMap String Target
  matcher : Regex
  compiled : Regex.compile (anchored regex) = .ok matcher

namespace VariableRoute

/-- The route of an expression, without methods. -/
def ofRegex (regex : String) (groupCount : Nat) : Except RegexError VariableRoute :=
  match h : Regex.compile (anchored regex) with
  | .ok matcher => .ok ⟨regex, groupCount, .empty, matcher, h⟩
  | .error e => .error e

/-- Whether the whole path matches. -/
def isMatch (r : VariableRoute) (path : String) : Bool := r.matcher.isMatch path

/-- Leads to `target` for all methods. -/
def addTargets (r : VariableRoute) (methods : Methods) (target : Target) : VariableRoute :=
  { r with targets := methods.toList.foldl (fun ts m => ts.insert m.name target) r.targets }

end VariableRoute

/-- Expressions in order, and the place of each. -/
structure VariableRoutes where
  routes : List VariableRoute
  index : SortedMap String Nat

namespace VariableRoutes

/-- No expressions. -/
def empty : VariableRoutes := ⟨[], .empty⟩

/-- The route of an expression. -/
def find? (rs : VariableRoutes) (regex : String) : Option VariableRoute :=
  (rs.index.get? regex).bind fun i => rs.routes[i]?

/-- Whether the expression leads somewhere for the method. -/
def hasRoute (rs : VariableRoutes) (regex method : String) : Bool :=
  (rs.find? regex).any fun r => r.targets.contains method

/-- Adds a route at the end. -/
def push (rs : VariableRoutes) (r : VariableRoute) : VariableRoutes :=
  ⟨rs.routes ++ [r], rs.index.insert r.regex rs.routes.length⟩

/-- Adds targets to the route of an expression that has one. -/
def addTargets (rs : VariableRoutes) (regex : String) (methods : Methods) (target : Target) :
    VariableRoutes :=
  match rs.index.get? regex with
  | some i => { rs with routes := rs.routes.modify i fun r => r.addTargets methods target }
  | none => rs

/-- The first expression with a route for the method that matches the whole path. -/
def shadowing? (rs : VariableRoutes) (path method : String) : Option String :=
  ((rs.routes.filter fun r => r.targets.contains method).find? fun r => r.isMatch path).map
    VariableRoute.regex

/-- The number of expressions. -/
def size (rs : VariableRoutes) : Nat := rs.routes.length

/-- Whether there are no expressions. -/
def isEmpty (rs : VariableRoutes) : Bool := rs.routes.isEmpty

end VariableRoutes

/-! ## All routes -/

/-- The routes accepted so far. -/
structure RouteSet where
  staticRoutes : StaticTable
  variableRoutes : VariableRoutes
  named : NamedRoutes

namespace RouteSet

/-- The set without routes. -/
def empty : RouteSet := ⟨.empty, .empty, .empty⟩

instance : Inhabited RouteSet := ⟨empty⟩

/-- Gives the route the name, unless there is none or another route has it. -/
def registerName (s : RouteSet) (name : Option String) (route : NamedRoute) : RouteSet :=
  match name with
  | none => s
  | some name =>
    if s.named.contains name then s else { s with named := s.named.insert name route }

end RouteSet

end RouteTable
