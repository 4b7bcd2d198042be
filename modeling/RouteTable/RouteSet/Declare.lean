import RouteTable.RouteSet.Basic

/-!
# Declaring routes

A declaration is checked against the routes accepted before it, then taken in. Checks come first
and in a fixed order, so that a refused declaration leaves nothing behind.

* `declareStatic` (`add_static_route`, `StaticRoutes::add`) refuses a literal path that has a
  handler for one of the methods, or that an earlier expression would catch for one of them.
* `declareVariable` (`add_variable_route`, `VariableRoutes::add`) refuses a pattern that names two
  placeholders alike, an expression that has a target for one of the methods, and a new expression
  that does not compile.
* `declare` (`add_route`, `add_definition`) reads the pattern first and then is one of the two.
* `RouteSet.ofDeclarations` (`RouteCompiler::try_from`) declares a list and stops at the first that
  is refused.
-/

namespace RouteTable

/-- A route as it is declared. -/
structure Declaration where
  methods : Methods
  pattern : String
  handler : Handler
  name : Option String
  deriving DecidableEq

/-- A step in which routes are declared; what it has changed stays even if it fails. -/
abbrev Registration := ExceptT RouteError (StateM RouteSet)

/-- Fails with the error if there is one. -/
def refuseIf (error : Option RouteError) : Registration Unit :=
  match error with
  | some e => throw e
  | none => pure ()

/-- The first method for which the path already has a handler. -/
def RouteSet.staticDuplicate? (s : RouteSet) (methods : Methods) (path : String) :
    Option RouteError :=
  (methods.toList.find? fun m => s.staticRoutes.hasRoute path m.name).map fun m =>
    .duplicateRoute path m.name

/-- The first method for which an expression catches the path. -/
def RouteSet.shadowed? (s : RouteSet) (methods : Methods) (path : String) : Option RouteError :=
  methods.toList.findSome? fun m =>
    (s.variableRoutes.shadowing? path m.name).map fun regex => .shadowedRoute path regex m.name

/-- The first method for which the expression already has a target. -/
def RouteSet.variableDuplicate? (s : RouteSet) (methods : Methods) (regex : String) :
    Option RouteError :=
  (methods.toList.find? fun m => s.variableRoutes.hasRoute regex m.name).map fun m =>
    .duplicateRoute regex m.name

/-- Declares a literal path. -/
def declareStatic (methods : Methods) (path : String) (handler : Handler) (name : Option String) :
    Registration Unit := do
  refuseIf ((← get).staticDuplicate? methods path)
  refuseIf ((← get).shadowed? methods path)
  modify fun s => { s with staticRoutes := s.staticRoutes.insertAll path methods handler }
  modify fun s => s.registerName name ⟨path, []⟩

/-- Makes a place for an expression that has none. -/
def reserve (regex : String) (groupCount : Nat) : Registration Unit := do
  if (← get).variableRoutes.index.contains regex then return
  match VariableRoute.ofRegex regex groupCount with
  | .error e => throw (.invalidPattern regex (.expression e))
  | .ok route => modify fun s => { s with variableRoutes := s.variableRoutes.push route }

/-- Declares a pattern with the given tokens. -/
def declareVariable (methods : Methods) (pattern : String) (tokens : List Token)
    (handler : Handler) (name : Option String) : Registration Unit := do
  match CompiledPattern.ofTokens tokens with
  | .error repeated => throw (.duplicatePlaceholder repeated pattern)
  | .ok p =>
    refuseIf ((← get).variableDuplicate? methods p.regex)
    reserve p.regex p.names.length
    modify fun s =>
      { s with variableRoutes := s.variableRoutes.addTargets p.regex methods ⟨handler, p.names⟩ }
    modify fun s => s.registerName name ⟨p.template, p.names⟩

/-- Declares a route. -/
def declare (d : Declaration) : Registration Unit := do
  if d.methods.isEmpty then throw (.noMethods d.pattern)
  match readTokens d.pattern with
  | .error fault => throw (.invalidPattern d.pattern fault)
  | .ok [.literal path] => declareStatic d.methods path d.handler d.name
  | .ok tokens => declareVariable d.methods d.pattern tokens d.handler d.name

/-- Declares routes in order, up to the first that is refused. -/
def declareAll : List Declaration → Registration Unit
  | [] => pure ()
  | d :: ds => do
    declare d
    declareAll ds

/-- The set of the given routes, or why one of them is refused. -/
def RouteSet.ofDeclarations (ds : List Declaration) : Except RouteError RouteSet :=
  match (declareAll ds).run .empty with
  | (.ok (), s) => .ok s
  | (.error e, _) => .error e

end RouteTable
