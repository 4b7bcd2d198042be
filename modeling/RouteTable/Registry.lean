import RouteTable.Dispatcher

/-!
# Dispatching to targets

Model of `HandlerRegistry` and `dispatch_request` (`resolver`). A registry holds what handlers stand
for. A request is dispatched by finding its handler and looking that up; if there is none, the error
has an HTTP status.
-/

namespace RouteTable

/-- What handlers stand for. -/
structure Registry (α : Type) where
  targets : List (Handler × α)

namespace Registry

variable {α : Type}

/-- The registry that knows no handler. -/
def empty : Registry α := ⟨[]⟩

/-- What a handler stands for. -/
def resolve? (r : Registry α) (h : Handler) : Option α := r.targets.lookup h

/-- The registry in which a handler stands for `target`. -/
def insert (r : Registry α) (h : Handler) (target : α) : Registry α :=
  ⟨(h, target) :: r.targets.filter fun e => e.1 ≠ h⟩

end Registry

/-- Why a request has no target. -/
inductive DispatchError where
  | notFound
  | methodNotAllowed (allowed : List String)
  | unresolved (handler : Handler)
  deriving DecidableEq, Repr

/-- The wording of an error. -/
def DispatchError.message : DispatchError → String
  | .notFound => "No route matches the request"
  | .methodNotAllowed allowed =>
    "Method not allowed, allowed methods: " ++ ", ".intercalate allowed
  | .unresolved handler => s!"Handler {handler} is not registered"

/-- The HTTP status of an error. -/
def DispatchError.status : DispatchError → Nat
  | .notFound => 404
  | .methodNotAllowed _ => 405
  | .unresolved _ => 500

/-- The target of a request and the variables of its path. -/
def Dispatcher.dispatch {α : Type} (d : Dispatcher) (registry : Registry α)
    (method path : String) : Except DispatchError (α × List (String × String)) :=
  match d.find method path with
  | .found result =>
    match registry.resolve? result.handler with
    | some target => .ok (target, result.values)
    | none => .error (.unresolved result.handler)
  | .notFound => .error .notFound
  | .methodNotAllowed allowed => .error (.methodNotAllowed allowed)

end RouteTable
