import RouteTable.Table

/-!
# Paths of named routes

Model of `UrlGenerator::generate` (`dispatch::url`). A template is filled in by putting the value of
a parameter in the place of its name in braces. Values are inserted as they are.
-/

namespace RouteTable

/-- Why no path can be made. -/
inductive UrlError where
  | unknownRoute (name : String)
  | missingParameter (route parameter : String)
  deriving DecidableEq, Repr

/-- The wording of an error. -/
def UrlError.message : UrlError → String
  | .unknownRoute name => s!"No route named \"{name}\""
  | .missingParameter route parameter => s!"Route \"{route}\" requires parameter \"{parameter}\""

/-- Fills in a template. `name` is what has been read of a name, the latest character first, inside
braces. A brace that is not closed is text. The error is the name of the first parameter that has no
value. -/
def fillIn (params : List (String × String)) :
    Option (List Char) → List Char → Except String (List Char)
  | none, [] => .ok []
  | some name, [] => .ok ('\x7b' :: name.reverse)
  | none, c :: cs =>
    if c = '\x7b' then fillIn params (some []) cs
    else do return c :: (← fillIn params none cs)
  | some name, c :: cs =>
    if c = '\x7d' then
      match params.lookup (String.ofList name.reverse) with
      | none => .error (String.ofList name.reverse)
      | some value => do return value.toList ++ (← fillIn params none cs)
    else fillIn params (some (c :: name)) cs

/-- The path of a named route. Parameters that the route does not use are ignored; of two values
for a parameter the first counts. -/
def NamedRoutes.generate (named : NamedRoutes) (name : String)
    (params : List (String × String)) : Except UrlError String :=
  match named.get? name with
  | none => .error (.unknownRoute name)
  | some route =>
    match fillIn params none route.template.toList with
    | .ok path => .ok (String.ofList path)
    | .error parameter => .error (.missingParameter name parameter)

end RouteTable
