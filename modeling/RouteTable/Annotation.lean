import RouteTable.Json.Decode
import RouteTable.Json.Reader
import RouteTable.Method
import RouteTable.Text

/-!
# Annotations

Model of `RouteAnnotation` and `parse_annotations` (`scanner::annotation`): routes as they are noted
on the methods of classes, a JSON array of records. The methods of a route are one name or a list of
names, with blanks around them and in small letters if one likes (`MethodList::to_methods`).
-/

namespace RouteTable

/-- The names of HTTP methods, as they are noted. -/
inductive MethodNames where
  | one (name : String)
  | many (names : List String)
  deriving DecidableEq, Repr

/-- A route noted on a method of a class. -/
structure Annotation where
  className : String
  methodName : String
  methods : MethodNames
  path : String
  name : Option String
  deriving DecidableEq, Repr

/-- A name that no HTTP method has. -/
structure MethodError where
  name : String
  deriving DecidableEq, Repr

/-- The wording of an error, the general statement first. -/
def MethodError.messages (e : MethodError) : List String :=
  [s!"Invalid HTTP method \"{e.name}\"", Method.invalidMessage]

/-- The names in order. -/
def MethodNames.toList : MethodNames → List String
  | .one name => [name]
  | .many names => names

/-- The method that is meant by a name. -/
def Method.ofNoted (name : String) : Except MethodError Method :=
  match Method.ofString? (String.ofList ((Text.trimBlank name.toList).map Char.toUpper)) with
  | some m => .ok m
  | none => .error ⟨name⟩

/-- The methods that are meant by names, or the first name that means none. -/
def MethodNames.methods (names : MethodNames) : Except MethodError (List Method) :=
  names.toList.mapM Method.ofNoted

/-! ## Reading -/

/-- The names that a tree holds. -/
def MethodNames.decode? : Json → Option MethodNames
  | .array items => (items.mapM Json.toString?).map .many
  | j => j.toString?.map .one

/-- The annotation that a tree holds. -/
def Annotation.decode? (j : Json) : Option Annotation := do
  match ← j.fields? ["class", "method", "route"] with
  | [some className, some methodName, some route] =>
    match ← route.fields? ["method", "path", "name"] with
    | [some methods, some path, name] =>
      return ⟨← className.toString?, ← methodName.toString?, ← MethodNames.decode? methods,
        ← path.toString?, ← (name.getD .null).nullable? Json.toString?⟩
    | _ => none
  | _ => none

/-- The annotations of a JSON text. -/
def readAnnotations? (text : String) : Option (List Annotation) := do
  (← Json.read? text).list? Annotation.decode?

end RouteTable
