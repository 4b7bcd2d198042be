/-!
# Paths of files

Model of the paths of the standard library. A path is a text whose parts are separated by slashes.
`joinPaths` (`Path::join`) appends one path to another, and `parentPath?` (`Path::parent`) is the
path without its last part.
-/

namespace RouteTable

/-- The parts of a path, empty ones included. -/
def pathParts : List Char → List (List Char)
  | [] => [[]]
  | c :: cs =>
    if c = '/' then [] :: pathParts cs
    else
      match pathParts cs with
      | [] => [[c]]
      | part :: parts => (c :: part) :: parts

/-- The path of the given parts. -/
def pathOfParts (parts : List (List Char)) : List Char := ['/'].intercalate parts

/-- Whether a path starts at the root. -/
def isAbsolute (path : String) : Bool := path.toList.head? == some '/'

/-- The path `path`, seen from the directory `base`. -/
def joinPaths (base path : String) : String :=
  if isAbsolute path || base.isEmpty then path
  else if base.toList.getLast? == some '/' then base ++ path
  else base ++ "/" ++ path

/-- Whether a part leads nowhere. -/
def isVoidPart (part : List Char) : Bool := part == [] || part == ['.']

/-- The parts without those at the end that lead nowhere. -/
def dropVoidEnd (parts : List (List Char)) : List (List Char) :=
  (parts.reverse.dropWhile isVoidPart).reverse

/-- The parts without the last that leads somewhere; none if there is no such part. -/
def dropLastPart? (parts : List (List Char)) : Option (List (List Char)) :=
  match (dropVoidEnd parts).reverse with
  | [] => none
  | _ :: parts => some (dropVoidEnd parts.reverse)

/-- The path without its last part. The root has no parent; that of a single name is the empty
path. -/
def parentPath? (path : String) : Option String :=
  match path.toList with
  | '/' :: rest =>
    (dropLastPart? (pathParts rest)).map fun parts => String.ofList ('/' :: pathOfParts parts)
  | text =>
    match pathParts text with
    | ['.'] :: parts =>
      match dropLastPart? parts with
      | some parts => some (String.ofList (pathOfParts (['.'] :: parts)))
      | none => some ""
    | parts => (dropLastPart? parts).map fun parts => String.ofList (pathOfParts parts)

/-- The directory that a file with the given path is in. -/
def directoryOf (path : String) : Option String :=
  (parentPath? path).filter fun parent => !parent.isEmpty

end RouteTable
