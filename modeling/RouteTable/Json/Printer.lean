import RouteTable.Json.Value

/-!
# Printing JSON

Model of `serde_json::to_string_pretty`. One item or member on a line, two blanks of indentation for
each level, a blank after the colon; empty arrays and objects are closed at once.
-/

namespace RouteTable.Json

/-- A new line at the given level. -/
def newLine (depth : Nat) : List Char := '\n' :: List.replicate (2 * depth) ' '

/-- A string in quotes. -/
def quoted (source : List Char) : List Char := '"' :: (source ++ ['"'])

mutual

/-- The text of a value that starts at the given level. -/
def print (depth : Nat) : Json → List Char
  | .null => "null".toList
  | .bool true => "true".toList
  | .bool false => "false".toList
  | .number source => source
  | .string source => quoted source
  | .array [] => ['[', ']']
  | .array (item :: items) =>
    '[' :: (newLine (depth + 1) ++ print (depth + 1) item ++ printItems (depth + 1) items ++
      newLine depth ++ [']'])
  | .object [] => ['\x7b', '\x7d']
  | .object ((key, value) :: members) =>
    '\x7b' :: (newLine (depth + 1) ++ quoted key ++ [':', ' '] ++ print (depth + 1) value ++
      printMembers (depth + 1) members ++ newLine depth ++ ['\x7d'])

/-- The text of the further items of an array. -/
def printItems (depth : Nat) : List Json → List Char
  | [] => []
  | item :: items => ',' :: (newLine depth ++ print depth item ++ printItems depth items)

/-- The text of the further members of an object. -/
def printMembers (depth : Nat) : List (List Char × Json) → List Char
  | [] => []
  | (key, value) :: members =>
    ',' :: (newLine depth ++ quoted key ++ [':', ' '] ++ print depth value ++
      printMembers depth members)

end

/-- The text of a value. -/
def pretty (value : Json) : String := String.ofList (value.print 0)

end RouteTable.Json
