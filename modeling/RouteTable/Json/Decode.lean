import RouteTable.Json.Value
import RouteTable.SortedMap

/-!
# Values of a known shape

What `serde` derives for records, lists and maps. A record is an object with the fields of the
record, in any order and with other members beside them, or an array of its fields in their order.
No field may be given twice. A map is an object; of members with one key the last counts.
-/

namespace RouteTable.Json

/-- The members with their keys decoded. -/
def decodeKeys? (members : List (List Char × Json)) : Option (List (String × Json)) :=
  members.mapM fun (key, value) => do return (String.ofList (← unescape? key), value)

/-- What the members say of a field; fails if the field is given twice. -/
def fieldOf? (members : List (String × Json)) (name : String) : Option (Option Json) :=
  match members.filter fun m => m.1 == name with
  | [] => some none
  | [m] => some (some m.2)
  | _ => none

/-- The fields of a record with the given names; a field that is missing has no value. -/
def fields? (names : List String) : Json → Option (List (Option Json))
  | .object members => do
    let members ← decodeKeys? members
    names.mapM (fieldOf? members)
  | .array items =>
    if items.length ≤ names.length then
      some (items.map some ++ List.replicate (names.length - items.length) none)
    else none
  | _ => none

/-- The items of an array, decoded. -/
def list? {α : Type} (decode : Json → Option α) : Json → Option (List α)
  | .array items => items.mapM decode
  | _ => none

/-- An optional value: `null` or a value. -/
def nullable? {α : Type} (decode : Json → Option α) : Json → Option (Option α)
  | .null => some none
  | value => (decode value).map some

/-- The map of an object whose keys are texts. -/
def map? {α : Type} (decode : Json → Option α) : Json → Option (SortedMap String α)
  | .object members => do
    let members ← decodeKeys? members
    let entries ← members.mapM fun (key, value) => do return (key, ← decode value)
    return .ofList entries
  | _ => none

/-- The number that digits without a leading zero denote. -/
def digitsValue? (digits : List Char) : Option Nat :=
  match digits with
  | [] => none
  | ['0'] => some 0
  | '0' :: _ => none
  | _ =>
    if digits.all Char.isDigit then
      some (digits.foldl (fun n d => 10 * n + (d.toNat - '0'.toNat)) 0)
    else none

/-- The number that a key denotes: digits without escapes, below 2^64. -/
def position? (key : List Char) : Option Nat :=
  (digitsValue? key).filter fun n => n < 0x10000000000000000

/-- The map of an object whose keys are numbers. -/
def numberedMap? {α : Type} (decode : Json → Option α) : Json → Option (SortedMap Nat α)
  | .object members => do
    let entries ← members.mapM fun (key, value) => do return (← position? key, ← decode value)
    return .ofList entries
  | _ => none

/-! ## Encoding -/

/-- The object of a map whose keys are texts. -/
def ofMap {α : Type} (encode : α → Json) (m : SortedMap String α) : Json :=
  .object (m.entries.map fun e => (escape e.1.toList, encode e.2))

/-- The object of a map whose keys are numbers. -/
def ofNumberedMap {α : Type} (encode : α → Json) (m : SortedMap Nat α) : Json :=
  .object (m.entries.map fun e => (Nat.toDigits 10 e.1, encode e.2))

/-- The object of a record, from the names and values of its fields. -/
def ofFields (fields : List (String × Json)) : Json :=
  .object (fields.map fun (name, value) => (name.toList, value))

end RouteTable.Json
