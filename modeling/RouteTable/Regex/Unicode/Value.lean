import RouteTable.Regex.CharSet

/-!
# Values of character properties

A property of the character database is a list of `Value`s: the names a value goes by and the code
points that have it. Names are looked up after `normalize`, the loose matching of the database:
case, spaces, hyphens and underscores do not count, nor does an initial `is`.
-/

namespace RouteTable.Regex.Unicode

/-- One value of a property: its names, normalized, and its code points as gaps and runs. -/
structure Value where
  names : List String
  runs : String
  deriving Repr

/-- The code points that have the value. -/
def Value.set (v : Value) : CharSet := CharSet.ofRuns v.runs

/-- The code points of the value called `name`. -/
def lookup? (values : List Value) (name : String) : Option CharSet :=
  (values.find? fun v => v.names.contains name).map Value.set

/-- Lower case, without what loose matching ignores. -/
def squeeze (cs : List Char) : List Char :=
  (cs.filter fun c => c.toNat < 0x80 && c != ' ' && c != '_' && c != '-').map Char.toLower

/-- The form under which a name is looked up. The name `isc` keeps its first two letters: it
abbreviates a property of its own. -/
def normalize (name : List Char) : String :=
  match name with
  | i :: s :: rest =>
    if i.toLower = 'i' ∧ s.toLower = 's' then
      if squeeze rest = ['c'] then "isc" else String.ofList (squeeze rest)
    else String.ofList (squeeze name)
  | _ => String.ofList (squeeze name)

end RouteTable.Regex.Unicode
