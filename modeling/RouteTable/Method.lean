/-!
# HTTP methods

Model of `Methods` (`route`) and of the method names of the `http` library. A method is a non-empty
token of ASCII characters, and is taken as it is written: `get` and `GET` are two methods. A route
is declared for a list of methods in which none occurs twice.

* `Method.ofString?` (`Method::from_bytes`) accepts exactly the tokens.
* `Methods.ofList` (`Methods::from_iter`) keeps the first of each method.
-/

namespace RouteTable

/-- Whether `c` may stand in the name of a method. -/
def isMethodChar (c : Char) : Bool :=
  c.isAlphanum ||
    ['!', '#', '$', '%', '&', '\'', '*', '+', '-', '.', '^', '_', '\x60', '|', '~'].contains c

/-- Whether `name` is the name of a method. -/
def isMethodName (name : String) : Bool :=
  !name.toList.isEmpty && name.toList.all isMethodChar

/-- An HTTP method. -/
structure Method where
  name : String
  valid : isMethodName name = true
  deriving DecidableEq

/-- The method of a name. -/
def Method.ofString? (name : String) : Option Method :=
  if h : isMethodName name = true then some ⟨name, h⟩ else none

@[simp]
theorem Method.ofString?_name (m : Method) : Method.ofString? m.name = some m := by
  simp [ofString?, m.valid]

/-- What is said of a name that no method has. -/
def Method.invalidMessage : String := "invalid HTTP method"

/-- Methods in order, none of them twice. -/
structure Methods where
  toList : List Method
  nodup : toList.Nodup
  deriving DecidableEq

namespace Methods

/-- The list with the first occurrence of every method; `seen` are those that came before. -/
def distinct (seen : List Method) : List Method → List Method
  | [] => []
  | m :: ms => if m ∈ seen then distinct seen ms else m :: distinct (m :: seen) ms

theorem mem_distinct {seen ms : List Method} {m : Method} :
    m ∈ distinct seen ms ↔ m ∈ ms ∧ m ∉ seen := by
  induction ms generalizing seen with
  | nil => simp [distinct]
  | cons a ms ih =>
    unfold distinct
    split
    · next h => grind
    · next h => grind

theorem nodup_distinct (seen ms : List Method) : (distinct seen ms).Nodup := by
  induction ms generalizing seen with
  | nil => simp [distinct]
  | cons a ms ih =>
    unfold distinct
    split
    · exact ih seen
    · exact List.nodup_cons.2 ⟨by simp [mem_distinct], ih _⟩

/-- The methods of a list, each once. -/
def ofList (ms : List Method) : Methods := ⟨distinct [] ms, nodup_distinct [] ms⟩

@[simp]
theorem mem_ofList {ms : List Method} {m : Method} : m ∈ (ofList ms).toList ↔ m ∈ ms := by
  simp [ofList, mem_distinct]

/-- Whether there are no methods. -/
def isEmpty (ms : Methods) : Bool := ms.toList.isEmpty

end Methods

end RouteTable
