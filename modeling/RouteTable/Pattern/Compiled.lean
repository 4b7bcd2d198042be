import RouteTable.Pattern.Reader

/-!
# Compiled patterns

Model of `CompiledPattern::compile` (`compiler::variable_routes`): what a list of tokens amounts to.
That is an expression with one capturing group for every placeholder, a template to make paths from,
and the names of the placeholders. No two placeholders of a pattern may have one name.
-/

namespace RouteTable

namespace Token

/-- The expression of a token. -/
def regex : Token → String
  | .literal text => Regex.escape text
  | .placeholder _ sub => "(" ++ sub ++ ")"

/-- The part of a template that a token makes. -/
def template : Token → String
  | .literal text => text
  | .placeholder name _ => "\x7b" ++ name ++ "\x7d"

/-- The name of a placeholder. -/
def name? : Token → Option String
  | .literal _ => none
  | .placeholder name _ => some name

end Token

/-- The first member of a list that has occurred before it. -/
def firstRepeated? (seen : List String) : List String → Option String
  | [] => none
  | x :: xs => if x ∈ seen then some x else firstRepeated? (x :: seen) xs

theorem firstRepeated?_eq_none_iff {seen xs : List String} :
    firstRepeated? seen xs = none ↔ xs.Nodup ∧ ∀ x ∈ xs, x ∉ seen := by
  induction xs generalizing seen with
  | nil => simp [firstRepeated?]
  | cons x xs ih =>
    unfold firstRepeated?
    split
    · next h => simp [h]
    · next h => rw [ih]; grind

/-- A pattern made ready to match and to generate. -/
structure CompiledPattern where
  regex : String
  template : String
  names : List String
  deriving DecidableEq, Repr

/-- The compiled form of a list of tokens, or the first name that occurs twice. -/
def CompiledPattern.ofTokens (tokens : List Token) : Except String CompiledPattern :=
  let names := tokens.filterMap Token.name?
  match firstRepeated? [] names with
  | some name => .error name
  | none => .ok ⟨String.join (tokens.map Token.regex), String.join (tokens.map Token.template),
      names⟩

end RouteTable
