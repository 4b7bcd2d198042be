import RouteTable.Regex.Ast.Reader
import RouteTable.Regex.Expr.OfAst
import RouteTable.Regex.Expr.Run
import RouteTable.Regex.Program

/-!
# Regular expressions

Model of `build_regex` (`dispatch`) and of what the `regex` library does for it. `Regex.compile`
makes an expression out of its text; `Regex.captures?` finds the leftmost match in a text, and of
those the one a backtracking search would find first. `Regex.escape` writes a text so that it
matches itself.
-/

namespace RouteTable

/-- Why a text is no usable expression. -/
inductive RegexError where
  | malformed
  | tooLarge
  deriving DecidableEq, Repr

/-- The wording of an error. -/
def RegexError.message : RegexError → String
  | .malformed => "<regex syntax error>"
  | .tooLarge => s!"Compiled regex exceeds size limit of {Regex.sizeLimit} bytes."

/-- A compiled expression. -/
structure Regex where
  expr : Regex.Expr
  deriving Repr

/-- A match: the text, where the match starts and ends, and what its groups have matched. -/
structure Captures where
  text : Array Char
  start : Nat
  stop : Nat
  groups : Regex.Groups
  deriving Repr

namespace Captures

/-- Where the group `i` starts and ends; the group `0` is the match. -/
def span? (c : Captures) (i : Nat) : Option (Nat × Nat) :=
  if i = 0 then some (c.start, c.stop) else (c.groups.find? fun g => g.1 == i).map Prod.snd

/-- The text of the group `i`. -/
def group? (c : Captures) (i : Nat) : Option String :=
  (c.span? i).map fun s => String.ofList (c.text.extract s.1 s.2).toList

end Captures

namespace Regex

/-- Compiles an expression. -/
def compile (source : String) : Except RegexError Regex :=
  match (Ast.read? source.toList).bind Expr.ofAst? with
  | none => .error .malformed
  | some e => if e.programSize ≤ sizeLimit then .ok ⟨e⟩ else .error .tooLarge

/-- The greatest number of a capturing group. -/
def groupCount (r : Regex) : Nat := r.expr.groupCount

/-- The leftmost match in `text`, the first one in the order of preference. -/
def captures? (r : Regex) (text : String) : Option Captures :=
  let chars := text.toList.toArray
  (r.expr.search? chars).map fun (start, t) => ⟨chars, start, t.pos, t.groups⟩

/-- Whether there is a match in `text`. -/
def isMatch (r : Regex) (text : String) : Bool := (r.captures? text).isSome

/-- Whether `c` has a meaning of its own in an expression. -/
def isMeta (c : Char) : Bool :=
  ['\\', '.', '+', '*', '?', '(', ')', '|', '[', ']', '\x7b', '\x7d', '^', '$', '#', '&', '-',
    '~'].contains c

/-- An expression that matches `text` and nothing else. -/
def escape (text : String) : String :=
  String.ofList (text.toList.flatMap fun c => if isMeta c then ['\\', c] else [c])

end Regex

end RouteTable
