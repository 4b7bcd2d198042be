import RouteTable.Pattern.Token

/-!
# Reading route patterns

Model of `parse` (`route::token`). A placeholder is written `{name}` or `{name:expression}`; all
else is literal text. The expression ends at the first closing brace that neither closes a brace
opened in it nor follows a backslash.

`readTokens` reads a pattern one character at a time. Between characters, `Reading` says where the
reader stands and which tokens are complete: in `parse`, `parse_placeholder` or `parse_sub_pattern`.
`Token.placeholder?` makes the checks of `parse_placeholder` and `validate_sub_pattern`.
-/

namespace RouteTable

/-- Where a reader of a pattern stands. Texts are read backwards: the latest character first. -/
inductive Place where
  | literal (text : List Char)
  | name (name : List Char)
  | sub (name : List Char) (depth : Nat) (escaped : Bool) (sub : List Char)
  deriving DecidableEq, Repr

/-- What has been read of a pattern: the complete tokens, the latest first, and the place. -/
structure Reading where
  tokens : List Token
  place : Place
  deriving DecidableEq, Repr

/-- The state before the first character. -/
def Reading.start : Reading := ⟨[], .literal []⟩

/-- The text of characters read backwards. -/
def ofReversed (text : List Char) : String := String.ofList text.reverse

/-- A placeholder, if its name and its expression are right. An empty expression is the default. -/
def Token.placeholder? (name sub : String) : Except PatternFault Token :=
  if isIdentifier name = false then .error (.invalidName name)
  else if sub = "" then .ok (.placeholder name defaultSubPattern)
  else
    match Regex.compile sub with
    | .error e => .error (.subPattern name e)
    | .ok r =>
      if r.groupCount = 0 then .ok (.placeholder name sub) else .error (.capturingGroup name)

/-- The tokens with a literal text, unless it is empty. -/
def withLiteral (tokens : List Token) (text : List Char) : List Token :=
  if text = [] then tokens else .literal (ofReversed text) :: tokens

/-- Reads one character. -/
def Reading.step (r : Reading) (c : Char) : Except PatternFault Reading :=
  match r.place with
  | .literal text =>
    if c = '\x7b' then .ok ⟨withLiteral r.tokens text, .name []⟩
    else .ok { r with place := .literal (c :: text) }
  | .name name =>
    if c = '\x7d' then do
      return ⟨(← Token.placeholder? (ofReversed name) "") :: r.tokens, .literal []⟩
    else if c = ':' then .ok { r with place := .sub name 0 false [] }
    else .ok { r with place := .name (c :: name) }
  | .sub name depth escaped sub =>
    if escaped then .ok { r with place := .sub name depth false (c :: sub) }
    else if c = '\\' then .ok { r with place := .sub name depth true (c :: sub) }
    else if c = '\x7b' then .ok { r with place := .sub name (depth + 1) false (c :: sub) }
    else if c = '\x7d' then
      match depth with
      | 0 => do
        return ⟨(← Token.placeholder? (ofReversed name) (ofReversed sub)) :: r.tokens, .literal []⟩
      | depth + 1 => .ok { r with place := .sub name depth false (c :: sub) }
    else .ok { r with place := .sub name depth false (c :: sub) }

/-- The tokens, after the last character. The empty pattern is one empty literal. -/
def Reading.finish (r : Reading) : Except PatternFault (List Token) :=
  match r.place with
  | .literal text =>
    match withLiteral r.tokens text with
    | [] => .ok [.literal ""]
    | tokens => .ok tokens.reverse
  | .name _ => .error .unterminated
  | .sub .. => .error .unterminated

/-- The tokens of a pattern. -/
def readTokens (pattern : String) : Except PatternFault (List Token) := do
  (← pattern.toList.foldlM Reading.step .start).finish

end RouteTable
