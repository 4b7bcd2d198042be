import RouteTable.Regex.Basic

/-!
# Tokens of route patterns

Model of `RouteToken` (`route::token`). A pattern such as `/posts/{year:\d+}/{slug}` is a list of
tokens: literal texts and placeholders. A placeholder has a name and an expression for the texts it
stands for.

* `isIdentifier` (`is_identifier`) says which names a placeholder may have.
* `Token.spelling` writes a token so that it can be read again.
* `PatternFault` lists what can be wrong with a pattern (`CompileError::InvalidPattern`).
-/

namespace RouteTable

/-- The expression of a placeholder that gives none: a path segment. -/
def defaultSubPattern : String := "[^/]+"

/-- A part of a route pattern. -/
inductive Token where
  | literal (text : String)
  | placeholder (name : String) (sub : String)
  deriving DecidableEq, Repr

/-- Whether `c` may stand in the name of a placeholder. -/
def isIdentifierChar (c : Char) : Bool := c.isAlphanum || c == '_'

/-- Whether `name` may be the name of a placeholder: letters, digits and underscores of ASCII, with
no digit in front. -/
def isIdentifier (name : String) : Bool :=
  match name.toList with
  | [] => false
  | c :: cs => (c.isAlpha || c == '_') && cs.all isIdentifierChar

/-- The pattern of a token alone, with the expression written out. -/
def Token.spelling : Token → String
  | .literal text => text
  | .placeholder name sub => "\x7b" ++ name ++ ":" ++ sub ++ "\x7d"

/-- What is wrong with a route pattern, or with an expression made from patterns. -/
inductive PatternFault where
  | unterminated
  | invalidName (name : String)
  | subPattern (name : String) (cause : RegexError)
  | capturingGroup (name : String)
  | expression (cause : RegexError)
  deriving DecidableEq, Repr

/-- The wording of a fault. -/
def PatternFault.message : PatternFault → String
  | .unterminated => "unterminated placeholder"
  | .invalidName name => s!"invalid placeholder name \"{name}\""
  | .subPattern name cause => s!"placeholder \"{name}\": {cause.message}"
  | .capturingGroup name => s!"placeholder \"{name}\" contains a capturing group"
  | .expression cause => cause.message

end RouteTable
