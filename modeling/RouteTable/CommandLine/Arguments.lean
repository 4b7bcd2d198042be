/-!
# Arguments

How the words of a command line are taken apart, as the `structopt` library does it. An option has a
letter and a name and takes a value: `-o value`, `-ovalue`, `-o=value`, `--name value` or
`--name=value`. What is no option is an operand; after `--` everything is. A lone `-` is an operand
or a value. No option may be given twice or without a value.

* `readArguments` takes the words apart.
* `Arguments.isComplete` says whether they are what a command needs.
-/

namespace RouteTable

/-- An option of a command. -/
structure OptionSpec where
  letter : Char
  name : String
  required : Bool
  deriving DecidableEq, Repr

/-- What a command takes: its options, how many operands, and whether more may follow. -/
structure CommandSpec where
  name : String
  options : List OptionSpec
  operands : Nat
  further : Bool
  deriving DecidableEq, Repr

/-- Options that have occurred, with their values, and operands, both latest first. -/
structure Arguments where
  options : List (Char × Option String)
  operands : List String
  deriving DecidableEq, Repr

/-- Why the words are not taken apart: they ask for something else, or they are wrong. -/
inductive ArgumentStop where
  | help
  | version (command : String)
  | misuse
  deriving DecidableEq, Repr

/-- A word without the dashes in front. -/
def dropDashes (word : List Char) : List Char := word.dropWhile (· == '-')

/-- A value without the equals signs in front. -/
def dropEquals (value : List Char) : List Char := value.dropWhile (· == '=')

/-- The options after `word`, which starts with two dashes. -/
def Arguments.addLong (spec : CommandSpec) (a : Arguments) (word : List Char) :
    Except ArgumentStop Arguments :=
  let body := dropDashes word
  let name := body.takeWhile (· != '=')
  let value := match body.dropWhile (· != '=') with
    | [] => none
    | value => some (String.ofList (dropEquals value))
  if name = "help".toList then .error .help
  else if name = "version".toList then .error (.version spec.name)
  else
    match spec.options.find? fun o => o.name.toList = name with
    | none => .error .misuse
    | some o => .ok { a with options := (o.letter, value) :: a.options }

/-- The options after `word`, which starts with one dash. -/
def Arguments.addShort (spec : CommandSpec) (a : Arguments) (word : List Char) :
    Except ArgumentStop Arguments :=
  match dropDashes word with
  | [] => .error .misuse
  | c :: value =>
    if c = 'h' then .error .help
    else if c = 'V' then .error (.version spec.name)
    else
      match spec.options.find? fun o => o.letter = c with
      | none => .error .misuse
      | some o =>
        let value := if value = [] then none else some (String.ofList (dropEquals value))
        .ok { a with options := (o.letter, value) :: a.options }

/-- The operands after a further word. -/
def Arguments.addOperand (spec : CommandSpec) (a : Arguments) (word : String) :
    Except ArgumentStop Arguments :=
  if a.operands.length < spec.operands || spec.further then
    .ok { a with operands := word :: a.operands }
  else .error .misuse

/-- Takes words apart; `trailing` says that no more options follow. -/
def readArguments (spec : CommandSpec) (trailing : Bool) :
    List String → Arguments → Except ArgumentStop Arguments
  | [], a => .ok a
  | word :: words, a =>
    match trailing, word.toList with
    | true, _ => do readArguments spec true words (← a.addOperand spec word)
    | false, ['-', '-'] => readArguments spec true words a
    | false, '-' :: '-' :: rest => do
      readArguments spec false words (← a.addLong spec ('-' :: '-' :: rest))
    | false, '-' :: c :: rest => do
      readArguments spec false words (← a.addShort spec ('-' :: c :: rest))
    | false, _ =>
      match a.options with
      | (o, none) :: options =>
        readArguments spec false words { a with options := (o, some word) :: options }
      | _ => do readArguments spec false words (← a.addOperand spec word)

/-- Whether options and operands are what the command needs. -/
def Arguments.isComplete (spec : CommandSpec) (a : Arguments) : Bool :=
  decide (a.options.map Prod.fst).Nodup && a.options.all (fun o => o.2.isSome) &&
    spec.options.all (fun o => !o.required || a.options.any fun p => p.1 == o.letter) &&
    spec.operands ≤ a.operands.length

/-- The value of an option. -/
def Arguments.value? (a : Arguments) (letter : Char) : Option String :=
  (a.options.lookup letter).join

/-- The arguments of a command, or why there are none. -/
def Arguments.ofWords (spec : CommandSpec) (words : List String) :
    Except ArgumentStop Arguments := do
  let a ← readArguments spec false words ⟨[], []⟩
  if a.isComplete spec then return { a with operands := a.operands.reverse } else throw .misuse

end RouteTable
