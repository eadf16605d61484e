/-!
# Command line arguments

Arguments are read against a table of options. An option takes no value, or one value, which stands
behind it in the same argument or in the next one. What the values of an option are worth is only
looked at when the next option, or the end, is reached.

## Main definitions

- `UsageError`: why arguments cannot be understood.
- `OptionTable`: the options and commands that there are.
- `Reading`: the arguments read so far.
- `OptionTable.read`: reads the arguments up to a command.
-/

namespace AssetFlow.CommandLine

/-- Why arguments cannot be understood, or are not to be. -/
inductive UsageError
  | unknownArgument
  /-- A value is missing or none of those that there are. -/
  | invalidValue
  /-- A value does not have the right form. -/
  | malformedValue
  /-- A value is given where none is wanted. -/
  | surplusValue
  /-- Two arguments cannot stand together. -/
  | conflict
  | unknownCommand
  | missingCommand
  /-- There are no arguments, where some are wanted. -/
  | nothingGiven
  | helpWanted
  | versionWanted
  deriving DecidableEq, Repr, Inhabited

namespace UsageError

/-- What the user is told. -/
def message : UsageError → String
  | unknownArgument => "error: unexpected argument found"
  | invalidValue => "error: invalid value for one of the arguments"
  | malformedValue => "error: malformed value for one of the arguments"
  | surplusValue => "error: unexpected value for an argument that takes none"
  | conflict => "error: one of the arguments cannot be used with another one"
  | unknownCommand => "error: unrecognized subcommand"
  | missingCommand => "error: a subcommand is required but one was not provided"
  | nothingGiven | helpWanted => "Usage: trib [OPTIONS] <COMMAND>\n\nCommands: run, lineage, help"
  | versionWanted => "trib 0.1.2"

/-- The exit code: to be shown help or the version is no failure. -/
def exitCode : UsageError → UInt32
  | helpWanted | versionWanted => 0
  | _ => 2

end UsageError

/-- The number of 64 bits that a text spells, with or without a plus sign. -/
def readNatural? (s : String) : Option Nat :=
  let digits := match s.toList with
    | '+' :: rest => rest
    | cs => cs
  if digits.isEmpty || !digits.all Char.isDigit then none
  else
    let n := digits.foldl (fun n c => n * 10 + (c.toNat - '0'.toNat)) 0
    if n < UInt64.size then some n else none

/-- What the values of an option may be. -/
inductive ValueRule
  | text
  /-- A text that is not empty. -/
  | path
  | natural
  | oneOf (choices : List String)
  deriving DecidableEq, Repr

/-- What is wrong with a value, if anything is. -/
def ValueRule.fault? : ValueRule → String → Option UsageError
  | .text, _ => none
  | .path, s => if s.isEmpty then some .invalidValue else none
  | .natural, s => if (readNatural? s).isSome then none else some .malformedValue
  | .oneOf choices, s => if choices.contains s then none else some .invalidValue

/-- What an option does. -/
inductive OptionKind
  /-- It is there or not. -/
  | flag
  | value (rule : ValueRule)
  /-- It may be given several times. -/
  | values (rule : ValueRule)
  | help
  | version
  deriving DecidableEq, Repr

/-- The rule for the values of an option that takes one. -/
def OptionKind.rule? : OptionKind → Option ValueRule
  | value rule | values rule => some rule
  | _ => none

/-- An option. -/
structure OptionSpec where
  /-- The name behind two dashes. -/
  name : String
  /-- The letter behind one dash. -/
  letter : Option Char := none
  kind : OptionKind
  /-- The environment variable that stands in for the option. -/
  envName : Option String := none
  deriving DecidableEq, Repr

/-- The options and commands that there are. -/
structure OptionTable where
  options : List OptionSpec
  /-- What an argument that is no option stands for; there may be one such argument. -/
  positional : Option OptionSpec := none
  commands : List String := []
  /-- The options that cannot stand together. -/
  rivals : List (String × String) := []
  deriving Repr

/-- Arguments read so far. -/
structure Reading where
  /-- The options that were given, with their values. -/
  given : List (String × List String) := []
  /-- The option that was given last, if its values were not looked at yet. -/
  pending : Option (OptionSpec × List String) := none
  /-- Whether the next argument may be the value of that option. -/
  awaiting : Bool := false
  /-- Whether the positional argument was given. -/
  positionalGiven : Bool := false
  /-- Whether all that follows is positional. -/
  optionsEnded : Bool := false
  deriving Repr

namespace Reading

/-- Whether an option was given. -/
def has (r : Reading) (name : String) : Bool :=
  r.given.any (·.1 == name)

/-- The values of an option. -/
def values (r : Reading) (name : String) : List String :=
  (r.given.filter (·.1 == name)).flatMap (·.2)

/-- The value of an option. -/
def value? (r : Reading) (name : String) : Option String :=
  (r.values name).head?

/-- Takes an option with its values. -/
def accept (r : Reading) (o : OptionSpec) (values : List String) : Except UsageError Reading :=
  let taken : Reading := { r with given := r.given ++ [(o.name, values)] }
  let checked (rule : ValueRule) : Except UsageError Reading :=
    match values.findSome? rule.fault? with
    | some e => .error e
    | none => .ok taken
  match o.kind with
  | .help => .error .helpWanted
  | .version => .error .versionWanted
  | .flag => if r.has o.name then .error .conflict else .ok taken
  | .value rule =>
    if values.isEmpty then .error .invalidValue
    else if r.has o.name then .error .conflict
    else checked rule
  | .values rule => if values.isEmpty then .error .invalidValue else checked rule

/-- Looks at the values of the option that was given last. -/
def settle (r : Reading) : Except UsageError Reading :=
  match r.pending with
  | none => .ok r
  | some (o, values) => accept { r with pending := none } o values

/-- Takes an option with values that are known to be all of them. -/
def take (r : Reading) (o : OptionSpec) (values : List String) : Except UsageError Reading := do
  accept { (← r.settle) with awaiting := false } o values

/-- Takes an option that needs a value, which may follow. -/
def takeValue (r : Reading) (o : OptionSpec) (attached : Option String) :
    Except UsageError Reading :=
  match attached with
  | some v => r.take o [v]
  | none => do return { (← r.settle) with pending := some (o, []), awaiting := true }

/-- Takes an argument that begins with two dashes. -/
def long (r : Reading) (t : OptionTable) (text : List Char) : Except UsageError Reading :=
  let (name, rest) := text.span (· != '=')
  let attached := match rest with
    | [] => none
    | _ :: v => some (String.ofList v)
  match t.options.find? (·.name == String.ofList name) with
  | none => .error .unknownArgument
  | some o =>
    match o.kind.rule?, attached with
    | some _, v => r.takeValue o v
    | none, some _ => .error .surplusValue
    | none, none => r.take o []

/-- Takes letters behind one dash. -/
def short (t : OptionTable) : List Char → Reading → Except UsageError Reading
  | [], r => .ok r
  | c :: rest, r =>
    match t.options.find? (·.letter == some c) with
    | none => .error .unknownArgument
    | some o =>
      match o.kind.rule? with
      | none => do short t rest (← r.take o [])
      | some _ =>
        r.takeValue o <| match rest with
          | [] => none
          | '=' :: v => some (String.ofList v)
          | v => some (String.ofList v)

/-- Takes an argument that is no option. -/
def positional (r : Reading) (t : OptionTable) (arg : String) : Except UsageError Reading :=
  match t.positional with
  | some o =>
    if r.positionalGiven then .error .unknownArgument
    else do
      return { (← r.settle) with
        pending := some (o, [arg]), awaiting := false, positionalGiven := true }
  | none =>
    if r.optionsEnded && t.commands.contains arg then .error .unknownArgument
    else .error .unknownCommand

/-- Takes an argument. -/
def step (r : Reading) (t : OptionTable) (arg : String) : Except UsageError Reading :=
  if r.optionsEnded then r.positional t arg
  else match arg.toList with
    | ['-', '-'] => .ok { r with optionsEnded := true }
    | '-' :: '-' :: text => r.long t text
    | '-' :: c :: text => short t (c :: text) r
    | _ =>
      match r.awaiting, r.pending with
      | true, some (o, values) =>
        .ok { r with pending := some (o, values ++ [arg]), awaiting := false }
      | _, _ => r.positional t arg

/-- Takes the variables of the environment that stand in for options that were not given. -/
def takeEnvironment (environment : List (String × String)) :
    List OptionSpec → Reading → Except UsageError Reading
  | [], r => .ok r
  | o :: rest, r =>
    match o.envName.bind fun name => environment.lookup name with
    | some v =>
      if r.has o.name then takeEnvironment environment rest r
      else do takeEnvironment environment rest (← r.take o [v])
    | none => takeEnvironment environment rest r

/-- Looks at what was read as a whole. -/
def finish (r : Reading) (t : OptionTable) (environment : List (String × String)) :
    Except UsageError Reading := do
  let r ← takeEnvironment environment t.options (← r.settle)
  if t.rivals.any fun (a, b) => r.has a && r.has b then .error .conflict else return r

end Reading

/-- Reads arguments up to a command; answers the command with the arguments behind it. -/
def OptionTable.read (t : OptionTable) :
    List String → Reading → Except UsageError (Reading × Option (String × List String))
  | [], r => .ok (r, none)
  | arg :: rest, r =>
    if !r.optionsEnded && !r.awaiting && t.commands.contains arg then .ok (r, some (arg, rest))
    else do t.read rest (← r.step t arg)

end AssetFlow.CommandLine
