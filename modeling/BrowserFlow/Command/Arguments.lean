import BrowserFlow.Text.Split

/-!
Arguments of a command line: options in their long and short forms, and one positional argument.
An option that takes a value is not checked before the argument after its value has been looked at.
-/

namespace BrowserFlow

inductive UsageError where
  | invalidValue
  | unknownArgument
  | unknownCommand
  | missingArgument
  | missingCommand
  | repeated
  | unwantedValue
  | helpRequested (command : Option String) (long : Bool)
  | versionRequested
  | nothingGiven
deriving DecidableEq, Repr

def UsageError.message : UsageError → String
  | invalidValue => "a value is missing or not allowed"
  | unknownArgument => "unexpected argument"
  | unknownCommand => "unrecognized command"
  | missingArgument => "a required argument was not provided"
  | missingCommand => "a command is required but none was provided"
  | repeated => "an argument cannot be used more than once"
  | unwantedValue => "an argument that takes no value was given one"
  | helpRequested .. | versionRequested | nothingGiven => "nothing to do"

/-- What an option does. A value is one of `allowed` unless any text will do. -/
inductive OptionKind where
  | value (allowed : Option (List String))
  | switch
  | counter
  | help
  | version
deriving DecidableEq, Repr

structure OptionForm where
  long : String
  short : Option Char
  kind : OptionKind
deriving DecidableEq, Repr

/-- The arguments that are understood before or after the name of a command. -/
structure Level where
  command : Option String
  options : List OptionForm
  commands : List String
  positional : Bool
deriving DecidableEq, Repr

/-- What has been given so far. `pending` is the last option that takes a value, with its value
once that is there. -/
structure Arguments where
  values : List (String × String)
  switches : List String
  count : Option Nat
  positional : Option String
  pending : Option (OptionForm × Option String)
deriving DecidableEq, Repr

namespace Arguments

def none : Arguments := ⟨[], [], Option.none, Option.none, Option.none⟩

def value? (given : Arguments) (name : String) : Option String := given.values.lookup name

def has (given : Arguments) (name : String) : Bool := given.switches.contains name

def isNothing (given : Arguments) : Bool :=
  given.values.isEmpty && given.switches.isEmpty && given.count.isNone

def assign (given : Arguments) (option : OptionForm) (text : String) :
    Except UsageError Arguments :=
  if (given.value? option.long).isSome then .error .repeated
  else
    match option.kind with
    | .value (some allowed) =>
      if allowed.contains text then
        .ok { given with values := given.values ++ [(option.long, text)] }
      else .error .invalidValue
    | _ => .ok { given with values := given.values ++ [(option.long, text)] }

/-- Checks the pending option. -/
def settle (given : Arguments) : Except UsageError Arguments :=
  match given.pending with
  | Option.none => .ok given
  | some (_, Option.none) => .error .invalidValue
  | some (option, some text) => { given with pending := Option.none }.assign option text

def isAwaiting (given : Arguments) : Bool := given.pending matches some (_, Option.none)

def supply (given : Arguments) (text : String) : Arguments :=
  { given with pending := given.pending.map fun (option, _) => (option, some text) }

def maxCount : Nat := 255

/-- An option without a value. -/
def raise (given : Arguments) (option : OptionForm) (help : UsageError) :
    Except UsageError Arguments := do
  let given ← given.settle
  match option.kind with
  | .help => .error help
  | .version => .error .versionRequested
  | .counter => return { given with count := some (min maxCount (given.count.getD 0 + 1)) }
  | _ =>
    if given.has option.long then .error .repeated
    else return { given with switches := given.switches ++ [option.long] }

/-- An option that takes a value, which may be attached to it. -/
def expect (given : Arguments) (option : OptionForm) (attached : Option String) :
    Except UsageError Arguments := do
  let given ← given.settle
  match attached with
  | some text => given.assign option text
  | Option.none => return { given with pending := some (option, Option.none) }

end Arguments

namespace Level

def takesValue (option : OptionForm) : Bool := option.kind matches .value _

/-- What follows two hyphens: a name, and a value if there is an equals sign. -/
def readLong (level : Level) (given : Arguments) (text : List Char) :
    Except UsageError Arguments :=
  let (name, attached) :=
    match Text.cut? '=' text with
    | some (name, value) => (name, some (String.ofList value))
    | none => (text, none)
  match level.options.find? (·.long = String.ofList name) with
  | none => .error .unknownArgument
  | some option =>
    if takesValue option then given.expect option attached
    else if attached.isSome then .error .unwantedValue
    else given.raise option (.helpRequested level.command true)

/-- What follows a single hyphen: options of one letter each. The first that takes a value takes
the rest, less an equals sign. -/
def readShort (level : Level) : Arguments → List Char → Except UsageError Arguments
  | given, [] => .ok given
  | given, c :: rest =>
    match level.options.find? (·.short = some c) with
    | none => .error .unknownArgument
    | some option =>
      if takesValue option then
        match rest with
        | [] => given.expect option none
        | '=' :: value => given.expect option (some (String.ofList value))
        | value => given.expect option (some (String.ofList value))
      else do
        readShort level (← given.raise option (.helpRequested level.command false)) rest

/-- An argument that is no option. After two hyphens a command cannot be named any more. -/
def readPlain (level : Level) (trailing : Bool) (given : Arguments) (argument : String) :
    Except UsageError Arguments := do
  if level.positional ∧ given.positional.isNone then
    return { ← given.settle with positional := some argument }
  else if level.commands.isEmpty ∨ (trailing ∧ level.commands.contains argument) then
    .error .unknownArgument
  else .error .unknownCommand

/-- Reads arguments up to the name of a command, and yields that name and what follows it. -/
def read (level : Level) : Bool → Arguments → List String →
    Except UsageError (Arguments × Option (String × List String))
  | _, given, [] => .ok (given, none)
  | true, given, argument :: rest => do
    level.read true (← level.readPlain true given argument) rest
  | false, given, argument :: rest =>
    if !given.isAwaiting && level.commands.contains argument then .ok (given, some (argument, rest))
    else
      match argument.toList with
      | ['-', '-'] => level.read true given rest
      | '-' :: '-' :: text => do level.read false (← level.readLong given text) rest
      | '-' :: c :: text => do level.read false (← level.readShort given (c :: text)) rest
      | _ =>
        if given.isAwaiting then level.read false (given.supply argument) rest
        else do level.read false (← level.readPlain false given argument) rest

end Level

end BrowserFlow
