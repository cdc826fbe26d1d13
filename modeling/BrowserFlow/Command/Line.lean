import BrowserFlow.Command.Arguments
import BrowserFlow.Command.Basic

/-!
The command line of the program.
-/

namespace BrowserFlow

/-- Asking for help or the version is no failure. -/
def UsageError.exitCode : UsageError → Nat
  | .helpRequested .. | .versionRequested => 0
  | _ => 2

namespace CommandLine

def anyValue (long : String) : OptionForm := ⟨long, none, .value none⟩

/-- The options that are understood at both levels. -/
def sharedOptions : List OptionForm :=
  [⟨"verbose", some 'v', .counter⟩, anyValue "config", ⟨"help", some 'h', .help⟩]

def modeOption : OptionForm :=
  ⟨"precondition-mode", none, .value (some (PreconditionMode.all.map PreconditionMode.tag))⟩

def providerOption : OptionForm :=
  ⟨"rewrite", none, .value (some (Rewrite.Provider.all.map Rewrite.Provider.tag))⟩

def optionsOf (command : String) : List OptionForm :=
  match command with
  | "compile" =>
    [anyValue "out", ⟨"no-classify", none, .switch⟩, modeOption, providerOption, anyValue "trace"]
  | "plan" => [anyValue "data", modeOption]
  | "script" => [⟨"output", some 'o', .value none⟩, modeOption]
  | _ => []

def commands : List String := ["compile", "template", "plan", "script"]

def helpCommand : String := "help"

def program : Level :=
  ⟨none, sharedOptions ++ [⟨"version", some 'V', .version⟩], commands ++ [helpCommand], false⟩

def levelOf (command : String) : Level :=
  ⟨some command, sharedOptions ++ optionsOf command, [], true⟩

def defaultOutDirectory : String := "out"

def commandOf (name positional : String) (given : Arguments) : Command :=
  let mode := (given.value? "precondition-mode").bind PreconditionMode.ofTag?
  match name with
  | "compile" =>
    .compile positional ((given.value? "out").getD defaultOutDirectory) (given.has "no-classify")
      mode ((given.value? "rewrite").bind Rewrite.Provider.ofTag?) (given.value? "trace")
  | "plan" => .plan positional (given.value? "data") mode
  | "script" => .script positional (given.value? "output") mode
  | _ => .template positional

/-- Help on a command; nothing may follow its name. -/
def helpOn : List String → UsageError
  | [] => .helpRequested none true
  | [name] =>
    if program.commands.contains name then .helpRequested (some name) true else .unknownCommand
  | _ => .unknownCommand

/-- What a command is given wins over what the program is given. -/
def invocation (outer inner : Arguments) (command : Command) : Invocation :=
  { verbosity := (inner.count <|> outer.count).getD 0
    settings := inner.value? "config" <|> outer.value? "config"
    command := command }

/-- Reads the arguments of the program. -/
def parse (arguments : List String) : Except UsageError Invocation := do
  let (outer, named) ← program.read false .none arguments
  match named with
  | none =>
    if (← outer.settle).isNothing then .error .nothingGiven else .error .missingCommand
  | some (name, rest) =>
    if name = helpCommand then .error (helpOn rest)
    let (inner, _) ← (levelOf name).read false .none rest
    let inner ← inner.settle
    match inner.positional with
    | none => .error .missingArgument
    | some positional =>
      return invocation (← outer.settle) inner (commandOf name positional inner)

end CommandLine

end BrowserFlow
