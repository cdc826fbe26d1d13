import BrowserFlow.Command.Line
import BrowserFlow.Settings.File

/-!
Help: the texts that explain the command line.
-/

namespace BrowserFlow

namespace CommandLine

/-- An entry: how an argument is written, what it is for, notes on its values, and its values where
each has an explanation. -/
structure HelpEntry where
  short : String
  form : String
  about : String
  notes : List String
  values : List (String × String)

def entryFor (form about : String) : HelpEntry := ⟨"    ", form, about, [], []⟩

def verboseEntry : HelpEntry :=
  ⟨"-v, ", "--verbose...", "Verbosity level (-v, -vv, -vvv)", [], []⟩

def configEntry : HelpEntry :=
  entryFor "--config <CONFIG>"
    ("Path to config file (default: " ++ Settings.defaultFile ++ " in current dir)")

def modeEntry (about : String) : HelpEntry :=
  { entryFor "--precondition-mode <PRECONDITION_MODE>" about with
    values :=
      [("start-only", "Navigate to the first step's precondition URL once, before the loop"),
        ("per-step", "Additionally wait for each step's precondition URL before it runs")] }

def possibleValues (names : List String) : String :=
  "[possible values: " ++ ", ".intercalate names ++ "]"

def scriptModeText : String := "When the replay script checks step preconditions"

/-- What a command is for, the name of its argument and what that is, and its options. -/
structure HelpTopic where
  about : String
  usage : String
  argument : Option (String × String)
  entries : List HelpEntry

def commandAbout : List (String × String) :=
  [("compile", "Compile an events.json recording into flow, script and input template"),
    ("template", "Print the input override template for a compiled flow"),
    ("plan", "Show what a replay of a flow would do, with overrides applied"),
    ("script", "Regenerate the replay script for a compiled flow"),
    ("help", "Print this message or the help of the given subcommand(s)")]

def flowArgument : Option (String × String) := some ("<FLOW>", "Path to flow.json")

def topicOf (command : String) : HelpTopic :=
  let about := (commandAbout.lookup command).getD ""
  match command with
  | "compile" =>
    { about := about
      usage := "compile [OPTIONS] <EVENTS>"
      argument := some ("<EVENTS>", "Path to the recorded events (JSON array)")
      entries :=
        [{ entryFor "--out <OUT_DIR>" "Output directory" with
            notes := ["[default: " ++ defaultOutDirectory ++ "]"] },
          verboseEntry, configEntry,
          entryFor "--no-classify"
            "Keep generic step types (no LOGIN / FILL_FORM / CLICK_SLOT / DISMISS_POPUP)",
          modeEntry scriptModeText,
          { entryFor "--rewrite <REWRITE>" "Optional script rewrite service" with
            notes := [possibleValues (Rewrite.Provider.all.map Rewrite.Provider.tag)] },
          entryFor "--trace <TRACE>" "Write a JSONL segmentation trace to this path"] }
  | "plan" =>
    { about := about
      usage := "plan [OPTIONS] <FLOW>"
      argument := flowArgument
      entries :=
        [entryFor "--data <DATA>" "Input override file (default: data.json next to the flow)",
          verboseEntry, configEntry, modeEntry "When preconditions are checked"] }
  | "script" =>
    { about := about
      usage := "script [OPTIONS] <FLOW>"
      argument := flowArgument
      entries :=
        [⟨"-o, ", "--output <OUTPUT>", "Output file path (default: stdout)", [], []⟩,
          verboseEntry, configEntry, modeEntry scriptModeText] }
  | "help" =>
    { about := about
      usage := "help [COMMAND]..."
      argument := some ("[COMMAND]...", "Print help for the subcommand(s)")
      entries := [] }
  | _ =>
    { about := about
      usage := "template [OPTIONS] <FLOW>"
      argument := flowArgument
      entries := [verboseEntry, configEntry] }

def spaces (count : Nat) : String := String.ofList (List.replicate count ' ')

def fillTo (width : Nat) (text : String) : String := text ++ spaces (width - text.length)

/-- The indentation of a text below its entry. -/
def below : String := spaces 10

def formWidth (entries : List HelpEntry) : Nat :=
  (entries.map (·.form.length)).foldl max 0

def shortNotes (entry : HelpEntry) : List String :=
  entry.notes ++
    if entry.values.isEmpty then [] else [possibleValues (entry.values.map (·.1))]

def shortText (entry : HelpEntry) : String := " ".intercalate (entry.about :: shortNotes entry)

def lineWidth : Nat := 100

/-- Whether the texts stand below the entries, because one is too long to stand beside them. -/
def standsBelow (entries : List HelpEntry) : Bool :=
  let taken := formWidth entries + 8
  taken * 10 > lineWidth * 4 &&
    entries.any fun entry =>
      entry.about.length + (" ".intercalate (shortNotes entry)).length > lineWidth - taken

def shortLines (entries : List HelpEntry) : List String :=
  entries.flatMap fun entry =>
    if standsBelow entries then ["  " ++ entry.short ++ entry.form, below ++ shortText entry]
    else ["  " ++ entry.short ++ fillTo (formWidth entries + 2) entry.form ++ shortText entry]

def valueLines (values : List (String × String)) : List String :=
  let width := (values.map (·.1.length)).foldl max 0
  if values.isEmpty then []
  else
    ["", below ++ "Possible values:"] ++
      values.map fun (name, about) => below ++ "- " ++ fillTo (width + 2) (name ++ ":") ++ about

def longLines (entry : HelpEntry) : List String :=
  ["  " ++ entry.short ++ entry.form, below ++ entry.about] ++
    (if entry.notes.isEmpty then [] else below :: entry.notes.map (below ++ ·)) ++
    valueLines entry.values

def hasLongForm (topic : HelpTopic) : Bool := topic.entries.any fun entry => !entry.values.isEmpty

def helpEntry (topic : HelpTopic) (long : Bool) : HelpEntry :=
  ⟨"-h, ", "--help",
    if !hasLongForm topic then "Print help"
    else if long then "Print help (see a summary with '-h')"
    else "Print help (see more with '--help')", [], []⟩

def separatedLines : List (List String) → List String
  | [] => []
  | [lines] => lines
  | lines :: rest => lines ++ "" :: separatedLines rest

def programName : String := "workflow-extractor"

def programVersion : String := programName ++ " 0.1.0"

def argumentLines (long : Bool) : Option (String × String) → List String
  | none => []
  | some (name, about) =>
    ["Arguments:"] ++
      (if long then ["  " ++ name, below ++ about] else ["  " ++ name ++ "  " ++ about])

/-- The options, if any, with the one that asks for help at the end. -/
def optionLines (topic : HelpTopic) (long : Bool) : List String :=
  let entries := topic.entries ++ [helpEntry topic long]
  if topic.entries.isEmpty then []
  else
    ["", "Options:"] ++
      if long then separatedLines (entries.map longLines) else shortLines entries

def commandHelp (command : String) (long : Bool) : List String :=
  let topic := topicOf command
  let long := long && hasLongForm topic
  [topic.about, "", "Usage: " ++ programName ++ " " ++ topic.usage, ""] ++
    argumentLines long topic.argument ++ optionLines topic long

def programHelp : List String :=
  ["Compile recorded browser events into replayable flows", "",
    "Usage: " ++ programName ++ " [OPTIONS] <COMMAND>", "", "Commands:"] ++
    commandAbout.map (fun (name, about) => "  " ++ fillTo 10 name ++ about) ++
    ["", "Options:"] ++
    shortLines
      [verboseEntry, configEntry, ⟨"-h, ", "--help", "Print help", [], []⟩,
        ⟨"-V, ", "--version", "Print version", [], []⟩]

def helpLines : Option String → Bool → List String
  | none, _ => programHelp
  | some command, long => commandHelp command long

end CommandLine

/-- What is printed where output is expected, other messages being printed as errors. -/
def UsageError.output : UsageError → String
  | .helpRequested command long =>
    String.join ((CommandLine.helpLines command long).map (· ++ "\n"))
  | .versionRequested => CommandLine.programVersion ++ "\n"
  | _ => ""

end BrowserFlow
