import BrowserFlow.Flow.Codec
import BrowserFlow.Text.Blank
import BrowserFlow.Text.Split

/-!
What a rewrite service is asked, and how the script is taken out of its answer.
-/

namespace BrowserFlow.Rewrite

def instructions : List String :=
  [ "You are improving a Playwright script generated from recorded browser events.",
    "Goals:",
    "- Keep behavior equivalent to the flow.",
    "- Collapse redundant steps (e.g., focus before click).",
    "- Prefer robust selectors (data-testid, role/name).",
    "- Use selectOption for <select> inputs.",
    "- Keep the script runnable as-is.",
    "Return only the updated TypeScript code. Do not include markdown fences." ]

def prompt (flow : Flow) (script : String) : String :=
  "\n".intercalate
    (instructions ++ ["", "Flow JSON:", flow.text, "", "Base script:", script])

def fence : List Char := ['\x60', '\x60', '\x60']

/-- The text after the first line; empty when there is only one line. -/
def afterFirstLine (text : List Char) : List Char :=
  match Text.cut? '\n' text with
  | some (_, rest) => rest
  | none => []

/-- Removes a fence around the text, which starts with a line of its own, and the blanks at both
ends. -/
def stripFencesChars (content : List Char) : List Char :=
  let trimmed := Text.trim content
  if fence.isPrefixOf trimmed then
    let body := afterFirstLine trimmed
    Text.trim ((Text.before? fence (Text.trimRight body)).getD body)
  else trimmed

def stripFences (content : String) : String := String.ofList (stripFencesChars content.toList)

def isBlank (content : String) : Bool := (Text.trim content.toList).isEmpty

end BrowserFlow.Rewrite
