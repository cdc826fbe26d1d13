import BrowserFlow.Evidence.Codec
import BrowserFlow.Files.System
import BrowserFlow.Url.Error

/-!
What can stop a compilation.
-/

namespace BrowserFlow

inductive CompileError where
  | file (path : String) (e : FileError)
  | json (context : String) (e : Json.ReadError)
  | notArray (origin : String)
  | url (text : String) (e : UrlError)
deriving DecidableEq, Repr

namespace CompileError

def message : CompileError → String
  | file path e => "I/O error on " ++ path ++ ": " ++ e.message
  | json context e => "JSON parse error (" ++ context ++ "): " ++ e.message
  | notArray origin => "Events file must contain a JSON array: " ++ origin
  | url text e => "Invalid URL '" ++ text ++ "': " ++ e.message

/-- The error for an events text that came from `origin`. -/
def ofEvidence (origin : String) : EvidenceError → CompileError
  | .notJson f => json ("events file " ++ origin) (.fault f)
  | .notArray => notArray origin
  | .wrongShape e => json ("evidence events in " ++ origin) e

end CompileError

/-- Reads an events text; `origin` is only mentioned in errors. -/
def readEvents (origin text : String) : Except CompileError (List Event) :=
  (Event.listOfText text).mapError (CompileError.ofEvidence origin)

end BrowserFlow
