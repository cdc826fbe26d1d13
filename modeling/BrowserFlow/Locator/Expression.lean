import BrowserFlow.Json.Value
import BrowserFlow.Locator.Basic
import BrowserFlow.Text.Blank

/-!
Locator expressions: the text form in which flows store locators.
-/

namespace BrowserFlow.Locator

def isQuote (c : Char) : Bool := c == '"' || c == '\''

/-- A character of an id that may stand after `#`: no blank, combinator, comma or quote. -/
def isIdChar (c : Char) : Bool :=
  !(Text.isBlank c || c == '>' || c == '+' || c == '~' || c == ',' || isQuote c)

/-- An id that may be written as `#id`. -/
def isSimpleId (id : List Char) : Bool := !id.isEmpty && id.all isIdChar

def attributeSelector (name value : List Char) : List Char :=
  '[' :: name ++ ['=', '"'] ++ value ++ ['"', ']']

def call (function argument : List Char) : List Char :=
  function ++ '(' :: Json.quoteChars argument ++ [')']

def expressionChars : Locator → List Char
  | page => "page".toList
  | testId v => call "getByTestId".toList v.toList
  | dataTest v => call "locator".toList (attributeSelector "data-test".toList v.toList)
  | dataCy v => call "locator".toList (attributeSelector "data-cy".toList v.toList)
  | role r n =>
    "getByRole(".toList ++ Json.quoteChars r.toList ++ ", \x7b name: ".toList ++
      Json.quoteChars n.toList ++ " \x7d)".toList
  | label v => call "getByLabel".toList v.toList
  | placeholder v => call "getByPlaceholder".toList v.toList
  | id v =>
    call "locator".toList
      (if isSimpleId v.toList then '#' :: v.toList else attributeSelector "id".toList v.toList)
  | name v => call "locator".toList (attributeSelector "name".toList v.toList)
  | text v => call "getByText".toList v.toList
  | css v => call "locator".toList v.toList
  | xpath v => call "locator".toList ("xpath=".toList ++ v.toList)
  | unrecognized t => t.toList

def expression (l : Locator) : String := String.ofList l.expressionChars

/-- A path that is only a simple id is the same reference as that id. -/
def ofPathChars (path : List Char) : Locator :=
  match path with
  | '#' :: rest => if isSimpleId rest then id (String.ofList rest) else css (String.ofList path)
  | _ => css (String.ofList path)

def ofPath (path : String) : Locator := ofPathChars path.toList

/-- What a locator is built from when a script runs. -/
def toJson (l : Locator) : Json.Value :=
  .object <|
    ("kind", .string l.kind) ::
      match l with
      | role r n => [("role", .string r), ("name", .string n)]
      | l =>
        match l.value? with
        | some v => [("value", .string v)]
        | none => []

end BrowserFlow.Locator
