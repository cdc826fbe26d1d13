import BrowserFlow.Locator.Expression
import BrowserFlow.Text.Split

/-!
Reading locator expressions. Quotes that were escaped once or more often read as plain quotes, so
that an expression is still understood after it has been embedded in other quoted text.
-/

namespace BrowserFlow.Locator

/-- `pending` counts the backslashes just passed. An odd run of them before a quote is dropped, an
even one is kept. -/
def normalizeFrom (pending : Nat) : List Char → List Char
  | [] => List.replicate pending '\\'
  | c :: rest =>
    if c = '\\' then normalizeFrom (pending + 1) rest
    else if isQuote c && pending % 2 = 1 then c :: normalizeFrom 0 rest
    else List.replicate pending '\\' ++ c :: normalizeFrom 0 rest

def normalizeQuotes (text : List Char) : List Char := normalizeFrom 0 text

def unescapeChar (c : Char) : Char :=
  if c = 'n' then '\n' else if c = 't' then '\t' else if c = 'r' then '\r' else c

/-- Undoes the escapes that remain between quotes; a backslash at the end stands for itself. -/
def unescape : List Char → List Char
  | [] => []
  | ['\\'] => ['\\']
  | '\\' :: c :: rest => unescapeChar c :: unescape rest
  | c :: rest => c :: unescape rest

def skipBlank (text : List Char) : List Char := text.dropWhile Text.isBlank

def afterQuote? : List Char → Option (List Char)
  | c :: rest => if isQuote c then some rest else none
  | [] => none

/-- The text between an opening quote, already passed, and the last quote, after which only the
closing characters stand, each with blanks before it. No line feed is allowed in between. -/
def quotedBefore? (closing : List Char) (text : List Char) : Option (List Char) := do
  let rest ← closing.reverse.foldlM
    (fun text c =>
      match text with
      | d :: rest => if d = c then some (skipBlank rest) else none
      | [] => none)
    text.reverse
  let body ← afterQuote? rest
  if '\n' ∈ body then none else some body.reverse

/-- The quoted argument of a call of `function` with nothing else in it. -/
def argument? (function text : List Char) : Option (List Char) := do
  let rest ← Text.after? (function ++ ['(']) text
  let rest ← afterQuote? (skipBlank rest)
  quotedBefore? [')'] rest

/-- The role, without quotes in it, and the accessible name. -/
def roleArguments? (text : List Char) : Option (List Char × List Char) := do
  let rest ← Text.after? "getByRole(".toList text
  let rest ← afterQuote? (skipBlank rest)
  let role := rest.takeWhile (!isQuote ·)
  if role.isEmpty then none
  let rest ← afterQuote? (rest.dropWhile (!isQuote ·))
  let rest ← Text.after? [','] (skipBlank rest)
  let rest ← Text.after? ['\x7b'] (skipBlank rest)
  let rest ← Text.after? "name:".toList (skipBlank rest)
  let rest ← afterQuote? (skipBlank rest)
  let name ← quotedBefore? ['\x7d', ')'] rest
  return (role, name)

def dropOpeningQuote (text : List Char) : List Char :=
  (afterQuote? text).getD text

def dropClosingQuote (text : List Char) : List Char :=
  (dropOpeningQuote text.reverse).reverse

/-- What follows the equals sign of an attribute selector. -/
def afterEquals? (name text : List Char) : Option (List Char) := do
  let rest ← Text.after? ('[' :: name) text
  Text.after? ['='] (skipBlank rest)

/-- The value of an attribute selector, with or without quotes around it. -/
def attributeValue? (name text : List Char) : Option (List Char) := do
  let rest ← afterEquals? name text
  let body ← Text.before? [']'] (dropOpeningQuote (skipBlank rest))
  if '\n' ∈ body then none else some (dropClosingQuote body)

def isNameChar (c : Char) : Bool := !(isQuote c || c == ']')

/-- The end of a name selector: at most one quote, then the bracket. -/
def closesName (text : List Char) : Bool := dropOpeningQuote text == [']']

/-- The value of a name selector holds no quote and no bracket. Blanks before it are not part of
it, but of blanks alone the last one is the value. -/
def nameValue? (text : List Char) : Option (List Char) := do
  let rest ← afterEquals? "name".toList text
  let blanks := rest.takeWhile Text.isBlank
  let body := skipBlank rest
  let value := (dropOpeningQuote body).takeWhile isNameChar
  if !value.isEmpty then
    if closesName ((dropOpeningQuote body).dropWhile isNameChar) then some value else none
  else
    let blank ← blanks.getLast?
    if closesName body then some [blank] else none

/-- The locator that an argument of `locator(...)` stands for. -/
def ofArgument (argument : List Char) : Locator :=
  match Text.after? "xpath=".toList argument with
  | some path => xpath (String.ofList path)
  | none =>
    match attributeValue? "data-test".toList argument with
    | some v => dataTest (String.ofList v)
    | none =>
      match attributeValue? "data-cy".toList argument with
      | some v => dataCy (String.ofList v)
      | none =>
        match attributeValue? "id".toList argument with
        | some v => id (String.ofList v)
        | none =>
          match nameValue? argument with
          | some v => name (String.ofList v)
          | none => ofPathChars argument

/-- A call that takes one quoted value. -/
def valueCall? (function : String) (make : String → Locator) (text : List Char) :
    Option Locator :=
  (argument? function.toList text).map fun v => make (String.ofList (unescape v))

def roleCall? (text : List Char) : Option Locator :=
  (roleArguments? text).map fun (r, n) =>
    role (String.ofList (unescape r)) (String.ofList (unescape n))

def locatorCall? (text : List Char) : Option Locator :=
  (argument? "locator".toList text).map fun v => ofArgument (unescape v)

/-- Reads an expression whose quotes are normalized. -/
def ofNormalized? (text : List Char) : Option Locator :=
  if text = "page".toList then some page
  else
    valueCall? "getByTestId" testId text <|> roleCall? text <|>
      valueCall? "getByLabel" label text <|> valueCall? "getByPlaceholder" placeholder text <|>
      valueCall? "getByText" Locator.text text <|> locatorCall? text

/-- `none` when the text is not a locator expression. -/
def parse? (expression : String) : Option Locator :=
  ofNormalized? (normalizeQuotes (Text.trim expression.toList))

/-- What is said of a text that is not a locator expression. -/
def unrecognizedMessage (expression : String) : String :=
  "unrecognized locator expression: " ++ expression

/-- A text that is not a locator expression is kept as it is. -/
def ofExpression (expression : String) : Locator :=
  (parse? expression).getD (unrecognized expression)

end BrowserFlow.Locator
