/-!
Locators: ways of finding an element on a page.
-/

namespace BrowserFlow

/-- One way of finding an element. `unrecognized` keeps a text that is not a locator expression as
it stands. -/
inductive Locator where
  | page
  | testId (value : String)
  | dataTest (value : String)
  | dataCy (value : String)
  | role (role name : String)
  | label (value : String)
  | placeholder (value : String)
  | id (value : String)
  | name (value : String)
  | text (value : String)
  | css (path : String)
  | xpath (path : String)
  | unrecognized (text : String)
deriving DecidableEq, Repr, Inhabited

namespace Locator

def isPage : Locator → Bool
  | page => true
  | _ => false

def kind : Locator → String
  | page => "page"
  | testId _ => "testId"
  | dataTest _ => "dataTest"
  | dataCy _ => "dataCy"
  | role _ _ => "role"
  | label _ => "label"
  | placeholder _ => "placeholder"
  | id _ => "id"
  | name _ => "name"
  | text _ => "text"
  | css _ => "css"
  | xpath _ => "xpath"
  | unrecognized _ => "unrecognized"

/-- The single value of a locator that has one. -/
def value? : Locator → Option String
  | page | role _ _ => none
  | testId v | dataTest v | dataCy v | label v | placeholder v | id v | name v | text v
  | css v | xpath v | unrecognized v => some v

end Locator

/-- The tables of input values, one for each kind of key. -/
inductive KeyKind where
  | testId
  | name
  | id
  | label
  | placeholder
deriving DecidableEq, Repr, Inhabited

/-- The order in which the tables are searched. -/
def KeyKind.all : List KeyKind := [testId, name, id, label, placeholder]

/-- What a person can recognise a field by. -/
structure Key where
  kind : KeyKind
  value : String
deriving DecidableEq, Repr, Inhabited

namespace Locator

/-- A role locator is known by its accessible name, as a label is. -/
def keyOf : Locator → Option Key
  | testId v => some ⟨.testId, v⟩
  | name v => some ⟨.name, v⟩
  | id v => some ⟨.id, v⟩
  | label v => some ⟨.label, v⟩
  | role _ n => some ⟨.label, n⟩
  | placeholder v => some ⟨.placeholder, v⟩
  | _ => none

/-- The key of a locator; empty text is no key. -/
def key? (l : Locator) : Option Key :=
  l.keyOf.filter fun key => !key.value.isEmpty

end Locator

end BrowserFlow
