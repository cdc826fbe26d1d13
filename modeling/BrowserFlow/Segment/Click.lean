import BrowserFlow.Evidence.Event
import BrowserFlow.Flow.Step
import BrowserFlow.Text.Blank
import BrowserFlow.Text.Split
import BrowserFlow.Text.Word

/-!
What a click does, judged by the accessible name and the classes of its target.
-/

namespace BrowserFlow

namespace Text

/-- Simple case folding, as far as it yields ASCII letters. -/
def fold (c : Char) : Char :=
  if c.isUpper then c.toLower
  else if c = '\u017F' then 's'
  else if c = '\u212A' then 'k'
  else c

/-- Whether a word starts or ends between two neighbours; `none` is the end of the text. -/
def isBoundary (before after : Option Char) : Bool :=
  before.any isWordChar != after.any isWordChar

/-- What follows `word` at the start of the text, in any case. -/
def afterFolded? : List Char → List Char → Option (List Char)
  | [], text => some text
  | _ :: _, [] => none
  | w :: word, c :: text => if fold c = w then afterFolded? word text else none

/-- Looks at every position for a boundary from which `matchesHere` holds. -/
def anyBoundary (matchesHere : List Char → Bool) : Option Char → List Char → Bool
  | before, [] => isBoundary before none && matchesHere []
  | before, c :: text =>
    (isBoundary before (some c) && matchesHere (c :: text)) ||
      anyBoundary matchesHere (some c) text

end Text

open Text

def dismissWords : List (List Char) :=
  ["close".toList, "dismiss".toList, "cancel".toList, "x".toList]

/-- One of the words up to a boundary. The character before the boundary is the last of the word,
which is a word character. -/
def dismissHere (text : List Char) : Bool :=
  dismissWords.any fun word =>
    match afterFolded? word text with
    | some rest => isBoundary word.getLast? rest.head?
    | none => false

def afterDigit? : List Char → Option (List Char)
  | c :: rest => if isDecimalDigit c then some rest else none
  | [] => none

/-- `am` or `pm` or nothing, up to a boundary; `before` is the character before them. -/
def halfDayHere (before : Char) (text : List Char) : Bool :=
  isBoundary (some before) text.head? ||
    ["am".toList, "pm".toList].any fun half =>
      match afterFolded? half text with
      | some rest => isBoundary (some 'm') rest.head?
      | none => false

/-- Any number of blanks may stand before the half of the day. -/
def halfDayAfterBlanks (before : Char) : List Char → Bool
  | [] => halfDayHere before []
  | c :: text =>
    halfDayHere before (c :: text) || (isBlank c && halfDayAfterBlanks c text)

def minutesHere (text : List Char) : Bool :=
  match text with
  | ':' :: tens :: ones :: rest =>
    isDecimalDigit tens && isDecimalDigit ones && halfDayAfterBlanks ones rest
  | _ => false

/-- A time of day: one or two digits, a colon and two digits. -/
def timeHere (text : List Char) : Bool :=
  match afterDigit? text with
  | none => false
  | some rest => minutesHere rest || (afterDigit? rest).any minutesHere

def mentionsDismissal (name : List Char) : Bool := anyBoundary dismissHere none name

def mentionsTime (name : List Char) : Bool := anyBoundary timeHere none name

def isSlotClass (name : String) : Bool :=
  Text.contains "slot".toList (name.toList.map Char.toLower)

/-- A click that dismisses something is told by its name, one that picks a slot by a time of day in
the name or by a class. -/
def Event.clickType (event : Event) : StepType :=
  let name := (event.accessibleName?.getD "").toList
  if mentionsDismissal name then .dismissPopup
  else if mentionsTime name then .clickSlot
  else if event.target.any fun target => target.classes.any isSlotClass then .clickSlot
  else .click

end BrowserFlow
