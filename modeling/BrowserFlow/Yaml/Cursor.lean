/-!
YAML nodes, and a place in a YAML text from which they are read.
-/

namespace BrowserFlow.Yaml

inductive Node where
  /-- `plain` when it is written without quotes and not as a block. -/
  | scalar (text : String) (plain : Bool)
  | sequence (items : List Node)
  | mapping (entries : List (Node × Node))
deriving Inhabited

/-- What stands where nothing is written. -/
def Node.empty : Node := .scalar "" true

/-- The text that is left, the place of its first character, and the nodes that have been named. -/
structure Cursor where
  rest : List Char
  line : Nat
  column : Nat
  named : List (String × Node)

/-- A reading step; it fails when the text is malformed. -/
abbrev Scan := StateT Cursor Option

def malformed : Scan α := fun _ => none

def Cursor.advance (cursor : Cursor) : Cursor :=
  match cursor.rest with
  | [] => cursor
  | '\n' :: rest => { cursor with rest := rest, line := cursor.line + 1, column := 0 }
  | _ :: rest => { cursor with rest := rest, column := cursor.column + 1 }

def Cursor.advanceBy (cursor : Cursor) : Nat → Cursor
  | 0 => cursor
  | n + 1 => cursor.advance.advanceBy n

def isSpace (c : Char) : Bool := c == ' ' || c == '\t'

/-- The end of a word: a space, a line break or the end of the text. -/
def endsWord : List Char → Bool
  | [] => true
  | c :: _ => isSpace c || c == '\n'

namespace Scan

def rest : Scan (List Char) := return (← get).rest

def column : Scan Nat := return (← get).column

def line : Scan Nat := return (← get).line

def skip (count : Nat) : Scan Unit := modify (·.advanceBy count)

/-- Takes characters as long as they fulfil a condition. -/
def takeWhile (condition : Char → Bool) : Scan (List Char) := do
  let taken := (← rest).takeWhile condition
  skip taken.length
  return taken

def expect (c : Char) : Scan Unit := do
  match ← rest with
  | d :: _ => if d = c then skip 1 else malformed
  | [] => malformed

def skipSpaces : Scan Unit := do
  let _ ← takeWhile isSpace

/-- Skips line breaks and comments. Tabs are skipped with the spaces if `tabs`, and after a line
break if `flow`. -/
def skipTo (flow : Bool) : Nat → Bool → Scan Unit
  | 0, _ => return ()
  | fuel + 1, tabs => do
    match ← rest with
    | ' ' :: _ =>
      skip 1
      skipTo flow fuel tabs
    | '\t' :: _ =>
      if tabs then
        skip 1
        skipTo flow fuel tabs
      else return ()
    | '\n' :: _ =>
      skip 1
      skipTo flow fuel flow
    | '#' :: _ =>
      let _ ← takeWhile (· ≠ '\n')
      skipTo flow fuel tabs
    | _ => return ()

/-- Skips to the next token between brackets. -/
def skipInFlow : Scan Unit := do skipTo true ((← rest).length + 1) true

/-- Skips to the next token outside of brackets. -/
def skipInBlock (tabs : Bool) : Scan Unit := do skipTo false ((← rest).length + 1) tabs

/-- A line that starts or ends a document. -/
def atMarker (mark : Char) : Scan Bool := do
  match ← get with
  | ⟨a :: b :: c :: rest, _, 0, _⟩ => return a = mark ∧ b = mark ∧ c = mark ∧ endsWord rest
  | _ => return false

/-- The end of a document: of the text, or a line that marks it. -/
def atEnd : Scan Bool := do
  return (← rest).isEmpty || (← atMarker '-') || (← atMarker '.')

end Scan

end BrowserFlow.Yaml
