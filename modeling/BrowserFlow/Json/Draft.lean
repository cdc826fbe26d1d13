import BrowserFlow.Json.Quoted
import BrowserFlow.Table

/-!
Drafts: a text read as JSON as far as it goes. Reading never fails. The tree records each place
where the text stops being JSON, so that a decoder walking it in text order meets a fault of the
text and a value of the wrong shape in the order in which they stand.
-/

namespace BrowserFlow.Json

/-- `broken` and the fault of an `array` or `object` end the draft: nothing was read after them.
A key is a draft too; it is a `string` wherever the text is sound. -/
inductive Draft where
  | null
  | bool (b : Bool)
  | number (value : Except Fault Number)
  | string (text : Except Fault String) (passed : Option Fault)
  | array (items : List Draft) (stop : Option Fault)
  | object (members : List (Draft × Draft)) (stop : Option Fault)
  | absent
  | broken (read : Fault) (skip : Fault)
deriving Inhabited

def isJsonBlank (c : Char) : Bool := c == ' ' || c == '\n' || c == '\t' || c == '\r'

def skipBlanks (cs : List Char) : List Char := cs.dropWhile isJsonBlank

/-- A draft and what follows it, unless it ends there. -/
abbrev Reading := Draft × Option (List Char)

def readKeyword (value : Draft) : List Char → List Char → Reading
  | [], cs => (value, some cs)
  | _ :: _, [] => (.broken .truncated .truncated, none)
  | expected :: keyword, c :: cs =>
    if c = expected then readKeyword value keyword cs
    else (.broken .malformed .malformed, none)

/-- Reads what follows an opening quote. -/
def readString (cs : List Char) : Reading :=
  match readText cs with
  | .ok (text, rest) => (.string (.ok (String.ofList text)) none, some rest)
  | .error f =>
    match skipText cs with
    | .ok rest => (.string (.error f) none, some rest)
    | .error g => (.string (.error f) (some g), none)

def readNumber (cs : List Char) : Reading :=
  match readNumeral cs with
  | .ok (numeral, rest) => (.number numeral.value, some rest)
  | .error e => (.broken e.read e.skip, none)

mutual

def readValue : Nat → List Char → Reading
  | 0, _ => (.absent, none)
  | fuel + 1, cs =>
    match skipBlanks cs with
    | [] => (.absent, none)
    | 'n' :: rest => readKeyword .null ['u', 'l', 'l'] rest
    | 't' :: rest => readKeyword (.bool true) ['r', 'u', 'e'] rest
    | 'f' :: rest => readKeyword (.bool false) ['a', 'l', 's', 'e'] rest
    | '"' :: rest => readString rest
    | '[' :: rest =>
      match skipBlanks rest with
      | ']' :: rest => (.array [] none, some rest)
      | rest =>
        let (items, stop, rest) := readItems fuel rest
        (.array items stop, rest)
    | '{' :: rest =>
      match skipBlanks rest with
      | '}' :: rest => (.object [] none, some rest)
      | rest =>
        let (members, stop, rest) := readMembers fuel rest
        (.object members stop, rest)
    | c :: rest =>
      if c = '-' || c.isDigit then readNumber (c :: rest)
      else (.broken .malformed .malformed, none)

/-- One item and, after a comma, the others. -/
def readItems : Nat → List Char → List Draft × Option Fault × Option (List Char)
  | 0, _ => ([], some .truncated, none)
  | fuel + 1, cs =>
    match readValue fuel cs with
    | (item, none) => ([item], some .truncated, none)
    | (item, some rest) =>
      match skipBlanks rest with
      | [] => ([item], some .truncated, none)
      | ']' :: rest => ([item], none, some rest)
      | ',' :: rest =>
        let (items, stop, rest) := readItems fuel rest
        (item :: items, stop, rest)
      | _ :: _ => ([item], some .malformed, none)

/-- One member and, after a comma, the others. -/
def readMembers : Nat → List Char → List (Draft × Draft) × Option Fault × Option (List Char)
  | 0, _ => ([], some .truncated, none)
  | fuel + 1, cs =>
    match skipBlanks cs with
    | '"' :: rest =>
      match readString rest with
      | (key, none) => ([(key, .absent)], some .truncated, none)
      | (key, some rest) =>
        match skipBlanks rest with
        | [] => ([(key, .broken .truncated .truncated)], some .truncated, none)
        | ':' :: rest =>
          match readValue fuel rest with
          | (value, none) => ([(key, value)], some .truncated, none)
          | (value, some rest) =>
            match skipBlanks rest with
            | [] => ([(key, value)], some .truncated, none)
            | '}' :: rest => ([(key, value)], none, some rest)
            | ',' :: rest =>
              let (members, stop, rest) := readMembers fuel rest
              ((key, value) :: members, stop, rest)
            | _ :: _ => ([(key, value)], some .malformed, none)
        | _ :: _ => ([(key, .broken .malformed .malformed)], some .truncated, none)
    | cs => ([((readValue fuel cs).1, .absent)], some .truncated, none)

end

/-- A whole text: one value, and whether anything but blanks follows it. -/
structure Document where
  root : Draft
  trailing : Bool

def Document.read (cs : List Char) : Document :=
  match readValue (2 * cs.length + 2) cs with
  | (root, none) => ⟨root, false⟩
  | (root, some rest) => ⟨root, !(skipBlanks rest).isEmpty⟩

mutual

/-- The draft of a value, without any fault. -/
def Draft.ofValue : Value → Draft
  | .null => .null
  | .bool b => .bool b
  | .number n => .number (.ok n)
  | .string s => .string (.ok s) none
  | .array items => .array (draftItems items) none
  | .object fields => .object (draftMembers fields) none

def draftItems : List Value → List Draft
  | [] => []
  | item :: items => Draft.ofValue item :: draftItems items

def draftMembers : List (String × Value) → List (Draft × Draft)
  | [] => []
  | (name, value) :: fields => (.string (.ok name) none, Draft.ofValue value) :: draftMembers fields

end

def passIf : Option Fault → Except Fault Unit
  | none => .ok ()
  | some f => .error f

/-- The text of a key. -/
def Draft.key : Draft → Except Fault String
  | .string text _ => text
  | .absent => .error .truncated
  | _ => .error .malformed

mutual

/-- Passes over a value that nothing is wanted from. -/
def Draft.skip : Draft → Except Fault Unit
  | .null | .bool _ | .number _ => .ok ()
  | .string _ passed => passIf passed
  | .array items stop => do
    skipItems items
    passIf stop
  | .object members stop => do
    skipMembers members
    passIf stop
  | .absent => .error .truncated
  | .broken _ f => .error f

def skipItems : List Draft → Except Fault Unit
  | [] => .ok ()
  | item :: items => do
    item.skip
    skipItems items

def skipMembers : List (Draft × Draft) → Except Fault Unit
  | [] => .ok ()
  | (key, value) :: members => do
    match key with
    | .string _ passed => passIf passed
    | .absent => .error .truncated
    | _ => .error .malformed
    value.skip
    skipMembers members

end

mutual

/-- The value itself, if its containers are at most `depth` deep. A repeated name keeps its first
place and its last value. -/
def Draft.settle (depth : Nat) : Draft → Except Fault Value
  | .null => .ok .null
  | .bool b => .ok (.bool b)
  | .number value => value.map .number
  | .string text _ => text.map .string
  | .array items stop =>
    match depth with
    | 0 => .error .malformed
    | depth + 1 => do
      let items ← settleItems depth items
      passIf stop
      return .array items
  | .object members stop =>
    match depth with
    | 0 => .error .malformed
    | depth + 1 => do
      let fields ← settleMembers depth members
      passIf stop
      return .object (mergeEntries fields)
  | .absent => .error .truncated
  | .broken f _ => .error f

def settleItems (depth : Nat) : List Draft → Except Fault (List Value)
  | [] => .ok []
  | item :: items => do
    let value ← item.settle depth
    return value :: (← settleItems depth items)

def settleMembers (depth : Nat) : List (Draft × Draft) → Except Fault (List (String × Value))
  | [] => .ok []
  | (key, draft) :: members => do
    let name ← key.key
    let value ← draft.settle depth
    return (name, value) :: (← settleMembers depth members)

end

/-- Containers in a text may be nested to this depth. -/
def maxDepth : Nat := 127

def Document.settle (document : Document) : Except Fault Value := do
  let value ← document.root.settle maxDepth
  if document.trailing then .error .malformed else return value

end BrowserFlow.Json
