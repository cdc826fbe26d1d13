import BrowserFlow.Json.Double

/-!
JSON values and their written forms.
-/

namespace BrowserFlow.Json

inductive Number where
  | integer (n : Int)
  | real (x : Double)
deriving DecidableEq, Repr, Inhabited

/-- Integers and reals are never equal; the two real zeros are. -/
def Number.sameValue : Number → Number → Bool
  | .integer m, .integer n => m == n
  | .real x, .real y => x.sameValue y
  | _, _ => false

def Number.text : Number → List Char
  | .integer n => (toString n).toList
  | .real x => x.text

inductive Value where
  | null
  | bool (b : Bool)
  | number (n : Number)
  | string (s : String)
  | array (items : List Value)
  | object (fields : List (String × Value))
deriving Inhabited

namespace Value

def nat (n : Nat) : Value := .number (.integer n)

def strings (texts : List String) : Value := .array (texts.map .string)

def optional : Option String → Value
  | none => .null
  | some s => .string s

end Value

def hexDigit (n : Nat) : Char := Nat.digitChar n

/-- Inside quotes `"`, `\` and the characters below U+0020 are escaped, the latter by their short
form when they have one; everything else stands for itself. -/
def escapeChar (c : Char) : List Char :=
  if c = '"' then ['\\', '"']
  else if c = '\\' then ['\\', '\\']
  else if c = '\n' then ['\\', 'n']
  else if c = '\r' then ['\\', 'r']
  else if c = '\t' then ['\\', 't']
  else if c.toNat = 8 then ['\\', 'b']
  else if c.toNat = 12 then ['\\', 'f']
  else if c.toNat < 32 then
    ['\\', 'u', '0', '0', hexDigit (c.toNat / 16), hexDigit (c.toNat % 16)]
  else [c]

def quoteChars (text : List Char) : List Char :=
  '"' :: text.flatMap escapeChar ++ ['"']

def quote (s : String) : String := String.ofList (quoteChars s.toList)

def separated (separator : List Char) : List (List Char) → List Char
  | [] => []
  | [piece] => piece
  | piece :: pieces => piece ++ separator ++ separated separator pieces

mutual

def Value.compactChars : Value → List Char
  | .null => ['n', 'u', 'l', 'l']
  | .bool true => ['t', 'r', 'u', 'e']
  | .bool false => ['f', 'a', 'l', 's', 'e']
  | .number n => n.text
  | .string s => quoteChars s.toList
  | .array items => '[' :: separated [','] (compactItems items) ++ [']']
  | .object fields => '{' :: separated [','] (compactFields fields) ++ ['}']

def compactItems : List Value → List (List Char)
  | [] => []
  | item :: items => item.compactChars :: compactItems items

def compactFields : List (String × Value) → List (List Char)
  | [] => []
  | (name, value) :: fields =>
    (quoteChars name.toList ++ ':' :: value.compactChars) :: compactFields fields

end

def newline (depth : Nat) : List Char := '\n' :: List.replicate (2 * depth) ' '

/-- An empty container closes at once; otherwise each entry starts a line of its own. -/
def bracketed (opening closing : Char) (depth : Nat) (entries : List (List Char)) : List Char :=
  if entries.isEmpty then [opening, closing]
  else
    opening :: newline (depth + 1) ++ separated (',' :: newline (depth + 1)) entries ++
      newline depth ++ [closing]

mutual

def Value.prettyChars (depth : Nat) : Value → List Char
  | .null => ['n', 'u', 'l', 'l']
  | .bool true => ['t', 'r', 'u', 'e']
  | .bool false => ['f', 'a', 'l', 's', 'e']
  | .number n => n.text
  | .string s => quoteChars s.toList
  | .array items => bracketed '[' ']' depth (prettyItems (depth + 1) items)
  | .object fields => bracketed '{' '}' depth (prettyFields (depth + 1) fields)

def prettyItems (depth : Nat) : List Value → List (List Char)
  | [] => []
  | item :: items => item.prettyChars depth :: prettyItems depth items

def prettyFields (depth : Nat) : List (String × Value) → List (List Char)
  | [] => []
  | (name, value) :: fields =>
    (quoteChars name.toList ++ ':' :: ' ' :: value.prettyChars depth) :: prettyFields depth fields

end

namespace Value

def compact (v : Value) : String := String.ofList v.compactChars

/-- Two spaces of indentation per level and a space after each colon. -/
def pretty (v : Value) : String := String.ofList (v.prettyChars 0)

end Value

end BrowserFlow.Json
