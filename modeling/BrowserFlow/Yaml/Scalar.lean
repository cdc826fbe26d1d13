import BrowserFlow.Yaml.Cursor

/-!
YAML scalars in all their styles. A line break inside a scalar reads as a space, and further ones
as line breaks, unless the style keeps lines as they are.
-/

namespace BrowserFlow.Yaml

namespace Scan

/-- The breaks between two lines, folded. -/
def fold (breaks : Nat) : List Char :=
  if breaks = 1 then [' '] else List.replicate (breaks - 1) '\n'

/-- Skips blank lines and the spaces before the next text, and counts the line breaks. -/
def skipBreaks : Nat → Scan Nat
  | 0 => return 0
  | fuel + 1 => do
    skipSpaces
    match ← rest with
    | '\n' :: _ =>
      skip 1
      return (← skipBreaks fuel) + 1
    | _ => return 0

def isFlowMark (c : Char) : Bool := ",[]\x7b\x7d".toList.contains c

/-- Whether a plain scalar ends before this text. -/
def endsPlain (flow : Bool) (before : Option Char) : List Char → Bool
  | [] => true
  | c :: rest =>
    c == '\n' || (c == ':' && endsWord rest) || (c == '#' && before.any isSpace) ||
      (flow && isFlowMark c)

/-- The plain text on this line, with the spaces after it. -/
def plainSpan (flow : Bool) (before : Option Char) : List Char → List Char
  | [] => []
  | c :: rest =>
    if endsPlain flow before (c :: rest) then [] else c :: plainSpan flow (some c) rest

def trimSpaces (text : List Char) : List Char := (text.reverse.dropWhile isSpace).reverse

/-- A colon between brackets may not touch one of the marks used there. -/
def hasStrayColon : List Char → List Char → Bool
  | [], _ => false
  | [':'], next => next.head?.any isFlowMark
  | _ :: rest, next => hasStrayColon rest next

/-- Whether a tab stands in the indentation before column `least`. -/
def abusesTabs (least : Nat) : List Char → Nat → Bool
  | ' ' :: rest, column => abusesTabs least rest (column + 1)
  | '\t' :: rest, column => column < least || abusesTabs least rest (column + 1)
  | '\n' :: rest, _ => abusesTabs least rest 0
  | _, _ => false

/-- The lines of a plain scalar. Outside of brackets they start in a column from `least` on. -/
def plainLines (flow : Bool) (least : Nat) : Nat → Scan (List Char)
  | 0 => malformed
  | fuel + 1 => do
    let span := trimSpaces (plainSpan flow none (← rest))
    skip span.length
    if flow ∧ hasStrayColon span (← rest) then malformed
    let here ← get
    let breaks ← skipBreaks (here.rest.length + 1)
    if breaks > 0 ∧ !flow ∧ abusesTabs least (here.rest.dropWhile (· ≠ '\n')) 0 then malformed
    let next ← rest
    let continues := breaks > 0 && (flow || (← column) ≥ least) && !(← atEnd) &&
      !endsPlain flow (some ' ') next
    if continues then
      return span ++ fold breaks ++ (← plainLines flow least fuel)
    else
      set here
      return span

def canStartPlain (flow : Bool) : List Char → Bool
  | [] => false
  | c :: rest =>
    if c = '-' ∨ (!flow ∧ (c = '?' ∨ c = ':')) then !endsWord rest
    else !"-?:,[]\x7b\x7d#&*!|>'\"%@\x60 \t\n".toList.contains c

def plain (flow : Bool) (least : Nat) : Scan Node := do
  if canStartPlain flow (← rest) then
    return .scalar (String.ofList (← plainLines flow least ((← rest).length + 1))) true
  else malformed

/-- The rest of a scalar in single quotes; `spaces` are those passed last. -/
def singleQuoted : Nat → List Char → Scan (List Char)
  | 0, _ => malformed
  | fuel + 1, spaces => do
    match ← rest with
    | [] => malformed
    | '\'' :: '\'' :: _ =>
      skip 2
      return spaces ++ '\'' :: (← singleQuoted fuel [])
    | '\'' :: _ =>
      skip 1
      return spaces
    | '\n' :: _ =>
      let breaks ← skipBreaks ((← rest).length + 1)
      if ← atEnd then malformed
      return fold breaks ++ (← singleQuoted fuel [])
    | c :: _ =>
      skip 1
      if isSpace c then singleQuoted fuel (spaces ++ [c])
      else return spaces ++ c :: (← singleQuoted fuel [])

def hexValue? (c : Char) : Option Nat :=
  if c.isDigit then some (c.toNat - '0'.toNat)
  else if 'a' ≤ c ∧ c ≤ 'f' then some (c.toNat - 'a'.toNat + 10)
  else if 'A' ≤ c ∧ c ≤ 'F' then some (c.toNat - 'A'.toNat + 10)
  else none

/-- A character given by `count` hexadecimal digits. -/
def hexChar (count : Nat) : Scan Char := do
  let digits := (← rest).take count
  skip count
  match digits.mapM hexValue? with
  | none => malformed
  | some values =>
    let code := values.foldl (fun code value => 16 * code + value) 0
    if digits.length = count ∧ code.isValidChar then return Char.ofNat code else malformed

def simpleEscapes : List (Char × Nat) :=
  [('0', 0), ('a', 7), ('b', 8), ('t', 9), ('\t', 9), ('n', 10), ('v', 11), ('f', 12), ('r', 13),
    ('e', 27), (' ', 32), ('"', 34), ('/', 47), ('\\', 92), ('N', 0x85), ('_', 0xA0),
    ('L', 0x2028), ('P', 0x2029)]

def escaped : Scan Char := do
  match ← rest with
  | [] => malformed
  | c :: _ =>
    skip 1
    if c = 'x' then hexChar 2
    else if c = 'u' then hexChar 4
    else if c = 'U' then hexChar 8
    else
      match simpleEscapes.lookup c with
      | some code => return Char.ofNat code
      | none => malformed

/-- The rest of a scalar in double quotes. An escaped line break joins two lines. -/
def doubleQuoted : Nat → List Char → Scan (List Char)
  | 0, _ => malformed
  | fuel + 1, spaces => do
    match ← rest with
    | [] => malformed
    | '"' :: _ =>
      skip 1
      return spaces
    | '\\' :: '\n' :: _ =>
      skip 1
      let breaks ← skipBreaks ((← rest).length + 1)
      if ← atEnd then malformed
      return spaces ++ List.replicate (breaks - 1) '\n' ++ (← doubleQuoted fuel [])
    | '\\' :: _ =>
      skip 1
      let c ← escaped
      return spaces ++ c :: (← doubleQuoted fuel [])
    | '\n' :: _ =>
      let breaks ← skipBreaks ((← rest).length + 1)
      if ← atEnd then malformed
      return fold breaks ++ (← doubleQuoted fuel [])
    | c :: _ =>
      skip 1
      if isSpace c then doubleQuoted fuel (spaces ++ [c])
      else return spaces ++ c :: (← doubleQuoted fuel [])

/-- How the line breaks at the end of a block are kept. -/
inductive Chomping where
  | clip
  | strip
  | keep
deriving DecidableEq, Repr

structure BlockHeader where
  folded : Bool
  chomping : Chomping
  indent : Option Nat

def blockMark (header : BlockHeader) (c : Char) : Option BlockHeader :=
  if c = '-' ∧ header.chomping = .clip then some { header with chomping := .strip }
  else if c = '+' ∧ header.chomping = .clip then some { header with chomping := .keep }
  else if '1' ≤ c ∧ c ≤ '9' ∧ header.indent.isNone then
    some { header with indent := some (c.toNat - '0'.toNat) }
  else none

/-- The style of a block, marks for it, and nothing else but a comment on the line. -/
def blockHeader : Scan BlockHeader := do
  let folded := (← rest).head? == some '>'
  skip 1
  let marks ← takeWhile fun c => !isSpace c && c != '\n'
  match marks.foldlM blockMark ⟨folded, .clip, none⟩ with
  | none => malformed
  | some header =>
    skipSpaces
    if (← rest).head? = some '#' then
      let _ ← takeWhile (· ≠ '\n')
    match ← rest with
    | [] => return header
    | '\n' :: _ =>
      skip 1
      return header
    | _ => malformed

/-- The lines of a block: those in from `indent` on, and blank ones between and after them. -/
def blockLines (indent : Nat) : Nat → Scan (List (List Char))
  | 0 => return []
  | fuel + 1 => do
    let text ← rest
    let spaces := (text.takeWhile (· = ' ')).length
    let after := text.drop spaces
    if text.isEmpty then return []
    else if after.head? = some '\n' ∧ spaces ≤ indent then
      skip (spaces + 1)
      return [] :: (← blockLines indent fuel)
    else if spaces < indent ∨ (← atEnd) then return []
    else
      skip indent
      let content ← takeWhile (· ≠ '\n')
      skip 1
      return content :: (← blockLines indent fuel)

/-- The indentation of the first line that is not blank. -/
def firstIndent : List Char → Nat → Nat
  | ' ' :: rest, n => firstIndent rest (n + 1)
  | '\n' :: rest, _ => firstIndent rest 0
  | [], _ => 0
  | _ :: _, n => n

def startsSpaced (line : List Char) : Bool := line.head?.any isSpace

/-- Joins lines; of two neighbours neither of which starts with a space the break is folded. -/
def joinFolded : List (List Char) → List Char
  | [] => []
  | [line] => line
  | line :: lines =>
    let blank := lines.takeWhile (·.isEmpty)
    match lines.dropWhile (·.isEmpty) with
    | [] => line ++ List.replicate blank.length '\n'
    | next :: _ =>
      let plain := !line.isEmpty && !startsSpaced line && !startsSpaced next
      (if line.isEmpty then ['\n']
        else if plain then (if blank.isEmpty then line ++ [' '] else line)
        else line ++ ['\n']) ++ joinFolded lines

def joinLines : List (List Char) → List Char
  | [] => []
  | [line] => line
  | line :: lines => line ++ '\n' :: joinLines lines

/-- A block; its lines are further in than those of the node that holds it, which start before
`least`. -/
def block (least : Nat) : Scan Node := do
  let header ← blockHeader
  let text ← rest
  let indent :=
    match header.indent with
    | some more => least - 1 + more
    | none => max (firstIndent text 0) (max least 1)
  let lines ← blockLines indent (text.length + 1)
  let content := (lines.reverse.dropWhile (·.isEmpty)).reverse
  let body := if header.folded then joinFolded content else joinLines content
  let blank := lines.length - content.length
  let taken := text.take (text.length - (← rest).length)
  let lastBreak := if content.isEmpty ∨ taken.getLast? ≠ some '\n' then 0 else 1
  let ending :=
    match header.chomping with
    | .strip => []
    | .clip => List.replicate lastBreak '\n'
    | .keep => List.replicate (blank + lastBreak) '\n'
  return .scalar (String.ofList (body ++ ending)) false

end Scan

end BrowserFlow.Yaml
