import BrowserFlow.Text.Split

/-!
Numeric addresses as hosts: their many spellings, and the one in which they are written.
-/

namespace BrowserFlow.Url

def digit? (radix : Nat) (c : Char) : Option Nat :=
  let value? : Option Nat :=
    if '0' ≤ c ∧ c ≤ '9' then some (c.toNat - '0'.toNat)
    else if 'a' ≤ c ∧ c ≤ 'z' then some (c.toNat - 'a'.toNat + 10)
    else if 'A' ≤ c ∧ c ≤ 'Z' then some (c.toNat - 'A'.toNat + 10)
    else none
  value?.filter (· < radix)

def natOf? (radix : Nat) (digits : List Char) : Option Nat :=
  digits.foldlM (fun value c => (digit? radix c).map (radix * value + ·)) 0

/-- The radix is told by how the number starts; after the mark of a radix there may be no digit. -/
def addressNumber? : List Char → Option Nat
  | [] => none
  | '0' :: 'x' :: digits | '0' :: 'X' :: digits => natOf? 16 digits
  | ['0'] => some 0
  | '0' :: digits => natOf? 8 digits
  | digits => natOf? 10 digits

def dropLastEmpty (parts : List (List Char)) : List (List Char) :=
  if parts.getLast? = some [] then parts.dropLast else parts

/-- Whether a domain must be a numeric address, judged by its last label. -/
def endsInNumber (domain : List Char) : Bool :=
  match (dropLastEmpty (Text.splitAt '.' domain)).getLast? with
  | none => false
  | some label =>
    (!label.isEmpty && label.all fun c => (digit? 10 c).isSome) || (addressNumber? label).isSome

/-- Up to four numbers, the last of which fills all bytes that are left. -/
def ipv4? (domain : List Char) : Option Nat := do
  let numbers ← (dropLastEmpty (Text.splitAt '.' domain)).mapM addressNumber?
  let last ← numbers.getLast?
  let leading := numbers.dropLast
  if leading.length ≤ 3 ∧ leading.all (· < 256) ∧ last < Nat.pow 256 (4 - leading.length) then
    some (leading.zipIdx.foldl (fun sum (n, i) => sum + n * Nat.pow 256 (3 - i)) last)
  else none

def decimalChars (n : Nat) : List Char := (toString n).toList

def ipv4Text (address : Nat) : List Char :=
  ['.'].intercalate
    ([3, 2, 1, 0].map fun position => decimalChars (address / Nat.pow 256 position % 256))

/-- A byte in decimal digits without leading zeros. -/
def dottedByte? (digits : List Char) : Option Nat := do
  let value ← natOf? 10 digits
  let plain := digits = ['0'] ∨ (digits.head?.isSome ∧ digits.head? ≠ some '0')
  if plain ∧ value < 256 then some value else none

/-- Two groups written as four bytes with dots between them. -/
def dottedGroups? (text : List Char) : Option (List Nat) :=
  match (Text.splitAt '.' text).mapM dottedByte? with
  | some [a, b, c, d] => some [256 * a + b, 256 * c + d]
  | _ => none

def group? (digits : List Char) : Option Nat :=
  if digits.isEmpty ∨ digits.length > 4 then none else natOf? 16 digits

/-- The groups between colons; dots are allowed in the last one. -/
def groups? (dotted : Bool) : List (List Char) → Option (List Nat)
  | [] => some []
  | [last] =>
    if dotted ∧ last.contains '.' then dottedGroups? last else (group? last).map ([·])
  | first :: rest => do return (← group? first) :: (← groups? dotted rest)

def groupsOf? (dotted : Bool) (text : List Char) : Option (List Nat) :=
  if text.isEmpty then some [] else groups? dotted (Text.splitAt ':' text)

/-- What stands before the first pair of colons and what stands after it. -/
def cutGap? : List Char → Option (List Char × List Char)
  | [] => none
  | [_] => none
  | ':' :: ':' :: rest => some ([], rest)
  | c :: d :: rest => (cutGap? (d :: rest)).map fun (before, after) => (c :: before, after)

/-- Eight groups, or fewer around a gap that stands for at least one zero. -/
def ipv6? (text : List Char) : Option (List Nat) :=
  match cutGap? text with
  | none => do
    let groups ← if text.isEmpty then none else groupsOf? true text
    if groups.length = 8 then some groups else none
  | some (before, after) => do
    let leading ← groupsOf? false before
    let trailing ← groupsOf? true after
    let count := leading.length + trailing.length
    if count < 8 then some (leading ++ List.replicate (8 - count) 0 ++ trailing) else none

def zerosAhead : List Nat → Nat
  | 0 :: rest => zerosAhead rest + 1
  | _ => 0

/-- The place and the length of the longest run of zeros, the first of equals. -/
def longestZeros (index : Nat) : List Nat → Nat × Nat
  | [] => (index, 0)
  | group :: rest =>
    let here := zerosAhead (group :: rest)
    let (place, length) := longestZeros (index + 1) rest
    if here ≥ length then (index, here) else (place, length)

def groupText (group : Nat) : List Char := Nat.toDigits 16 group

def groupsText (groups : List Nat) : List Char := [':'].intercalate (groups.map groupText)

/-- The longest run of two or more zeros is left out. -/
def ipv6Text (groups : List Nat) : List Char :=
  let (place, length) := longestZeros 0 groups
  if length < 2 then groupsText groups
  else groupsText (groups.take place) ++ [':', ':'] ++ groupsText (groups.drop (place + length))

end BrowserFlow.Url
