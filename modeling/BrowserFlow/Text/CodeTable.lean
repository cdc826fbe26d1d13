import BrowserFlow.Text.Split

/-!
Tables of code points written as text: rows such as `C0-D6:E0`, sorted, with blanks between them.
-/

namespace BrowserFlow.Text

/-- Every `step`-th code point from `first` to `last`, and what belongs to the first of them. -/
structure CodeRow where
  first : Nat
  last : Nat
  step : Nat
  value : List Nat
deriving DecidableEq, Repr, Inhabited

def hexDigitValue (c : Char) : Nat :=
  if c.isDigit then c.toNat - '0'.toNat else c.toNat - 'A'.toNat + 10

def hexNat (digits : List Char) : Nat :=
  digits.foldl (fun n c => 16 * n + hexDigitValue c) 0

def pieces (separator : Char) (text : List Char) : List (List Char) :=
  (splitAt separator text).filter (!·.isEmpty)

/-- A row: the first code point, then the last after a hyphen, the step after a slash and the values
after a colon, with dots between them. -/
def codeRow (text : List Char) : CodeRow :=
  let (range, value) := (cut? ':' text).getD (text, [])
  let (range, step) := (cut? '/' range).getD (range, ['1'])
  let (first, last) := (cut? '-' range).getD (range, range)
  ⟨hexNat first, hexNat last, hexNat step, (pieces '.' value).map hexNat⟩

def codeTable (text : String) : Array CodeRow :=
  ((pieces ' ' (text.toList.map fun c => if c = '\n' then ' ' else c)).map codeRow).toArray

/-- Looks among the rows from `low` up to `high`. -/
def searchRows (rows : Array CodeRow) (n : Nat) : Nat → Nat → Nat → Option CodeRow
  | 0, _, _ => none
  | fuel + 1, low, high =>
    if low < high then
      let middle := (low + high) / 2
      match rows[middle]? with
      | none => none
      | some row =>
        if n < row.first then searchRows rows n fuel low middle
        else if row.last < n then searchRows rows n fuel (middle + 1) high
        else if (n - row.first) % row.step = 0 then some row
        else none
    else none

def rowOf? (rows : Array CodeRow) (c : Char) : Option CodeRow :=
  searchRows rows c.toNat rows.size 0 rows.size

/-- The number that belongs to a character, or zero. -/
def classOf (rows : Array CodeRow) (c : Char) : Nat :=
  ((rowOf? rows c).bind (·.value.head?)).getD 0

end BrowserFlow.Text
