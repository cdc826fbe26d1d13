import BrowserFlow.Text.Composition
import BrowserFlow.Url.Label
import BrowserFlow.Url.MappingTable
import BrowserFlow.Url.Punycode

/-!
Domain names beyond ASCII, and the ASCII form in which they are used.
-/

namespace BrowserFlow.Url

/-- ASCII characters that no domain name may hold. -/
def isForbidden (c : Char) : Bool :=
  c.toNat ≤ 32 || c.toNat = 127 || "%#/:<>?@[\\]^|".toList.contains c

def isAscii (c : Char) : Bool := c.toNat < 128

/-- What takes the place of a character; `none` when it may not stand in a name. -/
def mapChar? (c : Char) : Option (List Char) :=
  match Text.rowOf? mappings c with
  | some row => some (row.value.map fun target => Char.ofNat (target + (c.toNat - row.first)))
  | none => if (Text.rowOf? rejections c).isSome then none else some [c]

/-- A name in the one form that all its spellings share. -/
def mapName? (name : List Char) : Option (List Char) :=
  (name.mapM mapChar?).map fun mapped => Text.compose mapped.flatten

def encodedMark : List Char := "xn--".toList

/-- The text that a label stands for. An encoded label must need its encoding and be mapped to
itself. -/
def readLabel? (label : List Char) : Option (List Char) :=
  match Text.after? encodedMark label with
  | none => some label
  | some rest => do
    if !label.all isAscii then none
    let decoded ← Punycode.decode? rest
    if decoded.all isAscii ∨ mapName? decoded ≠ some decoded then none else some decoded

def isLinking (c : Char) : Bool := Text.combiningClass c == linkingClass

def labelToAscii? (label : List Char) : Option (List Char) :=
  if label.all isAscii then some label
  else if isLabel isLinking label then some (encodedMark ++ Punycode.encode label)
  else none

/-- The ASCII form of a domain name, label by label. -/
def nameToAscii? (name : List Char) : Option (List Char) := do
  let mapped ← mapName? name
  if mapped.any isForbidden then none
  let labels ← (Text.splitAt '.' mapped).mapM readLabel?
  if labels.any (·.any runsLeft) ∧ !labels.all keepsDirection then none
  let encoded ← labels.mapM labelToAscii?
  return ['.'].intercalate encoded

end BrowserFlow.Url
