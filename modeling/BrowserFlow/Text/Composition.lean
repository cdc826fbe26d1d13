import BrowserFlow.Text.CompositionTable

/-!
Canonical composition: of the many ways to write a character with its marks, a single one is kept.
-/

namespace BrowserFlow.Text

def combiningClass (c : Char) : Nat := classOf combiningClasses c

/-! Hangul syllables are composed by arithmetic. -/

def firstSyllable : Nat := 0xAC00
def firstLead : Nat := 0x1100
def firstVowel : Nat := 0x1161
def beforeTails : Nat := 0x11A7
def leadCount : Nat := 19
def vowelCount : Nat := 21
def tailCount : Nat := 28
def syllableCount : Nat := leadCount * vowelCount * tailCount

def syllableParts (index : Nat) : List Char :=
  let lead := firstLead + index / (vowelCount * tailCount)
  let vowel := firstVowel + index % (vowelCount * tailCount) / tailCount
  let tail := index % tailCount
  [Char.ofNat lead, Char.ofNat vowel] ++ if tail = 0 then [] else [Char.ofNat (beforeTails + tail)]

def composeSyllable? (a b : Char) : Option Char :=
  let lead := a.toNat - firstLead
  let vowel := b.toNat - firstVowel
  let index := a.toNat - firstSyllable
  if firstLead ≤ a.toNat ∧ lead < leadCount ∧ firstVowel ≤ b.toNat ∧ vowel < vowelCount then
    some (Char.ofNat (firstSyllable + (lead * vowelCount + vowel) * tailCount))
  else if firstSyllable ≤ a.toNat ∧ index < syllableCount ∧ index % tailCount = 0 ∧
      beforeTails < b.toNat ∧ b.toNat < beforeTails + tailCount then
    some (Char.ofNat (a.toNat + (b.toNat - beforeTails)))
  else none

/-- A character as its parts; parts that have parts of their own are taken apart as well. -/
def parts : Nat → Char → List Char
  | 0, c => [c]
  | fuel + 1, c =>
    if firstSyllable ≤ c.toNat ∧ c.toNat < firstSyllable + syllableCount then
      syllableParts (c.toNat - firstSyllable)
    else
      match rowOf? compositions c with
      | some ⟨_, _, _, [a, b]⟩ => parts fuel (Char.ofNat a) ++ [Char.ofNat b]
      | _ => [c]

/-- The number of times a character can be taken apart is less than this. -/
def maxParts : Nat := 8

/-- Puts runs of marks in the order of their classes. -/
def orderMarks (run : List Char) : List Char → List Char
  | [] => sorted run
  | c :: rest =>
    if combiningClass c = 0 then sorted run ++ c :: orderMarks [] rest
    else orderMarks (run ++ [c]) rest
where
  sorted (run : List Char) : List Char :=
    run.mergeSort fun a b => combiningClass a ≤ combiningClass b

def decompose (text : List Char) : List Char := orderMarks [] (text.flatMap (parts maxParts))

def composePair? (a b : Char) : Option Char :=
  composeSyllable? a b <|>
    (compositions.find? (·.value = [a.toNat, b.toNat])).map fun row => Char.ofNat row.first

/-- `passed` holds the marks after `base` that it could not be composed with, the last one first. -/
def composeFrom (base : Char) (passed : List Char) : List Char → List Char
  | [] => base :: passed.reverse
  | c :: rest =>
    let reachable := passed.head?.all fun mark => combiningClass mark < combiningClass c
    match if reachable then composePair? base c else none with
    | some composed => composeFrom composed passed rest
    | none =>
      if combiningClass c = 0 then base :: passed.reverse ++ composeFrom c [] rest
      else composeFrom base (c :: passed) rest

/-- Marks before the first base stay as they are. -/
def composeMarks : List Char → List Char
  | [] => []
  | c :: rest => if combiningClass c = 0 then composeFrom c [] rest else c :: composeMarks rest

def compose (text : List Char) : List Char := composeMarks (decompose text)

end BrowserFlow.Text
