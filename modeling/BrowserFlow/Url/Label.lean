import BrowserFlow.Url.ClassTable

/-!
What a label of a domain name may look like.
-/

namespace BrowserFlow.Url

def isMark (c : Char) : Bool := (Text.rowOf? marks c).isSome

inductive Direction where
  | leftToRight
  | rightToLeft
  | arabicLetter
  | arabicNumber
  | europeanNumber
  | neutral
  | mark
  | outside
deriving DecidableEq, Repr

def direction (c : Char) : Direction :=
  match Text.classOf directions c with
  | 0 => .leftToRight
  | 1 => .rightToLeft
  | 2 => .arabicLetter
  | 3 => .arabicNumber
  | 4 => .europeanNumber
  | 5 => .neutral
  | 6 => .mark
  | _ => .outside

/-- A name with such a character in it is checked for directions as a whole. -/
def runsLeft (c : Char) : Bool :=
  [Direction.rightToLeft, .arabicLetter, .arabicNumber].contains (direction c)

/-- A label starts with a letter, which sets its direction. It holds no letters of the other
direction, ends with a letter or a number, marks apart, and has numbers of one kind. -/
def keepsDirection (label : List Char) : Bool :=
  let found := label.map direction
  let last := (found.reverse.dropWhile (· == .mark)).head?
  let allowed (directions : List Direction) := found.all directions.contains
  match found with
  | [] => true
  | .rightToLeft :: _ | .arabicLetter :: _ =>
    allowed [.rightToLeft, .arabicLetter, .arabicNumber, .europeanNumber, .neutral, .mark] &&
      last.any [Direction.rightToLeft, .arabicLetter, .arabicNumber, .europeanNumber].contains &&
      !(found.contains .arabicNumber && found.contains .europeanNumber)
  | .leftToRight :: _ =>
    allowed [.leftToRight, .europeanNumber, .neutral, .mark] &&
      last.any [Direction.leftToRight, .europeanNumber].contains
  | _ => false

def nonJoiner : Char := '\u200C'
def joiner : Char := '\u200D'

/-- The class of the marks that join two consonants. -/
def linkingClass : Nat := 9

def joinsLeft (c : Char) : Bool := [1, 3].contains (Text.classOf joinings c)
def joinsRight (c : Char) : Bool := [2, 3].contains (Text.classOf joinings c)

def isTransparent (c : Char) : Bool := direction c == .mark

/-- Whether a joiner is of any effect after `before` (the nearest character first). -/
def joinersFit (isLinking : Char → Bool) (before : List Char) : List Char → Bool
  | [] => true
  | c :: rest =>
    let linked := before.head?.any isLinking
    let between :=
      (before.dropWhile isTransparent).head?.any joinsLeft &&
        (rest.dropWhile isTransparent).head?.any joinsRight
    (if c = joiner then linked else if c = nonJoiner then linked || between else true) &&
      joinersFit isLinking (c :: before) rest

/-- Whether a label beyond ASCII may stand in a name. -/
def isLabel (isLinking : Char → Bool) (label : List Char) : Bool :=
  !label.head?.any isMark && joinersFit isLinking [] label

end BrowserFlow.Url
