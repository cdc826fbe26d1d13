/-!
Cutting and replacing in a text given as its list of characters.
-/

namespace BrowserFlow.Text

/-- What follows `lead` when the text starts with it. -/
def after? (lead text : List Char) : Option (List Char) :=
  lead.isPrefixOf? text

/-- What comes before `tail` when the text ends with it. -/
def before? (tail text : List Char) : Option (List Char) :=
  (tail.reverse.isPrefixOf? text.reverse).map List.reverse

/-- The pieces between the separators; never empty. -/
def splitAt (separator : Char) : List Char → List (List Char)
  | [] => [[]]
  | c :: rest =>
    if c = separator then [] :: splitAt separator rest
    else
      match splitAt separator rest with
      | [] => [[c]]
      | piece :: pieces => (c :: piece) :: pieces

/-- The part before the first separator and the part after it. -/
def cut? (separator : Char) : List Char → Option (List Char × List Char)
  | [] => none
  | c :: rest =>
    if c = separator then some ([], rest)
    else (cut? separator rest).map fun (head, tail) => (c :: head, tail)

/-- The part before the last separator and the part after it. -/
def cutLast? (separator : Char) (text : List Char) : Option (List Char × List Char) :=
  (cut? separator text.reverse).map fun (tail, head) => (head.reverse, tail.reverse)

/-- `skip` counts the characters that still belong to the occurrence just replaced. -/
def replaceFrom (mark value : List Char) : Nat → List Char → List Char
  | _, [] => []
  | skip + 1, _ :: rest => replaceFrom mark value skip rest
  | 0, c :: rest =>
    if mark.isPrefixOf (c :: rest) then value ++ replaceFrom mark value (mark.length - 1) rest
    else c :: replaceFrom mark value 0 rest

/-- Replaces the occurrences of a non-empty `mark`, from the left and without overlap. -/
def replaceAll (mark value text : List Char) : List Char :=
  replaceFrom mark value 0 text

def contains (piece : List Char) : List Char → Bool
  | [] => piece.isEmpty
  | c :: rest => piece.isPrefixOf (c :: rest) || contains piece rest

end BrowserFlow.Text
