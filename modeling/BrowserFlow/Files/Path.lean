import BrowserFlow.Text.Split

/-!
Paths: names separated by slashes.
-/

namespace BrowserFlow.Path

def isAbsolute (path : List Char) : Bool := path.head? == some '/'

/-- An absolute second path replaces the first. -/
def joinChars (directory file : List Char) : List Char :=
  if isAbsolute file || directory.isEmpty then file
  else if directory.getLast? = some '/' then directory ++ file
  else directory ++ '/' :: file

/-- The root, or a leading dot that stands as a component of its own. -/
def leading (path : List Char) : List Char :=
  match path with
  | '/' :: _ => ['/']
  | ['.'] => ['.']
  | '.' :: '/' :: _ => ['.']
  | _ => []

def isFiller (name : List Char) : Bool := name.isEmpty || name == ['.']

/-- What remains when the last component and its slash are cut off, and the component. -/
def cutComponent (body : List Char) : List Char × List Char :=
  (Text.cutLast? '/' body).getD ([], body)

/-- Cuts off empty components and dots at the end. The body is what follows the leading part. -/
def dropFillers : Nat → List Char → List Char
  | 0, body => body
  | fuel + 1, body =>
    if body.isEmpty then body
    else
      let (rest, name) := cutComponent body
      if isFiller name then dropFillers fuel rest else body

/-- The path without its last component; none for the root and for an empty path. -/
def parentChars? (path : List Char) : Option (List Char) :=
  let front := leading path
  let body := dropFillers path.length (path.drop front.length)
  if body.isEmpty then if front = ['.'] then some [] else none
  else some (front ++ dropFillers path.length (cutComponent body).1)

def join (directory file : String) : String :=
  String.ofList (joinChars directory.toList file.toList)

def parent? (path : String) : Option String :=
  (parentChars? path.toList).map String.ofList

/-- The file of this name in the directory of `path`. -/
def sibling (path file : String) : String :=
  match parent? path with
  | some directory => join directory file
  | none => file

end BrowserFlow.Path
