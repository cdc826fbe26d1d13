import BrowserFlow.Url.Host

/-!
The host that a URL names.
-/

namespace BrowserFlow.Url

/-- The schemes whose URLs have a form of their own, and all others. -/
inductive SchemeKind where
  | file
  | web
  | plain
deriving DecidableEq, Repr

def schemeKind (scheme : String) : SchemeKind :=
  if scheme = "file" then .file
  else if ["http", "https", "ws", "wss", "ftp"].contains scheme then .web
  else .plain

def isControlOrSpace (c : Char) : Bool := c.toNat ≤ 32

def isLineBreakOrTab (c : Char) : Bool := c == '\t' || c == '\n' || c == '\r'

/-- Controls and spaces around a URL, and tabs and line breaks in it, are not part of it. -/
def cleaned (text : List Char) : List Char :=
  ((text.dropWhile isControlOrSpace).reverse.dropWhile isControlOrSpace).reverse.filter
    (!isLineBreakOrTab ·)

def isSchemeChar (c : Char) : Bool := c.isAlphanum || c == '+' || c == '-' || c == '.'

/-- A letter and more scheme characters up to a colon. -/
def cutScheme? (text : List Char) : Option (String × List Char) :=
  match Text.cut? ':' text with
  | some (c :: scheme, rest) =>
    if c.isAlpha && scheme.all isSchemeChar then
      some (String.ofList ((c :: scheme).map Char.toLower), rest)
    else none
  | _ => none

def isSlash (c : Char) : Bool := c == '/' || c == '\\'

/-- The end of the authority; outside plain schemes a backslash is as good as a slash. -/
def endsAuthority (kind : SchemeKind) (c : Char) : Bool :=
  c == '/' || c == '?' || c == '#' || (kind != .plain && c == '\\')

/-- Colons between brackets do not end the host. -/
def cutHost (kind : SchemeKind) (bracketed : Bool) : List Char → List Char × List Char
  | [] => ([], [])
  | c :: rest =>
    if (c == ':' && !bracketed) || endsAuthority kind c then ([], c :: rest)
    else
      let (host, rest) := cutHost kind (if c = '[' then true else if c = ']' then false else bracketed) rest
      (c :: host, rest)

def maxPort : Nat := 65535

/-- Digits up to the end of the authority. -/
def checkPort (kind : SchemeKind) (text : List Char) : Except UrlError Unit :=
  let digits := text.takeWhile Char.isDigit
  let next := (text.dropWhile Char.isDigit).head?
  if (natOf? 10 digits).any (· > maxPort) then .error .invalidPort
  else if next.all fun c => endsAuthority kind c || c == '\\' then .ok ()
  else .error .invalidPort

/-- What stands before the last at sign of the authority, and what follows it. -/
def cutUser? (kind : SchemeKind) (text : List Char) : Option (List Char × List Char) :=
  (Text.cutLast? '@' (text.takeWhile (!endsAuthority kind ·))).map fun (user, _) =>
    (user, text.drop (user.length + 1))

/-- The host and the port of an authority; `named` says whether a user stands before them. -/
def hostAndPort (kind : SchemeKind) (named : Bool) (text : List Char) :
    Except UrlError (List Char) := do
  let (host, rest) := cutHost kind false text
  if kind ≠ .plain ∧ host = [] then .error .emptyHost
  let name ← if kind = .plain then opaqueHost host else domainHost host
  match rest with
  | ':' :: port =>
    if name = [] then .error .emptyHost
    checkPort kind port
  | _ => pure ()
  if name = [] ∧ named then .error .emptyHost
  return name

def authorityHost (kind : SchemeKind) (text : List Char) : Except UrlError (List Char) :=
  match cutUser? kind text with
  | none => hostAndPort kind false text
  | some ([], rest) =>
    if rest.head?.any (endsAuthority kind) then .error .emptyHost else hostAndPort kind false rest
  | some (user, rest) => hostAndPort kind (user ≠ [':']) rest

/-- A letter and a colon or a bar: the name of a drive, not of a host. -/
def isDrive : List Char → Bool
  | [c, mark] => c.isAlpha && (mark == ':' || mark == '|')
  | _ => false

/-- A dot in a path segment, plain or encoded. -/
def afterDot? : List Char → Option (List Char)
  | '.' :: rest => some rest
  | '%' :: '2' :: e :: rest => if e = 'e' ∨ e = 'E' then some rest else none
  | _ => none

def isSingleDot (segment : List Char) : Bool := afterDot? segment == some []

def isDoubleDot (segment : List Char) : Bool := (afterDot? segment).any isSingleDot

/-- Whether a path begins with a drive once its dots are worked out; `depth` counts the segments
before these. -/
def startsWithDrive (depth : Nat) : List (List Char) → Bool
  | [] => false
  | segment :: segments =>
    if isDoubleDot segment then startsWithDrive (depth - 1) segments
    else if isSingleDot segment then startsWithDrive depth segments
    else (depth == 0 && isDrive segment) || startsWithDrive (depth + 1) segments

def pathSegments (text : List Char) : List (List Char) :=
  let path := text.takeWhile fun c => c != '?' && c != '#'
  Text.splitAt '/' (path.map fun c => if c = '\\' then '/' else c)

/-- A file is on the local machine when no other is named or its path begins with a drive. -/
def fileHost (text : List Char) : Except UrlError (List Char) :=
  match text with
  | c :: d :: rest =>
    if isSlash c && isSlash d then do
      let host := rest.takeWhile (!endsAuthority .file ·)
      if host = [] ∨ isDrive host then return []
      let name ← domainHost host
      let path := (rest.drop host.length).drop 1
      if name = "localhost".toList ∨ startsWithDrive 0 (pathSegments path) then return []
      return name
    else .ok []
  | _ => .ok []

def hostChars (text : List Char) : Except UrlError (List Char) :=
  match cutScheme? (cleaned text) with
  | none => .error .relative
  | some (scheme, rest) =>
    match schemeKind scheme with
    | .file => fileHost rest
    | .web => authorityHost .web (rest.dropWhile isSlash)
    | .plain =>
      match rest with
      | '/' :: '/' :: rest => authorityHost .plain rest
      | _ => .ok []

/-- The host of a URL as it is written, empty when it has none. -/
def host (url : String) : Except UrlError String :=
  (hostChars url.toList).map String.ofList

end BrowserFlow.Url
