import BrowserFlow.Files.System

/-!
File stores: directories and files as a value.
-/

namespace BrowserFlow

/-- A full device takes no byte; a null device takes all and keeps none. There are no links, and
what a file holds is always text: no operation fails with `FileError.notText`. -/
inductive FileNode where
  | directory
  | file (text : String)
  | fullDevice
  | nullDevice
deriving DecidableEq, Repr, Inhabited

/-- Nodes by the names that lead to them from the root. The root is always a directory, and relative
paths start at `home`. Next to them stands a clock, as the list of what it will show. -/
structure FileStore where
  home : List String
  nodes : List (List String × FileNode)
  readings : List Nat
deriving DecidableEq, Repr, Inhabited

namespace FileStore

def node? (store : FileStore) (place : List String) : Option FileNode :=
  if place.isEmpty then some .directory
  else (store.nodes.find? (·.1 = place)).map (·.2)

def put (store : FileStore) (place : List String) (node : FileNode) : FileStore :=
  if store.nodes.any (·.1 = place) then
    { store with
      nodes := store.nodes.map fun entry => if entry.1 = place then (place, node) else entry }
  else { store with nodes := store.nodes ++ [(place, node)] }

/-- Where a path leads: to a directory on the way, or to a name in a directory, with or without a
slash after it. -/
inductive Place where
  | directory (place : List String)
  | entry (place : List String) (slash : Bool)

def maxNameBytes : Nat := 255

def walk (store : FileStore) (here : List String) : List String → Except FileError Place
  | [] => .ok (.directory here)
  | name :: rest =>
    if name.isEmpty || name = "." then walk store here rest
    else if name = ".." then walk store here.dropLast rest
    else if name.utf8ByteSize > maxNameBytes then .error .nameTooLong
    else if rest.all (·.isEmpty) then .ok (.entry (here ++ [name]) (!rest.isEmpty))
    else
      match store.node? (here ++ [name]) with
      | none => .error .notFound
      | some .directory => walk store (here ++ [name]) rest
      | some _ => .error .notDirectory

def maxPathBytes : Nat := 4095

def locate (store : FileStore) (path : String) : Except FileError Place :=
  let names := (Text.splitAt '/' path.toList).map String.ofList
  if path.toList.contains '\x00' then .error .nulInName
  else if path.isEmpty then .error .notFound
  else if path.utf8ByteSize > maxPathBytes then .error .nameTooLong
  else store.walk (if Path.isAbsolute path.toList then [] else store.home) names

def readText (store : FileStore) (path : String) : Except FileError String :=
  match store.locate path with
  | .error e => .error e
  | .ok (.directory _) => .error .isDirectory
  | .ok (.entry place slash) =>
    match store.node? place with
    | none => .error .notFound
    | some .directory => .error .isDirectory
    | some (.file text) => if slash then .error .notDirectory else .ok text
    | some _ => if slash then .error .notDirectory else .ok ""

/-- Replaces the text of a file by a function of the text that was there before. -/
def update (store : FileStore) (path : String) (change : String → String) :
    Except FileError FileStore :=
  match store.locate path with
  | .error e => .error e
  | .ok (.directory _) => .error .isDirectory
  | .ok (.entry place slash) =>
    if slash then .error .isDirectory
    else
      match store.node? place with
      | none => .ok (store.put place (.file (change "")))
      | some .directory => .error .isDirectory
      | some (.file text) => .ok (store.put place (.file (change text)))
      | some .nullDevice => .ok store
      | some .fullDevice => if (change "").isEmpty then .ok store else .error .noSpace

def writeText (store : FileStore) (path text : String) : Except FileError FileStore :=
  store.update path fun _ => text

def openForAppend (store : FileStore) (path : String) : Except FileError FileStore :=
  store.update path id

def appendText (store : FileStore) (path text : String) : Except FileError FileStore :=
  store.update path (· ++ text)

def makeDirectory (store : FileStore) (path : String) : Except FileError FileStore :=
  match store.locate path with
  | .error e => .error e
  | .ok (.directory _) => .error .alreadyExists
  | .ok (.entry place _) =>
    match store.node? place with
    | none => .ok (store.put place .directory)
    | some _ => .error .alreadyExists

def isDirectory (store : FileStore) (path : String) : Bool :=
  match store.locate path with
  | .error _ => false
  | .ok (.directory _) => true
  | .ok (.entry place _) => store.node? place = some .directory

/-- An empty directory to start in, and the devices. -/
def empty : FileStore :=
  { home := ["home"]
    nodes :=
      [(["home"], .directory), (["dev"], .directory), (["dev", "full"], .fullDevice),
        (["dev", "null"], .nullDevice)]
    readings := [] }

/-- The files below `home`, by their paths from there. -/
def homeFiles (store : FileStore) : List (String × String) :=
  store.nodes.filterMap fun (place, node) =>
    match store.home.isPrefixOf? place, node with
    | some names, .file text => some ("/".intercalate names, text)
    | _, _ => none

/-- The next reading of the clock, which shows zero once there are no more. -/
def readClock (store : FileStore) : Nat × FileStore :=
  (store.readings.headD 0, { store with readings := store.readings.tail })

/-- Runs an operation that may fail and leaves the store alone if it does. -/
def attempt (operation : FileStore → Except FileError FileStore) :
    StateM FileStore (Except FileError Unit) := do
  match operation (← get) with
  | .ok store =>
    set store
    return .ok ()
  | .error e => return .error e

instance : FileSystem (StateM FileStore) where
  readText path := do return (← get).readText path
  writeText path text := attempt (·.writeText path text)
  makeDirectory path := attempt (·.makeDirectory path)
  isDirectory path := do return (← get).isDirectory path
  openForAppend path := attempt (·.openForAppend path)
  appendText path text := attempt (·.appendText path text)
  clock := modifyGet readClock

end FileStore

end BrowserFlow
