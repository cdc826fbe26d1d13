import BrowserFlow.Files.Path

/-!
The file operations that the program needs, and what can go wrong with them.
-/

namespace BrowserFlow

inductive FileError where
  | notFound
  | alreadyExists
  | notDirectory
  | isDirectory
  | noSpace
  | nameTooLong
  | nulInName
  | notText
  | other (message : String)
deriving DecidableEq, Repr

def FileError.message : FileError → String
  | notFound => "No such file or directory (os error 2)"
  | alreadyExists => "File exists (os error 17)"
  | notDirectory => "Not a directory (os error 20)"
  | isDirectory => "Is a directory (os error 21)"
  | noSpace => "No space left on device (os error 28)"
  | nameTooLong => "File name too long (os error 36)"
  | nulInName => "file name contained an unexpected NUL byte"
  | notText => "stream did not contain valid UTF-8"
  | other message => message

/-- A place where files are kept, with a clock that gives milliseconds. -/
class FileSystem (m : Type → Type) where
  readText (path : String) : m (Except FileError String)
  writeText (path text : String) : m (Except FileError Unit)
  makeDirectory (path : String) : m (Except FileError Unit)
  isDirectory (path : String) : m Bool
  /-- Creates the file if there is none. -/
  openForAppend (path : String) : m (Except FileError Unit)
  appendText (path text : String) : m (Except FileError Unit)
  clock : m Nat

namespace FileSystem

variable {m : Type → Type} [Monad m] [FileSystem m]

/-- A directory that is already there is as good as a new one. -/
def makeOrKeep (path : String) (failed : FileError) : m (Except FileError Unit) := do
  if ← isDirectory path then return .ok () else return .error failed

/-- Makes a directory and those it lies in; `depth` bounds their number. -/
def makeDirectories : Nat → String → m (Except FileError Unit)
  | 0, _ => return .error .notFound
  | depth + 1, path => do
    if path.isEmpty then return .ok ()
    match ← makeDirectory path with
    | .ok () => return .ok ()
    | .error .notFound =>
      match Path.parent? path with
      | none => return .error .notFound
      | some parent =>
        match ← makeDirectories depth parent with
        | .error e => return .error e
        | .ok () =>
          match ← makeDirectory path with
          | .ok () => return .ok ()
          | .error e => makeOrKeep path e
    | .error e => makeOrKeep path e

def makeAllDirectories (path : String) : m (Except FileError Unit) :=
  makeDirectories (path.length + 1) path

end FileSystem

end BrowserFlow
