import BrowserFlow.Replay.Config
import BrowserFlow.Rewrite.Service

/-!
What the program can be told to do.
-/

namespace BrowserFlow

inductive Command where
  | compile (events outDirectory : String) (noClassify : Bool) (mode : Option PreconditionMode)
      (provider : Option Rewrite.Provider) (trace : Option String)
  | template (flow : String)
  | plan (flow : String) (data : Option String) (mode : Option PreconditionMode)
  | script (flow : String) (output : Option String) (mode : Option PreconditionMode)
deriving DecidableEq, Repr

structure Invocation where
  verbosity : Nat
  settings : Option String
  command : Command
deriving DecidableEq, Repr

end BrowserFlow
