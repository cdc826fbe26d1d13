import BrowserFlow.Replay.Config
import BrowserFlow.Rewrite.Service
import BrowserFlow.Segment.Segmenter

/-!
The settings of the program.
-/

namespace BrowserFlow

open Json (Reader Value)

namespace SegmentConfig

def toJson (c : SegmentConfig) : Value :=
  .object [("classify", .bool c.classify), ("window_size", .nat c.windowSize)]

def reader (source : Json.Source) : Reader :=
  Reader.record source "struct SegmenterConfig"
    [Reader.defaulted "classify" (.bool standard.classify) Reader.bool,
      Reader.defaulted "window_size" (.nat standard.windowSize) (Reader.natural "usize")]

def ofJson (v : Value) : SegmentConfig :=
  ⟨(v.field "classify").getBool, (v.field "window_size").getNat⟩

end SegmentConfig

structure Settings where
  segment : SegmentConfig
  replay : ReplayConfig
  rewrite : Rewrite.Config
deriving DecidableEq, Repr, Inhabited

namespace Settings

def standard : Settings := ⟨.standard, .standard, .standard⟩

def toJson (s : Settings) : Value :=
  .object
    [("segment", s.segment.toJson), ("replay", s.replay.toJson), ("rewrite", s.rewrite.toJson)]

/-- Classification can only be turned off. -/
def segmentConfig (s : Settings) (noClassify : Bool) : SegmentConfig :=
  { s.segment with classify := s.segment.classify && !noClassify }

def replayConfig (s : Settings) (mode : Option PreconditionMode) : ReplayConfig :=
  { s.replay with preconditionMode := mode.getD s.replay.preconditionMode }

def provider (s : Settings) (chosen : Option Rewrite.Provider) : Rewrite.Provider :=
  chosen.getD s.rewrite.provider

end Settings

end BrowserFlow
