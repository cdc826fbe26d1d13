import BrowserFlow.Text.Blank
import BrowserFlow.Text.Split
import BrowserFlow.Text.Word
import BrowserFlow.Flow.Codec
import BrowserFlow.Evidence.Codec
import BrowserFlow.Evidence.Recording
import BrowserFlow.Evidence.Selectors
import BrowserFlow.Segment.Segmenter
import BrowserFlow.Replay.Report
import BrowserFlow.Replay.Script
import BrowserFlow.Files.Store
import BrowserFlow.Settings.App
import BrowserFlow.Compile.Artifacts
import BrowserFlow.Command.Line
import BrowserFlow.Command.Run
import BrowserFlow.Settings.File
import BrowserFlow.Main
import BrowserFlow.Url.Basic
import BrowserFlow.Proofs.Table
import BrowserFlow.Proofs.Text.Affix
import BrowserFlow.Proofs.Text.Replace
import BrowserFlow.Proofs.Json.Scalars
import BrowserFlow.Proofs.Json.Pretty
import BrowserFlow.Proofs.Json.Records
import BrowserFlow.Proofs.Locator.Quoted
import BrowserFlow.Proofs.Locator.Calls
import BrowserFlow.Proofs.Locator.Reload
import BrowserFlow.Proofs.Locator.Attribute
import BrowserFlow.Proofs.Locator.Selector
import BrowserFlow.Proofs.Locator.Survival
import BrowserFlow.Proofs.Segment.Block
import BrowserFlow.Proofs.Segment.History
import BrowserFlow.Proofs.Segment.Refinement
import BrowserFlow.Proofs.Segment.Steps
import BrowserFlow.Proofs.Flow.Reload
import BrowserFlow.Proofs.Flow.Agreement
import BrowserFlow.Proofs.Replay.Script
import BrowserFlow.Proofs.Locator.Settling
import BrowserFlow.Proofs.Replay.Slots
import BrowserFlow.Proofs.Replay.Pieces
import BrowserFlow.Proofs.Replay.Substitution
import BrowserFlow.Proofs.Segment.Run
import BrowserFlow.Proofs.Segment.Window
import BrowserFlow.Proofs.Segment.Keystrokes
import BrowserFlow.Proofs.Locator.Distinct
import BrowserFlow.Proofs.Locator.Opening
import BrowserFlow.Proofs.Evidence.Names
import BrowserFlow.Proofs.Evidence.Selectors
import BrowserFlow.Proofs.Segment.Reset
import BrowserFlow.Proofs.Flow.Stored
import BrowserFlow.Proofs.Json.Delimited
import BrowserFlow.Proofs.Flow.Digest
import BrowserFlow.Proofs.Flow.Overriding
import BrowserFlow.Proofs.Replay.Filter
import BrowserFlow.Proofs.Replay.Plan
import BrowserFlow.Proofs.Replay.Marks
import BrowserFlow.Proofs.Flow.Template
import BrowserFlow.Proofs.Json.Range
import BrowserFlow.Proofs.Evidence.Reload
import BrowserFlow.Proofs.Json.ReadBack
import BrowserFlow.Proofs.Files.Store
import BrowserFlow.Proofs.Files.Place
import BrowserFlow.Proofs.Files.Agreement
import BrowserFlow.Proofs.Compile.Run
import BrowserFlow.Proofs.Compile.Stages
import BrowserFlow.Proofs.Compile.Recompile
import BrowserFlow.Proofs.Compile.Rejection
import BrowserFlow.Proofs.Compile.Rewriting
import BrowserFlow.Proofs.Replay.Neighbours
import BrowserFlow.Proofs.Locator.Embedding
import BrowserFlow.Proofs.Evidence.Repetition
import BrowserFlow.Proofs.Segment.Configuration
import BrowserFlow.Proofs.Flow.Lookup
import BrowserFlow.Proofs.Flow.Mentions
import BrowserFlow.Proofs.Rewrite.Fences
import BrowserFlow.Proofs.Flow.OverrideTexts
import BrowserFlow.Proofs.Evidence.Recording
import BrowserFlow.Proofs.Text.Ranges
import BrowserFlow.Proofs.Text.Words
import BrowserFlow.Proofs.Segment.Click
import BrowserFlow.Proofs.Segment.Trace
