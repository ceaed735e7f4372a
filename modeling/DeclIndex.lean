import DeclIndex.Text.Lines
import DeclIndex.Text.Blank
import DeclIndex.Text.Case
import DeclIndex.Text.Quoted
import DeclIndex.Text.Utf8
import DeclIndex.Pattern.Match
import DeclIndex.Pattern.Token
import DeclIndex.Pattern.NameGroup
import DeclIndex.Pattern.Word
import DeclIndex.Profile.Classify
import DeclIndex.Profile.Entry
import DeclIndex.Profile.Halves
import DeclIndex.Language.Builtin
import DeclIndex.Registry
import DeclIndex.Value.Json
import DeclIndex.Host.Usual
import DeclIndex.Report
import DeclIndex.Directory.Listing
import DeclIndex.Exclude
import DeclIndex.Walk
import DeclIndex.Scan
import DeclIndex.Config
import DeclIndex.CommandLine.Program
import DeclIndex.Main
import DeclIndex.Proofs.Pattern.Onset
import DeclIndex.Proofs.Profile.Barrier
import DeclIndex.Proofs.Pattern.CaseBlind
import DeclIndex.Proofs.Profile.OwnComment
import DeclIndex.Proofs.Profile.Window
import DeclIndex.Proofs.Pattern.NameGroup
import DeclIndex.Proofs.Scan.Account
import DeclIndex.Proofs.Profile.CaseBlind
import DeclIndex.Proofs.Pattern.Ends
import DeclIndex.Proofs.Pattern.Consumes
import DeclIndex.Proofs.Pattern.WholeWord
import DeclIndex.Proofs.Profile.Header
import DeclIndex.Proofs.Language.Parts
import DeclIndex.Proofs.Language.Script
import DeclIndex.Proofs.Language.Lua
import DeclIndex.Proofs.Language.Scala
import DeclIndex.Proofs.Language.Crystal
import DeclIndex.Proofs.Language.Pascal
import DeclIndex.Proofs.Language.Callable
import DeclIndex.Proofs.Language.Gated
import DeclIndex.Proofs.Profile.Layout
import DeclIndex.Proofs.Assoc
import DeclIndex.Proofs.Registry
import DeclIndex.Proofs.Profile.Anchor
import DeclIndex.Proofs.Comment.Piece
import DeclIndex.Proofs.Profile.OneLine
import DeclIndex.Proofs.Report
import DeclIndex.Proofs.Scan.Language
import DeclIndex.Proofs.CommandLine.Failure
import DeclIndex.Proofs.Comment.Halting
import DeclIndex.Proofs.Profile.Entry
import DeclIndex.Proofs.Comment.Marker
import DeclIndex.Proofs.Comment.Bare
import DeclIndex.Proofs.Comment.Above
import DeclIndex.Proofs.Comment.Below
import DeclIndex.Proofs.Comment.MarkerOrder
import DeclIndex.Proofs.Comment.Joined
import DeclIndex.Proofs.Walk.Filtered
import DeclIndex.Proofs.Pattern.WrittenWords
import DeclIndex.Proofs.Pattern.LongestWord
import DeclIndex.Proofs.Profile.EntryOutcome
import DeclIndex.Proofs.Profile.Halves
import DeclIndex.Proofs.Profile.BlankLine
import DeclIndex.Proofs.Language.PascalSplit
import DeclIndex.Proofs.Pattern.NamedFallback
import DeclIndex.Proofs.Language.Prototype
import DeclIndex.Proofs.Language.Swift
import DeclIndex.Proofs.Language.Java
import DeclIndex.Proofs.Language.DartGetter
import DeclIndex.Proofs.Scan.LineEnds
import DeclIndex.Proofs.Profile.EntryUsable
import DeclIndex.Proofs.Report.Json
import DeclIndex.Proofs.Config
import DeclIndex.Proofs.Profile.Attributes
import DeclIndex.Proofs.Profile.ControlFlow
