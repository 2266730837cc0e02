import Conformance.Attempt
import Conformance.Command.Line
import Conformance.Command.LogFilter
import Conformance.Command.Running
import Conformance.Config.Basic
import Conformance.Config.Environment
import Conformance.Config.Loading
import Conformance.Config.Mismatch
import Conformance.Config.OfJson
import Conformance.Config.OfToml
import Conformance.Coverage.DataType
import Conformance.Coverage.TypePack
import Conformance.Decimal.Floating
import Conformance.Decimal.Reading
import Conformance.Decimal.Shortest
import Conformance.Device.Basic
import Conformance.Device.Host
import Conformance.Dictionary
import Conformance.Duration
import Conformance.Event
import Conformance.Files
import Conformance.HarnessError
import Conformance.Json.Basic
import Conformance.Json.Overlay
import Conformance.Json.Printer
import Conformance.Json.Tree
import Conformance.Main
import Conformance.Notice
import Conformance.Pattern.Basic
import Conformance.Pattern.CharSet
import Conformance.Pattern.Named
import Conformance.Pattern.Reading
import Conformance.Proofs.Course
import Conformance.Proofs.Deadline
import Conformance.Proofs.Isolation
import Conformance.Proofs.Registration
import Conformance.Proofs.Run
import Conformance.Proofs.Selection
import Conformance.Proofs.Severity
import Conformance.Proofs.Summary
import Conformance.Proofs.Watch
import Conformance.Readable
import Conformance.Registry
import Conformance.Report.Basic
import Conformance.Report.Stored
import Conformance.Report.Text
import Conformance.Script
import Conformance.Session
import Conformance.Shown
import Conformance.Suite.All
import Conformance.Suite.Capabilities
import Conformance.Suite.Copy
import Conformance.Suite.Range
import Conformance.Suite.Reduction
import Conformance.Suite.SubGroups
import Conformance.Suite.WorkGroups
import Conformance.TestCase
import Conformance.TestFilter
import Conformance.TestLog
import Conformance.Text.Numeral
import Conformance.Text.Quoted
import Conformance.Toml.Basic
import Conformance.Toml.DateTime
import Conformance.Toml.Document
import Conformance.Toml.Number
import Conformance.Toml.Table
import Conformance.Toml.Text
import Conformance.Unicode.Category
import Conformance.Unicode.CategoryRuns
import Conformance.Unicode.FoldRuns
import Conformance.Unicode.Folding
import Conformance.Unicode.Ranges
import Conformance.Unicode.Runs
import Conformance.Unicode.Script
import Conformance.Unicode.ScriptRuns
import Conformance.Word
import Conformance.Proofs.Listing
import Conformance.Proofs.Numerals
import Conformance.Proofs.JsonText
import Conformance.Proofs.StoredReport
import Conformance.Proofs.Leaf
import Conformance.Proofs.Layers
import Conformance.Proofs.Samples
import Conformance.Proofs.Ending
import Conformance.Proofs.DataParallel
import Conformance.Proofs.Conformant
import Conformance.Proofs.Independence
import Conformance.Proofs.WorkerPool
import Conformance.Proofs.Stages
import Conformance.Proofs.ExitCodes
import Conformance.Proofs.Hints
import Conformance.Proofs.ByteOrder
import Conformance.Proofs.Announcement
import Conformance.Proofs.Overrides
import Conformance.Proofs.Recording
import Conformance.Proofs.LaunchRanges
import Conformance.Proofs.SizeVariables
import Conformance.Proofs.LostItems
import Conformance.Proofs.DistinctNames
import Conformance.Proofs.TwoReaders
import Conformance.Proofs.InertEntries
import Conformance.Proofs.MalformedRanges
import Conformance.Proofs.SampleSums
import Conformance.Proofs.LostDevice
import Conformance.Proofs.SizeOverflow
import Conformance.Proofs.LeastRange
import Conformance.Proofs.FailureListings
import Conformance.Proofs.FilterMode
import Conformance.Proofs.ReportLines
import Conformance.Proofs.OverlayLaws
import Conformance.Proofs.Lanes
import Conformance.Proofs.Visits
import Conformance.Proofs.ActiveVariables
