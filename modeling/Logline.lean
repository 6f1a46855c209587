import Logline.Backtrace
import Logline.Document
import Logline.Engine.Application
import Logline.Engine.DebugText
import Logline.Json.Access
import Logline.Render.Lending
import Logline.Sink.Mark
import Logline.Sink.OpenFiles
import Logline.Proofs.ArgumentLists
import Logline.Proofs.ExactMerges
import Logline.Proofs.Resolution
import Logline.Proofs.Siblings
import Logline.Proofs.Isolation
import Logline.Proofs.Leaves
import Logline.Proofs.GroupPaths
import Logline.Proofs.SteadyWrites
import Logline.Proofs.SteadyPainters
import Logline.Proofs.NoResidue
import Logline.Proofs.Appending
import Logline.Proofs.BufferLimit
import Logline.Proofs.QuotedText
import Logline.Proofs.JsonReading
import Logline.Proofs.JsonLocality
import Logline.Proofs.JsonContent
import Logline.Proofs.FloatText
import Logline.Proofs.PlainText
import Logline.Proofs.TimeText
import Logline.Proofs.Gregorian
import Logline.Proofs.StampReading
import Logline.Proofs.LayoutInstants
import Logline.Proofs.ValueText
import Logline.Proofs.JsonValues
import Logline.Proofs.JsonLine
import Logline.Proofs.FieldReading
import Logline.Proofs.FieldValues
import Logline.Proofs.FieldLine
import Logline.Proofs.Flattening
import Logline.Proofs.MessageLines
import Logline.Proofs.ReadableLine
import Logline.Proofs.PhysicalLines
import Logline.Proofs.KeptText
import Logline.Proofs.AlignedLines
import Logline.Proofs.TrimmedText
import Logline.Proofs.LevelHistory
import Logline.Proofs.Thresholds
import Logline.Proofs.LevelText
import Logline.Proofs.LetterCase
import Logline.Proofs.LevelSpelling
import Logline.Proofs.Attempts
import Logline.Proofs.Reporting
import Logline.Proofs.Accounting
import Logline.Proofs.Delivery
import Logline.Proofs.Escalating
import Logline.Proofs.SinkCalls
import Logline.Proofs.FileLines
import Logline.Proofs.LastFlush
import Logline.Proofs.Flushing
import Logline.Proofs.ToldFailures
import Logline.Proofs.Rounding
import Logline.Proofs.Custody
import Logline.Proofs.MemberNames
import Logline.Proofs.StrictRouting
import Logline.Proofs.FailureShare
import Logline.Proofs.HiddenDirectories
import Logline.Proofs.FrameLines
import Logline.Proofs.PrintedFrames
import Logline.Proofs.FileSteps
import Logline.Proofs.FileRuns
import Logline.Proofs.EqualValues
import Logline.Proofs.RecordReading
import Logline.Proofs.EngineSettings
import Logline.Proofs.ConfiguredEngines
import Logline.Proofs.DistinctNumbers
import Logline.Proofs.NumberSizes
import Logline.Proofs.ComplexText
import Logline.Proofs.FramedWrites
import Logline.Proofs.EscapedText
import Logline.Proofs.FramedValues
