import Ingest.Document.Access
import Ingest.Document.Compare
import Ingest.Document.Convert
import Ingest.Document.Display
import Ingest.Document.Element
import Ingest.Document.FieldPath
import Ingest.Document.Json
import Ingest.Document.Store
import Ingest.Document.Strict
import Ingest.Elastic.Convert
import Ingest.Elastic.Definition
import Ingest.Elastic.Kind
import Ingest.Elastic.Shape
import Ingest.Error
import Ingest.Net.Address
import Ingest.Number.Binary64
import Ingest.Number.Notation
import Ingest.Number.Shortest
import Ingest.Order.RunSort
import Ingest.Pipeline.Apply
import Ingest.Pipeline.Build
import Ingest.Pipeline.Describe
import Ingest.Pipeline.Processor
import Ingest.Proofs.AppendAbsent
import Ingest.Proofs.ByteSizes
import Ingest.Proofs.CalendarCount
import Ingest.Proofs.CheckedOptions
import Ingest.Proofs.Conversion
import Ingest.Proofs.DoubleRounding
import Ingest.Proofs.Formatters
import Ingest.Proofs.MinimalFields
import Ingest.Proofs.MoveField
import Ingest.Proofs.Override
import Ingest.Proofs.PathContainment
import Ingest.Proofs.PathDelete
import Ingest.Proofs.PathFrame
import Ingest.Proofs.PathLens
import Ingest.Proofs.PathText
import Ingest.Proofs.PipelineFailure
import Ingest.Proofs.PositionCount
import Ingest.Proofs.ProcessResult
import Ingest.Proofs.RegexSplit
import Ingest.Proofs.RemoveFields
import Ingest.Proofs.SortMembers
import Ingest.Proofs.StoreTree
import Ingest.Proofs.StoreWrite
import Ingest.Proofs.Tai64Label
import Ingest.Proofs.Tai64Read
import Ingest.Proofs.UnixCodecs
import Ingest.Proofs.Validation
import Ingest.Regex.Charset
import Ingest.Regex.Match
import Ingest.Regex.Parse
import Ingest.Regex.Syntax
import Ingest.Text.Case
import Ingest.Text.CaseTable
import Ingest.Text.Chars
import Ingest.Text.Csv
import Ingest.Text.Identifier
import Ingest.Text.Position
import Ingest.Text.Printable
import Ingest.Text.Word
import Ingest.Time.Calendar
import Ingest.Time.DateTime
import Ingest.Time.Epoch
import Ingest.Time.Formatter
import Ingest.Time.Iso
import Ingest.Time.Zone
