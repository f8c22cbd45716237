import LoadSeries.Binary64.Arithmetic
import LoadSeries.Binary64.Basic
import LoadSeries.Binary64.Reading
import LoadSeries.Binary64.Shortest
import LoadSeries.Command.Arguments
import LoadSeries.Command.Log
import LoadSeries.Command.Run
import LoadSeries.Command.Tree
import LoadSeries.Command.Usage
import LoadSeries.Dataset.Cadence
import LoadSeries.Dataset.Calendar
import LoadSeries.Dataset.Catalog
import LoadSeries.Dataset.Decode
import LoadSeries.Dataset.Error
import LoadSeries.Dataset.Interval
import LoadSeries.Dataset.Schema
import LoadSeries.Dataset.StartTime
import LoadSeries.Dataset.Tables
import LoadSeries.Decimal.Basic
import LoadSeries.Files.Directory
import LoadSeries.Files.Fault
import LoadSeries.Files.Tree
import LoadSeries.Generator.Basic
import LoadSeries.Generator.Cursor
import LoadSeries.Generator.Recipe
import LoadSeries.Main
import LoadSeries.Pipeline.Batch
import LoadSeries.Pipeline.Config
import LoadSeries.Pipeline.DrainGuard
import LoadSeries.Pipeline.Error
import LoadSeries.Pipeline.Lifecycle
import LoadSeries.Pipeline.Run
import LoadSeries.Pipeline.Source
import LoadSeries.Pipeline.System
import LoadSeries.Populate.Basic
import LoadSeries.Populate.Destination
import LoadSeries.Populate.Error
import LoadSeries.Populate.Rate
import LoadSeries.Random.Block
import LoadSeries.Random.Stream
import LoadSeries.Record.Basic
import LoadSeries.Record.Encoding
import LoadSeries.Record.Error
import LoadSeries.Record.Frame
import LoadSeries.Record.Line
import LoadSeries.Record.MetricValue
import LoadSeries.Record.Point
import LoadSeries.Record.SeriesKey
import LoadSeries.Record.Wire
import LoadSeries.Sink.Basic
import LoadSeries.Sink.FullDevice
import LoadSeries.Sink.Trial
import LoadSeries.Sink.Writer
import LoadSeries.Text.Blank
import LoadSeries.Text.Digits
import LoadSeries.Text.Hidden
import LoadSeries.Text.Integer
import LoadSeries.Text.Quoted
import LoadSeries.Text.Utf8
import LoadSeries.Yaml.Decode
import LoadSeries.Yaml.Document
import LoadSeries.Yaml.Node
import LoadSeries.Yaml.Problem
import LoadSeries.Yaml.Reader
import LoadSeries.Yaml.Scalar
import LoadSeries.Yaml.SyntaxFault
import LoadSeries.Yaml.Token.Basic
import LoadSeries.Yaml.Token.Block
import LoadSeries.Yaml.Token.Directive
import LoadSeries.Yaml.Token.Gap
import LoadSeries.Yaml.Token.Plain
import LoadSeries.Yaml.Token.Portion
import LoadSeries.Yaml.Token.Quoted
import LoadSeries.Yaml.Token.Scanner
import LoadSeries.Yaml.Token.Tag
import LoadSeries.Proofs.Pipeline.Move
import LoadSeries.Proofs.Pipeline.Supply
import LoadSeries.Proofs.Pipeline.Flow
import LoadSeries.Proofs.Pipeline.Outcome
import LoadSeries.Proofs.Pipeline.Safety
import LoadSeries.Proofs.Pipeline.Delivery
import LoadSeries.Proofs.Generator.Place
import LoadSeries.Proofs.Generator.Walk
import LoadSeries.Proofs.Populate.Output
import LoadSeries.Proofs.Pipeline.Abort
import LoadSeries.Proofs.Pipeline.Course
import LoadSeries.Proofs.Pipeline.Drain
import LoadSeries.Proofs.Sink.Limit
import LoadSeries.Proofs.Pipeline.Overflow
import LoadSeries.Proofs.Pipeline.WholeBatches
import LoadSeries.Proofs.Pipeline.Inevitable
import LoadSeries.Proofs.Pipeline.Cancellation
import LoadSeries.Proofs.Pipeline.Trace
import LoadSeries.Proofs.Sink.Storage
import LoadSeries.Proofs.Except
import LoadSeries.Proofs.Pipeline.Backlog
import LoadSeries.Proofs.Pipeline.Release
import LoadSeries.Proofs.Pipeline.Routes
import LoadSeries.Proofs.Record.Reserved
import LoadSeries.Proofs.Record.Labels
import LoadSeries.Proofs.Populate.Verdict
import LoadSeries.Proofs.Text.Utf8
import LoadSeries.Proofs.Text.Pieces
import LoadSeries.Proofs.Record.Columns
import LoadSeries.Proofs.Record.Series
import LoadSeries.Proofs.Record.Message
import LoadSeries.Proofs.Populate.Lines
import LoadSeries.Proofs.Record.Frames
import LoadSeries.Proofs.Pipeline.Schedule
import LoadSeries.Proofs.Populate.Files
import LoadSeries.Proofs.Command.Words
import LoadSeries.Proofs.Populate.Metric
import LoadSeries.Proofs.Command.Output
import LoadSeries.Proofs.Text.Numerals
import LoadSeries.Proofs.Decimal.Reading
import LoadSeries.Proofs.Record.Reading
import LoadSeries.Proofs.Populate.Agreement
import LoadSeries.Proofs.Dataset.Requirements
import LoadSeries.Proofs.Dataset.Cadence
import LoadSeries.Proofs.Dataset.Validation
import LoadSeries.Proofs.Command.Settings
import LoadSeries.Proofs.Binary64.Grid
import LoadSeries.Proofs.Binary64.Nearest
import LoadSeries.Proofs.Binary64.Candidate
import LoadSeries.Proofs.Binary64.Shortest
import LoadSeries.Proofs.Text.Pointed
import LoadSeries.Proofs.Decimal.Rounding
import LoadSeries.Proofs.Generator.Draws
import LoadSeries.Proofs.Dataset.Interval
import LoadSeries.Proofs.Dataset.Lookup
import LoadSeries.Proofs.Generator.Remaining
import LoadSeries.Proofs.Text.Lossy
import LoadSeries.Proofs.Record.Unframed
import LoadSeries.Proofs.Pipeline.Idling
import LoadSeries.Proofs.Dataset.Calendar
import LoadSeries.Proofs.Dataset.StartTime
import LoadSeries.Proofs.Sink.Buffer
import LoadSeries.Proofs.Command.Seed
import LoadSeries.Proofs.Populate.Targets
import LoadSeries.Proofs.Command.Targets
