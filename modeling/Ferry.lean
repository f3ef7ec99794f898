import Ferry.Adapt
import Ferry.Backend.Basic
import Ferry.Backend.Memory
import Ferry.Calendar.Clock
import Ferry.Calendar.Date
import Ferry.Classification
import Ferry.CommandLine.Arguments
import Ferry.CommandLine.Output
import Ferry.CommandLine.Perform
import Ferry.Config.Basic
import Ferry.Config.Check
import Ferry.Config.Document
import Ferry.Config.Fingerprint
import Ferry.Config.Load
import Ferry.Config.Reader
import Ferry.Digest.Sha256
import Ferry.Document.Basic
import Ferry.Document.Form
import Ferry.Document.Parser
import Ferry.Document.Printer
import Ferry.Error
import Ferry.FileContent
import Ferry.Identifier
import Ferry.Keyed
import Ferry.Main
import Ferry.Number.Binary64
import Ferry.Number.Decimal
import Ferry.Number.DecimalNumeral
import Ferry.Number.FloatText
import Ferry.Number.Rounding
import Ferry.Number.Shortest
import Ferry.Plan.Basic
import Ferry.Plan.Check
import Ferry.Postgres.CatalogRows
import Ferry.Postgres.Decoder
import Ferry.Postgres.Pool
import Ferry.Postgres.Rows
import Ferry.Postgres.Server
import Ferry.Postgres.Sites
import Ferry.Postgres.Snapshot
import Ferry.Postgres.Statement
import Ferry.Proofs.Adapt
import Ferry.Proofs.Backend.Calls
import Ferry.Proofs.Backend.Publication
import Ferry.Proofs.Backend.Reliable
import Ferry.Proofs.Backend.Service
import Ferry.Proofs.Backend.Storage
import Ferry.Proofs.Backend.Storing
import Ferry.Proofs.Backend.Stream
import Ferry.Proofs.Backend.Trace
import Ferry.Proofs.Backend.Upsert
import Ferry.Proofs.Calendar
import Ferry.Proofs.Classification
import Ferry.Proofs.CommandLine.Exit
import Ferry.Proofs.Config.Check
import Ferry.Proofs.Config.Fingerprint
import Ferry.Proofs.Config.Outline
import Ferry.Proofs.Document.Distinct
import Ferry.Proofs.Document.Numeral
import Ferry.Proofs.Document.Reading
import Ferry.Proofs.Document.Regular
import Ferry.Proofs.Document.Token
import Ferry.Proofs.Identifier
import Ferry.Proofs.Keyed
import Ferry.Proofs.Mirror
import Ferry.Proofs.Number.Binary64
import Ferry.Proofs.Number.Decimal
import Ferry.Proofs.Outcome
import Ferry.Proofs.Pairing
import Ferry.Proofs.Plan.Check
import Ferry.Proofs.Plan.FirstIssue
import Ferry.Proofs.Plan.Integer
import Ferry.Proofs.Plan.Meaning
import Ferry.Proofs.Postgres.CatalogRows
import Ferry.Proofs.Postgres.Decoder
import Ferry.Proofs.Postgres.Lease
import Ferry.Proofs.Postgres.Looking
import Ferry.Proofs.Postgres.Usage
import Ferry.Proofs.Promotion
import Ferry.Proofs.Run.Cancellation
import Ferry.Proofs.Run.Clearance
import Ferry.Proofs.Run.Complete
import Ferry.Proofs.Run.Counting
import Ferry.Proofs.Run.DryRun
import Ferry.Proofs.Run.Isolation
import Ferry.Proofs.Run.Repetition
import Ferry.Proofs.Run.Signal
import Ferry.Proofs.Run.Storage
import Ferry.Proofs.Run.StraightCopy
import Ferry.Proofs.Run.Turns
import Ferry.Proofs.Scalar
import Ferry.Proofs.Schema.Catalog
import Ferry.Proofs.Schema.DataType
import Ferry.Proofs.Schema.Difference
import Ferry.Proofs.Schema.Modifier
import Ferry.Proofs.Schema.Reconciliation
import Ferry.Proofs.Schema.Table
import Ferry.Proofs.Sql.Distinct
import Ferry.Proofs.Sql.Grammar
import Ferry.Proofs.Sql.Insert
import Ferry.Proofs.Sql.Literal
import Ferry.Proofs.Sql.Naming
import Ferry.Proofs.Sql.Reading
import Ferry.Proofs.Sql.Token
import Ferry.Proofs.Text.ByteOrder
import Ferry.Proofs.Text.Hex
import Ferry.Proofs.Text.Lower
import Ferry.Proofs.Text.Numeral
import Ferry.Proofs.Text.Trim
import Ferry.Proofs.Transfer.Agreement
import Ferry.Proofs.Transfer.Alignment
import Ferry.Proofs.Transfer.Batching
import Ferry.Proofs.Transfer.Constant
import Ferry.Proofs.Transfer.Engine
import Ferry.Proofs.Transfer.Filling
import Ferry.Proofs.Transfer.Job
import Ferry.Proofs.Transfer.Protocol
import Ferry.Proofs.Transfer.Publication
import Ferry.Proofs.Transfer.Rows
import Ferry.Proofs.Transfer.Steps
import Ferry.Proofs.Transfer.Storage
import Ferry.Proofs.Transfer.Validation
import Ferry.Proofs.Uuid
import Ferry.Proofs.Value
import Ferry.Proofs.Yaml.Block
import Ferry.Proofs.Yaml.Distinct
import Ferry.Proofs.Yaml.Outline
import Ferry.Proofs.Yaml.Scalar
import Ferry.Proofs.Yaml.Word
import Ferry.Report
import Ferry.Run
import Ferry.Run.Signal
import Ferry.Schema.Catalog
import Ferry.Schema.DataType
import Ferry.Schema.Difference
import Ferry.Schema.Document
import Ferry.Schema.Table
import Ferry.Sql.Insert
import Ferry.SslMode
import Ferry.Text.Basic
import Ferry.Text.Blank
import Ferry.Text.CaseTable
import Ferry.Text.Hex
import Ferry.Text.Hidden
import Ferry.Text.Lower
import Ferry.Text.Numeral
import Ferry.Text.Quoted
import Ferry.Transfer
import Ferry.Uuid
import Ferry.Value
import Ferry.Yaml.Data
import Ferry.Yaml.Field
import Ferry.Yaml.Node
import Ferry.Yaml.Outline
import Ferry.Yaml.Plain
import Ferry.Yaml.Scalar
import Ferry.Yaml.Source
import Ferry.Yaml.Token
