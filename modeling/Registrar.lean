import Registrar.CommandLine.Arguments
import Registrar.CommandLine.Execution
import Registrar.CommandLine.Invocation
import Registrar.Digest.Sha256
import Registrar.Failure
import Registrar.Import.Course
import Registrar.Import.IdMap
import Registrar.Import.Professor
import Registrar.Import.Review
import Registrar.Import.Run
import Registrar.Import.Schedule
import Registrar.Import.Section
import Registrar.Import.Stage
import Registrar.Import.Summary
import Registrar.Import.Term
import Registrar.Import.User
import Registrar.Json.Basic
import Registrar.Json.Decoder
import Registrar.Json.Reader
import Registrar.Json.Writer
import Registrar.Keyed
import Registrar.Legacy.Csv
import Registrar.Legacy.Extended
import Registrar.Legacy.Files
import Registrar.Legacy.Store
import Registrar.Mail.Drain
import Registrar.Mail.Message
import Registrar.Mail.Queue
import Registrar.Mail.Template
import Registrar.Main
import Registrar.Number.Double
import Registrar.Number.Layout
import Registrar.Number.Scientific
import Registrar.Number.Shortest
import Registrar.Number.Whole
import Registrar.Postgres.Server
import Registrar.Postgres.Statement
import Registrar.Postgres.Warehouse
import Registrar.Settings.Basic
import Registrar.Settings.Reading
import Registrar.Settings.Tasks
import Registrar.Settings.Validation
import Registrar.Settings.Written
import Registrar.Sql.Array
import Registrar.Sql.BulkText
import Registrar.Sql.Identifier
import Registrar.Sql.Literal
import Registrar.Sql.Rows
import Registrar.Sql.Value
import Registrar.Text.Blank
import Registrar.Text.CaseTables
import Registrar.Text.Cut
import Registrar.Text.Doubled
import Registrar.Text.LetterCase
import Registrar.Text.Quoted
import Registrar.Text.Unprinted
import Registrar.Text.Utf8
import Registrar.Time.Date
import Registrar.Time.Instant
import Registrar.Time.Reading
import Registrar.Warehouse.Basic
import Registrar.Warehouse.Memory
import Registrar.Yaml.Decoder
import Registrar.Yaml.Lexeme
import Registrar.Yaml.Node
import Registrar.Yaml.Plain
import Registrar.Yaml.Token
import Registrar.Yaml.Written
import Registrar.Proofs.Memory.Commit
import Registrar.Proofs.Memory.Session
import Registrar.Proofs.Memory.Serializability
import Registrar.Proofs.Mail.Envelopes
import Registrar.Proofs.Memory.Queues
import Registrar.Proofs.Memory.Pending
import Registrar.Proofs.Mail.Exactness
import Registrar.Proofs.Mail.Office
import Registrar.Proofs.Mail.AtMostOnce
import Registrar.Proofs.Mail.Announcements
import Registrar.Proofs.Mail.Channel
import Registrar.Proofs.Mail.Interleaving
import Registrar.Proofs.Memory.Conversation
import Registrar.Proofs.Import.Writing
import Registrar.Proofs.Import.Stages
import Registrar.Proofs.Import.Provenance
import Registrar.Proofs.Import.Consistency
import Registrar.Proofs.Import.Renaming
import Registrar.Proofs.Import.Terms
import Registrar.Proofs.Import.Agreement
import Registrar.Proofs.Import.Stopping
import Registrar.Proofs.Import.Deduplication
import Registrar.Proofs.Import.Uniqueness
import Registrar.Proofs.Import.Reporting
import Registrar.Proofs.Text.Marks
import Registrar.Proofs.Mail.Grammar
import Registrar.Proofs.Mail.Printing
import Registrar.Proofs.Postgres.Recording
import Registrar.Proofs.Postgres.Discipline
import Registrar.Proofs.Postgres.Copying
import Registrar.Proofs.Number.Digits
import Registrar.Proofs.Number.Rounding
import Registrar.Proofs.Number.Shortest
import Registrar.Proofs.Number.Plain
import Registrar.Proofs.Time.Calendar
import Registrar.Proofs.Time.Reading
import Registrar.Proofs.Sql.Array
import Registrar.Proofs.Sql.Value
import Registrar.Proofs.Sql.BulkText
import Registrar.Proofs.Sql.Lexer
import Registrar.Proofs.Sql.Insert
import Registrar.Proofs.Mail.Escaping
import Registrar.Proofs.Import.CourseCodes
import Registrar.Proofs.Import.Firsts
import Registrar.Proofs.Import.Requisites
import Registrar.Proofs.Import.Checking
import Registrar.Proofs.Import.Guarding
import Registrar.Proofs.Time.Order
import Registrar.Proofs.Import.Places
import Registrar.Proofs.Import.Corrections
import Registrar.Proofs.Import.Credentials
import Registrar.Proofs.Import.Meetings
import Registrar.Proofs.Import.Reviewing
import Registrar.Proofs.Import.Histories
import Registrar.Proofs.Import.Professors
import Registrar.Proofs.Sql.Constant
import Registrar.Proofs.Mail.Concatenation
import Registrar.Proofs.Mail.BuiltIn
import Registrar.Proofs.Legacy.Csv
import Registrar.Proofs.Legacy.Extended
import Registrar.Proofs.Import.Programs
import Registrar.Proofs.Warehouse.Embedding
import Registrar.Proofs.Mail.Rounds
import Registrar.Proofs.Import.Columns
import Registrar.Proofs.Import.Contents
import Registrar.Proofs.Import.Requests
import Registrar.Proofs.Postgres.Naming
import Registrar.Proofs.Postgres.Insertion
import Registrar.Proofs.Settings.Schemas
