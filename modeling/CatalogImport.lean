import CatalogImport.Artifact.Basic
import CatalogImport.Artifact.FileTree
import CatalogImport.Artifact.SharedFolder
import CatalogImport.Artifact.Writer
import CatalogImport.Batch.Basic
import CatalogImport.Batch.Result
import CatalogImport.Batch.ResultReader
import CatalogImport.Calendar.Date
import CatalogImport.Calendar.Instant
import CatalogImport.Calendar.Span
import CatalogImport.Cli.Command
import CatalogImport.Cli.Env
import CatalogImport.Cli.Report
import CatalogImport.Cli.Session
import CatalogImport.Cli.Settings
import CatalogImport.Decimal.Digits
import CatalogImport.Decimal.Layout
import CatalogImport.Decimal.Nearest
import CatalogImport.Decimal.Reading
import CatalogImport.Decimal.Shortest
import CatalogImport.Digest.Blake3
import CatalogImport.Import.Cause
import CatalogImport.Import.Config
import CatalogImport.Import.Controller
import CatalogImport.Import.Floor
import CatalogImport.Import.Handover
import CatalogImport.Import.Jobs
import CatalogImport.Import.Launch
import CatalogImport.Import.Logbook
import CatalogImport.Import.Registry
import CatalogImport.Import.Request
import CatalogImport.Import.Run
import CatalogImport.Import.RunId
import CatalogImport.Import.Source
import CatalogImport.Import.Submission
import CatalogImport.Index
import CatalogImport.Journal.Event
import CatalogImport.Journal.Progress
import CatalogImport.Journal.Store
import CatalogImport.Journal.Text
import CatalogImport.Json.Access
import CatalogImport.Json.Fault
import CatalogImport.Json.Literal
import CatalogImport.Json.Printer
import CatalogImport.Json.Reader
import CatalogImport.Json.Scan
import CatalogImport.Json.Skim
import CatalogImport.Json.Stream
import CatalogImport.Json.Value
import CatalogImport.Main
import CatalogImport.Notice
import CatalogImport.Postgres.Address
import CatalogImport.Postgres.Connect
import CatalogImport.Postgres.Statement
import CatalogImport.Postgres.Store
import CatalogImport.Postgres.Wire
import CatalogImport.Program
import CatalogImport.Record.Basic
import CatalogImport.Record.Card
import CatalogImport.Record.CardSet
import CatalogImport.Record.Field
import CatalogImport.Record.Kind
import CatalogImport.Record.Violation
import CatalogImport.Rehearsal.Actors
import CatalogImport.Rehearsal.Fixture
import CatalogImport.Rehearsal.Hall
import CatalogImport.Rehearsal.JournalDesk
import CatalogImport.Rehearsal.Machine
import CatalogImport.Rehearsal.OddRecord
import CatalogImport.Rehearsal.Script
import CatalogImport.Rehearsal.Server
import CatalogImport.Rehearsal.Trials
import CatalogImport.Rehearsal.World
import CatalogImport.Retry
import CatalogImport.Statistics
import CatalogImport.Store.Error
import CatalogImport.Store.Memory
import CatalogImport.Text.Blank
import CatalogImport.Text.CaseTable
import CatalogImport.Text.Hex
import CatalogImport.Text.Lowercase
import CatalogImport.Text.PrintTable
import CatalogImport.Text.Quoted
import CatalogImport.Word
import CatalogImport.Proofs.Import.History
import CatalogImport.Proofs.Import.Step
import CatalogImport.Proofs.Batch
import CatalogImport.Proofs.Import.Course
import CatalogImport.Proofs.Import.Ledger
import CatalogImport.Proofs.Import.LedgerOfImport
import CatalogImport.Proofs.Import.ElementPartition
import CatalogImport.Proofs.Journal.Checkpoint
import CatalogImport.Proofs.Journal.Saves
import CatalogImport.Proofs.Store.Memory
import CatalogImport.Proofs.Store.Resubmission
import CatalogImport.Proofs.Import.JournalHistory
import CatalogImport.Proofs.Import.Scene
import CatalogImport.Proofs.Import.Resume
import CatalogImport.Proofs.Import.BatchSize
import CatalogImport.Proofs.Import.Counters
import CatalogImport.Proofs.Decimal.Double
import CatalogImport.Proofs.Decimal.Nearest
import CatalogImport.Proofs.Batch.Cut
import CatalogImport.Proofs.Import.Batches
import CatalogImport.Proofs.Import.Completion
import CatalogImport.Proofs.Import.Checkpoint
import CatalogImport.Proofs.Import.Prefix
import CatalogImport.Proofs.Import.Recount
import CatalogImport.Proofs.Import.Commits
import CatalogImport.Proofs.Decimal.Padded
import CatalogImport.Proofs.Journal.Log
import CatalogImport.Proofs.Import.ResumePoint
import CatalogImport.Proofs.Import.RefusalIndependence
import CatalogImport.Proofs.Import.Refusals
import CatalogImport.Proofs.Batch.Sealing
import CatalogImport.Proofs.Import.Calls
import CatalogImport.Proofs.Record.Storable
import CatalogImport.Proofs.Import.Undisturbed
import CatalogImport.Proofs.Import.StoredCatalog
import CatalogImport.Proofs.Import.Suffix
import CatalogImport.Proofs.Import.UnreadDocument
import CatalogImport.Proofs.Import.EventLog
import CatalogImport.Proofs.Import.Agreement
import CatalogImport.Proofs.Import.Handover
import CatalogImport.Proofs.Json.Utf8
import CatalogImport.Proofs.Json.Words
import CatalogImport.Proofs.Json.Strings
import CatalogImport.Proofs.Json.Items
import CatalogImport.Proofs.Json.Values
import CatalogImport.Proofs.Json.Integers
import CatalogImport.Proofs.Json.Skimmed
import CatalogImport.Proofs.Import.Document
import CatalogImport.Proofs.Journal.Progress
import CatalogImport.Proofs.Import.Standing
import CatalogImport.Proofs.Text.Blank
import CatalogImport.Proofs.Text.Lowercase
import CatalogImport.Proofs.Calendar.Date
import CatalogImport.Proofs.Record.Field
import CatalogImport.Proofs.Record.Count
import CatalogImport.Proofs.Record.Description
import CatalogImport.Proofs.Record.Replay
import CatalogImport.Proofs.Record.Limits
import CatalogImport.Proofs.Record.Schema
import CatalogImport.Proofs.Import.TimeIndependence
import CatalogImport.Proofs.Journal.Changes
import CatalogImport.Proofs.Import.JobDeterminism
import CatalogImport.Proofs.Import.Floor
import CatalogImport.Proofs.Import.FloorFiles
import CatalogImport.Proofs.Import.Jobs
import CatalogImport.Proofs.Import.InTurn
import CatalogImport.Proofs.Import.SideBySide
import CatalogImport.Proofs.Batch.Calls
import CatalogImport.Proofs.Import.Questions
import CatalogImport.Proofs.Import.BatchSubmissions
import CatalogImport.Proofs.Import.Numbering
import CatalogImport.Proofs.Import.SideOutputs
import CatalogImport.Proofs.Postgres.Session
import CatalogImport.Proofs.Postgres.Transaction
import CatalogImport.Proofs.Postgres.Rehearsal
import CatalogImport.Proofs.Postgres.Batch
import CatalogImport.Proofs.Retry
import CatalogImport.Proofs.Import.Exhaustion
import CatalogImport.Proofs.Import.Pauses
import CatalogImport.Proofs.Import.Repetitions
import CatalogImport.Proofs.Text.ByteOrder
import CatalogImport.Proofs.Store.Paging
import CatalogImport.Proofs.Artifact.Names
import CatalogImport.Proofs.Artifact.Stages
import CatalogImport.Proofs.Artifact.SharedFolder
import CatalogImport.Proofs.Artifact.FullFolder
import CatalogImport.Proofs.Import.Phases
import CatalogImport.Proofs.Import.Controller
import CatalogImport.Proofs.Import.Launch
import CatalogImport.Proofs.Import.Cancellation
import CatalogImport.Proofs.Import.Reports
import CatalogImport.Proofs.Cli.Env
import CatalogImport.Proofs.Cli.Settings
