import CatalogImport.Artifact.Basic
import CatalogImport.Artifact.FileTree
import CatalogImport.Import.Cause
import CatalogImport.Journal.Store
import CatalogImport.Json.Stream
import CatalogImport.Notice
import CatalogImport.Program
import CatalogImport.Record.Basic

/-!
# What an import asks of its surroundings

An import run is a program.  It asks for the time, for the document, whether it has been cancelled, and
it asks the store, the journal and the file system to do things.  What they do, in which state they
are, and when a cancellation comes is up to whoever answers.
-/

namespace CatalogImport

open CatalogImport.Calendar CatalogImport.Json

/-- What a run is busy with. -/
inductive Phase where
  | notStarted
  | validating
  | batching
  | submitting
  | flushing
  | finalizing
  | done
  | aborted
  deriving DecidableEq

/-- The word for a phase. -/
def Phase.word : Phase → String
  | .notStarted => "NotStarted"
  | .validating => "Validating"
  | .batching => "Batching"
  | .submitting => "Submitting"
  | .flushing => "Flushing"
  | .finalizing => "Finalizing"
  | .done => "Done"
  | .aborted => "Aborted"

/-- The elements of a document that can be read, and how the reading ends after them. -/
structure Reading where
  elements : List Value
  ending : Except SourceError ReadSummary

/-- A question of an import run. -/
inductive Request where
  /-- What time is it? -/
  | now
  /-- An id that nothing else has. -/
  | freshId
  /-- The run enters a phase. -/
  | enter (phase : Phase)
  /-- Something worth a line in the log. -/
  | notice (n : Notice)
  /-- Has the run been cancelled? -/
  | isCancelled
  /-- Open the document. -/
  | openDocument
  /-- Hand records to the store. -/
  | addMany (records : List Stored)
  /-- Wait for some milliseconds. -/
  | pause (millis : Nat)
  /-- Keep a batch of records of a kind that the store never took. -/
  | keepBatch (kind : RecordKind) (batch : FailedBatch)
  /-- Keep the rejected records of the run, which imports records of a kind. -/
  | keepRecords (kind : RecordKind) (entries : List FailedEntry)
  /-- A batch has been counted. -/
  | progress (statistics : Statistics)
  /-- Log an event. -/
  | append (event : Event)
  /-- The checkpoint of a run. -/
  | loadCheckpoint (runId : String)
  /-- Move a checkpoint. -/
  | saveCheckpoint (checkpoint : Checkpoint)

/-- The answers to a question.  Those to questions during which a cancellation may come are `none` when
it does: then nobody knows whether the thing asked for was done. -/
abbrev Request.Answer : Request → Type
  | .now => Instant
  | .freshId => String
  | .enter _ => Unit
  | .notice _ => Unit
  | .isCancelled => Bool
  | .openDocument => Except Cause Reading
  | .addMany _ => Option (Except StoreError BatchResult)
  | .pause _ => Option Unit
  | .keepBatch _ _ => Option (Except FileError String)
  | .keepRecords _ _ => Except FileError String
  | .progress _ => Unit
  | .append _ => Except JournalError Unit
  | .loadCheckpoint _ => Except JournalError (Option Checkpoint)
  | .saveCheckpoint _ => Except JournalError Unit

/-- A program that asks such questions. -/
abbrev Task (α : Type) : Type := Program Request Request.Answer α

/-- Asks one question. -/
def ask (q : Request) : Task q.Answer := Program.question q

/-- Asks whether the run has been cancelled. -/
def isCancelled : Task Bool := ask .isCancelled

/-- Answers such questions from a state. -/
abbrev Surroundings (σ : Type) := Program.Handler Request Request.Answer σ

end CatalogImport
