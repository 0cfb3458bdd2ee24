import CatalogImport.Import.Request

/-!
# The logbook of a run

A run that is to be taken up again later writes its start, its batches and its end into the journal and
moves its checkpoint along.
-/

namespace CatalogImport

/-- Under which id a run is known to the journal, and what it imports from where. -/
structure Logbook where
  runId : String
  kind : RecordKind
  source : String
  deriving DecidableEq

/-- Why something was not written into the logbook. -/
inductive LogbookError where
  | checkpoint (reason : String)
  | log (reason : String)
  deriving DecidableEq

/-- The error in words. -/
def LogbookError.message : LogbookError → String
  | .checkpoint reason => "Checkpoint operation failed: " ++ reason
  | .log reason => "WAL operation failed: " ++ reason

namespace Logbook

/-- Logs that something happened to the run. -/
def log (b : Logbook) (h : Happening) : Task (Except LogbookError Unit) := do
  let moment ← ask .now
  let answer ← ask (.append ⟨b.runId, h, moment⟩)
  return answer.mapError (.log ·.message)

/-- The run starts at a batch. -/
def runStarted (b : Logbook) (resumeFrom : Nat) : Task (Except LogbookError Unit) :=
  b.log (.started b.kind.key b.source resumeFrom)

/-- The run is done. -/
def runDone (b : Logbook) (totalRecords : Nat) : Task (Except LogbookError Unit) :=
  b.log (.completed totalRecords)

/-- The run ended early. -/
def runAborted (b : Logbook) (error : String) : Task (Except LogbookError Unit) :=
  b.log (.aborted error)

/-- The checkpoint of the run. -/
def checkpoint (b : Logbook) : Task (Except LogbookError (Option Checkpoint)) := do
  let answer ← ask (.loadCheckpoint b.runId)
  return answer.mapError (.checkpoint ·.message)

/-- The records that a checkpoint counts and that come before a batch: all of them, unless the
checkpoint has got to that batch already. -/
def recordsBefore (c : Option Checkpoint) (batchNumber : Nat) : Nat :=
  match c with
  | some c => if c.lastBatch < batchNumber then c.recordsDone else 0
  | none => 0

/-- The store took a batch: logs it and moves the checkpoint there. -/
def batchCommitted (b : Logbook) (batchNumber records : Nat) : Task (Except LogbookError Unit) := do
  match ← b.checkpoint with
  | .error e => return .error e
  | .ok c =>
    match ← b.log (.committed batchNumber records) with
    | .error e => return .error e
    | .ok () =>
      let moment ← ask .now
      let answer ← ask (.saveCheckpoint
        ⟨b.runId, b.kind.key, b.source, batchNumber, recordsBefore c batchNumber + records, moment⟩)
      return answer.mapError (.checkpoint ·.message)

/-- The batch after those that a checkpoint counts, the first one if there is no checkpoint. -/
def batchAfter (c : Option Checkpoint) : Nat := (c.map (·.nextBatch)).getD 0

/-- The batch from which the run is to be taken up again. -/
def resumePoint (b : Logbook) : Task (Except LogbookError Nat) := do
  let c ← b.checkpoint
  return c.map batchAfter

end Logbook

end CatalogImport
