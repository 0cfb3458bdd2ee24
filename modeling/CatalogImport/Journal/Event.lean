import CatalogImport.Calendar.Instant
import CatalogImport.Json.Value

/-!
# Events and checkpoints

A run leaves a log of events and a checkpoint, which says how far the run has come.
-/

namespace CatalogImport

open CatalogImport.Calendar CatalogImport.Json

/-- How far a run has come. -/
structure Checkpoint where
  runId : String
  kind : String
  /-- The document that the run reads. -/
  source : String
  /-- The number of the last batch that the store took. -/
  lastBatch : Nat
  recordsDone : Nat
  updatedAt : Instant
  deriving DecidableEq

namespace Checkpoint

/-- The number of the first batch that is still to be done. -/
def nextBatch (c : Checkpoint) : Nat := c.lastBatch + 1

/-- The fields of a checkpoint as members of an object. -/
def members (c : Checkpoint) : List (String × Value) :=
  [("run_id", .text c.runId),
   ("kind", .text c.kind),
   ("source", .text c.source),
   ("last_batch", .nat c.lastBatch),
   ("records_done", .nat c.recordsDone),
   ("updated_at", .text c.updatedAt.text)]

end Checkpoint

/-- Something that happened to a run. -/
inductive Happening where
  | started (kind source : String) (resumeFromBatch : Nat)
  | committed (batchNumber records : Nat)
  | completed (totalRecords : Nat)
  | aborted (error : String)
  deriving DecidableEq

/-- Something that happened to a certain run at a certain time. -/
structure Event where
  runId : String
  happening : Happening
  moment : Instant
  deriving DecidableEq

namespace Event

/-- The event as an object with one member, whose key says what happened. -/
def members (e : Event) : List (String × Value) :=
  let about (key : String) (details : List (String × Value)) : List (String × Value) :=
    [(key, .object ([("run_id", .text e.runId)] ++ details ++ [("at", .text e.moment.text)]))]
  match e.happening with
  | .started kind source resume =>
    about "RunStart"
      [("kind", .text kind), ("source", .text source), ("resume_from_batch", .nat resume)]
  | .committed number records =>
    about "BatchCommit" [("batch_number", .nat number), ("records", .nat records)]
  | .completed total => about "RunDone" [("total_records", .nat total)]
  | .aborted error => about "RunAborted" [("error", .text error)]

end Event

end CatalogImport
