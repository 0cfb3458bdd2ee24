import CatalogImport.Journal.Store

/-!
# Progress of a run

What the events and the checkpoint of a run say about it: whether it is running, has ended, and how,
and how far it has come.
-/

namespace CatalogImport

open CatalogImport.Calendar CatalogImport.Json

/-- How a run stands. -/
inductive Stage where
  | idle
  | running
  | done
  | failed
  deriving DecidableEq

/-- The word for a stage. -/
def Stage.word : Stage → String
  | .idle => "Idle"
  | .running => "Running"
  | .done => "Done"
  | .failed => "Failed"

/-- What is known about a run. -/
structure Progress where
  stage : Stage
  kind : Option String
  source : Option String
  lastBatch : Option Nat
  recordsDone : Nat
  lastError : Option String
  lastUpdate : Option Instant
  deriving DecidableEq

/-- Why nothing is known about a run. -/
inductive ProgressError where
  | log (reason : String)
  | checkpoint (reason : String)
  deriving DecidableEq

/-- The error in words. -/
def ProgressError.message : ProgressError → String
  | .log reason => "Failed to read WAL: " ++ reason
  | .checkpoint reason => "Failed to load checkpoint: " ++ reason

namespace Progress

/-- What is known before anything happened. -/
def idle : Progress := ⟨.idle, none, none, none, 0, none, none⟩

/-- What is known after one more event.  A start clears the error of an earlier run. -/
def step (p : Progress) (e : Event) : Progress :=
  let p := { p with lastUpdate := some e.moment }
  match e.happening with
  | .started kind source _ =>
    { p with stage := .running, kind := some kind, source := some source, lastError := none }
  | .committed _ _ => { p with stage := .running }
  | .completed _ => { p with stage := .done }
  | .aborted error => { p with stage := .failed, lastError := some error }

/-- The later of two moments, where there may be none. -/
def later (a : Option Instant) (b : Instant) : Instant :=
  match a with
  | none => b
  | some a => a.latest b

/-- What a checkpoint adds: how far the run has come, and what no event says. -/
def withCheckpoint (p : Progress) : Option Checkpoint → Progress
  | none => p
  | some c =>
    { p with
      kind := p.kind.or (some c.kind)
      source := p.source.or (some c.source)
      lastBatch := some c.lastBatch
      recordsDone := c.recordsDone
      lastUpdate := some (later p.lastUpdate c.updatedAt) }

/-- What events and a checkpoint say about a run. -/
def of (events : List Event) (checkpoint : Option Checkpoint) : Progress :=
  (events.foldl step idle).withCheckpoint checkpoint

/-- The batch from which the run would be taken up again. -/
def resumeFromBatch (p : Progress) : Nat :=
  match p.lastBatch with
  | none => 0
  | some b => b + 1

/-- What is known about a run as members of an object. -/
def members (p : Progress) : List (String × Value) :=
  [("stage", .text p.stage.word),
   ("kind", .ofText? p.kind),
   ("source", .ofText? p.source),
   ("last_batch", .ofNat? p.lastBatch),
   ("records_done", .nat p.recordsDone),
   ("last_error", .ofText? p.lastError),
   ("last_update", .ofText? (p.lastUpdate.map (·.text)))]

end Progress

/-- What reading the log and the checkpoint says about a run; a fault of the log counts first. -/
def progressFrom (events : Except JournalError (List Event))
    (checkpoint : Except JournalError (Option Checkpoint)) : Except ProgressError Progress :=
  match events, checkpoint with
  | .error e, _ => .error (.log e.message)
  | .ok _, .error e => .error (.checkpoint e.message)
  | .ok es, .ok c => .ok (.of es c)

/-- What is known about a run. -/
def Journal.progress (j : Journal) (runId : String) : Except ProgressError Progress :=
  progressFrom (j.events runId) (j.loadCheckpoint runId)

end CatalogImport
