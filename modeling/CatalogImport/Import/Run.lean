import CatalogImport.Import.Config
import CatalogImport.Import.Logbook
import CatalogImport.Import.Submission

/-!
# Import runs

A run reads the elements of a document one after the other, turns them into records, and submits the
records in batches.  It ends early when the document cannot be read to its end, when the store never
takes a batch, when it is cancelled, or, if so configured, at the first element that is no record.
Whatever the end, the rejected records are kept and the end is logged.
-/

namespace CatalogImport

open CatalogImport.Json

/-- What a run carries along. -/
structure RunState (R : Type) where
  statistics : Statistics
  batcher : Batcher R
  /-- What has been rejected so far. -/
  failed : List FailedEntry

section

variable {R : Type} [CatalogRecord R] (config : Config) (logbook : Option Logbook)

/-- Writes into the logbook, if there is one; what cannot be written is only noted. -/
def record (n : Notice) (write : Logbook → Task (Except LogbookError Unit)) : Task Unit := do
  match logbook with
  | none => return ()
  | some b =>
    match ← write b with
    | .ok () => return ()
    | .error _ => ask (.notice n)

/-- Keeps the rejected records, if there are any and they are kept at all. -/
def keepFailed (kind : RecordKind) (failed : List FailedEntry) : Task Unit := do
  if failed.isEmpty || !config.persistFailures then return ()
  match ← ask (.keepRecords kind failed) with
  | .ok _ => return ()
  | .error _ => ask (.notice .recordsArtifactUnwritten)

/-- The end of a run that has done everything. -/
def finalize (run : RunState R) : Task Outcome := do
  ask (.enter .finalizing)
  keepFailed config (CatalogRecord.kind R) run.failed
  let statistics := run.statistics.finish (← ask .now)
  record logbook .completionUnrecorded (·.runDone statistics.totalRecords)
  ask (.enter .done)
  return .ok statistics

/-- The early end of a run. -/
def abort (run : RunState R) (cause : Cause) : Task Outcome := do
  ask (.enter .aborted)
  keepFailed config (CatalogRecord.kind R) run.failed
  let statistics := run.statistics.finish (← ask .now)
  ask (.notice .importAborted)
  record logbook .abortUnrecorded (·.runAborted cause.message)
  return .error ⟨cause, statistics⟩

/-- What a run says about a report whose counts are not consistent, or cannot even be added up. -/
def countsNotice (r : BatchResult) : Notice :=
  if r.isConsistent? = none then .countsOverflow else .countsClamped

/-- Counts a batch that the store took. -/
def countBatch (run : RunState R) (b : Batch R) (s : Submitted) : Task (RunState R) := do
  if s.result.isConsistent? ≠ some true then ask (.notice (countsNotice s.result))
  for _ in s.result.errorDetails do ask (.notice .recordRefused)
  let statistics := (run.statistics.recordRetries s.retries).recordBatch b.size s.result
  ask (.progress statistics)
  record logbook .checkpointUnsaved (·.batchCommitted b.number b.size)
  return { run with statistics }

/-- The payload to keep of a record that was not loaded: what was handed to the store, or else only
the id. -/
def keptPayload (r : R) (sent : Option Stored) : Value :=
  match sent with
  | some s => s.payload
  | none => .object [("id", .text (CatalogRecord.id r))]

/-- The entries to keep of a batch that the store never took. -/
def loadEntries (number : Nat) (message : String) :
    List (Entry R) → List Stored → Task (List FailedEntry)
  | [], _ => return []
  | e :: rest, sent => do
    let id ← ask .freshId
    let moment ← ask .now
    let entry : FailedEntry :=
      ⟨id, e.position, keptPayload e.record sent.head?, message, .load, some number, moment⟩
    return entry :: (← loadEntries number message rest sent.tail)

/-- Counts a batch that the store never took. -/
def countUnsubmitted (run : RunState R) (b : Batch R) (u : Unsubmitted) : Task (RunState R) := do
  let entries ← loadEntries b.number u.cause.message b.entries u.records
  return { run with
    statistics := (run.statistics.recordRetries u.retries).recordFailedBatch b.size
    failed := run.failed ++ entries }

/-- Submits a batch, and says why the run ends if that is so.  The run looks for a cancellation first;
a cancelled submission is dropped. -/
def submitBatch (run : RunState R) (b : Batch R) : Task (RunState R × Option Cause) := do
  ask (.enter .submitting)
  if ← isCancelled then return (run, some .cancelled)
  match ← (submit config.retryPolicy config.persistFailures b).run with
  | none => return (run, some .cancelled)
  | some (.ok s) => return (← countBatch logbook run b s, none)
  | some (.error u) => return (← countUnsubmitted run b u, some u.cause)

/-- Takes in an element that is a record. -/
def takeRecord (run : RunState R) (position : Nat) (r : R) : Task (RunState R × Option Cause) := do
  ask (.enter .batching)
  let (sealed, batcher) := run.batcher.push position r
  let run := { run with statistics := run.statistics.recordValid, batcher }
  match sealed with
  | none => return (run, none)
  | some b => submitBatch config logbook run b

/-- Takes in an element that is no record. -/
def takeViolation (run : RunState R) (position : Nat) (v : Value) (violation : Violation) :
    Task (RunState R × Option Cause) := do
  ask (.notice .invalidRecord)
  let id ← ask .freshId
  let moment ← ask .now
  let entry : FailedEntry := ⟨id, position, v, violation.message, .validation, none, moment⟩
  let run := { run with
    statistics := run.statistics.recordInvalid
    failed := run.failed ++ [entry] }
  return (run, if config.skipValidationErrors then none else some (.invalidRecord position violation))

/-- Takes in an element. -/
def takeElement (run : RunState R) (position : Nat) (v : Value) :
    Task (RunState R × Option Cause) := do
  ask (.enter .validating)
  match CatalogRecord.validate (R := R) v with
  | .ok r => takeRecord config logbook run position r
  | .error violation => takeViolation config run position v violation

/-- Takes in the elements from a position on, less those before `skip`.  Before each of them, and once
more at the end, the run looks for a cancellation. -/
def takeElements (skip : Nat) (run : RunState R) (position : Nat) :
    List Value → Task (RunState R × Option Cause)
  | [] => do
    if ← isCancelled then return (run, some .cancelled)
    return (run, none)
  | v :: rest => do
    if ← isCancelled then return (run, some .cancelled)
    if position < skip then takeElements skip run (position + 1) rest
    else
      match ← takeElement config logbook run position v with
      | (run, some cause) => return (run, some cause)
      | (run, none) => takeElements skip run (position + 1) rest

/-- Submits what is left when all elements have been taken in. -/
def flush (run : RunState R) : Task (RunState R × Option Cause) := do
  ask (.enter .flushing)
  match run.batcher.finish with
  | (none, _) => return (run, none)
  | (some b, batcher) => submitBatch config logbook { run with batcher } b

/-- The position of the first element of a batch, in 64 bits. -/
def firstPosition (resumeFrom batchSize : Nat) : Nat := min (resumeFrom * batchSize) (Nat.pow 2 64 - 1)

/-- The part of a run after the document has been opened. -/
def runDocument (run : RunState R) (resumeFrom : Nat) (document : Reading) : Task Outcome := do
  let skip := firstPosition resumeFrom run.batcher.batchSize
  match ← takeElements config logbook skip run 0 document.elements with
  | (run, some cause) => abort config logbook run cause
  | (run, none) =>
    match document.ending with
    | .error e => abort config logbook run (.source e)
    | .ok summary =>
      if !summary.fieldFound then ask (.notice .noDataArray)
      match ← flush config logbook run with
      | (run, some cause) => abort config logbook run cause
      | (run, none) => finalize config logbook run

/-- Imports a document, less the batches before `resumeFrom`. -/
def importRun (R : Type) [CatalogRecord R] (resumeFrom : Nat) : Task Outcome := do
  let run : RunState R :=
    ⟨.start (← ask .now), .startingAt config.batchSize resumeFrom, []⟩
  ask (.enter .notStarted)
  record logbook .startUnrecorded (·.runStarted resumeFrom)
  match ← ask .openDocument with
  | .error cause => abort config logbook run cause
  | .ok document => runDocument config logbook run resumeFrom document

end

/-- Notes that a store is for records of another kind than those to be imported. -/
def checkKind (R : Type) [CatalogRecord R] (storeKind : RecordKind) : Task Unit := do
  if storeKind ≠ CatalogRecord.kind R then ask (.notice .kindMismatch)

end CatalogImport
