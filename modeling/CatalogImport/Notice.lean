/-!
# Notices

What a run says on the side while it goes on.
-/

namespace CatalogImport

/-- Something worth a line in the log. -/
inductive Notice where
  | kindMismatch
  | startUnrecorded
  | invalidRecord
  | retrying
  | retriesExhausted
  | batchArtifactUnwritten
  | countsClamped
  /-- The run breaks down with it. -/
  | countsOverflow
  | recordRefused
  | checkpointUnsaved
  | recordsArtifactUnwritten
  | completionUnrecorded
  | importAborted
  | abortUnrecorded
  | noDataArray
  | importFailed
  | stopping
  | taskFailed
  | tasksStopped
  | tlsFailed
  | recordRefusedByServer
  deriving DecidableEq

namespace Notice

/-- The notice in words. -/
def words : Notice → String
  | .kindMismatch => "Store kind does not match the records being imported"
  | .startUnrecorded => "Failed to record run start"
  | .invalidRecord => "Record failed validation"
  | .retrying => "Batch submission failed, retrying"
  | .retriesExhausted => "Batch submission exhausted its retries"
  | .batchArtifactUnwritten => "Failed to write failed batch artifact"
  | .countsClamped => "Store reported inconsistent counts, clamping to batch size"
  | .countsOverflow => "attempt to add with overflow"
  | .recordRefused => "Store rejected record"
  | .checkpointUnsaved => "Failed to save checkpoint"
  | .recordsArtifactUnwritten => "Failed to write failed records artifact"
  | .completionUnrecorded => "Failed to record run completion"
  | .importAborted => "Import aborted"
  | .abortUnrecorded => "Failed to record run abort"
  | .noDataArray => "Document has no data array, nothing to import"
  | .importFailed => "Import finished with an error"
  | .stopping => "Shutdown requested, stopping running imports"
  | .taskFailed => "Import task failed while stopping"
  | .tasksStopped => "Imports did not stop in time, aborting their tasks"
  | .tlsFailed => "Postgres TLS handshake failed, retrying without TLS"
  | .recordRefusedByServer => "Record rejected by Postgres"

/-- With the notice a run breaks down; nobody answers it. -/
def isBreakdown : Notice → Bool
  | .countsOverflow => true
  | _ => false

/-- The notice is about something that ends a run. -/
def isError : Notice → Bool
  | .retriesExhausted | .importAborted => true
  | _ => false

/-- The notice as a line: how serious it is, and the words. -/
def line (n : Notice) : String := (if n.isError then "ERROR " else "WARN ") ++ n.words

end Notice

end CatalogImport
