import CatalogImport.Calendar.Instant
import CatalogImport.Json.Printer
import CatalogImport.Record.Kind

/-!
# Artifacts

What did not reach the store is kept in files, from which it can be replayed by hand: the rejected
records of a run in one file, and every batch that the store never took in a file of its own.
-/

namespace CatalogImport

open CatalogImport.Calendar CatalogImport.Decimal CatalogImport.Json

/-- Where in a run a record was lost. -/
inductive FailedStage where
  /-- It broke a rule. -/
  | validation
  /-- The store never took its batch. -/
  | load
  deriving DecidableEq

/-- The word for a stage. -/
def FailedStage.word : FailedStage → String
  | .validation => "Validation"
  | .load => "Load"

/-- A record that did not reach the store. -/
structure FailedEntry where
  id : String
  position : Nat
  rawData : Value
  message : String
  stage : FailedStage
  batchNumber : Option Nat
  failedAt : Instant

namespace FailedEntry

/-- The fields of an entry as members of an object. -/
def members (e : FailedEntry) : List (String × Value) :=
  [("id", .text e.id),
   ("position", .nat e.position),
   ("raw_data", e.rawData),
   ("error_message", .text e.message),
   ("stage", .text e.stage.word),
   ("batch_number", .ofNat? e.batchNumber),
   ("failed_at", .text e.failedAt.text)]

/-- The text of a file of entries. -/
def fileText (es : List FailedEntry) : String :=
  (Value.array (es.map fun e => .object e.members)).pretty

/-- The name of a file of entries, without its ending. -/
def fileStem (kind : RecordKind) (at_ : Instant) : String :=
  "failed_" ++ kind.key ++ "_" ++ at_.stamp

end FailedEntry

/-- A batch that the store never took. -/
structure FailedBatch where
  number : Nat
  error : String
  attempts : Nat
  payloads : List Value
  failedAt : Instant

namespace FailedBatch

/-- The fields of a batch as members of an object. -/
def members (b : FailedBatch) : List (String × Value) :=
  [("batch_number", .nat b.number),
   ("error", .text b.error),
   ("attempts", .nat b.attempts),
   ("records", .array b.payloads),
   ("failed_at", .text b.failedAt.text)]

/-- The text of the file of a batch. -/
def fileText (b : FailedBatch) : String := (Value.object b.members).pretty

/-- The name of the file of a batch, without its ending. -/
def fileStem (kind : RecordKind) (b : FailedBatch) : String :=
  "failed_batch_" ++ numeral b.number ++ "_" ++ kind.key ++ "_" ++ b.failedAt.stamp

end FailedBatch

end CatalogImport
