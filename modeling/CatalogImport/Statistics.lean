import CatalogImport.Batch.Result
import CatalogImport.Calendar.Instant
import CatalogImport.Decimal.Nearest

/-!
# Run statistics

Counters of one import run, and the rates and durations that follow from them.
-/

namespace CatalogImport

open CatalogImport.Json CatalogImport.Calendar

/-- The counters of a run, its start, and its end once it has ended. -/
structure Statistics where
  /-- Elements that are records and entered a batch. -/
  totalRecords : Nat
  successfulInserts : Nat
  failedInserts : Nat
  batchesProcessed : Nat
  /-- Elements that are no records. -/
  processingErrors : Nat
  retryCount : Nat
  startedAt : Instant
  finishedAt : Option Instant
  deriving DecidableEq

namespace Statistics

/-- The statistics of a run that starts. -/
def start (at_ : Instant) : Statistics := ⟨0, 0, 0, 0, 0, 0, at_, none⟩

/-- Counts an element that is a record. -/
def recordValid (s : Statistics) : Statistics := { s with totalRecords := s.totalRecords + 1 }

/-- Counts an element that is no record. -/
def recordInvalid (s : Statistics) : Statistics :=
  { s with processingErrors := s.processingErrors + 1 }

/-- Counts repeated submissions. -/
def recordRetries (s : Statistics) (n : Nat) : Statistics := { s with retryCount := s.retryCount + n }

/-- The successes that count of a report about a batch: no more than the batch has records. -/
def creditedSuccesses (size : Nat) (r : BatchResult) : Nat := min r.successful size

/-- The failures that count of a report about a batch: no more than are left beside the successes. -/
def creditedFailures (size : Nat) (r : BatchResult) : Nat :=
  min r.failed (size - creditedSuccesses size r)

/-- Counts a batch that the store took, by the store's report. -/
def recordBatch (s : Statistics) (size : Nat) (r : BatchResult) : Statistics :=
  { s with
    successfulInserts := s.successfulInserts + creditedSuccesses size r
    failedInserts := s.failedInserts + creditedFailures size r
    batchesProcessed := s.batchesProcessed + 1 }

/-- Counts such a batch in 64 bits, if no sum and no difference on the way fails. -/
def recordBatch? (s : Statistics) (size : Nat) (r : BatchResult) : Option Statistics := do
  let successes := min r.successful size
  let rest ← Word.sub? size successes
  let successfulInserts ← Word.add? s.successfulInserts successes
  let failedInserts ← Word.add? s.failedInserts (min r.failed rest)
  let batchesProcessed ← Word.add? s.batchesProcessed 1
  return { s with successfulInserts, failedInserts, batchesProcessed }

/-- Counts a batch that the store never took. -/
def recordFailedBatch (s : Statistics) (size : Nat) : Statistics :=
  { s with failedInserts := s.failedInserts + size }

/-- Notes the end; the first end stands. -/
def finish (s : Statistics) (at_ : Instant) : Statistics :=
  { s with finishedAt := some (s.finishedAt.getD at_) }

/-- The run has ended. -/
def isFinished (s : Statistics) : Bool := s.finishedAt.isSome

/-! ## Rates -/

/-- Inserted records in percent of all records, zero when there are none. -/
def successRate (s : Statistics) : Float :=
  if s.totalRecords = 0 then 0.0
  else Decimal.ofNat s.successfulInserts / Decimal.ofNat s.totalRecords * 100.0

/-- Whole microseconds from start to end, and none if the end comes first.  A distance that 64 bits
with a sign do not hold, in either direction, counts as the greatest that they do. -/
def micros (s : Statistics) (now : Instant) : Nat :=
  let distance := ((s.finishedAt.getD now).since s.startedAt).tdiv 1000
  let most := Nat.pow 2 63
  if distance < -most ∨ most ≤ distance then most - 1 else distance.toNat

/-- Seconds from start to end, or until now while the run goes on. -/
def durationSeconds (s : Statistics) (now : Instant) : Float :=
  Decimal.ofNat (s.micros now) / 1000000.0

/-- Records per second; a run shorter than a second counts as one second. -/
def throughput (s : Statistics) (now : Instant) : Float :=
  let seconds := s.durationSeconds now
  Decimal.ofNat s.totalRecords / (if seconds < 1.0 then 1.0 else seconds)

/-- Two decimal places, a half going away from zero. -/
def round2 (x : Float) : Float := (x * 100.0).round / 100.0

/-- The summary of a run as members of an object. -/
def summary (s : Statistics) (now : Instant) : List (String × Value) :=
  [("total_sets", .nat s.totalRecords),
   ("successful_inserts", .nat s.successfulInserts),
   ("failed_inserts", .nat s.failedInserts),
   ("batches_processed", .nat s.batchesProcessed),
   ("processing_errors", .nat s.processingErrors),
   ("success_rate", .number (.double (round2 s.successRate))),
   ("duration_seconds", .number (.double (round2 (s.durationSeconds now)))),
   ("sets_per_second", .number (.double (s.throughput now)))]

/-- The counts as members of an object. -/
def counts (s : Statistics) : List (String × Value) :=
  [("total_records", .nat s.totalRecords),
   ("successful_inserts", .nat s.successfulInserts),
   ("failed_inserts", .nat s.failedInserts),
   ("batches_processed", .nat s.batchesProcessed),
   ("processing_errors", .nat s.processingErrors),
   ("retry_count", .nat s.retryCount)]

/-- All of the statistics as members of an object. -/
def members (s : Statistics) : List (String × Value) :=
  s.counts ++
    [("started_at", .text s.startedAt.text),
     ("finished_at", .ofText? (s.finishedAt.map (·.text)))]

end Statistics

end CatalogImport
