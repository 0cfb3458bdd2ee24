import CatalogImport.Proofs.Decimal.Nearest
import CatalogImport.Statistics

/-!
# Counters that only grow

No count of a run ever makes a counter smaller, and what counts of a store's report about a batch is never
more than the batch.  Where the counters add up, the success rate is between 0 and 100 percent.
-/

namespace CatalogImport.Statistics

/-- No counter is greater than in the other statistics. -/
structure Precedes (s s' : Statistics) : Prop where
  totalRecords : s.totalRecords ≤ s'.totalRecords
  successfulInserts : s.successfulInserts ≤ s'.successfulInserts
  failedInserts : s.failedInserts ≤ s'.failedInserts
  batchesProcessed : s.batchesProcessed ≤ s'.batchesProcessed
  processingErrors : s.processingErrors ≤ s'.processingErrors
  retryCount : s.retryCount ≤ s'.retryCount

namespace Precedes

theorem refl (s : Statistics) : s.Precedes s :=
  ⟨Nat.le_refl _, Nat.le_refl _, Nat.le_refl _, Nat.le_refl _, Nat.le_refl _, Nat.le_refl _⟩

theorem trans {s s' s'' : Statistics} (h : s.Precedes s') (h' : s'.Precedes s'') : s.Precedes s'' where
  totalRecords := Nat.le_trans h.totalRecords h'.totalRecords
  successfulInserts := Nat.le_trans h.successfulInserts h'.successfulInserts
  failedInserts := Nat.le_trans h.failedInserts h'.failedInserts
  batchesProcessed := Nat.le_trans h.batchesProcessed h'.batchesProcessed
  processingErrors := Nat.le_trans h.processingErrors h'.processingErrors
  retryCount := Nat.le_trans h.retryCount h'.retryCount

theorem recordValid (s : Statistics) : s.Precedes s.recordValid :=
  { refl s with totalRecords := Nat.le_add_right _ 1 }

theorem recordInvalid (s : Statistics) : s.Precedes s.recordInvalid :=
  { refl s with processingErrors := Nat.le_add_right _ 1 }

theorem recordRetries (s : Statistics) (n : Nat) : s.Precedes (s.recordRetries n) :=
  { refl s with retryCount := Nat.le_add_right _ n }

theorem recordBatch (s : Statistics) (size : Nat) (r : BatchResult) :
    s.Precedes (s.recordBatch size r) :=
  { refl s with
    successfulInserts := Nat.le_add_right _ _
    failedInserts := Nat.le_add_right _ _
    batchesProcessed := Nat.le_add_right _ 1 }

theorem recordFailedBatch (s : Statistics) (size : Nat) : s.Precedes (s.recordFailedBatch size) :=
  { refl s with failedInserts := Nat.le_add_right _ size }

theorem finish (s : Statistics) (moment : Calendar.Instant) : s.Precedes (s.finish moment) :=
  { refl s with }

end Precedes

/-! ## Reports about batches -/

/-- No more counts of a report than the batch has records. -/
theorem credited_le (size : Nat) (r : BatchResult) :
    creditedSuccesses size r + creditedFailures size r ≤ size := by
  unfold creditedFailures creditedSuccesses
  omega

/-- All of a report counts that accounts for each record of the batch. -/
theorem credited_eq {size : Nat} {r : BatchResult} (h : r.successful + r.failed = size) :
    creditedSuccesses size r + creditedFailures size r = size := by
  unfold creditedFailures creditedSuccesses
  omega

/-! ## Counters that add up -/

/-- No more records are inserted or refused than there are, and the success rate is one in percent, as
long as 64 bits hold the counters. -/
structure AddsUp (s : Statistics) : Prop where
  inserts_le : s.successfulInserts + s.failedInserts ≤ s.totalRecords
  successRate_bounds : s.totalRecords < 2 ^ 64 → 0.0 ≤ s.successRate ∧ s.successRate ≤ 100.0

theorem addsUp_of_inserts_le {s : Statistics} (h : s.successfulInserts + s.failedInserts ≤ s.totalRecords) :
    s.AddsUp := by
  refine ⟨h, fun hlt => ?_⟩
  unfold successRate
  split
  · decide +kernel
  · next hsome => exact Decimal.percent_bounds (by omega) hsome hlt

end CatalogImport.Statistics
