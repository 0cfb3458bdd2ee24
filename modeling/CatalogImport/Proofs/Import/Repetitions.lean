import CatalogImport.Proofs.Import.BatchSubmissions
import CatalogImport.Proofs.Import.Scene

/-!
# Repetitions and their counter

The statistics of an import count how often the store was called again with a batch.  Main statement: this is
how many calls there were beyond the first one for each batch, less the repetitions in an effort that was
given up for a cancellation, which nobody counts (`retry_count_of_import`).
-/

namespace CatalogImport

open CatalogImport.Calendar CatalogImport.Json

namespace Effort

/-- The store was called at all. -/
def isBegun (x : Effort) : Bool := !x.calls.isEmpty

/-- The repetitions that nobody counts: those of an effort that is given up. -/
def uncounted (x : Effort) : Nat := if x.isGivenUp then x.repetitions else 0

theorem uncounted_eq_zero_iff (x : Effort) :
    x.uncounted = 0 ↔ (x.isGivenUp = true → x.calls.length ≤ 1) := by
  unfold uncounted repetitions
  cases x.isGivenUp with
  | false => simp
  | true =>
    simp only [if_true, forall_const]
    omega

/-- Each call is the first one or a repetition, and each repetition is counted or not. -/
theorem length_calls (x : Effort) :
    x.counted + x.uncounted + (if x.isBegun then 1 else 0) = x.calls.length := by
  have hrepetitions : x.counted + x.uncounted = x.repetitions := by
    unfold counted uncounted
    cases x.isGivenUp <;> simp
  rw [hrepetitions]
  unfold isBegun repetitions
  cases x.calls <;> simp

end Effort

/-- How many batches the store was called with. -/
def batchesBegun (t : History) : Nat := (efforts t).countP (·.isBegun)

/-- How many repetitions nobody counts. -/
def uncounted (t : History) : Nat := ((efforts t).map (·.uncounted)).sum

theorem sum_counted_add_sum_uncounted (xs : List Effort) :
    (xs.map (·.counted)).sum + (xs.map (·.uncounted)).sum + xs.countP (·.isBegun) =
      (xs.flatMap (·.calls)).length := by
  induction xs with
  | nil => rfl
  | cons x xs ih =>
    have hx := x.length_calls
    rw [List.map_cons, List.map_cons, List.sum_cons, List.sum_cons, List.countP_cons, List.flatMap_cons,
      List.length_append, ← ih, ← hx]
    omega

theorem uncounted_eq_zero_iff (t : History) :
    uncounted t = 0 ↔ ∀ x ∈ efforts t, x.isGivenUp = true → x.calls.length ≤ 1 := by
  unfold uncounted
  rw [List.sum_eq_zero_iff_forall_eq_nat, List.forall_mem_map]
  exact forall_congr' fun x => imp_congr_right fun _ => x.uncounted_eq_zero_iff

section

variable {R : Type} [CatalogRecord R] {config : Config} {logbook : Option Logbook} {resumeFrom : Nat}
  {t : History} {outcome : Outcome}

/-- The efforts of an import are for the batches that it seals, one for each, and these have different
numbers; there are no other calls of the store than those of the efforts.  However the import ends, the
counter of repetitions that it ends with, together with the number of batches that the store was called with,
is the number of all calls, less the repetitions of an effort that was given up.  It is the number of all
calls exactly if no effort with a repetition was given up, and so in particular if the import was not
cancelled.  Only the last effort may have been given up. -/
theorem retry_count_of_import (h : (importRun config logbook R resumeFrom).Yields t outcome) :
    List.Forall₂ Effort.IsFor (efforts t) (batchesSealed R config resumeFrom t) ∧
    (∀ (j : Nat) (b : Batch R),
      (batchesSealed R config resumeFrom t)[j]? = some b → b.number = resumeFrom + j) ∧
    calls t = (efforts t).flatMap (·.calls) ∧
    outcome.statistics.retryCount + uncounted t + batchesBegun t = (calls t).length ∧
    (outcome.statistics.retryCount + batchesBegun t = (calls t).length ↔
      ∀ x ∈ efforts t, x.isGivenUp = true → x.calls.length ≤ 1) ∧
    (outcome.cause? ≠ some .cancelled → ∀ x ∈ efforts t, x.isGivenUp = false) ∧
    (efforts t).Pairwise fun x _ => x.isGivenUp = false := by
  obtain ⟨document?, n, isFlushed, hshows, hrecounts⟩ := exists_shows h
  have hcalls : calls t = (efforts t).flatMap (·.calls) := by
    rw [calls_eq_calls_cut, hshows.start]
    rfl
  have hcounted : outcome.statistics.retryCount = ((efforts t).map (·.counted)).sum :=
    hrecounts.counted.trans (Nat.zero_add _)
  have hsum : outcome.statistics.retryCount + uncounted t + batchesBegun t = (calls t).length := by
    rw [hcalls, hcounted]
    exact sum_counted_add_sum_uncounted (efforts t)
  refine ⟨hshows.isFor, (Batcher.handlesAll_handleAll _ _).number, hcalls, hsum, ?_, ?_, hrecounts.pairwise⟩
  · rw [← uncounted_eq_zero_iff]
    omega
  · intro hcause x hx
    cases hgiven : x.isGivenUp with
    | false => rfl
    | true => exact absurd (hrecounts.cancelled x hx hgiven) hcause

end

/-! ## A call that fails, and another -/

namespace Sample

/-- Answers with which everything goes on, except that the calls of the store get those of a list, and a
cancellation comes when there is none left. -/
def answering : Surroundings (List (Except StoreError BatchResult))
  | .addMany _, [] => (.answer none, [])
  | .addMany _, x :: rest => (.answer (some x), rest)
  | .now, w => (.answer .epoch, w)
  | .freshId, w => (.answer "", w)
  | .enter _, w => (.answer (), w)
  | .notice _, w => (.answer (), w)
  | .isCancelled, w => (.answer false, w)
  | .openDocument, w => (.answer (.ok ⟨[element "a" "First"], .ok ⟨true, 1⟩⟩), w)
  | .pause _, w => (.answer (some ()), w)
  | .keepBatch _ _, w => (.answer (some (.ok "")), w)
  | .keepRecords _ _, w => (.answer (.ok ""), w)
  | .progress _, w => (.answer (), w)
  | .append _, w => (.answer (.ok ()), w)
  | .loadCheckpoint _, w => (.answer (.ok none), w)
  | .saveCheckpoint _, w => (.answer (.ok ()), w)

/-- An import of one element whose batch may be handed over twice. -/
def persistent : Task Outcome := importRun { config 1 with maxRetries := 1 } none CardSet 0

/-- The first call of the store fails. -/
def busy : Except StoreError BatchResult := .error (.transport "busy")

end Sample

/-- The second call succeeds, and the repetition is counted. -/
theorem retry_count_of_second_call :
    ∃ t s, Sample.persistent.Yields t (.ok s) ∧ s.retryCount = 1 ∧ (calls t).length = 2 ∧
      batchesBegun t = 1 ∧ s.retryCount + batchesBegun t = (calls t).length := by
  have hrun : (Sample.persistent.run Sample.answering [Sample.busy, .ok ⟨1, 1, 0, [], []⟩]).1 =
      .finished (.ok ⟨1, 1, 0, 1, 0, 1, .epoch, some .epoch⟩) := by decide +kernel
  have hyields := Program.run_yields hrun
  have hcalls : (calls (Sample.persistent.transcript Sample.answering
      [Sample.busy, .ok ⟨1, 1, 0, [], []⟩])).length = 2 := by decide +kernel
  have hbegun : batchesBegun (Sample.persistent.transcript Sample.answering
      [Sample.busy, .ok ⟨1, 1, 0, [], []⟩]) = 1 := by decide +kernel
  obtain ⟨-, -, -, hsum, hiff, hkept, -⟩ := retry_count_of_import hyields
  refine ⟨_, _, hyields, rfl, hcalls, hbegun, hiff.2 fun x hx hgiven => ?_⟩
  rw [hkept (by decide) x hx] at hgiven
  cases hgiven

/-- A cancellation comes during the second call: the repetition is not counted, although the store was called
twice with one batch. -/
theorem repetition_not_counted :
    ∃ t a, Sample.persistent.Yields t (.error a) ∧ a.cause = .cancelled ∧ a.statistics.retryCount = 0 ∧
      (calls t).length = 2 ∧ batchesBegun t = 1 := by
  have hrun : (Sample.persistent.run Sample.answering [Sample.busy]).1 =
      .finished (.error ⟨.cancelled, ⟨1, 0, 0, 0, 0, 0, .epoch, some .epoch⟩⟩) := by decide +kernel
  have hcalls : (calls (Sample.persistent.transcript Sample.answering [Sample.busy])).length = 2 := by
    decide +kernel
  have hbegun : batchesBegun (Sample.persistent.transcript Sample.answering [Sample.busy]) = 1 := by
    decide +kernel
  exact ⟨_, _, Program.run_yields hrun, rfl, rfl, hcalls, hbegun⟩

end CatalogImport
