import CatalogImport.Proofs.Import.Counters
import CatalogImport.Rehearsal.World

/-!
# Reports with any counts

What a store reports about a batch need not agree with the batch, nor with itself.  Counting a batch is safe from
that: every number on the way has 64 bits, whatever is reported, and no more is counted than the batch has
(`any_report_is_counted`), and a run always has the room that this takes (`room_for_counted_batches`).  Checking
whether a report is consistent is not safe, since it adds up the counts before they are clamped: a run breaks down
at a report of which 64 bits do not hold the sum (`unaddable_report_is_not_checked`).
-/

namespace CatalogImport

/-! ## Sums and differences in 64 bits -/

namespace Word

theorem add?_eq_some {m n : Nat} (h : m + n < 2 ^ 64) : add? m n = some (m + n) := if_pos h

theorem add?_eq_none {m n : Nat} (h : 2 ^ 64 ≤ m + n) : add? m n = none := if_neg (Nat.not_lt.2 h)

theorem sub?_eq_some {m n : Nat} (h : n ≤ m) : sub? m n = some (m - n) := if_pos h

end Word

/-! ## One batch -/

namespace BatchResult

/-- What a run finds out about a report is whether it is consistent, as long as 64 bits hold the sum. -/
theorem isConsistent?_eq_some {r : BatchResult} (h : r.successful + r.failed < 2 ^ 64) :
    r.isConsistent? = some r.isConsistent := by
  rw [isConsistent?, Word.add?_eq_some h]
  rfl

theorem isConsistent?_eq_none {r : BatchResult} (h : 2 ^ 64 ≤ r.successful + r.failed) :
    r.isConsistent? = none := by
  rw [isConsistent?, Word.add?_eq_none h]
  rfl

end BatchResult

namespace Statistics

/-- The statistics have room for a batch of so many records.  These are among the records that have been counted,
beside those that were inserted or refused already, and each batch that was counted had a record. -/
structure HasRoomFor (s : Statistics) (size : Nat) : Prop where
  totalRecords_lt : s.totalRecords < 2 ^ 64
  inserts_le : s.successfulInserts + s.failedInserts + size ≤ s.totalRecords
  batchesProcessed_lt : s.batchesProcessed < s.totalRecords

/-- Where there is room for a batch, counting it in 64 bits is counting it. -/
theorem recordBatch?_eq {s : Statistics} {size : Nat} (h : s.HasRoomFor size) (r : BatchResult) :
    s.recordBatch? size r = some (s.recordBatch size r) := by
  obtain ⟨htotal, hinserts, hbatches⟩ := h
  have hcredited := credited_le size r
  have hrest : Word.sub? size (min r.successful size) = some (size - creditedSuccesses size r) :=
    Word.sub?_eq_some (Nat.min_le_right _ _)
  have hsuccesses : Word.add? s.successfulInserts (min r.successful size) =
      some (s.successfulInserts + creditedSuccesses size r) :=
    Word.add?_eq_some (by unfold creditedSuccesses at hcredited; omega)
  have hfailures : Word.add? s.failedInserts (min r.failed (size - creditedSuccesses size r)) =
      some (s.failedInserts + creditedFailures size r) :=
    Word.add?_eq_some (by unfold creditedFailures at hcredited; omega)
  have hprocessed : Word.add? s.batchesProcessed 1 = some (s.batchesProcessed + 1) :=
    Word.add?_eq_some (by omega)
  simp only [recordBatch?, hrest, hsuccesses, hfailures, hprocessed, Option.bind_eq_bind, Option.bind_some,
    Option.pure_def]
  rfl

end Statistics

/-- What becomes of a report with any counts about a batch for which there is room.  The check whether it is
consistent adds up the counts of inserted and refused records; where 64 bits hold the sum it answers whether that
is at most the total, and otherwise it fails.  Counting the batch takes no number out of 64 bits, and what counts
of the report is at most the batch. -/
theorem any_report_is_counted {s : Statistics} {size : Nat} (hroom : s.HasRoomFor size) (r : BatchResult) :
    (r.isConsistent? = none ↔ 2 ^ 64 ≤ r.successful + r.failed) ∧
      (∀ answer, r.isConsistent? = some answer → (answer = true ↔ r.successful + r.failed ≤ r.total)) ∧
      s.recordBatch? size r = some (s.recordBatch size r) ∧
      ∃ successes failures, successes + failures ≤ size ∧
        (s.recordBatch size r).successfulInserts = s.successfulInserts + successes ∧
        (s.recordBatch size r).failedInserts = s.failedInserts + failures := by
  refine ⟨?_, ?_, Statistics.recordBatch?_eq hroom r, _, _, Statistics.credited_le size r, rfl, rfl⟩
  · refine ⟨fun hnone => Nat.le_of_not_lt fun hlt => ?_, BatchResult.isConsistent?_eq_none⟩
    rw [BatchResult.isConsistent?_eq_some hlt] at hnone
    cases hnone
  · intro answer hanswer
    by_cases hlt : r.successful + r.failed < 2 ^ 64
    · rw [BatchResult.isConsistent?_eq_some hlt] at hanswer
      cases hanswer
      exact decide_eq_true_iff
    · rw [BatchResult.isConsistent?_eq_none (Nat.not_lt.1 hlt)] at hanswer
      cases hanswer

/-! ## Whole runs -/

section

variable {R : Type}

/-- Where none is empty, there are no more batches than records in them. -/
theorem length_le_length_recordsIn {cs : List (Counted R)} (h : ∀ c ∈ cs, 0 < c.batch.size) :
    cs.length ≤ (recordsIn cs).length := by
  induction cs with
  | nil => exact Nat.le_refl 0
  | cons c cs ih =>
    have hc : 0 < c.batch.entries.length := h c List.mem_cons_self
    have hcs := ih fun d hd => h d (List.mem_cons_of_mem c hd)
    rw [recordsIn_cons, List.length_append, List.length_cons]
    omega

/-- Before the last batch was counted, there was room for it. -/
theorem Tally.exists_room {cs : List (Counted R)} {c : Counted R} {s : Statistics}
    (h : Tally (cs ++ [c]) 0 0 s) (hcs : ∀ d ∈ cs, 0 < d.batch.size) (hc : 0 < c.batch.size)
    (hfew : s.totalRecords < 2 ^ 64) :
    ∃ before : Statistics, before.HasRoomFor c.batch.size ∧
      before.recordBatch c.batch.size c.report = s := by
  obtain ⟨htotal, hsuccessful, hfailed, hprocessed, -⟩ := h
  rw [recordsIn_append, recordsIn_singleton, List.length_append] at htotal
  rw [successesIn, addedUp_concat, ← successesIn] at hsuccessful
  rw [failuresIn, addedUp_concat, ← failuresIn, Nat.add_zero] at hfailed
  rw [List.length_append, List.length_singleton] at hprocessed
  have hcredited := successesIn_add_failuresIn_le cs
  have hnumber := length_le_length_recordsIn hcs
  have hsize : c.batch.size = c.batch.entries.length := rfl
  refine ⟨{ s with
    successfulInserts := successesIn cs, failedInserts := failuresIn cs, batchesProcessed := cs.length },
    ⟨hfew, ?_, ?_⟩, ?_⟩
  · show successesIn cs + failuresIn cs + c.batch.size ≤ s.totalRecords
    omega
  · show cs.length < s.totalRecords
    omega
  · show ({ s with successfulInserts := _, failedInserts := _, batchesProcessed := _ } : Statistics) = s
    rw [← hsuccessful, ← hfailed, ← hprocessed]

end

/-- As long as an import receives no more elements than 64 bits can count, there is room for every batch that it
counts.  The statistics told after a batch come from some that had room for as many records as were handed over,
and the report of the store was counted in 64 bits. -/
theorem room_for_counted_batches {R : Type} [CatalogRecord R] {config : Config} {logbook : Option Logbook}
    {resumeFrom : Nat} {t : History} {outcome : Outcome}
    (h : (importRun config logbook R resumeFrom).Yields t outcome) (hfew : received t < 2 ^ 64)
    {i : Nat} {s : Statistics} (hs : (snapshots t)[i]? = some s) :
    ∃ (records : List Stored) (report : BatchResult) (before : Statistics),
      (offers t)[i]? = some (records, some report) ∧ before.HasRoomFor records.length ∧
      before.recordBatch? records.length report = some s := by
  obtain ⟨l, hl, hsorts⟩ := exists_sorted_ledger (R := R) h
  rw [hl.snapshots, List.getElem?_map] at hs
  obtain ⟨c, hc, rfl⟩ := Option.map_eq_some_iff.1 hs
  obtain ⟨-, hstored, htally⟩ := hl.batches i c hc
  obtain ⟨hlt, hget⟩ := List.getElem?_eq_some_iff.1 hc
  have hnonempty : ∀ d ∈ l.counted.take i, 0 < d.batch.size :=
    fun d hd => hsorts.nonempty d (List.mem_of_mem_take hd)
  -- All records of the batches so far were received.
  have htotal : c.statistics.totalRecords ≤ received t := by
    have hparts := congrArg List.length (recordsIn_append (l.counted.take (i + 1)) (l.counted.drop (i + 1)))
    rw [List.take_append_drop, List.length_append] at hparts
    have hrecords := congrArg List.length hl.records
    have helements : (entriesOf R (receivedElements config resumeFrom t)).length ≤ _ :=
      List.length_filterMap_le _ _
    rw [List.length_append, List.length_append] at hrecords
    rw [hl.length] at helements
    rw [htally.totalRecords]
    omega
  rw [List.take_succ_eq_append_getElem hlt, hget] at htally
  obtain ⟨before, hroom, hcounted⟩ :=
    htally.exists_room hnonempty (hsorts.nonempty c (List.mem_of_getElem? hc)) (Nat.lt_of_le_of_lt htotal hfew)
  have hlength : (storedForms c.batch.entries).length = c.batch.size :=
    (forall₂_of_stored hstored).length_eq.symm
  refine ⟨storedForms c.batch.entries, c.report, before, ?_, hlength ▸ hroom, ?_⟩
  · rw [hl.offers, Ledger.offered, List.getElem?_append_left (by simpa using hlt), List.getElem?_map, hc]
    rfl
  · rw [hlength, Statistics.recordBatch?_eq hroom, hcounted]

/-! ## Reports that cannot be added up -/

namespace Sample

/-- A report about more records than 64 bits can count. -/
def boastful : BatchResult := ⟨5, 2 ^ 64 - 1, 1, [], []⟩

/-- A store that takes everything and reports that. -/
def boast : Serving Unit := fun _ s => (.reply (.ok boastful), false, s)

/-- A document with one card set. -/
def oneSet : String :=
  "\x7b\"data\":[\x7b\"id\":\"a\",\"name\":\"b\",\"code\":\"c\",\"set_type\":\"core\"\x7d]\x7d"

/-- A world with that store and that document. -/
def boastingWorld : World Unit := { World.idle () .new .epoch "" with place := .file oneSet.toUTF8.toList }

end Sample

theorem boastful_report_is_counted :
    (Statistics.mk 2 1 0 1 0 0 .epoch none).HasRoomFor 1 ∧ Sample.boastful.isConsistent? = none ∧
      ∃ s, (Statistics.mk 2 1 0 1 0 0 .epoch none).recordBatch? 1 Sample.boastful = some s ∧
        s.successfulInserts = 2 ∧ s.failedInserts = 0 := by
  have hroom : (Statistics.mk 2 1 0 1 0 0 .epoch none).HasRoomFor 1 := ⟨by decide, by decide, by decide⟩
  obtain ⟨hcheck, -, hcounted, -⟩ := any_report_is_counted hroom Sample.boastful
  exact ⟨hroom, hcheck.2 (by decide), _, hcounted, by decide, by decide⟩

/-- The counts of a report have 64 bits each, but the check whether it is consistent has no answer, and the import
breaks down. -/
theorem unaddable_report_is_not_checked :
    ¬ (∀ r : BatchResult, r.total < 2 ^ 64 → r.successful < 2 ^ 64 → r.failed < 2 ^ 64 →
      r.isConsistent? = some (decide (r.successful + r.failed ≤ r.total))) ∧
    (World.run Sample.boast (importRun (Sample.config 1) none CardSet 0) Sample.boastingWorld).1 =
      .collapsed := by
  refine ⟨fun hchecked => ?_, by decide +kernel⟩
  have hboastful := hchecked Sample.boastful (by decide) (by decide) (by decide)
  rw [BatchResult.isConsistent?_eq_none (by decide)] at hboastful
  cases hboastful

end CatalogImport
