import CatalogImport.Proofs.Import.Submission

/-!
# What the parts of an import ask

Which questions may come up in each part of an import, whatever it is answered.  The parts that write into
the logbook, and those that keep what was rejected, ask no more than what is named in their lemmas; what may
come up while a batch is submitted and counted is `Request.IsOfBatch`.
-/

namespace CatalogImport

section

variable {P : Request → Prop} {logbook : Option Logbook}

/-! ## The logbook -/

/-- Logging asks for the time, and hands the event over. -/
theorem asksOnly_log {x : Happening} (hnow : P .now)
    (happend : ∀ runId moment, P (.append ⟨runId, x, moment⟩)) (b : Logbook) : (b.log x).AsksOnly P :=
  ⟨hnow, fun moment => ⟨happend b.runId moment, fun _ => trivial⟩⟩

theorem asksOnly_batchCommitted (hnow : P .now) (hload : ∀ runId, P (.loadCheckpoint runId))
    (happend : ∀ runId number records moment, P (.append ⟨runId, .committed number records, moment⟩))
    (hsave : ∀ c, P (.saveCheckpoint c)) (b : Logbook) (number records : Nat) :
    (b.batchCommitted number records).AsksOnly P := by
  refine ⟨hload b.runId, fun c => ?_⟩
  cases c with
  | error e => trivial
  | ok c =>
    refine ⟨hnow, fun moment => ⟨happend b.runId number records moment, fun answer => ?_⟩⟩
    cases answer with
    | error e => trivial
    | ok _ => exact ⟨hnow, fun _ => ⟨hsave _, fun _ => trivial⟩⟩

/-- What cannot be written into the logbook is noted. -/
theorem asksOnly_record {n : Notice} {write : Logbook → Task (Except LogbookError Unit)}
    (hnotice : P (.notice n)) (h : ∀ b, (write b).AsksOnly P) : (record logbook n write).AsksOnly P := by
  unfold record
  cases logbook with
  | none => trivial
  | some b =>
    refine (h b).bind fun r => ?_
    cases r with
    | ok _ => trivial
    | error e => exact ⟨hnotice, fun _ => trivial⟩

/-! ## Notices and files -/

theorem asksOnly_notices {β : Type} {n : Notice} (hnotice : P (.notice n)) (xs : List β) :
    (forIn xs PUnit.unit fun _ _ => do
      ask (.notice n)
      pure (ForInStep.yield PUnit.unit) : Task PUnit).AsksOnly P := by
  induction xs with
  | nil => trivial
  | cons x xs ih =>
    rw [List.forIn_cons]
    exact ⟨hnotice, fun _ => ih⟩

theorem asksOnly_ite_ask {α : Type} {c : Prop} [Decidable c] {q : Request} {p : Task α} (hq : P q)
    (hp : p.AsksOnly P) : (if c then ask q >>= fun _ => p else p).AsksOnly P := by
  split
  · exact ⟨hq, fun _ => hp⟩
  · exact hp

/-- The rejected records of a run are kept in one go. -/
theorem asksOnly_keepFailed {config : Config} {kind : RecordKind} {failed : List FailedEntry}
    (hkeep : P (.keepRecords kind failed)) (hnotice : ∀ n, P (.notice n)) :
    (keepFailed config kind failed).AsksOnly P := by
  unfold keepFailed
  split
  · trivial
  · refine ⟨hkeep, fun answer => ?_⟩
    cases answer with
    | ok _ => trivial
    | error _ => exact ⟨hnotice _, fun _ => trivial⟩

/-- The end of a run asks for the time, keeps what was rejected, and logs what the run has come to. -/
theorem asksOnly_finalize {R : Type} [CatalogRecord R] {config : Config} {run : RunState R}
    (hfinalizing : P (.enter .finalizing)) (hdone : P (.enter .done)) (hnow : P .now)
    (hnotice : ∀ n, P (.notice n)) (hkeep : ∀ kind entries, P (.keepRecords kind entries))
    (happend : ∀ e, P (.append e)) : (finalize config logbook run).AsksOnly P := by
  refine ⟨hfinalizing, fun _ => (asksOnly_keepFailed (hkeep _ _) hnotice).bind fun _ =>
    ⟨hnow, fun _ => ?_⟩⟩
  exact (asksOnly_record (hnotice _) (asksOnly_log hnow fun _ _ => happend _)).bind fun _ =>
    ⟨hdone, fun _ => trivial⟩

theorem asksOnly_abort {R : Type} [CatalogRecord R] {config : Config} {run : RunState R} {cause : Cause}
    (henter : P (.enter .aborted)) (hnow : P .now) (hnotice : ∀ n, P (.notice n))
    (hkeep : ∀ kind entries, P (.keepRecords kind entries)) (happend : ∀ e, P (.append e)) :
    (abort config logbook run cause).AsksOnly P := by
  refine ⟨henter, fun _ => (asksOnly_keepFailed (hkeep _ _) hnotice).bind fun _ =>
    ⟨hnow, fun _ => ⟨hnotice _, fun _ => ?_⟩⟩⟩
  exact (asksOnly_record (hnotice _) (asksOnly_log hnow fun _ _ => happend _)).bind fun _ => trivial

end

/-! ## Batches -/

/-- The question may come up while a batch is submitted and counted. -/
def Request.IsOfBatch : Request → Prop
  | .enter _ => False
  | .openDocument => False
  | .keepRecords _ _ => False
  | .append e => e.happening.isCommit = true
  | _ => True

theorem asksOnly_countBatch {R : Type} {logbook : Option Logbook} (run : RunState R) (b : Batch R)
    (s : Submitted) : (countBatch logbook run b s).AsksOnly Request.IsOfBatch := by
  have hcommitted (c : Logbook) : (c.batchCommitted b.number b.size).AsksOnly Request.IsOfBatch :=
    asksOnly_batchCommitted trivial (fun _ => trivial) (fun _ _ _ _ => rfl) (fun _ => trivial) c b.number b.size
  refine asksOnly_ite_ask trivial ?_
  refine (asksOnly_notices trivial s.result.errorDetails).bind fun _ => ⟨trivial, fun _ => ?_⟩
  exact (asksOnly_record trivial hcommitted).bind fun _ => trivial

theorem asksOnly_attemptsFrom (policy : RetryPolicy) (records : List Stored) (left attempt count : Nat) :
    (attemptsFrom policy records left attempt count).AsksOnly Request.IsOfBatch := by
  induction left generalizing attempt count with
  | zero =>
    rw [attemptsFrom_zero]
    refine ⟨trivial, fun answer => ?_⟩
    rcases answer with _ | _ | _ <;> trivial
  | succ left ih =>
    rw [attemptsFrom_succ]
    refine ⟨trivial, fun answer => ?_⟩
    rcases answer with _ | e | r
    · trivial
    · refine ⟨trivial, fun _ => ⟨trivial, fun x => ?_⟩⟩
      cases x with
      | none => trivial
      | some _ => exact ih (attempt + 1) (count + 1)
    · trivial

theorem asksOnly_keepUnsubmitted (kind : RecordKind) (persist : Bool) (number n : Nat) (e : StoreError)
    (records : List Stored) :
    (keepUnsubmitted kind persist number n e records).run.AsksOnly Request.IsOfBatch := by
  cases persist with
  | false => trivial
  | true =>
    refine ⟨trivial, fun moment => ⟨trivial, fun answer => ?_⟩⟩
    rcases answer with _ | _ | _
    · trivial
    · exact ⟨trivial, fun _ => trivial⟩
    · trivial

section

variable {R : Type} [CatalogRecord R]

theorem asksOnly_loadEntries {P : Request → Prop} (hid : P .freshId) (hnow : P .now) (number : Nat)
    (message : String) (es : List (Entry R)) (sent : List Stored) :
    (loadEntries number message es sent).AsksOnly P := by
  induction es generalizing sent with
  | nil => trivial
  | cons e es ih => exact ⟨hid, fun _ => ⟨hnow, fun _ => (ih sent.tail).bind fun _ => trivial⟩⟩

theorem asksOnly_countUnsubmitted (run : RunState R) (b : Batch R) (u : Unsubmitted) :
    (countUnsubmitted run b u).AsksOnly Request.IsOfBatch :=
  (asksOnly_loadEntries trivial trivial b.number u.cause.message b.entries u.records).bind fun _ => trivial

theorem asksOnly_submit (policy : RetryPolicy) (persist : Bool) (b : Batch R) :
    (submit policy persist b).run.AsksOnly Request.IsOfBatch := by
  unfold submit
  cases b.stored with
  | error reason => trivial
  | ok records =>
    have hkeep := asksOnly_keepUnsubmitted (CatalogRecord.kind R) persist b.number
    refine Program.AsksOnly.bind
      (asksOnly_attemptsFrom policy records (policy.maxAttempts - 1) 1 0) fun x => ?_
    rcases x with _ | ⟨_ | e | e, retries⟩
    · trivial
    · trivial
    -- A batch is kept alike, whether the store refused it for good or too often.
    all_goals
      refine ⟨trivial, fun _ => (hkeep (retries + 1) e records).bind fun y => ?_⟩
      cases y <;> trivial

/-- The part of a submission after the run has entered it. -/
theorem exists_batchPart (config : Config) (logbook : Option Logbook) (run : RunState R) (b : Batch R) :
    ∃ p : Task (RunState R × Option Cause), p.AsksOnly Request.IsOfBatch ∧
      submitBatch config logbook run b = .ask (.enter .submitting) fun _ => p := by
  have hcancelled : isCancelled.AsksOnly Request.IsOfBatch := ⟨trivial, fun _ => trivial⟩
  refine ⟨_, hcancelled.bind fun x => ?_, rfl⟩
  split
  · trivial
  · refine (asksOnly_submit config.retryPolicy config.persistFailures b).bind fun x => ?_
    rcases x with _ | u | s
    · trivial
    · exact (asksOnly_countUnsubmitted run b u).bind fun _ => trivial
    · exact (asksOnly_countBatch run b s).bind fun _ => trivial

end

end CatalogImport
