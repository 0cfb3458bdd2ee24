import CatalogImport.Proofs.Import.Submission

/-!
# The steps of a run

What submitting a batch and taking in an element can do to a run, with the gist of what is asked
meanwhile.  Every way in which the surroundings may answer leads to one of the cases of `SubmitStep` or
`ElementStep`; what is said about runs later on goes through these cases and opens no program again.
-/

namespace CatalogImport

open CatalogImport.Json

variable {R : Type}

/-! ## Batches that the store took -/

/-- The checkpoint to which a batch moves a run that was at another one. -/
def Logbook.checkpointAt (b : Logbook) (c : Option Checkpoint) (number records : Nat)
    (moment : Calendar.Instant) : Checkpoint :=
  ⟨b.runId, b.kind.key, b.source, number, recordsBefore c number + records, moment⟩

/-- What recording a batch asks the journal.  Without a logbook that is nothing.  With one it is the
checkpoint before the batch, then to log the batch, then to move the checkpoint; nothing follows the first
of these that fails. -/
inductive Recorded : Option Logbook → Nat → Nat → History → Prop
  | nowhere (number records : Nat) : Recorded none number records []
  | unread (b : Logbook) (number records : Nat) (e : JournalError) :
      Recorded (some b) number records [⟨.loadCheckpoint b.runId, .error e⟩]
  | unlogged (b : Logbook) (number records : Nat) (c : Option Checkpoint)
      (moment : Calendar.Instant) (e : JournalError) :
      Recorded (some b) number records
        [⟨.loadCheckpoint b.runId, .ok c⟩,
         ⟨.append ⟨b.runId, .committed number records, moment⟩, .error e⟩]
  | logged (b : Logbook) (number records : Nat) (c : Option Checkpoint)
      (moment later : Calendar.Instant) (answer : Except JournalError Unit) :
      Recorded (some b) number records
        [⟨.loadCheckpoint b.runId, .ok c⟩,
         ⟨.append ⟨b.runId, .committed number records, moment⟩, .ok ()⟩,
         ⟨.saveCheckpoint (b.checkpointAt c number records later), answer⟩]

theorem recorded_of_batchCommitted {b : Logbook} {number records : Nat} {t : History}
    {r : Except LogbookError Unit} (h : (b.batchCommitted number records).Yields t r) :
    Recorded (some b) number records (gist t) := by
  obtain ⟨c, u, v, rfl, hu, h₁⟩ := Program.yields_bind_iff.1 h
  obtain ⟨answer, u, rfl, hpure⟩ := yields_ask_bind_iff.1 hu
  obtain ⟨rfl, rfl⟩ := Program.yields_pure_iff.1 hpure
  rw [gist_append, gist_cons_of_matters rfl, gist_nil, List.singleton_append]
  cases answer with
  | error e =>
    obtain ⟨rfl, -⟩ := Program.yields_pure_iff.1 h₁
    exact .unread b number records e
  | ok c =>
    obtain ⟨logged, w, z, rfl, hw, h₂⟩ := Program.yields_bind_iff.1 h₁
    obtain ⟨moment, answer, rfl, rfl⟩ := log_yields hw
    rw [gist_append, gist_cons_of_not_matters rfl, gist_cons_of_matters rfl, gist_nil,
      List.singleton_append]
    cases answer with
    | error e =>
      obtain ⟨rfl, -⟩ := Program.yields_pure_iff.1 h₂
      exact .unlogged b number records c moment e
    | ok _ =>
      obtain ⟨later, z₁, rfl, h₃⟩ := yields_ask_bind_iff.1 h₂
      obtain ⟨saved, z₂, rfl, h₄⟩ := yields_ask_bind_iff.1 h₃
      obtain ⟨rfl, -⟩ := Program.yields_pure_iff.1 h₄
      exact .logged b number records c moment later saved

/-- A question that does not matter may be asked or not. -/
theorem gist_ite_ask {α : Type} {c : Prop} [Decidable c] {q : Request}
    (hq : ∀ x, matters ⟨q, x⟩ = false) {p : Task α} {t : History} {a : α}
    (h : (if c then ask q >>= fun _ => p else p).Yields t a) :
    ∃ u, p.Yields u a ∧ gist t = gist u := by
  split at h
  · obtain ⟨x, u, rfl, hu⟩ := yields_ask_bind_iff.1 h
    exact ⟨u, hu, gist_cons_of_not_matters (hq x)⟩
  · exact ⟨t, h, rfl⟩

theorem gist_notices {α : Type} {xs : List α} {n : Notice} {t : History} {x : PUnit}
    (h : (forIn xs PUnit.unit fun _ _ => do
      ask (.notice n)
      pure (ForInStep.yield PUnit.unit) : Task PUnit).Yields t x) : gist t = [] := by
  induction xs generalizing t with
  | nil =>
    obtain ⟨rfl, -⟩ := Program.yields_pure_iff.1 h
    rfl
  | cons y ys ih =>
    rw [List.forIn_cons] at h
    obtain ⟨s, u, v, rfl, hu, hv⟩ := Program.yields_bind_iff.1 h
    obtain ⟨_, w, rfl, hw⟩ := yields_ask_bind_iff.1 hu
    obtain ⟨rfl, rfl⟩ := Program.yields_pure_iff.1 hw
    rw [gist_append, gist_cons_of_not_matters rfl, gist_nil, List.nil_append]
    exact ih hv

/-- The statistics after a batch has been counted. -/
def countedStatistics (run : RunState R) (b : Batch R) (s : Submitted) : Statistics :=
  (run.statistics.recordRetries s.retries).recordBatch b.size s.result

theorem countBatch_yields {logbook : Option Logbook} {run run' : RunState R} {b : Batch R}
    {s : Submitted} {t : History} (h : (countBatch logbook run b s).Yields t run') :
    run' = { run with statistics := countedStatistics run b s } ∧
      ∃ entry, Recorded logbook b.number b.size entry ∧
        gist t = ⟨.progress (countedStatistics run b s), ()⟩ :: entry := by
  obtain ⟨u, hu, ht⟩ := gist_ite_ask (fun _ => rfl) h
  obtain ⟨_, v, w, rfl, hv, hw⟩ := Program.yields_bind_iff.1 hu
  obtain ⟨_, z, rfl, hz⟩ := yields_ask_bind_iff.1 hw
  obtain ⟨_, z₁, z₂, rfl, hrecord, hpure⟩ := Program.yields_bind_iff.1 hz
  obtain ⟨rfl, rfl⟩ := Program.yields_pure_iff.1 hpure
  refine ⟨rfl, gist z₁, ?_, ?_⟩
  · rcases gist_record hrecord with ⟨rfl, hg⟩ | ⟨c, _, y, rfl, hy, hg⟩
    · rw [hg]
      exact .nowhere b.number b.size
    · rw [hg]
      exact recorded_of_batchCommitted hy
  · rw [ht, gist_append, gist_notices hv, gist_cons_of_matters rfl, List.append_nil]
    rfl

/-! ## Batches that the store never took -/

variable [CatalogRecord R]

/-- The data kept of a record whose batch was lost: what was handed to the store, or the id alone if the
batch could not be written. -/
def IsKeptData (cause : Cause) (r : R) (v : Value) : Prop :=
  match cause with
  | .batchUnwritable _ _ => v = .object [("id", .text (CatalogRecord.id r))]
  | _ => CatalogRecord.payload r = .ok v

/-- The entry is about a record of a batch that was lost, and says why. -/
structure LoadFailure (b : Batch R) (cause : Cause) (e : Entry R) (f : FailedEntry) : Prop where
  position : f.position = e.position
  rawData : IsKeptData cause e.record f.rawData
  message : f.message = cause.message
  stage : f.stage = .load
  batchNumber : f.batchNumber = some b.number

theorem loadEntries_yields {b : Batch R} {cause : Cause} {es : List (Entry R)}
    {sent : List Stored} {t : History} {fs : List FailedEntry}
    (hsent : ∀ (i : Nat) (e : Entry R), es[i]? = some e →
      IsKeptData cause e.record (keptPayload e.record sent[i]?))
    (h : (loadEntries b.number cause.message es sent).Yields t fs) :
    gist t = [] ∧ List.Forall₂ (LoadFailure b cause) es fs := by
  induction es generalizing sent t fs with
  | nil =>
    obtain ⟨rfl, rfl⟩ := Program.yields_pure_iff.1 h
    exact ⟨rfl, .nil⟩
  | cons e es ih =>
    obtain ⟨id, u, rfl, h₁⟩ := yields_ask_bind_iff.1 h
    obtain ⟨moment, v, rfl, h₂⟩ := yields_ask_bind_iff.1 h₁
    obtain ⟨rest, w, z, rfl, hw, hpure⟩ := Program.yields_bind_iff.1 h₂
    obtain ⟨rfl, rfl⟩ := Program.yields_pure_iff.1 hpure
    have htail : ∀ (i : Nat) (e' : Entry R), es[i]? = some e' →
        IsKeptData cause e'.record (keptPayload e'.record sent.tail[i]?) := by
      intro i e' he
      rw [List.getElem?_tail]
      exact hsent (i + 1) e' he
    obtain ⟨hgist, hrest⟩ := ih htail hw
    refine ⟨?_, .cons ⟨rfl, ?_, rfl, rfl, rfl⟩ hrest⟩
    · rw [gist_cons_of_not_matters rfl, gist_cons_of_not_matters rfl, List.append_nil]
      exact hgist
    rw [List.head?_eq_getElem?]
    exact hsent 0 e rfl

/-- What was handed over of a written batch is the payload of each of its records. -/
theorem payload_of_stored {b : Batch R} {records : List Stored} (h : b.stored = .ok records)
    (i : Nat) (e : Entry R) (he : b.entries[i]? = some e) :
    CatalogRecord.payload e.record = .ok (keptPayload e.record records[i]?) := by
  have hf := forall₂_of_stored h
  obtain ⟨hi, rfl⟩ := List.getElem?_eq_some_iff.1 he
  have hr : i < records.length := hf.length_eq ▸ hi
  have hs := (List.forall₂_iff_get.1 hf).2 i hi hr
  rw [List.getElem?_eq_getElem hr]
  unfold CatalogRecord.stored at hs
  cases hp : CatalogRecord.payload (b.entries[i]).record with
  | error reason => simp [hp, Except.map] at hs
  | ok v =>
    simp only [List.get_eq_getElem, hp, Except.map, Except.ok.injEq] at hs
    rw [← hs]
    rfl

/-- What submitting a batch can do to a run. -/
inductive SubmitStep (config : Config) (logbook : Option Logbook) (run : RunState R) (b : Batch R) :
    History → RunState R → Option Cause → Prop
  | cancelled : SubmitStep config logbook run b [⟨.isCancelled, true⟩] run (some .cancelled)
  | dropped (records : List Stored) (errors : List StoreError) (e : Exchange)
      (hstored : b.stored = .ok records) (hinterrupts : Interrupts records e) :
      SubmitStep config logbook run b (failedCalls records errors ++ [e]) run (some .cancelled)
  | counted (records : List Stored) (errors : List StoreError) (result : BatchResult)
      (entry : History) (hstored : b.stored = .ok records)
      (hlength : errors.length ≤ config.maxRetries) (hentry : Recorded logbook b.number b.size entry) :
      SubmitStep config logbook run b
        (failedCalls records errors ++ ⟨.addMany records, some (.ok result)⟩ ::
          ⟨.progress (countedStatistics run b ⟨result, errors.length⟩), ()⟩ :: entry)
        { run with statistics := countedStatistics run b ⟨result, errors.length⟩ } none
  | refused (records : List Stored) (errors : List StoreError) (e : StoreError)
      (entries : List FailedEntry) (hstored : b.stored = .ok records)
      (hlength : errors.length = config.maxRetries)
      (hentries : List.Forall₂ (LoadFailure b (.batchFailed b.number (errors.length + 1) e))
        b.entries entries) :
      SubmitStep config logbook run b
        (failedCalls records errors ++ [⟨.addMany records, some (.error e)⟩])
        { run with
          statistics := (run.statistics.recordRetries errors.length).recordFailedBatch b.size
          failed := run.failed ++ entries }
        (some (.batchFailed b.number (errors.length + 1) e))
  | unwritable (reason : String) (entries : List FailedEntry) (hstored : b.stored = .error reason)
      (hentries : List.Forall₂ (LoadFailure b (.batchUnwritable b.number reason)) b.entries
        entries) :
      SubmitStep config logbook run b []
        { run with
          statistics := (run.statistics.recordRetries 0).recordFailedBatch b.size
          failed := run.failed ++ entries }
        (some (.batchUnwritable b.number reason))

theorem submitStep_of_yields {config : Config} {logbook : Option Logbook} {run : RunState R}
    {b : Batch R} {t : History} {x : RunState R × Option Cause}
    (h : (submitBatch config logbook run b).Yields t x) :
    SubmitStep config logbook run b (gist t) x.1 x.2 := by
  obtain ⟨_, t₁, rfl, h₁⟩ := yields_ask_bind_iff.1 h
  obtain ⟨cancelled, t₂, rfl, h₂⟩ := yields_ask_bind_iff.1 h₁
  rw [gist_cons_of_not_matters rfl]
  cases cancelled with
  | true =>
    obtain ⟨rfl, rfl⟩ := Program.yields_pure_iff.1 h₂
    rw [gist_cons_of_matters rfl, gist_nil]
    exact .cancelled
  | false =>
    obtain ⟨result, u, v, rfl, hu, hv⟩ := Program.yields_bind_iff.1 h₂
    have hsub := submission_of_yields hu
    rw [gist_cons_of_not_matters rfl, gist_append]
    generalize gist u = g at hsub
    cases hsub with
    | dropped records errors e hstored hinterrupts =>
      obtain ⟨rfl, rfl⟩ := Program.yields_pure_iff.1 hv
      rw [gist_nil, List.append_nil]
      exact .dropped records errors e hstored hinterrupts
    | taken records errors result hstored hlength =>
      obtain ⟨run', w, z, rfl, hw, hpure⟩ := Program.yields_bind_iff.1 hv
      obtain ⟨rfl, rfl⟩ := Program.yields_pure_iff.1 hpure
      obtain ⟨rfl, entry, hentry, hg⟩ := countBatch_yields hw
      rw [List.append_nil, hg, List.append_assoc]
      exact .counted records errors result entry hstored hlength hentry
    | refused records errors e hstored hlength =>
      obtain ⟨run', w, z, rfl, hw, hpure⟩ := Program.yields_bind_iff.1 hv
      obtain ⟨rfl, rfl⟩ := Program.yields_pure_iff.1 hpure
      obtain ⟨entries, y, z, rfl, hy, hpure⟩ := Program.yields_bind_iff.1 hw
      obtain ⟨rfl, rfl⟩ := Program.yields_pure_iff.1 hpure
      obtain ⟨hg, hentries⟩ := loadEntries_yields (payload_of_stored hstored) hy
      rw [List.append_nil, List.append_nil, hg, List.append_nil]
      exact .refused records errors e entries hstored hlength hentries
    | unwritable reason hstored =>
      obtain ⟨run', w, z, rfl, hw, hpure⟩ := Program.yields_bind_iff.1 hv
      obtain ⟨rfl, rfl⟩ := Program.yields_pure_iff.1 hpure
      obtain ⟨entries, y, z, rfl, hy, hpure⟩ := Program.yields_bind_iff.1 hw
      obtain ⟨rfl, rfl⟩ := Program.yields_pure_iff.1 hpure
      have hkept : ∀ (i : Nat) (e : Entry R), b.entries[i]? = some e →
          IsKeptData (.batchUnwritable b.number reason) e.record
            (keptPayload e.record ([] : List Stored)[i]?) := fun _ _ _ => rfl
      obtain ⟨hg, hentries⟩ := loadEntries_yields hkept hy
      rw [List.append_nil, List.append_nil, hg, List.append_nil]
      exact .unwritable reason entries hstored hentries

/-! ## Elements -/

/-- The entry is about an element that is no record; an element comes with its position. -/
structure ValidationFailure (R : Type) [CatalogRecord R] (x : Value × Nat) (f : FailedEntry) :
    Prop where
  position : f.position = x.2
  rawData : f.rawData = x.1
  message : ∃ violation, CatalogRecord.validate (R := R) x.1 = .error violation ∧
    f.message = violation.message
  stage : f.stage = .validation
  batchNumber : f.batchNumber = none

/-- The run after a record has been pushed, when the batcher has become another one. -/
def RunState.pushed (run : RunState R) (batcher : Batcher R) : RunState R :=
  { run with statistics := run.statistics.recordValid, batcher }

/-- What taking in an element can do to a run. -/
inductive ElementStep (config : Config) (logbook : Option Logbook) (run : RunState R)
    (x : Value × Nat) : History → RunState R → Option Cause → Prop
  | pending (r : R) (batcher : Batcher R) (hvalid : CatalogRecord.validate x.1 = .ok r)
      (hpush : run.batcher.push x.2 r = (none, batcher)) :
      ElementStep config logbook run x [⟨.enter .validating, ()⟩] (run.pushed batcher) none
  | sealed (r : R) (b : Batch R) (batcher : Batcher R) (g : History) (run' : RunState R)
      (cause? : Option Cause) (hvalid : CatalogRecord.validate x.1 = .ok r)
      (hpush : run.batcher.push x.2 r = (some b, batcher))
      (hsubmit : SubmitStep config logbook (run.pushed batcher) b g run' cause?) :
      ElementStep config logbook run x (⟨.enter .validating, ()⟩ :: g) run' cause?
  | rejected (violation : Violation) (entry : FailedEntry)
      (hinvalid : CatalogRecord.validate (R := R) x.1 = .error violation)
      (hentry : ValidationFailure R x entry) :
      ElementStep config logbook run x [⟨.enter .validating, ()⟩]
        { run with
          statistics := run.statistics.recordInvalid
          failed := run.failed ++ [entry] }
        (if config.skipValidationErrors then none else some (.invalidRecord x.2 violation))

theorem elementStep_of_yields {config : Config} {logbook : Option Logbook} {run : RunState R}
    {position : Nat} {v : Value} {t : History} {y : RunState R × Option Cause}
    (h : (takeElement config logbook run position v).Yields t y) :
    ElementStep config logbook run (v, position) (gist t) y.1 y.2 := by
  obtain ⟨_, t₁, rfl, h₁⟩ := yields_ask_bind_iff.1 h
  rw [gist_cons_of_matters rfl]
  cases hv : CatalogRecord.validate (R := R) v with
  | ok r =>
    rw [hv] at h₁
    obtain ⟨_, t₂, rfl, h₂⟩ := yields_ask_bind_iff.1 h₁
    rw [gist_cons_of_not_matters rfl]
    rcases hpush : run.batcher.push position r with ⟨sealed, batcher⟩
    rw [hpush] at h₂
    cases sealed with
    | none =>
      obtain ⟨rfl, rfl⟩ := Program.yields_pure_iff.1 h₂
      exact .pending r batcher hv hpush
    | some b => exact .sealed r b batcher _ _ _ hv hpush (submitStep_of_yields h₂)
  | error violation =>
    rw [hv] at h₁
    obtain ⟨_, t₂, rfl, h₂⟩ := yields_ask_bind_iff.1 h₁
    obtain ⟨id, t₃, rfl, h₃⟩ := yields_ask_bind_iff.1 h₂
    obtain ⟨moment, t₄, rfl, h₄⟩ := yields_ask_bind_iff.1 h₃
    obtain ⟨rfl, rfl⟩ := Program.yields_pure_iff.1 h₄
    exact .rejected violation _ hv ⟨rfl, rfl, ⟨violation, hv, rfl⟩, rfl, rfl⟩

end CatalogImport
