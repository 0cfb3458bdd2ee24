import CatalogImport.Proofs.Import.AbortCauses
import CatalogImport.Proofs.Import.Questions

/-!
# Cancelled imports

A run is cancelled from outside, at any moment.  It finds out when it looks, which it does before each element,
before each batch and in each pause, or while it waits for the store.  Two things are followed through the
parts of an import: a part that starts when the run has been cancelled does not call the store (`Quiet`), and
whenever the cancellation comes, no call follows the next question at which it may show (`Ceases`).  Main
statement: what becomes of an import that is cancelled at some point (`cancellation_stops_submissions`).
-/

namespace CatalogImport

open CatalogImport.Calendar CatalogImport.Json

/-! ## Cancelled runs -/

/-- The run looks whether it has been cancelled. -/
def Request.looks : Request → Bool
  | .isCancelled => true
  | .pause _ => true
  | _ => false

/-- A cancellation may show: the run looks, or waits for the store. -/
def Request.polls : Request → Bool
  | .addMany _ => true
  | q => q.looks

/-- The exchange may take place when the run has been cancelled: if it looks, it finds out.  All else may be
answered as ever, also by the store. -/
def IsLate (e : Exchange) : Prop := e.1.looks = true → isCancellation e = true

/-- No call of the store follows a question at which a cancellation may show. -/
def Ceased (t : History) : Prop := ∀ u e v, t = u ++ e :: v → e.1.polls = true → calls v = []

/-- There is one such call at most, since a call is such a question itself. -/
theorem Ceased.length_calls_le {t : History} (h : Ceased t) : (calls t).length ≤ 1 := by
  cases hcalls : calls t with
  | nil => exact Nat.zero_le 1
  | cons call rest =>
    obtain ⟨u, e, v, ht, -, hcall, hrest⟩ := List.filterMap_eq_cons_iff.1 hcalls
    have hpolls : e.1.polls = true := by
      obtain ⟨q, x⟩ := e
      cases q with
      | addMany records => rfl
      | _ => cases hcall
    have hnothing : rest = [] := hrest.symm.trans (h u e v ht hpolls)
    rw [hnothing]
    exact Nat.le_refl 1

/-- From such states on the run has been cancelled.  Everything is answered, and it finds out when it looks. -/
def CancelledIn {σ : Type} (s : Surroundings σ) (states : σ → Prop) : Prop :=
  ∀ q w, states w → ∃ x w', s q w = (.answer x, w') ∧ states w' ∧ IsLate ⟨q, x⟩

/-- Such a run comes to its end. -/
theorem exists_finished_of_cancelledIn {σ α : Type} {s : Surroundings σ} {states : σ → Prop}
    (hs : CancelledIn s states) (p : Task α) {w : σ} (hw : states w) :
    ∃ a, (p.run s w).1 = .finished a ∧ ∀ e ∈ p.transcript s w, IsLate e := by
  induction p generalizing w with
  | done a => exact ⟨a, rfl, List.forall_mem_nil _⟩
  | ask q next ih =>
    obtain ⟨x, w', hq, hw', hlate⟩ := hs q w hw
    obtain ⟨a, hrun, hrest⟩ := ih x hw'
    refine ⟨a, ?_, ?_⟩
    · rw [Program.run, hq]
      exact hrun
    · rw [Program.transcript, hq]
      exact List.forall_mem_cons.2 ⟨hlate, hrest⟩

/-! ## Parts of an import that is cancelled -/

section

variable {α β : Type}

/-- Begun when the run has been cancelled, the part does not call the store. -/
def Quiet : Task α → Prop
  | .done _ => True
  | .ask q next => (∀ x, call? ⟨q, x⟩ = none) ∧ ∀ x, IsLate ⟨q, x⟩ → Quiet (next x)

/-- Whenever the run is cancelled, the part does not call the store any more after a question at which that may
show. -/
def Ceases : Task α → Prop
  | .done _ => True
  | .ask q next =>
    (q.polls = true → ∀ x, IsLate ⟨q, x⟩ → Quiet (next x)) ∧ ∀ x, Ceases (next x)

theorem Quiet.bind {p : Task α} {f : α → Task β} (hp : Quiet p) (hf : ∀ a, Quiet (f a)) :
    Quiet (p >>= f) := by
  induction p with
  | done a => exact hf a
  | ask q next ih => exact ⟨hp.1, fun x hx => ih x (hp.2 x hx)⟩

theorem Ceases.bind {p : Task α} {f : α → Task β} (hp : Ceases p) (hquiet : ∀ a, Quiet (f a))
    (hceases : ∀ a, Ceases (f a)) : Ceases (p >>= f) := by
  induction p with
  | done a => exact hceases a
  | ask q next ih =>
    exact ⟨fun hq x hx => (hp.1 hq x hx).bind hquiet, fun x => ih x (hp.2 x)⟩

/-- At the question no cancellation may show. -/
def Request.IsCalm : Request → Prop
  | .isCancelled => False
  | .pause _ => False
  | .addMany _ => False
  | _ => True

theorem Request.IsCalm.polls {q : Request} (h : q.IsCalm) : q.polls = false := by
  cases q <;> first | rfl | cases h

theorem Quiet.of_asksOnly {p : Task α} (h : p.AsksOnly Request.IsCalm) : Quiet p := by
  induction p with
  | done a => trivial
  | ask q next ih =>
    refine ⟨fun x => ?_, fun x _ => ih x (h.2 x)⟩
    cases q with
    | addMany records => cases h.1
    | _ => rfl

theorem Ceases.of_asksOnly {p : Task α} (h : p.AsksOnly Request.IsCalm) : Ceases p := by
  induction p with
  | done a => trivial
  | ask q next ih =>
    refine ⟨fun hq => ?_, fun x => ih x (h.2 x)⟩
    cases hq.symm.trans h.1.polls

theorem Ceases.bind_calm {p : Task α} {f : α → Task β} (hp : Ceases p)
    (hf : ∀ a, (f a).AsksOnly Request.IsCalm) : Ceases (p >>= f) :=
  hp.bind (fun a => Quiet.of_asksOnly (hf a)) fun a => Ceases.of_asksOnly (hf a)

/-- The part looks for a cancellation before it calls the store, and again before each further call. -/
structure Heeds (p : Task α) : Prop where
  quiet : Quiet p
  ceases : Ceases p

theorem Heeds.of_asksOnly {p : Task α} (h : p.AsksOnly Request.IsCalm) : Heeds p :=
  ⟨Quiet.of_asksOnly h, Ceases.of_asksOnly h⟩

theorem Heeds.bind {p : Task α} {f : α → Task β} (hp : Heeds p) (hf : ∀ a, Heeds (f a)) : Heeds (p >>= f) :=
  ⟨hp.quiet.bind fun a => (hf a).quiet, hp.ceases.bind (fun a => (hf a).quiet) fun a => (hf a).ceases⟩

theorem heeds_ask_bind {q : Request} {f : q.Answer → Task α} (hq : q.IsCalm) (hf : ∀ x, Heeds (f x)) :
    Heeds (ask q >>= f) :=
  (Heeds.of_asksOnly (p := ask q) ⟨hq, fun _ => trivial⟩).bind hf

/-- After a look, what is done when the run has been cancelled is no call. -/
theorem heeds_isCancelled_bind {f : Bool → Task α} (hcancelled : (f true).AsksOnly Request.IsCalm)
    (hf : Ceases (f false)) : Heeds (isCancelled >>= f) := by
  have hlook (x : Bool) (hx : IsLate ⟨.isCancelled, x⟩) : Quiet (f x) := by
    cases x with
    | false => cases hx rfl
    | true => exact Quiet.of_asksOnly hcancelled
  refine ⟨⟨fun _ => rfl, hlook⟩, fun _ => hlook, fun x => ?_⟩
  cases x with
  | false => exact hf
  | true => exact Ceases.of_asksOnly hcancelled

/-- All that a quiet part asks of a cancelled run is no call. -/
theorem Quiet.calls_eq_nil {p p' : Task α} {t : History} (hp : Quiet p) (h : p.Told t p')
    (ht : ∀ e ∈ t, IsLate e) : calls t = [] := by
  induction h with
  | here p => rfl
  | @answered q next x t p' _ ih =>
    obtain ⟨hfirst, hrest⟩ := List.forall_mem_cons.1 ht
    rw [calls, List.filterMap_cons_none (hp.1 x)]
    exact ih (hp.2 x hfirst) hrest

/-- What a part asks from where the run is cancelled on. -/
theorem Ceases.ceased {p p' : Task α} {t u : History} (hp : Ceases p) (h : p.Told (t ++ u) p')
    (hu : ∀ e ∈ u, IsLate e) : Ceased u := by
  induction t generalizing p with
  | nil =>
    rw [List.nil_append] at h
    induction h with
    | here p =>
      intro v e w hnil
      simp at hnil
    | @answered q next x u p' hrest ih =>
      obtain ⟨hfirst, hlate⟩ := List.forall_mem_cons.1 hu
      intro v e w hsplit hpolls
      cases v with
      | nil =>
        obtain ⟨rfl, rfl⟩ := List.cons.inj hsplit
        exact (hp.1 hpolls x hfirst).calls_eq_nil hrest hlate
      | cons e' v =>
        obtain ⟨-, hsplit⟩ := List.cons.inj hsplit
        exact ih hlate (hp.2 x) v e w hsplit hpolls
  | cons e t ih =>
    cases h with
    | answered h => exact ih (hp.2 _) h

end

/-! ## The parts of an import -/

section

variable {R : Type} [CatalogRecord R] {config : Config} {logbook : Option Logbook}

theorem asksOnly_finalize_isCalm (run : RunState R) :
    (finalize config logbook run).AsksOnly Request.IsCalm :=
  asksOnly_finalize trivial trivial trivial (fun _ => trivial) (fun _ _ => trivial) fun _ => trivial

theorem asksOnly_abort_isCalm (run : RunState R) (cause : Cause) :
    (abort config logbook run cause).AsksOnly Request.IsCalm :=
  asksOnly_abort trivial trivial (fun _ => trivial) (fun _ _ => trivial) fun _ => trivial

theorem asksOnly_countUnsubmitted_isCalm (run : RunState R) (b : Batch R) (u : Unsubmitted) :
    (countUnsubmitted run b u).AsksOnly Request.IsCalm :=
  (asksOnly_loadEntries trivial trivial b.number u.cause.message b.entries u.records).bind fun _ => trivial

theorem asksOnly_countBatch_isCalm {R : Type} (run : RunState R) (b : Batch R) (s : Submitted) :
    (countBatch logbook run b s).AsksOnly Request.IsCalm := by
  have hcommitted (c : Logbook) : (c.batchCommitted b.number b.size).AsksOnly Request.IsCalm :=
    asksOnly_batchCommitted trivial (fun _ => trivial) (fun _ _ _ _ => trivial) (fun _ => trivial) c b.number
      b.size
  refine asksOnly_ite_ask trivial ?_
  refine (asksOnly_notices trivial s.result.errorDetails).bind fun _ => ⟨trivial, fun _ => ?_⟩
  exact (asksOnly_record trivial hcommitted).bind fun _ => trivial

/-- A batch is kept whether the run has been cancelled or not. -/
theorem asksOnly_keepUnsubmitted_isCalm (kind : RecordKind) (persist : Bool) (number n : Nat) (e : StoreError)
    (records : List Stored) :
    (keepUnsubmitted kind persist number n e records).run.AsksOnly Request.IsCalm := by
  cases persist with
  | false => trivial
  | true =>
    refine ⟨trivial, fun moment => ⟨trivial, fun answer => ?_⟩⟩
    rcases answer with _ | _ | _
    · trivial
    · exact ⟨trivial, fun _ => trivial⟩
    · trivial

/-- A pause of a run that has been cancelled is cut short. -/
theorem eq_none_of_isLate {millis : Nat} {x : Option Unit} (h : IsLate ⟨.pause millis, x⟩) : x = none := by
  cases x with
  | none => rfl
  | some _ => cases h rfl

/-- Attempts call the store once more at most when the run has been cancelled, since there is a pause before the
next call. -/
theorem ceases_attemptsFrom (policy : RetryPolicy) (records : List Stored) (left attempt count : Nat) :
    Ceases (attemptsFrom policy records left attempt count) := by
  induction left generalizing attempt count with
  | zero =>
    rw [attemptsFrom_zero]
    refine ⟨fun _ answer _ => ?_, fun answer => ?_⟩
    all_goals rcases answer with _ | _ | _ <;> trivial
  | succ left ih =>
    rw [attemptsFrom_succ]
    refine ⟨fun _ answer _ => ?_, fun answer => ?_⟩
    · rcases answer with _ | e | r
      · trivial
      · refine ⟨fun _ => rfl, fun _ _ => ⟨fun _ => rfl, fun x hx => ?_⟩⟩
        obtain rfl := eq_none_of_isLate hx
        trivial
      · trivial
    · rcases answer with _ | e | r
      · trivial
      · refine ⟨nofun, fun _ => ⟨fun _ x hx => ?_, fun x => ?_⟩⟩
        · obtain rfl := eq_none_of_isLate hx
          trivial
        · cases x with
          | none => trivial
          | some _ => exact ih (attempt + 1) (count + 1)
      · trivial

theorem ceases_submit (policy : RetryPolicy) (persist : Bool) (b : Batch R) :
    Ceases (submit policy persist b).run := by
  unfold submit
  cases b.stored with
  | error reason => trivial
  | ok records =>
    have hkeep := asksOnly_keepUnsubmitted_isCalm (CatalogRecord.kind R) persist b.number
    have hattempts := ceases_attemptsFrom policy records (policy.maxAttempts - 1) 1 0
    refine hattempts.bind_calm fun x => ?_
    rcases x with _ | ⟨_ | e | e, retries⟩
    · trivial
    · trivial
    all_goals
      refine ⟨trivial, fun _ => (hkeep (retries + 1) e records).bind fun y => ?_⟩
      cases y <;> trivial

/-- A run looks before it submits a batch. -/
theorem heeds_submitBatch (run : RunState R) (b : Batch R) : Heeds (submitBatch config logbook run b) := by
  refine heeds_ask_bind trivial fun _ => heeds_isCancelled_bind trivial ?_
  refine (ceases_submit config.retryPolicy config.persistFailures b).bind_calm fun x => ?_
  rcases x with _ | u | s
  · trivial
  · exact (asksOnly_countUnsubmitted_isCalm run b u).bind fun _ => trivial
  · exact (asksOnly_countBatch_isCalm run b s).bind fun _ => trivial

theorem heeds_takeElement (run : RunState R) (position : Nat) (v : Value) :
    Heeds (takeElement config logbook run position v) := by
  refine heeds_ask_bind trivial fun _ => ?_
  cases CatalogRecord.validate (R := R) v with
  | error violation => exact Heeds.of_asksOnly ⟨trivial, fun _ => ⟨trivial, fun _ => ⟨trivial, fun _ => trivial⟩⟩⟩
  | ok r =>
    refine heeds_ask_bind trivial fun _ => ?_
    rcases run.batcher.push position r with ⟨_ | b, batcher⟩
    · exact Heeds.of_asksOnly trivial
    · exact heeds_submitBatch _ b

/-- A run looks before each element, and once more at the end. -/
theorem heeds_takeElements (skip position : Nat) (run : RunState R) (vs : List Value) :
    Heeds (takeElements config logbook skip run position vs) := by
  induction vs generalizing run position with
  | nil => exact heeds_isCancelled_bind trivial trivial
  | cons v rest ih =>
    refine heeds_isCancelled_bind trivial ?_
    change Ceases (if position < skip then _ else _ : Task (RunState R × Option Cause))
    split
    · exact (ih (position + 1) run).ceases
    · refine ((heeds_takeElement run position v).bind fun x => ?_).ceases
      rcases x with ⟨run', _ | cause⟩
      · exact ih (position + 1) run'
      · exact Heeds.of_asksOnly trivial

theorem heeds_flush (run : RunState R) : Heeds (flush config logbook run) := by
  refine heeds_ask_bind trivial fun _ => ?_
  rcases run.batcher.finish with ⟨_ | b, batcher⟩
  · exact Heeds.of_asksOnly trivial
  · exact heeds_submitBatch _ b

/-- When all elements have been taken in, the run looks once more, before its last batch. -/
theorem heeds_closing (run : RunState R) : Heeds (flush config logbook run >>= fun x => match x with
    | (run, some cause) => abort config logbook run cause
    | (run, none) => finalize config logbook run) := by
  refine (heeds_flush run).bind fun x => ?_
  rcases x with ⟨run', _ | cause⟩
  · exact Heeds.of_asksOnly (asksOnly_finalize_isCalm run')
  · exact Heeds.of_asksOnly (asksOnly_abort_isCalm run' cause)

theorem heeds_runDocument (run : RunState R) (k : Nat) (document : Reading) :
    Heeds (runDocument config logbook run k document) := by
  refine (heeds_takeElements _ 0 run document.elements).bind fun x => ?_
  rcases x with ⟨run', _ | cause⟩
  · cases document.ending with
    | error e => exact Heeds.of_asksOnly (asksOnly_abort_isCalm run' _)
    | ok summary =>
      change Heeds (if _ then _ else _ : Task Outcome)
      split
      · exact heeds_ask_bind trivial fun _ => heeds_closing run'
      · exact heeds_closing run'
  · exact Heeds.of_asksOnly (asksOnly_abort_isCalm run' cause)

theorem heeds_importRun (k : Nat) : Heeds (importRun config logbook R k) := by
  refine heeds_ask_bind trivial fun startedAt => heeds_ask_bind trivial fun _ => ?_
  have hstart (b : Logbook) : (b.runStarted k).AsksOnly Request.IsCalm :=
    asksOnly_log trivial (fun _ _ => trivial) b
  refine (Heeds.of_asksOnly (asksOnly_record trivial hstart)).bind fun _ => ?_
  refine heeds_ask_bind trivial fun answer => ?_
  cases answer with
  | error cause => exact Heeds.of_asksOnly (asksOnly_abort_isCalm _ cause)
  | ok document => exact heeds_runDocument _ k document

end

/-! ## Imports that are cancelled -/

section

variable {R : Type} [CatalogRecord R] {config : Config} {logbook : Option Logbook} {resumeFrom : Nat}
  {t : History} {outcome : Outcome}

/-- Whatever an import comes to, one entry is kept for each element received that was no record, if entries are
kept at all. -/
theorem exists_keepings (h : (importRun config logbook R resumeFrom).Yields t outcome) :
    ∃ rejected lost : List FailedEntry,
      List.Forall₂ (ValidationFailure R) (nonRecords R (receivedElements config resumeFrom t)) rejected ∧
      (∀ f ∈ lost, f.stage = .load) ∧
      keepings t = keepingsOf config (CatalogRecord.kind R) (rejected ++ lost) := by
  obtain ⟨l, hl⟩ := exists_ledger h
  refine ⟨l.rejected, l.lostEntries, hl.rejected, ?_, hl.keepings⟩
  intro f hf
  cases hlost : l.lost with
  | none =>
    rw [Ledger.lostEntries, hlost] at hf
    cases hf
  | some lost =>
    rw [Ledger.lostEntries, hlost] at hf
    obtain ⟨cause, -, -, hentries⟩ := hl.lost lost.1 lost.2 hlost
    obtain ⟨e, -, hfailure⟩ := exists_mem_of_forall₂ (P := fun f e => LoadFailure _ cause e f) hentries.flip hf
    exact hfailure.stage

/-- An import that does all it has to has committed every batch: each was handed over as a whole, and the store
took it. -/
theorem commits_of_done (h : (importRun config logbook R resumeFrom).Yields t outcome)
    (hdone : outcome.cause? = none) :
    ∃ document, documents t = [document] ∧
      List.Forall₂ (fun b offer => b.stored = .ok offer.1 ∧ offer.2 ≠ none)
        (batchesDue R (max config.batchSize 1) resumeFrom document) (offers t) ∧
      outcome.statistics.batchesProcessed =
        (batchesDue R (max config.batchSize 1) resumeFrom document).length := by
  obtain ⟨l, hl, hsorts⟩ := exists_sorted_ledger (R := R) h
  rcases hl.opened with ⟨-, hcause⟩ | ⟨document, hopened⟩
  · exact absurd hdone hcause
  have hanswered := hl.isUnanswered_eq_false (by simp [hdone])
  obtain ⟨s, moment, hstatistics, -, htally⟩ := hl.statistics
  refine ⟨document, hopened, ?_, ?_⟩
  · rw [← hl.batches_eq hsorts hopened hdone, hl.offers, Ledger.offered, hanswered,
      if_neg Bool.false_ne_true, List.append_nil, List.forall₂_map_left_iff, List.forall₂_map_right_iff,
      List.forall₂_same]
    intro c hc
    obtain ⟨i, hi⟩ := List.mem_iff_getElem?.1 hc
    exact ⟨(hl.batches i c hi).stored, Option.some_ne_none _⟩
  · rw [← hl.batches_eq hsorts hopened hdone, List.length_map, hstatistics]
    exact htally.batchesProcessed

/-- A run that has been cancelled takes in no element. -/
theorem takeElements_of_isLate {skip position : Nat} {run : RunState R} {vs : List Value}
    {x : RunState R × Option Cause} (h : (takeElements config logbook skip run position vs).Yields t x)
    (ht : ∀ e ∈ t, IsLate e) : x = (run, some .cancelled) := by
  cases vs
  all_goals
    obtain ⟨cancelled, u, rfl, h₁⟩ := yields_ask_bind_iff.1 h
    cases cancelled with
    | false => cases ht _ List.mem_cons_self rfl
    | true => exact (Program.yields_pure_iff.1 h₁).2

/-- An import of a document that opens, cancelled before it began, ends for that reason with the statistics with
which it started. -/
theorem outcome_of_cancelled_before (h : (importRun config logbook R resumeFrom).Yields t outcome)
    (ht : ∀ e ∈ t, IsLate e) (hopened : documents t ≠ []) :
    ∃ startedAt moment, outcome = .error ⟨.cancelled, (Statistics.start startedAt).finish moment⟩ := by
  obtain ⟨startedAt, t₁, rfl, h₁⟩ := yields_ask_bind_iff.1 h
  obtain ⟨_, t₂, rfl, h₂⟩ := yields_ask_bind_iff.1 h₁
  obtain ⟨_, u, v, rfl, hu, h₃⟩ := Program.yields_bind_iff.1 h₂
  obtain ⟨answer, t₃, rfl, h₄⟩ := yields_ask_bind_iff.1 h₃
  cases answer with
  | error cause =>
    rw [← documents_gist, gist_cons_of_not_matters rfl, gist_cons_of_not_matters rfl, gist_append,
      gist_record_log hu fun _ => rfl, List.nil_append, gist_cons_of_matters rfl] at hopened
    obtain ⟨-, hnone, -⟩ := keepings_of_keeps (keeps_of_abort h₄).1
    exact absurd hnone hopened
  | ok document =>
    obtain ⟨x, w, z, rfl, hw, hz⟩ := Program.yields_bind_iff.1 h₄
    obtain rfl := takeElements_of_isLate hw fun e he => ht e (by simp [he])
    obtain ⟨-, moment, houtcome⟩ := keeps_of_abort hz
    exact ⟨startedAt, moment, houtcome⟩

/-- What becomes of an import that is cancelled at any point: it has been told the history `before`, and is told
`after` from then on, in which it finds out that it has been cancelled when it looks.  It comes to an end.  No
call of the store follows the next question at which the cancellation may show, so there is one more call at
most.  The import ends as cancelled; or it never looked again, and ends for a cause that it has reached, or has
done all it had to, and then the store has taken every batch.  If rejected records are kept, there is one entry
for every element received that was no record, next to those of a batch that was lost.  If the import was
cancelled before it began, the store is not called at all, and if the document opens, the import ends as
cancelled with all counters at zero. -/
theorem cancellation_stops_submissions {σ : Type} {s : Surroundings σ} {states : σ → Prop} {w : σ}
    {before : History} {p : Task Outcome} (hbefore : (importRun config logbook R resumeFrom).Told before p)
    (hs : CancelledIn s states) (hw : states w) :
    ∃ (outcome : Outcome) (after t : History), (p.run s w).1 = .finished outcome ∧
      after = p.transcript s w ∧ t = before ++ after ∧
      (∀ u e v, after = u ++ e :: v → e.1.polls = true → calls v = []) ∧ (calls after).length ≤ 1 ∧
      (outcome.cause? = some .cancelled ∨
        (∀ e ∈ after, e.1.looks = false) ∧
          ((∃ cause, outcome.cause? = some cause ∧ cause ≠ .cancelled ∧
              Reached R config resumeFrom t cause) ∨
            outcome.cause? = none ∧ ∃ document, documents t = [document] ∧
              List.Forall₂ (fun b offer => b.stored = .ok offer.1 ∧ offer.2 ≠ none)
                (batchesDue R (max config.batchSize 1) resumeFrom document) (offers t) ∧
              outcome.statistics.batchesProcessed =
                (batchesDue R (max config.batchSize 1) resumeFrom document).length)) ∧
      (∃ rejected lost : List FailedEntry,
        List.Forall₂ (ValidationFailure R) (nonRecords R (receivedElements config resumeFrom t)) rejected ∧
        (∀ f ∈ lost, f.stage = .load) ∧
        keepings t = keepingsOf config (CatalogRecord.kind R) (rejected ++ lost)) ∧
      (before = [] → calls t = [] ∧
        (documents t ≠ [] → outcome.cause? = some .cancelled ∧
          ∀ c ∈ outcome.statistics.counts, c.2 = .nat 0)) := by
  obtain ⟨outcome, hrun, hlate⟩ := exists_finished_of_cancelledIn hs p hw
  have htold : (importRun config logbook R resumeFrom).Yields (before ++ p.transcript s w) outcome :=
    hbefore.trans (Program.run_yields hrun)
  have hceased := (heeds_importRun resumeFrom).ceases.ceased htold hlate
  refine ⟨outcome, _, _, hrun, rfl, rfl, hceased, hceased.length_calls_le, ?_, exists_keepings htold, ?_⟩
  · by_cases hcancelled : outcome.cause? = some .cancelled
    · exact .inl hcancelled
    have hnever := notCancelled_of_yields htold hcancelled
    refine .inr ⟨fun e he => ?_, ?_⟩
    · have hnot := hnever e (List.mem_append_right _ he)
      exact Bool.eq_false_iff.2 fun hlooks => by cases hnot.symm.trans (hlate e he hlooks)
    · cases hcause : outcome.cause? with
      | none => exact .inr ⟨rfl, commits_of_done htold hcause⟩
      | some cause =>
        have hother : cause ≠ .cancelled := fun heq => hcancelled (heq ▸ hcause)
        exact .inl ⟨cause, rfl, hother, reached_of_yields htold hcause hother⟩
  · rintro rfl
    refine ⟨(heeds_importRun resumeFrom).quiet.calls_eq_nil htold hlate, fun hopened => ?_⟩
    obtain ⟨startedAt, moment, rfl⟩ := outcome_of_cancelled_before htold hlate hopened
    refine ⟨rfl, ?_⟩
    simp [Statistics.counts, Outcome.statistics, Statistics.finish, Statistics.start]

end

namespace Sample

/-- The document is there, and the import has been cancelled. -/
def cancelled : Surroundings Unit
  | .openDocument, _ => (.answer (.ok document), ())
  | q, _ => (.answer (Scene.refusal q), ())

theorem cancelledIn_cancelled : CancelledIn cancelled fun _ => True := by
  rintro q ⟨⟩ -
  cases q with
  | isCancelled => exact ⟨true, (), rfl, trivial, fun _ => rfl⟩
  | pause millis => exact ⟨none, (), rfl, trivial, fun _ => rfl⟩
  | openDocument => exact ⟨.ok document, (), rfl, trivial, nofun⟩
  | _ => exact ⟨_, (), rfl, trivial, nofun⟩

/-- An import of the sample until one batch has been committed and one element has been rejected. -/
def begun : History := (history 1 0 (scene, 9)).take 22

end Sample

theorem cancellation_stops_submissions_of_sample :
    (calls Sample.begun).length = 1 ∧
      ∃ (p : Task Outcome) (outcome : Outcome), (Sample.task 1 0).Told Sample.begun p ∧
        (p.run Sample.cancelled ()).1 = .finished outcome ∧
        (calls (p.transcript Sample.cancelled ())).length ≤ 1 ∧
        ∃ rejected lost : List FailedEntry,
          keepings (Sample.begun ++ p.transcript Sample.cancelled ()) =
            keepingsOf (Sample.config 1) .sets (rejected ++ lost) := by
  refine ⟨by decide +kernel, ?_⟩
  obtain ⟨p', htold⟩ := Program.exists_told (Scene.surroundings Sample.document) (Sample.task 1 0)
    (Sample.scene, 9)
  rw [← List.take_append_drop 22 (Program.transcript _ _ _)] at htold
  obtain ⟨p, hbegun, -⟩ := htold.exists_between
  obtain ⟨outcome, _, _, hrun, rfl, rfl, -, hcalls, -, ⟨rejected, lost, -, -, hkept⟩, -⟩ :=
    cancellation_stops_submissions hbegun Sample.cancelledIn_cancelled trivial
  exact ⟨p, outcome, hbegun, hrun, hcalls, rejected, lost, hkept⟩

end CatalogImport
