import CatalogImport.Proofs.Import.Checkpoint
import CatalogImport.Proofs.Import.Prefix
import CatalogImport.Proofs.Import.Questions
import CatalogImport.Proofs.Journal.Log
import Mathlib.Algebra.GroupWithZero.Nat

/-!
# What an import logs

An import under the id of a run logs its start and its end, and in between the batches that it commits.
Start and end are logged in one place each, and all that is asked in between logs nothing else
(`exists_logsEnd`).  Main statement: the events of an import, from its start to its one end
(`events_of_import`).
-/

namespace CatalogImport

open CatalogImport.Json

/-! ## Between start and end -/

/-- The question is not about logging the start or the end of a run. -/
def Request.IsMidway : Request → Prop
  | .append e => e.happening.isCommit = true
  | _ => True

variable {R : Type} [CatalogRecord R] {config : Config} {logbook : Option Logbook}

/-- What comes up while a batch is submitted is not about start and end. -/
theorem Request.IsOfBatch.isMidway {q : Request} (h : q.IsOfBatch) : q.IsMidway := by
  cases q with
  | append e => exact h
  | _ => trivial

theorem asksOnly_submitBatch (run : RunState R) (b : Batch R) :
    (submitBatch config logbook run b).AsksOnly Request.IsMidway := by
  obtain ⟨p, hp, hsubmit⟩ := exists_batchPart config logbook run b
  rw [hsubmit]
  exact ⟨trivial, fun _ => hp.mono fun _ => Request.IsOfBatch.isMidway⟩

theorem asksOnly_takeElement (run : RunState R) (position : Nat) (v : Value) :
    (takeElement config logbook run position v).AsksOnly Request.IsMidway := by
  refine ⟨trivial, fun _ => ?_⟩
  cases CatalogRecord.validate (R := R) v with
  | ok r =>
    refine ⟨trivial, fun _ => ?_⟩
    rcases run.batcher.push position r with ⟨_ | b, batcher⟩
    · trivial
    · exact asksOnly_submitBatch _ b
  | error violation => exact ⟨trivial, fun _ => ⟨trivial, fun _ => ⟨trivial, fun _ => trivial⟩⟩⟩

theorem asksOnly_takeElements (skip position : Nat) (run : RunState R) (vs : List Value) :
    (takeElements config logbook skip run position vs).AsksOnly Request.IsMidway := by
  induction vs generalizing run position with
  | nil =>
    refine ⟨trivial, fun cancelled => ?_⟩
    cases cancelled <;> trivial
  | cons v rest ih =>
    refine ⟨trivial, fun cancelled => ?_⟩
    cases cancelled with
    | true => trivial
    | false =>
      change (if position < skip then _ else _ : Task (RunState R × Option Cause)).AsksOnly _
      split
      · exact ih (position + 1) run
      · refine (asksOnly_takeElement run position v).bind fun x => ?_
        rcases x with ⟨run', _ | cause⟩
        · exact ih (position + 1) run'
        · trivial

theorem asksOnly_flush (run : RunState R) : (flush config logbook run).AsksOnly Request.IsMidway := by
  refine ⟨trivial, fun _ => ?_⟩
  rcases run.batcher.finish with ⟨_ | b, batcher⟩
  · trivial
  · exact asksOnly_submitBatch _ b

/-! ## Events that the journal took -/

/-- An event that the journal took. -/
def logged? : Exchange → Option Event
  | ⟨.append e, .ok _⟩ => some e
  | _ => none

/-- The events that the journal took, in order. -/
def loggedEvents (t : History) : List Event := t.filterMap logged?

@[simp] theorem loggedEvents_nil : loggedEvents [] = [] := rfl

@[simp] theorem loggedEvents_append (t u : History) :
    loggedEvents (t ++ u) = loggedEvents t ++ loggedEvents u := List.filterMap_append

theorem loggedEvents_cons_of_none {e : Exchange} (h : logged? e = none) (t : History) :
    loggedEvents (e :: t) = loggedEvents t := List.filterMap_cons_none h

/-- As long as no start and no end of a run is logged, what is logged are committed batches. -/
theorem loggedEvents_recordings {t : History} (h : ∀ e ∈ t, e.1.IsMidway) :
    loggedEvents (recordings t) = loggedEvents t := by
  induction t with
  | nil => rfl
  | cons e t ih =>
    have hrest := ih fun e' he' => h e' (List.mem_cons_of_mem e he')
    unfold loggedEvents recordings at hrest ⊢
    cases he : isRecording e with
    | true => rw [List.filter_cons_of_pos he, List.filterMap_cons, List.filterMap_cons, hrest]
    | false =>
      have hnone : logged? e = none := by
        have hmidway := h e List.mem_cons_self
        obtain ⟨q, x⟩ := e
        cases q with
        | append event =>
          obtain ⟨runId, happening, moment⟩ := event
          cases happening with
          | committed number records => cases he
          | _ => cases hmidway
        | _ => rfl
      rw [List.filter_cons_of_neg (by simp [he]), List.filterMap_cons_none hnone, hrest]

/-- An event without its time: of which run it is, and what happened. -/
def Event.timeless (e : Event) : String × Happening := (e.runId, e.happening)

/-! ## The end of an import -/

/-- What an import that came to an end is logged to have come to. -/
def Outcome.closing : Outcome → Happening
  | .ok s => .completed s.totalRecords
  | .error a => .aborted a.cause.message

section
variable {b : Logbook} {t : History} {outcome : Outcome}

theorem logged_of_record {n : Notice} {x : Happening} {y : Unit}
    (h : (record (some b) n fun b => b.log x).Yields t y) (hanswers : JournalAnswers t) :
    (loggedEvents t).map Event.timeless = [(b.runId, x)] := by
  obtain ⟨r, u, v, rfl, hu, hv⟩ := Program.yields_bind_iff.1 h
  obtain ⟨moment, answer, rfl, rfl⟩ := log_yields hu
  cases answer with
  | error e => cases hanswers _ (List.mem_append_left _ (List.mem_cons_of_mem _ List.mem_cons_self))
  | ok _ =>
    obtain ⟨rfl, -⟩ := Program.yields_pure_iff.1 hv
    rfl

theorem loggedEvents_keepFailed {kind : RecordKind} {failed : List FailedEntry} {x : Unit}
    (h : (keepFailed config kind failed).Yields t x) : loggedEvents t = [] := by
  unfold keepFailed at h
  split at h
  · obtain ⟨rfl, -⟩ := Program.yields_pure_iff.1 h
    rfl
  · obtain ⟨answer, u, rfl, h₁⟩ := yields_ask_bind_iff.1 h
    cases answer with
    | ok _ =>
      obtain ⟨rfl, -⟩ := Program.yields_pure_iff.1 h₁
      rfl
    | error _ =>
      obtain rfl := yields_ask_iff.1 h₁
      rfl

/-- What the end of an import asks: nothing about batches, and at last to log what the import has come to. -/
structure LogsEnd (b : Logbook) (outcome : Outcome) (t : History) : Prop where
  quiet : recordings t = []
  logged : JournalAnswers t → (loggedEvents t).map Event.timeless = [(b.runId, outcome.closing)]

theorem logsEnd_of_finalize {run : RunState R} (h : (finalize config (some b) run).Yields t outcome) :
    LogsEnd b outcome t := by
  constructor
  · rw [← recordings_gist]
    exact (keepings_of_keeps (keeps_of_finalize h).1).2.2.2.2.1
  · intro hanswers
    obtain ⟨_, t₁, rfl, h₁⟩ := yields_ask_bind_iff.1 h
    obtain ⟨_, u, v, rfl, hu, h₂⟩ := Program.yields_bind_iff.1 h₁
    obtain ⟨moment, t₂, rfl, h₃⟩ := yields_ask_bind_iff.1 h₂
    obtain ⟨_, w, z, rfl, hw, h₄⟩ := Program.yields_bind_iff.1 h₃
    obtain ⟨_, t₃, rfl, h₅⟩ := yields_ask_bind_iff.1 h₄
    obtain ⟨rfl, rfl⟩ := Program.yields_pure_iff.1 h₅
    have hlogged := logged_of_record hw fun e he => hanswers e (by simp [he])
    rw [loggedEvents_cons_of_none rfl, loggedEvents_append, loggedEvents_keepFailed hu, List.nil_append,
      loggedEvents_cons_of_none rfl, loggedEvents_append, loggedEvents_cons_of_none rfl, loggedEvents_nil,
      List.append_nil]
    exact hlogged

theorem logsEnd_of_abort {run : RunState R} {cause : Cause}
    (h : (abort config (some b) run cause).Yields t outcome) : LogsEnd b outcome t := by
  constructor
  · rw [← recordings_gist]
    exact (keepings_of_keeps (keeps_of_abort h).1).2.2.2.2.1
  · intro hanswers
    obtain ⟨_, t₁, rfl, h₁⟩ := yields_ask_bind_iff.1 h
    obtain ⟨_, u, v, rfl, hu, h₂⟩ := Program.yields_bind_iff.1 h₁
    obtain ⟨moment, t₂, rfl, h₃⟩ := yields_ask_bind_iff.1 h₂
    obtain ⟨_, t₃, rfl, h₄⟩ := yields_ask_bind_iff.1 h₃
    obtain ⟨_, w, z, rfl, hw, h₅⟩ := Program.yields_bind_iff.1 h₄
    obtain ⟨rfl, rfl⟩ := Program.yields_pure_iff.1 h₅
    have hlogged := logged_of_record hw fun e he => hanswers e (by simp [he])
    rw [loggedEvents_cons_of_none rfl, loggedEvents_append, loggedEvents_keepFailed hu, List.nil_append,
      loggedEvents_cons_of_none rfl, loggedEvents_cons_of_none rfl, List.append_nil]
    exact hlogged

theorem exists_logsEnd_of_flush {run : RunState R}
    (h : (flush config (some b) run >>= fun x => match x with
      | (run, some cause) => abort config (some b) run cause
      | (run, none) => finalize config (some b) run).Yields t outcome) :
    ∃ u v, t = u ++ v ∧ (∀ e ∈ u, e.1.IsMidway) ∧ LogsEnd b outcome v := by
  obtain ⟨⟨run', cause?⟩, u, v, rfl, hu, hv⟩ := Program.yields_bind_iff.1 h
  refine ⟨u, v, rfl, (asksOnly_flush run).of_mem hu, ?_⟩
  cases cause? with
  | some cause => exact logsEnd_of_abort hv
  | none => exact logsEnd_of_finalize hv

/-- As long as a run over an opened document goes on, nothing but committed batches is logged, and then its
end is. -/
theorem exists_logsEnd {run : RunState R} {k : Nat} {document : Reading}
    (h : (runDocument config (some b) run k document).Yields t outcome) :
    ∃ u v, t = u ++ v ∧ (∀ e ∈ u, e.1.IsMidway) ∧ LogsEnd b outcome v := by
  obtain ⟨⟨run₁, cause?⟩, u, v, rfl, hu, hv⟩ := Program.yields_bind_iff.1 h
  have htaken := (asksOnly_takeElements _ _ _ _).of_mem hu
  cases cause? with
  | some cause => exact ⟨u, v, rfl, htaken, logsEnd_of_abort hv⟩
  | none =>
    cases hending : document.ending with
    | error e =>
      rw [hending] at hv
      exact ⟨u, v, rfl, htaken, logsEnd_of_abort hv⟩
    | ok summary =>
      rw [hending] at hv
      change (if _ then _ else _ : Task Outcome).Yields v outcome at hv
      split at hv
      · obtain ⟨x, v₁, rfl, hv₁⟩ := yields_ask_bind_iff.1 hv
        obtain ⟨w, z, rfl, hw, hend⟩ := exists_logsEnd_of_flush hv₁
        refine ⟨u ++ ⟨_, x⟩ :: w, z, by simp, ?_, hend⟩
        exact List.forall_mem_append.2 ⟨htaken, List.forall_mem_cons.2 ⟨trivial, hw⟩⟩
      · obtain ⟨w, z, rfl, hw, hend⟩ := exists_logsEnd_of_flush hv
        exact ⟨u ++ w, z, (List.append_assoc ..).symm, List.forall_mem_append.2 ⟨htaken, hw⟩, hend⟩

/-! ## Imports -/

/-- An import for which the journal did all that it was asked to do logs its start, the batches that it
records, and at last its end. -/
theorem logged_of_yields {k : Nat} (h : (importRun config (some b) R k).Yields t outcome)
    (hanswers : JournalAnswers t) :
    (loggedEvents t).map Event.timeless = (b.runId, .started b.kind.key b.source k) ::
      (loggedEvents (recordings t)).map Event.timeless ++ [(b.runId, outcome.closing)] := by
  obtain ⟨startedAt, t₁, rfl, h₁⟩ := yields_ask_bind_iff.1 h
  obtain ⟨_, t₂, rfl, h₂⟩ := yields_ask_bind_iff.1 h₁
  obtain ⟨_, u, v, rfl, hu, h₃⟩ := Program.yields_bind_iff.1 h₂
  obtain ⟨answer, t₃, rfl, h₄⟩ := yields_ask_bind_iff.1 h₃
  have hstart := logged_of_record hu fun e he => hanswers e (by simp [he])
  have hquiet : recordings u = [] := by
    rw [← recordings_gist, gist_record_log hu fun _ => rfl]
    rfl
  obtain ⟨w, z, rfl, hw, hend⟩ :
      ∃ w z, t₃ = w ++ z ∧ (∀ e ∈ w, e.1.IsMidway) ∧ LogsEnd b outcome z := by
    cases answer with
    | error cause => exact ⟨[], t₃, rfl, fun e he => absurd he List.not_mem_nil, logsEnd_of_abort h₄⟩
    | ok document => exact exists_logsEnd h₄
  have hclosing := hend.logged fun e he => hanswers e (by simp [he])
  have hmidway : recordings (⟨.now, startedAt⟩ :: ⟨.enter .notStarted, ()⟩ ::
      (u ++ ⟨.openDocument, answer⟩ :: (w ++ z))) = recordings w := by
    change recordings (u ++ ([⟨.openDocument, answer⟩] ++ (w ++ z))) = _
    rw [recordings_append, recordings_append, recordings_append, hquiet, hend.quiet, List.append_nil]
    rfl
  have hlogged : loggedEvents (⟨.now, startedAt⟩ :: ⟨.enter .notStarted, ()⟩ ::
      (u ++ ⟨.openDocument, answer⟩ :: (w ++ z))) = loggedEvents u ++ loggedEvents w ++ loggedEvents z := by
    rw [loggedEvents_cons_of_none rfl, loggedEvents_cons_of_none rfl, loggedEvents_append,
      loggedEvents_cons_of_none rfl, loggedEvents_append, List.append_assoc]
  rw [hmidway, loggedEvents_recordings hw, hlogged, List.map_append, List.map_append, hstart, hclosing]
  rfl

/-- What is logged when batches are recorded one after the other. -/
theorem Chronicle.logged {R : Type} {bs : List (Batch R)} {g : History} (h : Chronicle (some b) bs g)
    (hanswers : JournalAnswers g) :
    (loggedEvents g).map Event.timeless = bs.map fun x => (b.runId, .committed x.number x.size) := by
  induction h with
  | nil => rfl
  | @concat bs x g entry hbefore hentry ih =>
    have hone : (loggedEvents entry).map Event.timeless = [(b.runId, .committed x.number x.size)] := by
      have hanswers := hanswers.right
      cases hentry with
      | unread b number records e => cases hanswers _ List.mem_cons_self
      | unlogged b number records c moment e =>
        cases hanswers _ (List.mem_cons_of_mem _ List.mem_cons_self)
      | logged b number records c moment later answer => rfl
    rw [loggedEvents_append, List.map_append, ih hanswers.left, hone, List.map_append]
    rfl

/-- What the journal took comes behind what was logged in it before. -/
theorem Journal.After.logged {j j' : Journal} {es : List Event} (h : After j t j') (hes : Logged es j) :
    Logged (es ++ loggedEvents t) j' := by
  induction h generalizing es with
  | nil j =>
    rw [loggedEvents_nil, List.append_nil]
    exact hes
  | @cons j j₁ j' e t hfirst hrest ih =>
    have hsame (hnone : logged? e = none) (hj : j₁ = j) : Logged (es ++ loggedEvents (e :: t)) j' := by
      rw [loggedEvents_cons_of_none hnone]
      exact ih (hj ▸ hes)
    obtain ⟨q, x⟩ := e
    cases q with
    | append event =>
      cases x with
      | error reason => exact hsame rfl hfirst
      | ok _ =>
        obtain rfl : j₁ = j.append event := hfirst
        have hnext := ih (hes.append event)
        rwa [List.append_assoc] at hnext
    | loadCheckpoint runId =>
      cases x with
      | error reason => exact hsame rfl hfirst
      | ok c => exact hsame rfl hfirst.2
    | saveCheckpoint c =>
      cases x with
      | error reason => exact hsame rfl hfirst
      | ok _ =>
        rw [loggedEvents_cons_of_none rfl]
        exact ih (hes.saved hfirst)
    | _ => exact hsame rfl hfirst

/-- An import that did all it had to has counted its records in batches. -/
theorem Ledger.Settles.totalRecords_eq {k : Nat} {s : Statistics} {l : Ledger R}
    (h : l.Settles config k t (.ok s)) : s.totalRecords = (l.counted.map (·.batch.size)).sum := by
  obtain ⟨s', moment, hstatistics, -, htally⟩ := h.statistics
  have htotal : (Outcome.statistics (.ok s)).totalRecords = s'.totalRecords := by
    rw [hstatistics]
    rfl
  have hlost : l.lostRecords = [] := h.lost_eq_none fun cause hcause => by cases hcause
  have hheld : l.held = [] := h.heldAt
  rw [htally.totalRecords, hlost, hheld, recordsIn, List.length_flatMap] at htotal
  exact htotal

/-- An import under the id of a run for which the journal did all that it was asked to do logs its start with
the batch from which it began, the batches that it counted with their numbers, which go up from there, and
their sizes, and last its end.  The run is logged to be completed exactly if the import did all it had to,
and then with as many records as its batches have, and to be aborted exactly if it ended early, and then
with the words for the cause.  In whatever journal, these are the events that come behind those of the run
before. -/
theorem events_of_import {k : Nat} (h : (importRun config (some b) R k).Yields t outcome)
    (hanswers : JournalAnswers t) :
    ∃ l : Ledger R, l.Settles config k t outcome ∧
      l.counted.length = outcome.statistics.batchesProcessed ∧
      (∀ (j : Nat) (c : Counted R), l.counted[j]? = some c → c.batch.number = k + j) ∧
      (loggedEvents t).map Event.timeless = (b.runId, .started b.kind.key b.source k) ::
        l.counted.map (fun c => (b.runId, .committed c.batch.number c.batch.size)) ++
          [(b.runId, outcome.closing)] ∧
      (∀ n, .completed n ∈ (loggedEvents t).map (·.happening) ↔
        (∃ s, outcome = .ok s) ∧ n = (l.counted.map (·.batch.size)).sum) ∧
      (∀ text, .aborted text ∈ (loggedEvents t).map (·.happening) ↔
        ∃ a, outcome = .error a ∧ text = a.cause.message) ∧
      ∀ es j j', Journal.After j t j' → Journal.Logged es j →
        Journal.Logged (es ++ loggedEvents t) j' ∧
          (j'.next ≤ 2 ^ 64 → ∃ evs, j'.events b.runId = .ok evs ∧
            Journal.ownEvents b.runId evs = Journal.ownEvents b.runId es ++ loggedEvents t) := by
  obtain ⟨l, hsettles, hsorts⟩ := exists_sorted_ledger (R := R) h
  have hlogged := logged_of_yields h hanswers
  rw [hsorts.chronicle.logged hanswers.recordings, List.map_map] at hlogged
  have hhappenings : (loggedEvents t).map (·.happening) = .started b.kind.key b.source k ::
      l.counted.map (fun c => .committed c.batch.number c.batch.size) ++ [outcome.closing] := by
    have hsecond := congrArg (List.map Prod.snd) hlogged
    simpa [Event.timeless, Function.comp_def] using hsecond
  have hown : ∀ e ∈ loggedEvents t, e.runId = b.runId := by
    intro e he
    have hmem := List.mem_map_of_mem (f := Event.timeless) he
    rw [hlogged] at hmem
    simp only [List.mem_append, List.mem_cons, List.mem_map, List.not_mem_nil, or_false] at hmem
    rcases hmem with (hfirst | ⟨c, -, hcommit⟩) | hlast
    · exact congrArg Prod.fst hfirst
    · exact (congrArg Prod.fst hcommit).symm
    · exact congrArg Prod.fst hlast
  refine ⟨l, hsettles, hsettles.batchesProcessed_eq.symm, fun j c hc => (hsettles.batches j c hc).number,
    hlogged, fun n => ?_, fun text => ?_, fun es j j' hafter hes => ?_⟩
  · rw [hhappenings]
    cases outcome with
    | ok s => simp [Outcome.closing, hsettles.totalRecords_eq]
    | error a => simp [Outcome.closing]
  · rw [hhappenings]
    cases outcome with
    | ok s => simp [Outcome.closing]
    | error a => simp [Outcome.closing]
  · have hes' := hafter.logged hes
    refine ⟨hes', fun hnext => ⟨_, hes'.keyed.events_eq b.runId, ?_⟩⟩
    rw [Journal.ownEvents_filter_shows, (hes'.allEvents_perm hnext).2, Journal.ownEvents, List.filter_append,
      ← Journal.ownEvents, List.filter_eq_self.2 fun e he => decide_eq_true (hown e he)]

theorem events_of_refused_import :
    ∃ l : Ledger CardSet, l.counted.length = 1 ∧
      (loggedEvents (Sample.history 1 0 (Sample.scene, 1))).map Event.timeless =
        ("sets", .started "sets" "sets.json" 0) ::
          l.counted.map (fun c => ("sets", .committed c.batch.number c.batch.size)) ++
            [("sets", .aborted Sample.refused.cause.message)] ∧
      ∃ evs, Sample.interrupted.journal.events "sets" = .ok evs ∧
        Journal.ownEvents "sets" evs = loggedEvents (Sample.history 1 0 (Sample.scene, 1)) := by
  have hanswers : JournalAnswers (Sample.history 1 0 (Sample.scene, 1)) := by decide +kernel
  obtain ⟨l, -, hcounted, -, hlogged, -, -, hafter⟩ :=
    events_of_import (Sample.yields_of_run Sample.run_refused) hanswers
  obtain ⟨-, hjournal⟩ := hafter [] _ _ (Scene.after_of_run Sample.run_refused).journal .empty
  exact ⟨l, hcounted, hlogged, hjournal (by decide +kernel)⟩

end

end CatalogImport
