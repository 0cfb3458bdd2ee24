import CatalogImport.Proofs.Import.EventLog
import CatalogImport.Proofs.Import.ResumePoint
import CatalogImport.Proofs.Journal.Progress

/-!
# How a run is said to stand

Imports come to their ends under the id of a run, one after the other, and how the run stands is read off
its log and its checkpoint.  Reading a log event by event says little by itself, as an error stays until the
next start; what it says about a run rests on what imports can have logged, when they have come to their
ends (`loggedRun_of_yields`) and before (`UnderWay.happenings_eq`).  Main statement: at every point the log
says how the latest import stands, and nothing of those before (`latest_import_stands`).
-/

namespace CatalogImport

open CatalogImport.Calendar

/-! ## What one import logs -/

/-- How a run stands of which an import has come to an end. -/
def Outcome.standing : Outcome → Standing
  | .ok _ => (.done, none)
  | .error a => (.failed, some a.cause.message)

theorem turn_closing (outcome : Outcome) : outcome.closing.turn (.running, none) = outcome.standing := by
  cases outcome <;> rfl

/-- Events that one import has logged under an id from its start to its end. -/
structure LoggedRun (runId : String) (outcome : Outcome) (es : List Event) : Prop where
  own : ∀ e ∈ es, e.runId = runId
  happenings : ∃ (kind source : String) (resumeFrom : Nat) (hs : List Happening),
    es.map (·.happening) = .started kind source resumeFrom :: hs ++ [outcome.closing] ∧
      ∀ x ∈ hs, ∃ number records, x = .committed number records

/-- However the run stood before, it stands as the import came out. -/
theorem LoggedRun.turn {runId : String} {outcome : Outcome} {es : List Event}
    (h : LoggedRun runId outcome es) (before : Standing) :
    (es.map (·.happening)).foldl Happening.turn before = outcome.standing := by
  obtain ⟨kind, source, resumeFrom, hs, hes, hcommits⟩ := h.happenings
  rw [hes, foldl_turn_closed hcommits, turn_closing]

theorem LoggedRun.ne_nil {runId : String} {outcome : Outcome} {es : List Event}
    (h : LoggedRun runId outcome es) : es ≠ [] := by
  rintro rfl
  obtain ⟨kind, source, resumeFrom, hs, hes, -⟩ := h.happenings
  cases hes

/-- The event closes the log of an import. -/
def Happening.isClosing : Happening → Bool
  | .completed _ => true
  | .aborted _ => true
  | _ => false

theorem isClosing_closing (outcome : Outcome) : outcome.closing.isClosing = true := by
  cases outcome <;> rfl

/-- An import is under way: its start has been logged, and its end has not. -/
structure UnderWay (t : History) : Prop where
  started : ∃ e ∈ loggedEvents t, ∃ kind source resumeFrom, e.happening = .started kind source resumeFrom
  unclosed : ∀ e ∈ loggedEvents t, e.happening.isClosing = false

section

variable {R : Type} [CatalogRecord R] {config : Config} {b : Logbook} {k : Nat} {t : History}

/-- An import that has come to its end has logged all from its start to its end. -/
theorem loggedRun_of_yields {outcome : Outcome} (h : (importRun config (some b) R k).Yields t outcome)
    (hanswers : JournalAnswers t) : LoggedRun b.runId outcome (loggedEvents t) := by
  obtain ⟨l, -, hsorts⟩ := exists_sorted_ledger (R := R) h
  have hlogged := logged_of_yields h hanswers
  rw [hsorts.chronicle.logged hanswers.recordings] at hlogged
  constructor
  · intro e he
    have hmem := List.mem_map_of_mem (f := Event.timeless) he
    rw [hlogged] at hmem
    simp only [List.mem_append, List.mem_cons, List.mem_map, List.not_mem_nil, or_false] at hmem
    rcases hmem with (hfirst | ⟨x, -, hcommit⟩) | hlast
    · exact congrArg Prod.fst hfirst
    · exact (congrArg Prod.fst hcommit).symm
    · exact congrArg Prod.fst hlast
  · refine ⟨b.kind.key, b.source, k, (l.counted.map (·.batch)).map fun x => .committed x.number x.size, ?_, ?_⟩
    · have hsecond := congrArg (List.map Prod.snd) hlogged
      simpa [Event.timeless, Function.comp_def] using hsecond
    · intro x hx
      obtain ⟨batch, -, rfl⟩ := List.mem_map.1 hx
      exact ⟨_, _, rfl⟩

/-! ## What an import has logged before its end -/

/-- Answers by which a journal does all that it is asked to do, while nothing else is done any more. -/
def dismissal : (q : Request) → q.Answer
  | .append _ => .ok ()
  | .loadCheckpoint _ => .ok none
  | .saveCheckpoint _ => .ok ()
  | q => Scene.refusal q

theorem isJournalFailure_dismissal (q : Request) : isJournalFailure ⟨q, dismissal q⟩ = false := by
  cases q <;> rfl

/-- Wherever an import is, it can still come to an end, and what it has logged by then goes on what it has
logged so far. -/
theorem exists_loggedRun_of_told {p : Task Outcome} (h : (importRun config (some b) R k).Told t p)
    (hanswers : JournalAnswers t) :
    ∃ outcome es, LoggedRun b.runId outcome (loggedEvents t ++ es) := by
  obtain ⟨u, outcome, hu, hdismissed⟩ := Program.exists_yields dismissal p
  refine ⟨outcome, loggedEvents u, ?_⟩
  rw [← loggedEvents_append]
  refine loggedRun_of_yields (h.trans hu) fun e he => ?_
  rcases List.mem_append.1 he with he | he
  · exact hanswers e he
  · rw [hdismissed e he]
    exact isJournalFailure_dismissal e.1

/-- What an import that is under way has logged is its start and committed batches. -/
theorem UnderWay.happenings_eq {runId : String} {outcome : Outcome} {es : List Event} (hway : UnderWay t)
    (h : LoggedRun runId outcome (loggedEvents t ++ es)) :
    ∃ (kind source : String) (resumeFrom : Nat) (hs : List Happening),
      (loggedEvents t).map (·.happening) = .started kind source resumeFrom :: hs ∧
        ∀ x ∈ hs, ∃ number records, x = .committed number records := by
  obtain ⟨kind, source, resumeFrom, hs, hes, hcommits⟩ := h.happenings
  rw [List.map_append] at hes
  rcases List.prefix_concat_iff.1 ⟨_, hes⟩ with hall | hbefore
  · have hclosing : outcome.closing ∈ (loggedEvents t).map (·.happening) :=
      hall ▸ List.mem_append_right _ (List.mem_singleton.2 rfl)
    obtain ⟨e, he, hlast⟩ := List.mem_map.1 hclosing
    exact absurd (hway.unclosed e he) (by rw [hlast, isClosing_closing]; decide)
  · rcases List.prefix_cons_iff.1 hbefore with hnil | ⟨hs', heq, hfirst⟩
    · obtain ⟨e, he, -⟩ := hway.started
      exact absurd (List.map_eq_nil_iff.1 hnil) (List.ne_nil_of_mem he)
    · exact ⟨kind, source, resumeFrom, hs', heq, fun x hx => hcommits x (hfirst.subset hx)⟩

end

/-! ## Imports one after the other -/

/-- Imports came to their ends under the id of a run, one after the other: from any batch on, of whatever
document and in whatever way, while the journal did all that it was asked to do.  In between the journal may
have been closed and opened again, and anything may have happened that the log of the run does not show. -/
inductive Ended (runId : String) : Journal → List Outcome → Journal → Prop
  | nil (j : Journal) : Ended runId j [] j
  | reopened {j j' : Journal} {outcomes : List Outcome} (hrest : Ended runId j.reopen outcomes j') :
      Ended runId j outcomes j'
  | meanwhile {j j₁ j' : Journal} {t : History} {outcomes : List Outcome} (hafter : Journal.After j t j₁)
      (hothers : ∀ e ∈ loggedEvents t, ¬ Journal.Shows runId e.runId)
      (hrest : Ended runId j₁ outcomes j') : Ended runId j outcomes j'
  | cons {R : Type} [CatalogRecord R] {j j₁ j' : Journal} {b : Logbook} {config : Config} {k : Nat}
      {t : History} {outcome : Outcome} {outcomes : List Outcome} (hrun : b.runId = runId)
      (h : (importRun config (some b) R k).Yields t outcome) (hafter : Journal.After j t j₁)
      (hanswers : JournalAnswers t) (hrest : Ended runId j₁ outcomes j') :
      Ended runId j (outcome :: outcomes) j'

namespace Journal

theorem ownEvents_append (runId : String) (es fs : List Event) :
    ownEvents runId (es ++ fs) = ownEvents runId es ++ ownEvents runId fs := List.filter_append ..

theorem ownEvents_eq_self {runId : String} {es : List Event} (h : ∀ e ∈ es, e.runId = runId) :
    ownEvents runId es = es := List.filter_eq_self.2 fun e he => decide_eq_true (h e he)

theorem ownEvents_eq_nil {runId : String} {es : List Event} (h : ∀ e ∈ es, ¬ Shows runId e.runId) :
    ownEvents runId es = [] :=
  List.filter_eq_nil_iff.2 fun e he hown => h e he (shows_of_eq (of_decide_eq_true hown))

end Journal

open Journal in
/-- What imports that came to their ends one after the other have logged. -/
theorem Ended.logged {runId : String} {j j' : Journal} {outcomes : List Outcome} {es : List Event}
    (h : Ended runId j outcomes j') (hes : Logged es j)
    (hown : ∀ e ∈ es, Shows runId e.runId → e.runId = runId) :
    ∃ fs runs, Logged fs j' ∧ (∀ e ∈ fs, Shows runId e.runId → e.runId = runId) ∧
      ownEvents runId fs = ownEvents runId es ++ runs.flatten ∧
      List.Forall₂ (LoggedRun runId) outcomes runs := by
  induction h generalizing es with
  | nil j => exact ⟨es, [], hes, hown, (List.append_nil _).symm, .nil⟩
  | reopened _ ih => exact ih hes.reopen hown
  | @meanwhile j j₁ j' t outcomes hafter hothers _ ih =>
    have hown' : ∀ e ∈ es ++ loggedEvents t, Shows runId e.runId → e.runId = runId :=
      List.forall_mem_append.2 ⟨hown, fun e he hshows => absurd hshows (hothers e he)⟩
    obtain ⟨fs, runs, hfs, hownfs, heq, hruns⟩ := ih (hafter.logged hes) hown'
    refine ⟨fs, runs, hfs, hownfs, ?_, hruns⟩
    rw [heq, ownEvents_append, ownEvents_eq_nil hothers, List.append_nil]
  | @cons R _ j j₁ j' b config k t outcome outcomes hrun h hafter hanswers _ ih =>
    subst hrun
    have hrun := loggedRun_of_yields h hanswers
    have hown' : ∀ e ∈ es ++ loggedEvents t, Shows b.runId e.runId → e.runId = b.runId :=
      List.forall_mem_append.2 ⟨hown, fun e he _ => hrun.own e he⟩
    obtain ⟨fs, runs, hfs, hownfs, heq, hruns⟩ := ih (hafter.logged hes) hown'
    refine ⟨fs, loggedEvents t :: runs, hfs, hownfs, ?_, .cons hrun hruns⟩
    rw [heq, ownEvents_append, ownEvents_eq_self hrun.own, List.append_assoc, List.flatten_cons]

/-- After runs of which each has been logged to its end, it stands as the last of them says. -/
theorem foldl_turn_runs {runId : String} {outcomes : List Outcome} {runs : List (List Event)}
    (h : List.Forall₂ (LoggedRun runId) outcomes runs) {last : Outcome}
    (hlast : outcomes.getLast? = some last) (before : Standing) :
    (runs.flatten.map (·.happening)).foldl Happening.turn before = last.standing := by
  induction h generalizing before with
  | nil => cases hlast
  | @cons outcome es outcomes runs hrun hruns ih =>
    rw [List.flatten_cons, List.map_append, List.foldl_append, hrun.turn]
    cases hruns with
    | nil =>
      obtain rfl : outcome = last := Option.some.inj hlast
      rfl
    | cons hrun' hruns =>
      rw [List.getLast?_cons_cons] at hlast
      exact ih hlast _

theorem flatten_eq_nil_iff {runId : String} {outcomes : List Outcome} {runs : List (List Event)}
    (h : List.Forall₂ (LoggedRun runId) outcomes runs) : runs.flatten = [] ↔ outcomes = [] := by
  cases h with
  | nil => exact ⟨fun _ => rfl, fun _ => rfl⟩
  | cons hrun hruns =>
    constructor
    · intro hnil
      exact absurd (List.append_eq_nil_iff.1 hnil).1 hrun.ne_nil
    · intro hnil
      cases hnil

/-- After imports that came to their ends under the id of a run, another one is begun under it, and has come
to some point of its course; the journal has done all that it was asked to do, and the log of the run shows
only the run's own events.  Then there is an answer to how the run stands.  As long as the import has logged
nothing, the run stands as the one before came out: done without an error, or failed with the words for the
cause.  From its start until its end is logged, the run is running without an error.  When it has come to its
end, the run stands as it came out.  The run is idle only as long as nothing has ever been logged for it, and
at all times the batch from which it would be taken up is the one that is given as the point to resume from, in
whatever surroundings the checkpoint is loaded from this journal. -/
theorem latest_import_stands {R : Type} [CatalogRecord R] {config : Config} {b : Logbook} {k : Nat}
    {j j₁ j' : Journal} {es : List Event} {outcomes : List Outcome} {t : History} {p : Task Outcome}
    (hes : Journal.Logged es j) (hown : ∀ e ∈ es, Journal.Shows b.runId e.runId → e.runId = b.runId)
    (hended : Ended b.runId j outcomes j₁) (htold : (importRun config (some b) R k).Told t p)
    (hafter : Journal.After j₁ t j') (hanswers : JournalAnswers t) (hnext : j'.next ≤ 2 ^ 64) :
    ∃ q, j'.progress b.runId = .ok q ∧
      (loggedEvents t = [] → ∀ last, outcomes.getLast? = some last → q.standing = last.standing) ∧
      (UnderWay t → q.standing = (.running, none)) ∧
      (∀ outcome, p = .done outcome → q.standing = outcome.standing) ∧
      (q.stage = .idle ↔
        Journal.ownEvents b.runId es = [] ∧ outcomes = [] ∧ loggedEvents t = []) ∧
      ∀ {σ : Type} (g : Surroundings σ) (w : σ),
        g (.loadCheckpoint b.runId) w = (.answer (j'.loadCheckpoint b.runId), w) →
        b.resumePoint.run g w = (.finished (.ok q.resumeFromBatch), w) := by
  obtain ⟨fs, runs, hfs, hownfs, heq, hruns⟩ := hended.logged hes hown
  obtain ⟨end', rest, hrun⟩ := exists_loggedRun_of_told htold hanswers
  have hownt : ∀ e ∈ loggedEvents t, e.runId = b.runId := fun e he => hrun.own e (List.mem_append_left _ he)
  have hlogged := hafter.logged hfs
  obtain ⟨c, hc, hq⟩ := hlogged.exists_progress hnext
    (List.forall_mem_append.2 ⟨hownfs, fun e he _ => hownt e he⟩)
  rw [Journal.ownEvents_append, Journal.ownEvents_eq_self hownt, heq] at hq
  refine ⟨_, hq, ?_, ?_, ?_, ?_, ?_⟩
  · intro hnothing last hlast
    rw [Progress.standing_of, hnothing, List.append_nil, List.map_append, List.foldl_append,
      foldl_turn_runs hruns hlast]
  · intro hway
    obtain ⟨kind, source, resumeFrom, hs, hopened, hcommits⟩ := hway.happenings_eq hrun
    rw [Progress.standing_of, List.map_append, List.foldl_append, hopened, foldl_turn_opened hcommits]
  · rintro outcome rfl
    rw [Progress.standing_of, List.map_append, List.foldl_append,
      (loggedRun_of_yields htold hanswers).turn]
  · rw [Progress.stage_eq_idle_iff, List.append_eq_nil_iff, List.append_eq_nil_iff,
      flatten_eq_nil_iff hruns, and_assoc]
  · intro σ g w hload
    have hresumes : j'.ResumesAt b.runId (Logbook.batchAfter c) := ⟨c, hc, rfl⟩
    rw [Progress.resumeFromBatch_of]
    exact hresumes.run_resumePoint hload

/-! ## A run that was taken up again -/

namespace Sample

/-- The import was interrupted, and the journal has been opened again. -/
theorem ended_interrupted : Ended "sets" scene.journal [.error refused] interrupted.reopened.journal := by
  refine .cons rfl (yields_of_run run_refused) (Scene.after_of_run run_refused).journal ?_
    (.reopened (.nil _))
  decide +kernel

theorem run_taken_up : (run 1 1 (interrupted.reopened, 9)).1 =
    .finished (.ok ⟨2, 2, 0, 2, 1, 0, .epoch, some .epoch⟩) := by decide +kernel

end Sample

/-- A run that had failed is done, and its error is gone, when an import has taken it up again. -/
theorem resumed_import_stands :
    ∃ q, (Sample.run 1 1 (Sample.interrupted.reopened, 9)).2.1.journal.progress "sets" = .ok q ∧
      q.standing = (.done, none) := by
  have hnext : (Sample.run 1 1 (Sample.interrupted.reopened, 9)).2.1.journal.next ≤ 2 ^ 64 := by
    decide +kernel
  obtain ⟨q, hq, -, -, hdone, -, -⟩ := latest_import_stands .empty (fun e he => absurd he List.not_mem_nil)
    Sample.ended_interrupted (Sample.yields_of_run Sample.run_taken_up)
    (Scene.after_of_run Sample.run_taken_up).journal (by decide +kernel) hnext
  exact ⟨q, hq, hdone _ rfl⟩

end CatalogImport
