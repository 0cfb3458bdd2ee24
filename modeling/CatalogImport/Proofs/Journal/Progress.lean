import CatalogImport.Import.Logbook
import CatalogImport.Journal.Progress
import CatalogImport.Proofs.Journal.Log

/-!
# What a log says about its run

How a run stands is read off its log one event after the other.  Moments have no bearing on it
(`standing_foldl_step`), it is idle only if there are no events (`stage_eq_idle_iff`), and the events from a
start on say all (`foldl_turn_opened`, `foldl_turn_closed`).  The batch at which the run would be taken up
comes from the checkpoint alone (`resumeFromBatch_of`).
-/

namespace CatalogImport

/-! ## One event after the other -/

/-- How a run stands, and the error that it ended with. -/
abbrev Standing : Type := Stage × Option String

/-- How a run stands after something has happened to it. -/
def Happening.turn (x : Standing) : Happening → Standing
  | .started _ _ _ => (.running, none)
  | .committed _ _ => (.running, x.2)
  | .completed _ => (.done, x.2)
  | .aborted error => (.failed, some error)

namespace Progress

/-- How a run stands by what is known about it. -/
def standing (p : Progress) : Standing := (p.stage, p.lastError)

theorem standing_step (p : Progress) (e : Event) : (p.step e).standing = e.happening.turn p.standing := by
  obtain ⟨runId, happening, moment⟩ := e
  cases happening <;> rfl

/-- Only what happened counts, and in which order. -/
theorem standing_foldl_step (p : Progress) (es : List Event) :
    (es.foldl step p).standing = (es.map (·.happening)).foldl Happening.turn p.standing := by
  induction es generalizing p with
  | nil => rfl
  | cons e es ih =>
    rw [List.foldl_cons, ih, standing_step]
    rfl

/-- Whatever happens to a run, it is not idle any more. -/
theorem stage_step_ne_idle (p : Progress) (e : Event) : (p.step e).stage ≠ .idle := by
  obtain ⟨runId, happening, moment⟩ := e
  cases happening <;> exact Stage.noConfusion

theorem stage_foldl_step_eq_idle_iff {es : List Event} : (es.foldl step idle).stage = .idle ↔ es = [] := by
  rcases List.eq_nil_or_concat es with rfl | ⟨before, e, rfl⟩
  · exact ⟨fun _ => rfl, fun _ => rfl⟩
  · rw [List.concat_eq_append, List.foldl_append]
    exact ⟨fun h => absurd h (stage_step_ne_idle _ e), fun h => absurd h (by simp)⟩

/-- No event says at which batch a run is. -/
theorem lastBatch_foldl_step (p : Progress) (es : List Event) :
    (es.foldl step p).lastBatch = p.lastBatch := by
  induction es generalizing p with
  | nil => rfl
  | cons e es ih =>
    rw [List.foldl_cons, ih]
    obtain ⟨runId, happening, moment⟩ := e
    cases happening <;> rfl

/-! ## The checkpoint -/

theorem standing_withCheckpoint (p : Progress) (c : Option Checkpoint) :
    (p.withCheckpoint c).standing = p.standing := by
  cases c <;> rfl

theorem standing_of (es : List Event) (c : Option Checkpoint) :
    (of es c).standing = (es.map (·.happening)).foldl Happening.turn (.idle, none) := by
  rw [of, standing_withCheckpoint, standing_foldl_step]
  rfl

/-- A run is idle exactly if its log is empty. -/
theorem stage_eq_idle_iff {es : List Event} {c : Option Checkpoint} :
    (of es c).stage = .idle ↔ es = [] := by
  have hstage : (of es c).stage = (es.foldl step idle).stage :=
    congrArg Prod.fst (standing_withCheckpoint _ c)
  rw [hstage, stage_foldl_step_eq_idle_iff]

/-- A run would be taken up at the batch after those that the checkpoint counts. -/
theorem resumeFromBatch_of (es : List Event) (c : Option Checkpoint) :
    (of es c).resumeFromBatch = Logbook.batchAfter c := by
  cases c with
  | none =>
    have hnone : (of es none).lastBatch = none := lastBatch_foldl_step idle es
    rw [resumeFromBatch, hnone]
    rfl
  | some c => rfl

end Progress

/-! ## From a start on -/

/-- Committed batches do not make a running run stand otherwise. -/
theorem foldl_turn_commits {error : Option String} {hs : List Happening}
    (h : ∀ x ∈ hs, ∃ number records, x = .committed number records) :
    hs.foldl Happening.turn (.running, error) = (.running, error) := by
  induction hs with
  | nil => rfl
  | cons x hs ih =>
    obtain ⟨number, records, rfl⟩ := h x List.mem_cons_self
    exact ih fun y hy => h y (List.mem_cons_of_mem _ hy)

/-- After its start, however it stood before, a run is running and has no error. -/
theorem foldl_turn_opened {kind source : String} {resumeFrom : Nat} {hs : List Happening}
    (h : ∀ x ∈ hs, ∃ number records, x = .committed number records) (before : Standing) :
    (.started kind source resumeFrom :: hs).foldl Happening.turn before = (.running, none) :=
  foldl_turn_commits h

/-- After it has been closed, it stands as the last event says. -/
theorem foldl_turn_closed {kind source : String} {resumeFrom : Nat} {hs : List Happening}
    (h : ∀ x ∈ hs, ∃ number records, x = .committed number records) (last : Happening)
    (before : Standing) :
    (.started kind source resumeFrom :: hs ++ [last]).foldl Happening.turn before =
      last.turn (.running, none) := by
  rw [List.foldl_append, foldl_turn_opened h]
  rfl

/-! ## Reading log and checkpoint -/

namespace Journal

/-- What lies under the key of a checkpoint is a checkpoint. -/
theorem Keyed.exists_loadCheckpoint {j : Journal} (h : Keyed j) (runId : String) :
    ∃ c, j.loadCheckpoint runId = .ok c := by
  unfold loadCheckpoint
  cases hleaf : j.leaves.find? (checkpointKey runId) with
  | none => exact ⟨none, rfl⟩
  | some leaf =>
    obtain ⟨row, hfind, rfl⟩ := Option.map_eq_some_iff.1 hleaf
    have hkey : row.1 = checkpointKey runId := by simpa using List.find?_some hfind
    rcases h row (List.mem_of_find?_eq_some hfind) with ⟨c, rfl⟩ | ⟨e, n, -, rfl⟩
    · exact ⟨some c, rfl⟩
    · exact absurd hkey.symm (checkpointKey_ne_eventKey runId e.runId n)

/-- What is known about a run whose log shows no events but its own. -/
theorem Logged.exists_progress {es : List Event} {j : Journal} (h : Logged es j) (hnext : j.next ≤ 2 ^ 64)
    {runId : String} (hown : ∀ e ∈ es, Shows runId e.runId → e.runId = runId) :
    ∃ c, j.loadCheckpoint runId = .ok c ∧ j.progress runId = .ok (.of (ownEvents runId es) c) := by
  obtain ⟨hperm, howns⟩ := h.allEvents_perm hnext
  obtain ⟨c, hc⟩ := h.keyed.exists_loadCheckpoint runId
  refine ⟨c, hc, ?_⟩
  have hshown : j.allEvents.filter (fun e => Shows runId e.runId) = ownEvents runId es := by
    rw [filter_shows_eq_ownEvents fun e he => hown e (hperm.mem_iff.1 he), howns]
  unfold progress
  rw [h.keyed.events_eq, hshown, hc]
  rfl

end Journal

end CatalogImport
