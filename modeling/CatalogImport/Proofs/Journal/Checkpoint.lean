import CatalogImport.Journal.Store

/-!
# Checkpoints in the journal

Events leave checkpoints alone, and a checkpoint that is written either stays out or takes the place of
the one before.  Main statement: which checkpoint of the run is found afterwards
(`loadCheckpoint_saveCheckpoint`).
-/

namespace CatalogImport

/-- The checkpoint that is left of one that is written and the one in its place: the latter only if it is
at a later batch. -/
def Checkpoint.over (new : Checkpoint) (old : Option Checkpoint) : Checkpoint :=
  match old with
  | some c => if new.lastBatch < c.lastBatch then c else new
  | none => new

namespace Journal

/-- Checkpoints and events have different keys. -/
theorem checkpointKey_ne_eventKey (runId other : String) (number : Nat) :
    checkpointKey runId ≠ eventKey other number := by
  intro h
  have hfirst : (checkpointKey runId).toList.head? = (eventKey other number).toList.head? := by rw [h]
  unfold checkpointKey eventKey eventStem at hfirst
  simp only [String.toList_append] at hfirst
  exact absurd hfirst (by simp)

/-- An event leaves the checkpoints alone. -/
theorem find?_append (j : Journal) (e : Event) (runId : String) :
    (j.append e).leaves.find? (checkpointKey runId) = j.leaves.find? (checkpointKey runId) := by
  unfold append
  rw [Index.find?_insert, if_neg (checkpointKey_ne_eventKey runId e.runId j.next)]

/-- A checkpoint that is written stays out or is put in its place. -/
theorem eq_or_eq_of_saveCheckpoint {j j' : Journal} {c : Checkpoint}
    (h : j.saveCheckpoint c = .ok j') :
    j' = j ∨ j' = { j with leaves := j.leaves.insert (checkpointKey c.runId) (.checkpoint c) } := by
  unfold saveCheckpoint at h
  dsimp only at h
  split at h
  · cases h
    exact .inr rfl
  · cases h
    split
    · exact .inl rfl
    · exact .inr rfl
  · cases h

theorem checkpointKey_injective {runId other : String} (h : checkpointKey runId = checkpointKey other) :
    runId = other := by
  have hlist := congrArg String.toList h
  unfold checkpointKey at hlist
  rw [String.toList_append, String.toList_append] at hlist
  exact String.toList_inj.1 (List.append_cancel_left hlist)

theorem loadCheckpoint_append (j : Journal) (e : Event) (runId : String) :
    (j.append e).loadCheckpoint runId = j.loadCheckpoint runId := by
  unfold loadCheckpoint
  rw [find?_append]

theorem loadCheckpoint_putEvent (j : Journal) (n : Nat) (e : Event) (runId : String) :
    (j.putEvent n e).loadCheckpoint runId = j.loadCheckpoint runId := by
  unfold loadCheckpoint putEvent
  rw [Index.find?_insert, if_neg (checkpointKey_ne_eventKey runId e.runId n)]

/-- A checkpoint of another run has no bearing on the one of this run. -/
theorem loadCheckpoint_saveCheckpoint_of_ne {j j' : Journal} {c : Checkpoint} {runId : String}
    (h : j.saveCheckpoint c = .ok j') (hne : c.runId ≠ runId) :
    j'.loadCheckpoint runId = j.loadCheckpoint runId := by
  have hkey : checkpointKey runId ≠ checkpointKey c.runId :=
    fun heq => hne (checkpointKey_injective heq).symm
  rcases eq_or_eq_of_saveCheckpoint h with rfl | rfl
  · rfl
  · unfold loadCheckpoint
    rw [Index.find?_insert, if_neg hkey]

/-- A checkpoint can be written where the one in its place can be read. -/
theorem exists_saveCheckpoint {j : Journal} {c : Checkpoint} {old : Option Checkpoint}
    (hold : j.loadCheckpoint c.runId = .ok old) : ∃ j', j.saveCheckpoint c = .ok j' := by
  unfold loadCheckpoint at hold
  unfold saveCheckpoint
  dsimp only
  split
  · exact ⟨_, rfl⟩
  · exact ⟨_, rfl⟩
  · next leaf hother hleaf =>
    rw [hleaf] at hold
    cases leaf with
    | checkpoint d => exact absurd rfl (hother d)
    | event e => cases hold
    | damaged => cases hold

/-- After a checkpoint has been written, the one found is the one at the later batch, and of two at the
same batch the one that was written. -/
theorem loadCheckpoint_saveCheckpoint {j j' : Journal} {c : Checkpoint} {old : Option Checkpoint}
    (h : j.saveCheckpoint c = .ok j') (hold : j.loadCheckpoint c.runId = .ok old) :
    j'.loadCheckpoint c.runId = .ok (some (c.over old)) := by
  have hwritten : (j.leaves.insert (checkpointKey c.runId) (.checkpoint c)).find?
      (checkpointKey c.runId) = some (.checkpoint c) := by
    rw [Index.find?_insert, if_pos rfl]
  unfold loadCheckpoint at hold
  unfold saveCheckpoint at h
  dsimp only at h
  split at h
  · next hnone =>
    rw [hnone] at hold
    cases hold
    cases h
    unfold loadCheckpoint
    rw [hwritten]
    rfl
  · next d hsome =>
    rw [hsome] at hold
    cases hold
    cases h
    unfold loadCheckpoint Checkpoint.over
    dsimp only
    by_cases hlt : c.lastBatch < d.lastBatch
    · rw [if_pos hlt, if_pos hlt, hsome]
    · rw [if_neg hlt, if_neg hlt, hwritten]
  · cases h

end Journal

end CatalogImport
