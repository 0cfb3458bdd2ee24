import CatalogImport.Proofs.Journal.Checkpoint
import Mathlib.Data.List.Induction

/-!
# Which checkpoint is kept of a run

Any number of runs write into one journal, checkpoints and events in any order, and an event in two steps
between which others may write.  Main statement: of a run the journal keeps the checkpoint that was written
last among those at its greatest batch, and neither events nor what is written for other runs change it
(`checkpoint_of_writes`).
-/

namespace CatalogImport

/-! ## Checkpoints one after the other -/

namespace Checkpoint

/-- Of checkpoints in a row it is the last at the greatest batch. -/
def PrevailsIn (c : Checkpoint) (cs : List Checkpoint) : Prop :=
  ∃ before after, cs = before ++ c :: after ∧ (∀ d ∈ before, d.lastBatch ≤ c.lastBatch) ∧
    ∀ d ∈ after, d.lastBatch < c.lastBatch

/-- What is left of checkpoints that are written one after the other in the place of one. -/
def lastOver (old : Option Checkpoint) (cs : List Checkpoint) : Option Checkpoint :=
  cs.foldl (fun old c => some (c.over old)) old

variable {c d : Checkpoint} {cs : List Checkpoint}

theorem PrevailsIn.lastBatch_le (h : c.PrevailsIn cs) : ∀ d ∈ cs, d.lastBatch ≤ c.lastBatch := by
  obtain ⟨before, after, rfl, hbefore, hafter⟩ := h
  intro d hd
  rcases List.mem_append.1 hd with hd | hd
  · exact hbefore d hd
  · rcases List.mem_cons.1 hd with rfl | hd
    · exact Nat.le_refl _
    · exact Nat.le_of_lt (hafter d hd)

/-- One at the same batch or a greater cannot stand behind it. -/
theorem eq_of_cons_eq_append {between after rest : List Checkpoint}
    (hsplit : c :: after = between ++ d :: rest) (hafter : ∀ x ∈ after, x.lastBatch < c.lastBatch)
    (hle : c.lastBatch ≤ d.lastBatch) : c = d := by
  cases between with
  | nil => exact (List.cons.inj hsplit).1
  | cons x between =>
    have hmem : d ∈ after := (List.cons.inj hsplit).2 ▸ List.mem_append_right between List.mem_cons_self
    exact absurd (hafter d hmem) (Nat.not_lt.2 hle)

/-- Only one prevails. -/
theorem PrevailsIn.eq (h : c.PrevailsIn cs) (h' : d.PrevailsIn cs) : c = d := by
  have hle := h.lastBatch_le
  have hle' := h'.lastBatch_le
  obtain ⟨before, after, rfl, -, hafter⟩ := h
  obtain ⟨before', after', hsplit, -, hafter'⟩ := h'
  have hd : d.lastBatch ≤ c.lastBatch := hle d (hsplit ▸ List.mem_append_right before' List.mem_cons_self)
  have hc : c.lastBatch ≤ d.lastBatch := hle' c (List.mem_append_right before List.mem_cons_self)
  -- whichever of the two stands first has the other at its place or behind it
  rcases List.append_eq_append_iff.1 hsplit with ⟨between, -, hrest⟩ | ⟨between, -, hrest⟩
  · exact eq_of_cons_eq_append hrest hafter hc
  · exact (eq_of_cons_eq_append hrest hafter' hd).symm

/-- One more checkpoint takes the place of the one that prevails unless it is at a lesser batch. -/
theorem PrevailsIn.over (h : d.PrevailsIn cs) (c : Checkpoint) :
    (c.over (some d)).PrevailsIn (cs ++ [c]) := by
  have hle := h.lastBatch_le
  obtain ⟨before, after, rfl, hbefore, hafter⟩ := h
  unfold Checkpoint.over
  dsimp only
  split
  · next hlt =>
    refine ⟨before, after ++ [c], by rw [List.append_assoc, List.cons_append], hbefore, ?_⟩
    intro x hx
    rcases List.mem_append.1 hx with hx | hx
    · exact hafter x hx
    · rwa [List.mem_singleton.1 hx]
  · next hge =>
    refine ⟨before ++ d :: after, [], rfl, fun x hx => ?_, fun x hx => absurd hx List.not_mem_nil⟩
    exact Nat.le_trans (hle x hx) (Nat.not_lt.1 hge)

theorem lastOver_concat (old : Option Checkpoint) (cs : List Checkpoint) (c : Checkpoint) :
    lastOver old (cs ++ [c]) = some (c.over (lastOver old cs)) := by
  unfold lastOver
  rw [List.foldl_append]
  rfl

/-- From nothing on, the one that prevails is left. -/
theorem lastOver_spec (cs : List Checkpoint) :
    (cs = [] ∧ lastOver none cs = none) ∨ ∃ c, lastOver none cs = some c ∧ c.PrevailsIn cs := by
  induction cs using List.reverseRecOn with
  | nil => exact .inl ⟨rfl, rfl⟩
  | append_singleton cs c ih =>
    rw [lastOver_concat]
    refine .inr ⟨_, rfl, ?_⟩
    rcases ih with ⟨rfl, hnone⟩ | ⟨d, hd, hprevails⟩
    · rw [hnone]
      exact ⟨[], [], rfl, fun x hx => absurd hx List.not_mem_nil, fun x hx => absurd hx List.not_mem_nil⟩
    · rw [hd]
      exact hprevails.over c

theorem lastOver_eq_some_iff : lastOver none cs = some c ↔ c.PrevailsIn cs := by
  rcases lastOver_spec cs with ⟨rfl, hnone⟩ | ⟨d, hd, hprevails⟩
  · rw [hnone]
    refine ⟨nofun, ?_⟩
    rintro ⟨before, after, hsplit, -⟩
    exact absurd hsplit.symm (by simp)
  · rw [hd]
    constructor
    · intro h
      cases h
      exact hprevails
    · exact fun h => congrArg some (hprevails.eq h)

theorem lastOver_eq_none_iff : lastOver none cs = none ↔ cs = [] := by
  rcases lastOver_spec cs with ⟨rfl, hnone⟩ | ⟨d, hd, before, after, rfl, -⟩
  · exact ⟨fun _ => rfl, fun _ => hnone⟩
  · rw [hd]
    exact ⟨nofun, fun h => absurd h (by simp)⟩

end Checkpoint

/-! ## Writing into a journal -/

namespace Journal

/-- Something that is written into a journal. -/
inductive Write where
  | checkpoint (c : Checkpoint)
  | event (e : Event)
  /-- The first step of an event: a number is given out for it. -/
  | number
  /-- The second step of an event: it is put under a number that was given out for it. -/
  | numbered (n : Nat) (e : Event)
  /-- The journal is closed and opened again. -/
  | reopening

/-- The journal after something has been written into it. -/
def write (j : Journal) : Write → Except JournalError Journal
  | .checkpoint c => j.saveCheckpoint c
  | .event e => .ok (j.append e)
  | .number => .ok j.takeNumber
  | .numbered n e => .ok (j.putEvent n e)
  | .reopening => .ok j.reopen

/-- The journal after several things have been written into it one after the other. -/
def writeAll (j : Journal) (ws : List Write) : Except JournalError Journal := ws.foldlM write j

/-- The checkpoint that is written, if it is one of the run. -/
def Write.checkpointOf? (runId : String) : Write → Option Checkpoint
  | .checkpoint c => if c.runId = runId then some c else none
  | _ => none

/-- The checkpoints of the run among what is written. -/
def checkpointsOf (runId : String) (ws : List Write) : List Checkpoint :=
  ws.filterMap (·.checkpointOf? runId)

/-- Every checkpoint of the journal can be read. -/
def Readable (j : Journal) : Prop := ∀ runId, ∃ old, j.loadCheckpoint runId = .ok old

variable {j : Journal}

/-- Where a checkpoint can be read something can be written, and of a run the journal then keeps what it kept
before, unless a checkpoint of the run was written. -/
theorem Readable.exists_write (h : Readable j) (w : Write) :
    ∃ j', j.write w = .ok j' ∧ ∀ runId old, j.loadCheckpoint runId = .ok old →
      j'.loadCheckpoint runId = .ok (Checkpoint.lastOver old (w.checkpointOf? runId).toList) := by
  cases w with
  | checkpoint c =>
    obtain ⟨own, hown⟩ := h c.runId
    obtain ⟨j', hsave⟩ := exists_saveCheckpoint hown
    refine ⟨j', hsave, fun runId old hold => ?_⟩
    have hwritten : (Write.checkpoint c).checkpointOf? runId = if c.runId = runId then some c else none :=
      rfl
    rw [hwritten]
    by_cases hrun : c.runId = runId
    · subst hrun
      rw [if_pos rfl]
      exact loadCheckpoint_saveCheckpoint hsave hold
    · rw [if_neg hrun, loadCheckpoint_saveCheckpoint_of_ne hsave hrun]
      exact hold
  | event e => exact ⟨_, rfl, fun runId old hold => (loadCheckpoint_append j e runId).trans hold⟩
  | number => exact ⟨_, rfl, fun runId old hold => hold⟩
  | numbered n e => exact ⟨_, rfl, fun runId old hold => (loadCheckpoint_putEvent j n e runId).trans hold⟩
  | reopening => exact ⟨_, rfl, fun runId old hold => hold⟩

/-- After many writes the journal keeps of each run what is left of the checkpoints written for it. -/
theorem Readable.exists_writeAll (h : Readable j) (ws : List Write) :
    ∃ j', j.writeAll ws = .ok j' ∧ ∀ runId old, j.loadCheckpoint runId = .ok old →
      j'.loadCheckpoint runId = .ok (Checkpoint.lastOver old (checkpointsOf runId ws)) := by
  induction ws generalizing j with
  | nil => exact ⟨j, rfl, fun runId old hold => hold⟩
  | cons w ws ih =>
    obtain ⟨j₁, hwrite, hkept⟩ := h.exists_write w
    have hreadable : Readable j₁ := by
      intro runId
      obtain ⟨old, hold⟩ := h runId
      exact ⟨_, hkept runId old hold⟩
    obtain ⟨j₂, hrest, hlast⟩ := ih hreadable
    refine ⟨j₂, ?_, fun runId old hold => ?_⟩
    · unfold writeAll
      rw [List.foldlM_cons, hwrite]
      exact hrest
    · have hcheckpoints : checkpointsOf runId (w :: ws) =
          (w.checkpointOf? runId).toList ++ checkpointsOf runId ws := by
        unfold checkpointsOf
        rw [List.filterMap_cons]
        cases w.checkpointOf? runId <;> rfl
      rw [hcheckpoints, Checkpoint.lastOver, List.foldl_append]
      exact hlast runId _ (hkept runId old hold)

theorem readable_empty : Readable empty := fun _ => ⟨none, rfl⟩

/-- Whatever was written into a journal from its beginning on, it can be read which checkpoint it keeps of a
run: none if none was written for the run, and otherwise the one written last among those at the greatest
batch that was written for it.  What is no checkpoint of the run, when it is written, does not change it. -/
theorem checkpoint_of_writes (ws : List Write) (runId : String) :
    ∃ j kept, empty.writeAll ws = .ok j ∧ j.loadCheckpoint runId = .ok kept ∧
      (kept = none ↔ checkpointsOf runId ws = []) ∧
      (∀ c, kept = some c ↔ c.PrevailsIn (checkpointsOf runId ws)) ∧
      ∀ w : Write, w.checkpointOf? runId = none →
        ∃ j', j.write w = .ok j' ∧ j'.loadCheckpoint runId = .ok kept := by
  obtain ⟨j, hwritten, hlast⟩ := readable_empty.exists_writeAll ws
  have hkept : ∀ other, j.loadCheckpoint other = .ok (Checkpoint.lastOver none (checkpointsOf other ws)) :=
    fun other => hlast other none rfl
  refine ⟨j, _, hwritten, hkept runId, Checkpoint.lastOver_eq_none_iff,
    fun c => Checkpoint.lastOver_eq_some_iff, fun w hother => ?_⟩
  have hreadable : Readable j := fun other => ⟨_, hkept other⟩
  obtain ⟨j', hwrite, hafter⟩ := hreadable.exists_write w
  refine ⟨j', hwrite, ?_⟩
  have hsame := hafter runId _ (hkept runId)
  rwa [hother] at hsame

namespace Sample

/-- A checkpoint of a run. -/
def checkpoint (runId : String) (lastBatch recordsDone : Nat) : Checkpoint :=
  ⟨runId, "sets", "sets.json", lastBatch, recordsDone, .epoch⟩

/-- Checkpoints of two runs, one of them late and one written twice, with an event between them. -/
def writes : List Write :=
  [.checkpoint (checkpoint "a" 4 2500), .checkpoint (checkpoint "a" 2 1500), .number,
   .checkpoint (checkpoint "a:b" 9 10), .numbered 0 ⟨"a", .committed 4 500, .epoch⟩,
   .checkpoint (checkpoint "a" 4 2600), .checkpoint (checkpoint "a" 3 2000)]

end Sample

theorem checkpoint_of_sample_writes :
    ∃ j, empty.writeAll Sample.writes = .ok j ∧
      j.loadCheckpoint "a" = .ok (some (Sample.checkpoint "a" 4 2600)) := by
  obtain ⟨j, kept, hwritten, hload, -, hkept, -⟩ := checkpoint_of_writes Sample.writes "a"
  have hprevails : (Sample.checkpoint "a" 4 2600).PrevailsIn (checkpointsOf "a" Sample.writes) :=
    ⟨[Sample.checkpoint "a" 4 2500, Sample.checkpoint "a" 2 1500], [Sample.checkpoint "a" 3 2000], rfl,
      by decide, by decide⟩
  rw [(hkept _).2 hprevails] at hload
  exact ⟨j, hwritten, hload⟩

end Journal

end CatalogImport
