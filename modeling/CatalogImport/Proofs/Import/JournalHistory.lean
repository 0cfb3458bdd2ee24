import CatalogImport.Import.Logbook
import CatalogImport.Proofs.Import.HistoryContents

/-!
# What a history makes of a journal

A journal does what it is asked to do, or it fails and does nothing.  Whatever else is asked in the course of an
import, of the store above all, is none of its business: `Journal.After` says what a history leads to in a
journal, and assumes nothing about stores.  Main statements: a journal that is asked where a run is to be taken
up says so and stays as it is (`After.resumesAt_of_yields`, `ResumesAt.run_resumePoint`).
-/

namespace CatalogImport

namespace Journal

/-- What an exchange may make of a journal.  A call that fails does nothing. -/
def Admits (j j' : Journal) : Exchange → Prop
  | ⟨.append e, .ok _⟩ => j' = j.append e
  | ⟨.loadCheckpoint runId, .ok c⟩ => j.loadCheckpoint runId = .ok c ∧ j' = j
  | ⟨.saveCheckpoint c, .ok _⟩ => j.saveCheckpoint c = .ok j'
  | _ => j' = j

/-- What a history may make of a journal. -/
inductive After : Journal → History → Journal → Prop
  | nil (j : Journal) : After j [] j
  | cons {j j₁ j' : Journal} {e : Exchange} {t : History} (hfirst : Admits j j₁ e) (hrest : After j₁ t j') :
      After j (e :: t) j'

/-! ## Where a run is taken up -/

/-- An import that is taken up under the id of a run would begin with a batch. -/
def ResumesAt (j : Journal) (runId : String) (k : Nat) : Prop :=
  ∃ c, j.loadCheckpoint runId = .ok c ∧ Logbook.batchAfter c = k

section

variable {j j' : Journal} {b : Logbook} {t : History} {k : Nat}

/-- Asking where to take an import up is loading the checkpoint. -/
theorem exists_checkpoint_of_resumePoint (h : b.resumePoint.Yields t (.ok k)) :
    ∃ c, t = [⟨.loadCheckpoint b.runId, .ok c⟩] ∧ Logbook.batchAfter c = k := by
  obtain ⟨answer, u, v, rfl, hu, hv⟩ := Program.yields_bind_iff.1 h
  obtain ⟨loaded, w, rfl, hw⟩ := yields_ask_bind_iff.1 hu
  obtain ⟨rfl, rfl⟩ := Program.yields_pure_iff.1 hw
  obtain ⟨rfl, hk⟩ := Program.yields_pure_iff.1 hv
  cases loaded with
  | error e => cases hk
  | ok c => exact ⟨c, rfl, (Except.ok.inj hk).symm⟩

/-- It changes nothing, and the answer is right. -/
theorem After.resumesAt_of_yields (hafter : After j t j') (h : b.resumePoint.Yields t (.ok k)) :
    j' = j ∧ j.ResumesAt b.runId k := by
  obtain ⟨c, rfl, hk⟩ := exists_checkpoint_of_resumePoint h
  cases hafter with
  | cons hfirst hrest =>
    cases hrest
    exact ⟨hfirst.2, c, hfirst.1, hk⟩

/-- Where the checkpoint is loaded from the journal, in whatever surroundings, this says where the run is to be
taken up. -/
theorem ResumesAt.run_resumePoint {σ : Type} {h : Surroundings σ} {w : σ} (hk : j.ResumesAt b.runId k)
    (hload : h (.loadCheckpoint b.runId) w = (.answer (j.loadCheckpoint b.runId), w)) :
    b.resumePoint.run h w = (.finished (.ok k), w) := by
  obtain ⟨c, hc, rfl⟩ := hk
  unfold Logbook.resumePoint Logbook.checkpoint
  rw [Program.run_bind, Program.run_bind]
  simp [ask, Program.question, Program.run, hload, hc, Except.mapError, Except.map]

end

end Journal

end CatalogImport
