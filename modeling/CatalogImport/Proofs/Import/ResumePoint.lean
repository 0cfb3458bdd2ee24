import CatalogImport.Proofs.Import.Prefix
import CatalogImport.Proofs.Import.Resume

/-!
# Where a run is taken up that was begun again

Imports under the id of a run may begin at any batch, and an import that is begun again from the first one
writes its checkpoints from the first one on.  A checkpoint at an earlier batch stays out, however, so the
batch at which the run would be taken up is behind the furthest that any import has ever got.  Main
statements: what that batch is after an import from the first one that ended early
(`resume_point_after_abort`), and that it need not be the one at which that import stopped
(`resume_point_not_of_last`).
-/

namespace CatalogImport

/-! ## How far an import has got -/

section

variable {b : Logbook} {t : History}

/-- Recording a batch puts a checkpoint there if the journal does all that it is asked to do. -/
theorem furthest_of_recorded {number records : Nat} {g : History}
    (h : Recorded (some b) number records g) (hanswers : JournalAnswers g) :
    furthest b.runId g = number + 1 := by
  cases h with
  | unread b number records e => cases hanswers _ List.mem_cons_self
  | unlogged b number records d moment e =>
    cases hanswers _ (List.mem_cons_of_mem _ List.mem_cons_self)
  | logged b number records d moment later answer =>
    cases answer with
    | error e => cases hanswers _ (List.mem_cons_of_mem _ (List.mem_cons_of_mem _ List.mem_cons_self))
    | ok _ =>
      have hwritten : writtenCheckpoints [⟨.loadCheckpoint b.runId, .ok d⟩,
          ⟨.append ⟨b.runId, .committed number records, moment⟩, .ok ()⟩,
          ⟨.saveCheckpoint (b.checkpointAt d number records later), .ok ()⟩] =
        [b.checkpointAt d number records later] := rfl
      rw [furthest, hwritten,
        List.filter_cons_of_pos (p := fun c : Checkpoint => decide (c.runId = b.runId)) (decide_eq_true rfl)]
      exact Nat.max_zero (number + 1)

/-- When batches are recorded one after the other, and the journal does all that it is asked to do, the
checkpoint gets behind the last of them. -/
theorem Chronicle.furthest_eq {R : Type} {bs : List (Batch R)} {g : History} {first : Nat}
    (h : Chronicle (some b) bs g) (hanswers : JournalAnswers g)
    (hnumber : ∀ (j : Nat) (x : Batch R), bs[j]? = some x → x.number = first + j) :
    max first (furthest b.runId g) = first + bs.length := by
  induction h with
  | nil => exact Nat.max_zero first
  | @concat bs x g entry hbefore hentry ih =>
    have hprefix : ∀ (j : Nat) (y : Batch R), bs[j]? = some y → y.number = first + j := by
      intro j y hy
      have hlt : j < bs.length := (List.getElem?_eq_some_iff.1 hy).1
      exact hnumber j y (by rw [List.getElem?_append_left hlt, hy])
    have hx : x.number = first + bs.length := hnumber _ x List.getElem?_concat_length
    have hfirst := ih hanswers.left hprefix
    rw [furthest_append, furthest_of_recorded hentry hanswers.right, List.length_append,
      List.length_singleton]
    omega

/-- The checkpoints of an import that ended, and for which the journal did all that it was asked to do, get
behind the batches that it counted. -/
theorem furthest_of_yields {R : Type} [CatalogRecord R] {config : Config} {k : Nat} {outcome : Outcome}
    (h : (importRun config (some b) R k).Yields t outcome) (hanswers : JournalAnswers t) :
    max k (furthest b.runId t) = k + outcome.statistics.batchesProcessed := by
  obtain ⟨l, hsettles, hsorts⟩ := exists_sorted_ledger (R := R) h
  have hnumber := (hsettles.isRow_counted hsorts).number
  have hfurthest := hsorts.chronicle.furthest_eq hanswers.recordings hnumber
  rw [furthest_recordings, List.length_map] at hfurthest
  rw [hfurthest, hsettles.batchesProcessed_eq]

end

/-! ## Imports one after the other -/

/-- Imports were begun under the id of a run, one after the other: from any batch on, of whatever document
and in whatever way, and each cut short anywhere.  In between the journal may have been closed and opened
again, and anything may have happened that writes no checkpoint of the run. -/
inductive Invocations (runId : String) : Journal → List History → Journal → Prop
  | nil (j : Journal) : Invocations runId j [] j
  | reopened {j j' : Journal} {ts : List History} (hrest : Invocations runId j.reopen ts j') :
      Invocations runId j ts j'
  | meanwhile {j j₁ j' : Journal} {t : History} {ts : List History} (hafter : Journal.After j t j₁)
      (hothers : ∀ d ∈ writtenCheckpoints t, d.runId ≠ runId) (hrest : Invocations runId j₁ ts j') :
      Invocations runId j ts j'
  | cons {R : Type} [CatalogRecord R] {j j₁ j' : Journal} {b : Logbook} {config : Config} {k : Nat}
      {t : History} {p : Task Outcome} {ts : List History} (hrun : b.runId = runId)
      (htold : (importRun config (some b) R k).Told t p) (hafter : Journal.After j t j₁)
      (hrest : Invocations runId j₁ ts j') : Invocations runId j (t :: ts) j'

/-- After any imports, a run would be taken up behind the furthest that any of them has got. -/
theorem Invocations.resumesAt {runId : String} {j j' : Journal} {ts : List History} {k : Nat}
    (h : Invocations runId j ts j') (hk : j.ResumesAt runId k) :
    j'.ResumesAt runId (max k (greatest (ts.map (furthest runId)))) := by
  induction h generalizing k with
  | nil j => simpa using hk
  | reopened _ ih => exact ih hk
  | meanwhile hafter hothers _ ih =>
    refine ih ?_
    obtain ⟨c, hc, rfl⟩ := hk
    obtain ⟨c', hc', hfollows⟩ := hafter.follows hc
    refine ⟨c', hc', ?_⟩
    rw [hfollows.eq_of_written hothers]
  | cons _ _ hafter _ ih =>
    obtain ⟨c, hc, rfl⟩ := hk
    obtain ⟨c', hc', hfollows⟩ := hafter.follows hc
    rw [List.map_cons, greatest_cons, ← Nat.max_assoc]
    exact ih ⟨c', hc', hfollows.batchAfter_eq⟩

/-- Under the id of a run that had no checkpoint, any imports have been begun, and then one from the first
batch ended early, while the journal did all that it was asked to do.  Then the batch from which the run
is to be taken up later, in whatever surroundings the journal is asked, is the one behind the batches that
this import counted, or behind the furthest that any of the imports before has got, whichever is later: the
checkpoint never goes back.  So it is the one at which this import stopped exactly if none of those before has
got further. -/
theorem resume_point_after_abort {R : Type} [CatalogRecord R] {b : Logbook} {config : Config}
    {j₀ j j₁ j' : Journal} {ts : List History} {t : History} {a : Aborted}
    (hfresh : j₀.loadCheckpoint b.runId = .ok none) (hbefore : Invocations b.runId j₀ ts j)
    (h : (importRun config (some b) R 0).Yields t (.error a)) (hafter : Journal.After j t j₁)
    (hanswers : JournalAnswers t) (hlater : Invocations b.runId j₁ [] j') :
    (∀ {σ : Type} (g : Surroundings σ) (w : σ),
      g (.loadCheckpoint b.runId) w = (.answer (j'.loadCheckpoint b.runId), w) →
      b.resumePoint.run g w = (.finished (.ok
        (max (greatest (ts.map (furthest b.runId))) a.statistics.batchesProcessed)), w)) ∧
      (max (greatest (ts.map (furthest b.runId))) a.statistics.batchesProcessed =
          a.statistics.batchesProcessed ↔
        ∀ u ∈ ts, furthest b.runId u ≤ a.statistics.batchesProcessed) := by
  have hstart : j₀.ResumesAt b.runId 0 := ⟨none, hfresh, rfl⟩
  obtain ⟨c, hc, hnext⟩ := hbefore.resumesAt hstart
  obtain ⟨c₁, hc₁, hfollows⟩ := hafter.follows hc
  have hcounted := furthest_of_yields h hanswers
  rw [Nat.zero_max, Nat.zero_add] at hcounted
  rw [Nat.zero_max] at hnext
  have hresumes : j₁.ResumesAt b.runId (max (greatest (ts.map (furthest b.runId)))
      a.statistics.batchesProcessed) := by
    refine ⟨c₁, hc₁, ?_⟩
    rw [hfollows.batchAfter_eq, hnext, hcounted]
    rfl
  have hresumes' := hlater.resumesAt hresumes
  rw [List.map_nil, greatest_nil, Nat.max_zero] at hresumes'
  refine ⟨fun g w hload => hresumes'.run_resumePoint hload, ?_⟩
  have hmax (m n : Nat) : max m n = n ↔ m ≤ n := by omega
  rw [hmax, greatest_le_iff, List.forall_mem_map]

/-! ## An import that is begun again -/

namespace Sample

/-- The scene after the whole document has been imported in batches of one record. -/
def imported : Scene := (run 1 0 (scene, 9)).2.1

/-- The import that led there. -/
def complete : List History := [history 1 0 (scene, 9)]

theorem invocations_complete : Invocations "sets" scene.journal complete imported.journal := by
  have hrun : (run 1 0 (scene, 9)).1 = .finished (.ok ⟨3, 3, 0, 3, 1, 0, .epoch, some .epoch⟩) := by
    decide +kernel
  exact .cons rfl (yields_of_run hrun) (Scene.after_of_run hrun).journal (.nil _)

/-- The import is begun again, and the store takes one batch. -/
theorem run_begun_again : (run 1 0 (imported, 1)).1 = .finished (.error refused) := by decide +kernel

theorem journalAnswers_begun_again : JournalAnswers (history 1 0 (imported, 1)) := by decide +kernel

theorem furthest_complete : complete.map (furthest "sets") = [3] := by decide +kernel

end Sample

theorem resume_point_after_abort_of_sample :
    (Sample.logbook.resumePoint.run (Scene.surroundings Sample.document)
        ((Sample.run 1 0 (Sample.imported, 1)).2.1.reopened, 0)).1 = .finished (.ok 3) ∧
      Sample.refused.statistics.batchesProcessed = 1 := by
  obtain ⟨hresume, -⟩ := resume_point_after_abort (b := Sample.logbook) rfl Sample.invocations_complete
    (Sample.yields_of_run Sample.run_begun_again) (Scene.after_of_run Sample.run_begun_again).journal
    Sample.journalAnswers_begun_again (.reopened (.nil _))
  have hfurthest : Sample.complete.map (furthest Sample.logbook.runId) = [3] := Sample.furthest_complete
  rw [hfurthest] at hresume
  have hload := Scene.surroundings_loadCheckpoint Sample.document Sample.logbook.runId
    (Sample.run 1 0 (Sample.imported, 1)).2.1.reopened 0
  exact ⟨congrArg Prod.fst (hresume _ _ hload), rfl⟩

/-- An import that ended early need not be taken up at the batch at which it stopped. -/
theorem resume_point_not_of_last :
    ¬ ∀ (document : Reading) (b : Logbook) (config : Config) (s₀ s s' : Scene) (ts : List History)
        (t : History) (a : Aborted),
      s₀.journal.loadCheckpoint b.runId = .ok none → Invocations b.runId s₀.journal ts s.journal →
      (importRun config (some b) CardSet 0).Yields t (.error a) → Scene.After document s t s' →
      JournalAnswers t →
      (b.resumePoint.run (Scene.surroundings document) (s', 0)).1 =
        .finished (.ok a.statistics.batchesProcessed) := by
  intro hall
  have hresume := hall Sample.document Sample.logbook (Sample.config 1) Sample.scene Sample.imported _
    Sample.complete _ Sample.refused rfl Sample.invocations_complete
    (Sample.yields_of_run Sample.run_begun_again) (Scene.after_of_run Sample.run_begun_again)
    Sample.journalAnswers_begun_again
  have hthree : (Sample.logbook.resumePoint.run (Scene.surroundings Sample.document)
      ((Sample.run 1 0 (Sample.imported, 1)).2.1, 0)).1 = .finished (.ok 3) := by decide +kernel
  exact absurd (hthree.symm.trans hresume) (by decide)

end CatalogImport
