import CatalogImport.Proofs.Import.Batches
import CatalogImport.Proofs.Import.Checkpoint
import CatalogImport.Proofs.Import.Resume

/-!
# What an import leaves behind

Wherever an import ends, the store, the statistics and the checkpoint tell of the same first batches of
those that were due, but for one batch that was on its way to the store when the import was cancelled.
Main statement: `import_leaves_prefix`.
-/

namespace CatalogImport

variable {R : Type} [CatalogRecord R] {config : Config} {logbook : Option Logbook} {resumeFrom : Nat}
  {t : History} {outcome : Outcome} {document : Reading} {l : Ledger R}

/-- What an import has written are the batches that were counted, and possibly the one in flight. -/
theorem Ledger.Settles.store_eq {s s' : Scene} (h : l.Settles config resumeFrom t outcome)
    (hs : Scene.After document s t s') :
    ∃ bs, (bs = l.counted.map (·.batch) ∨ bs = l.batches resumeFrom) ∧
      s'.store = (s.store.addMany (storedForms (bs.flatMap (·.entries)))).1 := by
  obtain ⟨written, hwritten, hstore⟩ := hs.store
  rw [h.offers, Ledger.offered] at hwritten
  obtain ⟨more, rfl, hmore⟩ := written_counted hwritten
  cases hun : l.isUnanswered with
  | false =>
    rw [hun, if_neg Bool.false_ne_true] at hmore
    cases hmore
    refine ⟨l.counted.map (·.batch), .inl rfl, ?_⟩
    rw [flatMap_map_batch, hstore, List.append_nil]
  | true =>
    rw [hun, if_pos rfl] at hmore
    cases hmore with
    | done _ hrest =>
      cases hrest
      refine ⟨l.batches resumeFrom, .inr rfl, ?_⟩
      rw [flatMap_batches, hun, if_pos rfl, storedForms_append, hstore, List.append_nil]
    | undone _ hrest =>
      cases hrest
      refine ⟨l.counted.map (·.batch), .inl rfl, ?_⟩
      rw [flatMap_map_batch, hstore, List.append_nil]

theorem Ledger.Settles.batchesProcessed_eq (h : l.Settles config resumeFrom t outcome) :
    outcome.statistics.batchesProcessed = l.counted.length := by
  obtain ⟨s, moment, hstatistics, -, htally⟩ := h.statistics
  rw [hstatistics]
  exact htally.batchesProcessed

/-- After an import for which the journal did all that it was asked to do, and which did not start before the
batch at which its run is to be taken up, the checkpoint counts the records of the counted batches besides
those that it counted before, and is at the last of these batches. -/
theorem Ledger.Settles.exists_checkpoint {b : Logbook} {j j' : Journal} {c : Option Checkpoint}
    (h : l.Settles config resumeFrom t outcome) (hs : l.Sorts config (some b) resumeFrom t)
    (hafter : Journal.After j t j') (hc : j.loadCheckpoint b.runId = .ok c)
    (hfirst : Logbook.batchAfter c ≤ resumeFrom) (hanswers : JournalAnswers t) :
    ∃ c', j'.loadCheckpoint b.runId = .ok c' ∧
      recordsCounted c' = recordsCounted c + (recordsIn l.counted).length ∧
      (l.counted = [] ∧ c' = c ∨
        l.counted ≠ [] ∧ ∃ d, c' = some d ∧
          Logbook.batchAfter (some d) = resumeFrom + l.counted.length) := by
  obtain ⟨c', hc', hfollows⟩ := hafter.follows hc
  obtain ⟨hcounted, hlast⟩ := hfollows.recordings.chronicle hs.chronicle hanswers.recordings
    (h.isRow_counted hs).number hfirst
  rw [flatMap_map_batch] at hcounted
  refine ⟨c', hc', hcounted, ?_⟩
  rcases hlast with ⟨hnone, hsame⟩ | ⟨hsome, d, hd, hnext⟩
  · exact .inl ⟨List.map_eq_nil_iff.1 hnone, hsame⟩
  · rw [List.length_map] at hnext
    exact .inr ⟨fun hnone => hsome (List.map_eq_nil_iff.2 hnone), d, hd, hnext⟩

/-- After an import that counted batches under the id of a run without a checkpoint, and for which the
journal did all that it was asked to do, the checkpoint is at the last of them. -/
theorem Ledger.Settles.checkpoint_eq {b : Logbook} {j j' : Journal}
    (h : l.Settles config resumeFrom t outcome) (hs : l.Sorts config (some b) resumeFrom t)
    (hafter : Journal.After j t j') (hfresh : j.loadCheckpoint b.runId = .ok none)
    (hanswers : JournalAnswers t) :
    l.counted = [] ∧ j'.loadCheckpoint b.runId = .ok none ∨
      l.counted ≠ [] ∧ ∃ c, j'.loadCheckpoint b.runId = .ok (some c) ∧
        c.lastBatch + 1 = resumeFrom + l.counted.length := by
  obtain ⟨c', hc', -, hlast⟩ := h.exists_checkpoint hs hafter hfresh (Nat.zero_le _) hanswers
  rcases hlast with ⟨hnone, rfl⟩ | ⟨hsome, d, rfl, hd⟩
  · exact .inl ⟨hnone, hc'⟩
  · exact .inr ⟨hsome, d, hc', hd⟩

/-- What an import leaves behind, wherever it ends once its document has been opened.  The batches that
the store took, and the one that was in flight if the import was cancelled during a call of the store, are
the first ones of those into which the records are cut that were received, and also of those into which
all that are due are cut.  What the store took is what the statistics count and what the journal was told,
and the store has been written nothing else, except possibly the batch in flight.  If the journal did all
that it was asked to do and had no checkpoint of the run, it has none afterwards if no batch was counted,
and otherwise the one at the last of them. -/
theorem import_leaves_prefix (h : (importRun config logbook R resumeFrom).Yields t outcome)
    (hopened : documents t = [document]) :
    ∃ (l : Ledger R) (inFlight : List (Batch R)), l.Settles config resumeFrom t outcome ∧
      offers t = l.counted.map (fun c => (storedForms c.batch.entries, some c.report)) ++
        inFlight.map (fun b => (storedForms b.entries, none)) ∧
      l.counted.map (·.batch) ++ inFlight <+: batchesOf (max config.batchSize 1) resumeFrom
        (entriesOf R (receivedElements config resumeFrom t)) ∧
      l.counted.map (·.batch) ++ inFlight <+:
        batchesDue R (max config.batchSize 1) resumeFrom document ∧
      inFlight.length ≤ 1 ∧ (inFlight ≠ [] → outcome.cause? = some .cancelled) ∧
      outcome.statistics.batchesProcessed = l.counted.length ∧
      Chronicle logbook (l.counted.map (·.batch)) (recordings t) ∧
      (∀ s s', Scene.After document s t s' →
        ∃ bs, (bs = l.counted.map (·.batch) ∨ bs = l.counted.map (·.batch) ++ inFlight) ∧
          s'.store = (s.store.addMany (storedForms (bs.flatMap (·.entries)))).1) ∧
      ∀ b j j', logbook = some b → Journal.After j t j' → j.loadCheckpoint b.runId = .ok none →
        JournalAnswers t →
          if outcome.statistics.batchesProcessed = 0 then j'.loadCheckpoint b.runId = .ok none
          else ∃ c, j'.loadCheckpoint b.runId = .ok (some c) ∧
            c.lastBatch = resumeFrom + outcome.statistics.batchesProcessed - 1 := by
  obtain ⟨l, hsettles, hsorts⟩ := exists_sorted_ledger (R := R) h
  have hprocessed := hsettles.batchesProcessed_eq
  refine ⟨l, l.inFlight resumeFrom, hsettles, ?_, hsettles.batches_isPrefix_received hsorts,
    hsettles.batches_isPrefix hsorts hopened, ?_, ?_, hprocessed, hsorts.chronicle,
    fun s s' hafter => hsettles.store_eq hafter, ?_⟩
  · rw [hsettles.offers, offered_eq l resumeFrom]
  · unfold Ledger.inFlight
    split
    · exact Nat.le_refl 1
    · exact Nat.zero_le 1
  · intro hflight
    refine hsettles.unanswered ?_
    unfold Ledger.inFlight at hflight
    split at hflight
    · next hun => exact hun
    · exact absurd rfl hflight
  · rintro b j j' rfl hafter hfresh hanswers
    rw [hprocessed]
    rcases hsettles.checkpoint_eq hsorts hafter hfresh hanswers with ⟨hnone, hc⟩ | ⟨hsome, c, hc, hlast⟩
    · rw [if_pos (List.length_eq_zero_iff.2 hnone)]
      exact hc
    · rw [if_neg (mt List.length_eq_zero_iff.1 hsome)]
      exact ⟨c, hc, by omega⟩

/-- The store takes the first batch of one record and refuses the second. -/
theorem refused_import_leaves_prefix :
    ∃ (l : Ledger CardSet) (inFlight : List (Batch CardSet)), l.counted.length = 1 ∧ inFlight = [] ∧
      l.counted.map (·.batch) ++ inFlight <+: batchesDue CardSet 1 0 Sample.document ∧
      ∃ c, Sample.interrupted.journal.loadCheckpoint Sample.logbook.runId = .ok (some c) ∧
        c.lastBatch = 0 := by
  have hopened : documents (Sample.history 1 0 (Sample.scene, 1)) = [Sample.document] :=
    Sample.documents_history (by decide +kernel)
  have hanswers : JournalAnswers (Sample.history 1 0 (Sample.scene, 1)) := by decide +kernel
  obtain ⟨l, inFlight, -, -, -, hprefix, -, hflight, hprocessed, -, -, hcheckpoint⟩ :=
    import_leaves_prefix (Sample.yields_of_run Sample.run_refused) hopened
  have hafter := (Scene.after_of_run Sample.run_refused).journal
  refine ⟨l, inFlight, hprocessed.symm, ?_, hprefix, hcheckpoint Sample.logbook _ _ rfl hafter rfl hanswers⟩
  exact Classical.byContradiction fun hsome => by cases hflight hsome

end CatalogImport
