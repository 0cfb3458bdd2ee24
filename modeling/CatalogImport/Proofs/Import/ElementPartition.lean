import CatalogImport.Proofs.Import.LedgerOfImport
import CatalogImport.Proofs.Import.Scene

/-!
# What becomes of an element

Every element that an import receives is in exactly one place of its ledger, once: in a batch that was
counted, among the rejected ones, in the batch that was lost, or among the records that were dropped with
the run.  Main statement: this holds of every import, whatever the store does and whenever it is
cancelled, and the counters and the kept records say the same (`exists_unique_fate`).
-/

namespace CatalogImport

open CatalogImport.Json

variable {R : Type}

/-! ## Places of a ledger -/

/-- What can become of an element. -/
inductive Fate where
  | counted
  | rejected
  | lost
  | dropped
  deriving DecidableEq

namespace Ledger

/-- The positions of the elements in one place of a ledger. -/
def positionsAt (l : Ledger R) : Fate → List Nat
  | .counted => (recordsIn l.counted).map (·.position)
  | .rejected => l.rejected.map (·.position)
  | .lost => l.lostEntries.map (·.position)
  | .dropped => l.held.map (·.position)

/-- The positions of all the elements in a ledger. -/
def positions (l : Ledger R) : List Nat :=
  l.positionsAt .counted ++ l.positionsAt .rejected ++ l.positionsAt .lost ++ l.positionsAt .dropped

/-- No position is in two places. -/
theorem eq_of_mem_positionsAt {l : Ledger R} (hnodup : l.positions.Nodup) {p : Nat} {a b : Fate}
    (ha : p ∈ l.positionsAt a) (hb : p ∈ l.positionsAt b) : a = b := by
  unfold positions at hnodup
  rw [List.nodup_append, List.nodup_append, List.nodup_append] at hnodup
  obtain ⟨⟨⟨-, -, h₁⟩, -, h₂⟩, -, h₃⟩ := hnodup
  cases a <;> cases b <;> grind

end Ledger

variable [CatalogRecord R]

/-! ## Positions -/

theorem Ledger.Settles.pairwise_position {config : Config} {resumeFrom : Nat} {t : History}
    {outcome : Outcome} {l : Ledger R} (h : l.Settles config resumeFrom t outcome) :
    (receivedElements config resumeFrom t).Pairwise (·.2 < ·.2) := by
  unfold receivedElements dueElements openedElements
  rcases h.opened with ⟨hnone, -⟩ | ⟨document, hsome⟩
  · rw [hnone, List.flatMap_nil, List.drop_nil, List.take_nil]
    exact .nil
  · rw [hsome, List.flatMap_singleton]
    exact ((pairwise_zipIdx document.elements 0).drop).take

/-- An element is a record or none. -/
theorem perm_position (xs : List (Value × Nat)) :
    ((entriesOf R xs).map (·.position) ++ (nonRecords R xs).map (·.2)).Perm (xs.map (·.2)) := by
  induction xs with
  | nil => exact .nil
  | cons x xs ih =>
    rw [← List.singleton_append, entriesOf_append, nonRecords_append]
    cases hv : CatalogRecord.validate (R := R) x.1 with
    | ok r =>
      rw [entriesOf_record hv, nonRecords_record hv]
      exact ih.cons x.2
    | error violation =>
      rw [entriesOf_nonRecord hv, nonRecords_nonRecord hv]
      exact List.perm_middle.trans (ih.cons x.2)

/-! ## Fates -/

/-- The entry is about the element, which is a record. -/
def IsEntryOf (e : Entry R) (x : Value × Nat) : Prop :=
  e.position = x.2 ∧ CatalogRecord.validate x.1 = .ok e.record

namespace Ledger

/-- The ledger of a run that ended for a cause, or did all it had to, says that this became of the
element: its record is in a batch that was counted, or one failed entry is about it that is of the stage
of validation, or one that carries the number of the lost batch and what is kept of the record, or its
record is among those that were dropped. -/
def Gives (l : Ledger R) (cause? : Option Cause) (x : Value × Nat) : Fate → Prop
  | .counted => ∃ c ∈ l.counted, ∃ e ∈ c.batch.entries, IsEntryOf e x
  | .rejected => ∃ f ∈ l.rejected, ValidationFailure R x f
  | .lost => ∃ cause b entries, cause? = some cause ∧ cause.batchNumber? = some b.number ∧
      l.lost = some (b, entries) ∧ ∃ e ∈ b.entries, ∃ f ∈ entries, IsEntryOf e x ∧
        LoadFailure b cause e f
  | .dropped => ∃ e ∈ l.held, IsEntryOf e x

theorem mem_positionsAt_of_gives {l : Ledger R} {cause? : Option Cause} {x : Value × Nat} {fate : Fate}
    (h : l.Gives cause? x fate) : x.2 ∈ l.positionsAt fate := by
  cases fate with
  | counted =>
    obtain ⟨c, hc, e, he, hposition, -⟩ := h
    exact List.mem_map.2 ⟨e, List.mem_flatMap.2 ⟨c, hc, he⟩, hposition⟩
  | rejected =>
    obtain ⟨f, hf, hfailure⟩ := h
    exact List.mem_map.2 ⟨f, hf, hfailure.position⟩
  | lost =>
    obtain ⟨cause, b, entries, -, -, hlost, e, -, f, hf, ⟨hposition, -⟩, hfailure⟩ := h
    refine List.mem_map.2 ⟨f, ?_, hfailure.position.trans hposition⟩
    rw [lostEntries, hlost]
    exact hf
  | dropped =>
    obtain ⟨e, he, hposition, -⟩ := h
    exact List.mem_map.2 ⟨e, he, hposition⟩

end Ledger

theorem map_position_rejected {xs : List (Value × Nat)} {fs : List FailedEntry}
    (h : List.Forall₂ (ValidationFailure R) xs fs) : fs.map (·.position) = xs.map (·.2) := by
  induction h with
  | nil => rfl
  | cons hfailure _ ih => rw [List.map_cons, List.map_cons, ih, hfailure.position]

theorem map_position_lost {b : Batch R} {cause : Cause} {es : List (Entry R)} {fs : List FailedEntry}
    (h : List.Forall₂ (LoadFailure b cause) es fs) :
    fs.map (·.position) = es.map (·.position) := by
  induction h with
  | nil => rfl
  | cons hfailure _ ih => rw [List.map_cons, List.map_cons, ih, hfailure.position]

section

variable {config : Config} {resumeFrom : Nat} {t : History} {outcome : Outcome} {l : Ledger R}

theorem Ledger.Settles.map_position_lostEntries (h : l.Settles config resumeFrom t outcome) :
    l.lostEntries.map (·.position) = l.lostRecords.map (·.position) := by
  unfold Ledger.lostEntries Ledger.lostRecords
  cases hlost : l.lost with
  | none => rfl
  | some lost =>
    obtain ⟨cause, -, -, hentries⟩ := h.lost lost.1 lost.2 hlost
    exact map_position_lost hentries

/-- A ledger has the positions of the elements that were received, and no other. -/
theorem Ledger.Settles.perm_positions (h : l.Settles config resumeFrom t outcome) :
    l.positions.Perm ((receivedElements config resumeFrom t).map (·.2)) := by
  refine List.Perm.trans ?_ (perm_position (R := R) _)
  rw [h.records, ← map_position_rejected h.rejected, List.map_append, List.map_append,
    ← h.map_position_lostEntries]
  unfold Ledger.positions Ledger.positionsAt
  -- only the rejected elements stand at another place
  have hmove (as bs cs ds : List Nat) : (as ++ bs ++ cs ++ ds).Perm (as ++ cs ++ ds ++ bs) := by
    rw [List.append_assoc, List.append_assoc, List.append_assoc, List.append_assoc,
      ← List.append_assoc cs]
    exact List.perm_append_comm.append_left as
  exact hmove _ _ _ _

theorem Ledger.Settles.nodup_positions (h : l.Settles config resumeFrom t outcome) :
    l.positions.Nodup := by
  refine h.perm_positions.nodup_iff.2 (List.pairwise_map.2 (h.pairwise_position.imp ?_))
  intro x y hlt
  exact Nat.ne_of_lt hlt

/-- Every element that was received has a fate. -/
theorem Ledger.Settles.exists_fate (h : l.Settles config resumeFrom t outcome) {x : Value × Nat}
    (hx : x ∈ receivedElements config resumeFrom t) : ∃ fate, l.Gives outcome.cause? x fate := by
  cases hv : CatalogRecord.validate (R := R) x.1 with
  | error violation =>
    have hmem : x ∈ nonRecords R (receivedElements config resumeFrom t) := by
      refine List.mem_filter.2 ⟨hx, ?_⟩
      rw [hv]
      rfl
    exact ⟨.rejected, exists_mem_of_forall₂ h.rejected hmem⟩
  | ok r =>
    have hentry : IsEntryOf (⟨x.2, r⟩ : Entry R) x := ⟨rfl, hv⟩
    have hmem : (⟨x.2, r⟩ : Entry R) ∈ entriesOf R (receivedElements config resumeFrom t) := by
      refine List.mem_filterMap.2 ⟨x, hx, ?_⟩
      rw [hv]
      rfl
    rw [h.records] at hmem
    rcases List.mem_append.1 hmem with hmem | hheld
    · rcases List.mem_append.1 hmem with hcounted | hlost
      · obtain ⟨c, hc, he⟩ := List.mem_flatMap.1 hcounted
        exact ⟨.counted, c, hc, _, he, hentry⟩
      · unfold Ledger.lostRecords at hlost
        cases hlostBatch : l.lost with
        | none =>
          rw [hlostBatch] at hlost
          cases hlost
        | some lost =>
          rw [hlostBatch] at hlost
          obtain ⟨cause, hcause, hnumber, hentries⟩ := h.lost lost.1 lost.2 hlostBatch
          obtain ⟨f, hf, hfailure⟩ := exists_mem_of_forall₂ hentries hlost
          exact ⟨.lost, cause, lost.1, lost.2, hcause, hnumber, hlostBatch, _, hlost, f, hf, hentry,
            hfailure⟩
    · exact ⟨.dropped, _, hheld, hentry⟩

theorem Ledger.Settles.length_lostEntries (h : l.Settles config resumeFrom t outcome) :
    l.lostEntries.length = l.lostRecords.length := by
  have hlength := congrArg List.length h.map_position_lostEntries
  rwa [List.length_map, List.length_map] at hlength

end

/-- Of every import there is a ledger that gives each element that was received exactly one fate, and
that has the position of each of them once and no other.  An import that did all it had to received all
elements from its first position on.  The counted batches are those that the store took as a whole, with
its reports, and those that the statistics count.  At most one batch of records is dropped, and none when
the import did all it had to.  The failed entries were to be kept once, unless there are none or they are
not kept at all. -/
theorem exists_unique_fate {config : Config} {logbook : Option Logbook} {resumeFrom : Nat}
    {t : History} {outcome : Outcome}
    (h : (importRun config logbook R resumeFrom).Yields t outcome) :
    ∃ l : Ledger R,
      (receivedElements config resumeFrom t).length = received t ∧
      (outcome.cause? = none →
        receivedElements config resumeFrom t = dueElements config resumeFrom t) ∧
      (∀ x ∈ receivedElements config resumeFrom t, ∃! fate, l.Gives outcome.cause? x fate) ∧
      l.positions.Perm ((receivedElements config resumeFrom t).map (·.2)) ∧ l.positions.Nodup ∧
      offers t = l.offered ∧
      (∀ c ∈ l.counted, c.batch.stored = .ok (storedForms c.batch.entries)) ∧
      outcome.statistics.batchesProcessed = l.counted.length ∧
      outcome.statistics.successfulInserts = successesIn l.counted ∧
      outcome.statistics.failedInserts = failuresIn l.counted + l.lostEntries.length ∧
      outcome.statistics.totalRecords =
        (recordsIn l.counted).length + l.lostEntries.length + l.held.length ∧
      outcome.statistics.processingErrors = l.rejected.length ∧
      l.held.length ≤ max config.batchSize 1 ∧ (outcome.cause? = none → l.held = []) ∧
      keepings t = keepingsOf config (CatalogRecord.kind R) (l.rejected ++ l.lostEntries) := by
  obtain ⟨l, hl⟩ := exists_ledger h
  obtain ⟨s, moment, hstatistics, herrors, htally⟩ := hl.statistics
  have hlost := hl.length_lostEntries
  refine ⟨l, hl.length, hl.complete, ?_, hl.perm_positions, hl.nodup_positions, hl.offers, ?_, ?_, ?_, ?_,
    ?_, ?_, hl.held_length_le, ?_, hl.keepings⟩
  · intro x hx
    obtain ⟨fate, hfate⟩ := hl.exists_fate hx
    refine ⟨fate, hfate, ?_⟩
    intro other hother
    exact Ledger.eq_of_mem_positionsAt hl.nodup_positions (Ledger.mem_positionsAt_of_gives hother)
      (Ledger.mem_positionsAt_of_gives hfate)
  · intro c hc
    obtain ⟨i, hi⟩ := List.mem_iff_getElem?.1 hc
    exact (hl.batches i c hi).stored
  · rw [hstatistics]
    exact htally.batchesProcessed
  · rw [hstatistics]
    exact htally.successfulInserts
  · rw [hstatistics, hlost]
    exact htally.failedInserts
  · rw [hstatistics, hlost]
    exact htally.totalRecords
  · rw [hstatistics]
    exact herrors
  · intro hdone
    have hheld := hl.heldAt
    rw [hdone] at hheld
    exact hheld

theorem exists_unique_fate_in_refused_run :
    ∃ l : Ledger CardSet, l.counted.length = 1 ∧ l.rejected.length = 1 ∧
      failuresIn l.counted + l.lostEntries.length = 1 ∧
      ∀ x ∈ receivedElements (Sample.config 1) 0 (Sample.history 1 0 (Sample.scene, 1)),
        ∃! fate, l.Gives (some Sample.refused.cause) x fate := by
  obtain ⟨l, -, -, hunique, -, -, -, -, hbatches, -, hfailed, -, herrors, -⟩ :=
    exists_unique_fate (Sample.yields_of_run Sample.run_refused)
  exact ⟨l, hbatches.symm, herrors.symm, hfailed.symm, hunique⟩

end CatalogImport
