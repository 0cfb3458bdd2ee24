import CatalogImport.Proofs.Import.Resume

/-!
# Imports that are taken up with other batches

A checkpoint counts batches and does not say how large they were.  An import that is taken up with larger
batches than before therefore begins further on than the one before it got, and records in between are
lost.  Main statements: what exactly is not lost, and that nothing is when the batches have not become
larger (`nothing_lost_iff`); and that something may be lost when they have
(`not_all_held_after_larger_batches`).
-/

namespace CatalogImport

open CatalogImport.Json

variable {R : Type} [CatalogRecord R]

/-- A record with an id is in a store after records have been written exactly if one of them has its id,
or it was there before. -/
theorem holds_storedForms_iff {s : MemoryStore} {es : List (Entry R)} {id : String} (hid : id ≠ "")
    (hes : ∀ e ∈ es, ∃ form, CatalogRecord.stored e.record = .ok form) :
    (s.addMany (storedForms es)).1.Holds id ↔
      (∃ e ∈ es, CatalogRecord.id e.record = id) ∨ s.Holds id := by
  rw [MemoryStore.holds_addMany_iff hid]
  refine or_congr_left ?_
  constructor
  · rintro ⟨form, hform, rfl⟩
    obtain ⟨e, he, hstored⟩ := List.mem_filterMap.1 hform
    obtain ⟨form', hform'⟩ := hes e he
    rw [hform'] at hstored
    cases hstored
    exact ⟨e, he, (id_of_stored hform').symm⟩
  · rintro ⟨e, he, rfl⟩
    obtain ⟨form, hform⟩ := hes e he
    refine ⟨form, List.mem_filterMap.2 ⟨e, he, ?_⟩, id_of_stored hform⟩
    rw [hform]
    rfl

/-- What was in the store stays there. -/
theorem holds_of_holds {s : MemoryStore} {records : List Stored} {id : String} (h : s.Holds id) :
    (s.addMany records).1.Holds id := by
  unfold MemoryStore.Holds at h ⊢
  rw [MemoryStore.find?_addMany, Option.isSome_or, h, Bool.or_true]

section

variable {document : Reading} {b : Logbook} {config config₁ config₂ : Config} {s s' s₁ s₂ : Scene}
  {s₁' : Scene} {p : Task Outcome} {statistics : Statistics}

/-- An import that does all it has to writes all records from its first position on. -/
theorem Imports.holds_iff (h : Imports R document b config s (.done (.ok statistics)) s') :
    ∃ k, s.ResumesAt b.runId k ∧ ∀ id, id ≠ "" → (s'.store.Holds id ↔
      (∃ e ∈ entriesOf R document.elements.zipIdx,
        firstPosition k (max config.batchSize 1) ≤ e.position ∧ CatalogRecord.id e.record = id) ∨
      s.store.Holds id) := by
  obtain ⟨k, s₁, u, t, hresume, hscene, htold, hafter⟩ := h
  obtain ⟨rfl, hk⟩ := Scene.resumesAt_of_yields hresume hscene
  obtain ⟨batches, counted, more, rest, hadvance, hdone⟩ := exists_advance htold hafter
  obtain ⟨rfl, rfl⟩ := List.append_eq_nil_iff.1 (hdone rfl)
  have hdue := hadvance.due
  rw [List.append_nil, List.append_nil] at hdue
  refine ⟨k, hk, fun id hid => ?_⟩
  rw [hadvance.store, List.append_nil, holds_storedForms_iff hid hadvance.stored, ← hdue]
  refine or_congr_left (exists_congr fun e => ?_)
  rw [mem_entriesOf_drop_iff, and_assoc]

/-- After an import under the id of a run that had no checkpoint, every record before the position at
which the run would be taken up with batches of the same size is in the store. -/
theorem Imports.holds_of_lt (hfresh : s.journal.loadCheckpoint b.runId = .ok none)
    (h : Imports R document b config s p s') {k : Nat} (hk : s'.ResumesAt b.runId k) {e : Entry R}
    (he : e ∈ entriesOf R document.elements.zipIdx) (hid : CatalogRecord.id e.record ≠ "")
    (hlt : e.position < firstPosition k (max config.batchSize 1)) :
    s'.store.Holds (CatalogRecord.id e.record) := by
  obtain ⟨first, s₁, u, t, hresume, hscene, htold, hafter⟩ := h
  obtain ⟨rfl, c, hc, rfl⟩ := Scene.resumesAt_of_yields hresume hscene
  have hstart : s₁.ResumesAt b.runId (Logbook.batchAfter c) := ⟨c, hc, rfl⟩
  rw [hfresh] at hc
  cases hc
  obtain ⟨v, outcome, hyields, hafter⟩ := Scene.exists_completion htold hafter
  obtain ⟨batches, counted, more, rest, hadvance, -⟩ := exists_advance hyields hafter
  have hle := hafter.journal.le_of_resumesAt hstart hk hadvance.saves
  have hfirst : firstPosition (Logbook.batchAfter none) (max config.batchSize 1) = 0 := by
    unfold firstPosition Logbook.batchAfter
    simp
  have hdue := hadvance.due
  rw [hfirst, List.drop_zero, List.append_assoc] at hdue
  -- a record that was not counted lies behind the position
  have hcounted : e ∈ counted := by
    rw [hdue] at he
    rcases List.mem_append.1 he with hmem | hmem
    · exact hmem
    · have hdrop := mem_entriesOf_drop_iff.1 (hadvance.mem_drop_of_mem_rest hle e hmem)
      omega
  rw [hadvance.store, storedForms_append, MemoryStore.addMany_append]
  exact holds_of_holds ((holds_storedForms_iff hid hadvance.stored).2 (.inl ⟨e, hcounted, rfl⟩))

/-- When a run that had no checkpoint is taken up after its first import, and the second one does all it
has to, every record with an id is in the store exactly if each of those before the position at which the
second one began was in the store already or has the id of a later one.  So it is when the batches of the
second one are not larger than those of the first. -/
theorem nothing_lost_iff (hfresh : s.journal.loadCheckpoint b.runId = .ok none)
    (hfirst : Imports R document b config₁ s p s₁)
    (hreopened : s₁' = s₁ ∨ s₁' = s₁.reopened)
    (hsecond : Imports R document b config₂ s₁' (.done (.ok statistics)) s₂) :
    ∃ k, s₁.ResumesAt b.runId k ∧
      ((∀ e ∈ entriesOf R document.elements.zipIdx, CatalogRecord.id e.record ≠ "" →
          s₂.store.Holds (CatalogRecord.id e.record)) ↔
        ∀ e ∈ entriesOf R document.elements.zipIdx, CatalogRecord.id e.record ≠ "" →
          e.position < firstPosition k (max config₂.batchSize 1) →
          s₁.store.Holds (CatalogRecord.id e.record) ∨
            ∃ e' ∈ entriesOf R document.elements.zipIdx,
              firstPosition k (max config₂.batchSize 1) ≤ e'.position ∧
              CatalogRecord.id e'.record = CatalogRecord.id e.record) ∧
      (config₂.batchSize ≤ config₁.batchSize → ∀ e ∈ entriesOf R document.elements.zipIdx,
        CatalogRecord.id e.record ≠ "" → s₂.store.Holds (CatalogRecord.id e.record)) := by
  have hsame : s₁'.store = s₁.store ∧ ∀ k, s₁'.ResumesAt b.runId k → s₁.ResumesAt b.runId k := by
    rcases hreopened with rfl | rfl
    · exact ⟨rfl, fun _ hk => hk⟩
    · exact ⟨rfl, fun _ hk => hk⟩
  obtain ⟨k, hk', hholds⟩ := hsecond.holds_iff
  have hk := hsame.2 k hk'
  rw [hsame.1] at hholds
  have hiff : (∀ e ∈ entriesOf R document.elements.zipIdx, CatalogRecord.id e.record ≠ "" →
        s₂.store.Holds (CatalogRecord.id e.record)) ↔
      ∀ e ∈ entriesOf R document.elements.zipIdx, CatalogRecord.id e.record ≠ "" →
        e.position < firstPosition k (max config₂.batchSize 1) →
        s₁.store.Holds (CatalogRecord.id e.record) ∨
          ∃ e' ∈ entriesOf R document.elements.zipIdx,
            firstPosition k (max config₂.batchSize 1) ≤ e'.position ∧
            CatalogRecord.id e'.record = CatalogRecord.id e.record := by
    refine forall_congr' fun e => forall_congr' fun he => forall_congr' fun hid => ?_
    rw [hholds _ hid]
    constructor
    · intro h _
      exact h.symm
    · intro h
      by_cases hlt : e.position < firstPosition k (max config₂.batchSize 1)
      · exact (h hlt).symm
      · exact .inl ⟨e, he, Nat.le_of_not_lt hlt, rfl⟩
  refine ⟨k, hk, hiff, ?_⟩
  intro hsize
  refine hiff.2 fun e he hid hlt => .inl (hfirst.holds_of_lt hfresh hk he hid ?_)
  have hmul : k * max config₂.batchSize 1 ≤ k * max config₁.batchSize 1 :=
    Nat.mul_le_mul_left k (by omega)
  unfold firstPosition at hlt ⊢
  omega

end

theorem nothing_lost_with_batches_of_same_size :
    (Sample.run 1 1 (Sample.interrupted, 9)).2.1.store.Holds "a" ∧
      (Sample.run 1 1 (Sample.interrupted, 9)).2.1.store.Holds "b" := by
  have hfirst := Sample.imports_of_run (k := 0) (n := 1) rfl Sample.run_refused
  have hrun : (Sample.run 1 1 (Sample.interrupted, 9)).1 =
      .finished (.ok ⟨2, 2, 0, 2, 1, 0, .epoch, some .epoch⟩) := by decide +kernel
  have hsecond := Sample.imports_of_run Sample.resumePoint_interrupted hrun
  obtain ⟨-, -, -, hnothing⟩ := nothing_lost_iff (R := CardSet) (s := Sample.scene) rfl hfirst
    (.inl rfl) hsecond
  have hids : ∀ id ∈ ["a", "b"], id ≠ "" ∧ ∃ e ∈ entriesOf CardSet Sample.document.elements.zipIdx,
      CatalogRecord.id e.record = id := by decide +kernel
  have hheld : ∀ id ∈ ["a", "b"], (Sample.run 1 1 (Sample.interrupted, 9)).2.1.store.Holds id := by
    intro id hid
    obtain ⟨hne, e, he, rfl⟩ := hids id hid
    exact hnothing (Nat.le_refl 1) e he hne
  exact ⟨hheld "a" (by decide), hheld "b" (by decide)⟩

/-- With larger batches than before, not every record of a document is in the store after an import that
was taken up has done all it had to. -/
theorem not_all_held_after_larger_batches :
    ¬ ∀ (document : Reading) (b : Logbook) (config₁ config₂ : Config) (s s₁ s₂ : Scene)
        (p : Task Outcome) (statistics : Statistics),
      1 ≤ config₁.batchSize → 1 ≤ config₂.batchSize → config₂.skipValidationErrors = true →
      s.journal.loadCheckpoint b.runId = .ok none →
      Imports CardSet document b config₁ s p s₁ →
      Imports CardSet document b config₂ s₁ (.done (.ok statistics)) s₂ →
      ∀ e ∈ entriesOf CardSet document.elements.zipIdx,
        s₂.store.Holds (CatalogRecord.id e.record) := by
  intro hall
  have hfirst := Sample.imports_of_run (k := 0) (n := 1) rfl Sample.run_refused
  have hrun : (Sample.run 3 1 (Sample.interrupted, 9)).1 =
      .finished (.ok ⟨1, 1, 0, 1, 0, 0, .epoch, some .epoch⟩) := by decide +kernel
  have hsecond := Sample.imports_of_run Sample.resumePoint_interrupted hrun
  have hlost : ¬ ∀ e ∈ entriesOf CardSet Sample.document.elements.zipIdx,
      (Sample.run 3 1 (Sample.interrupted, 9)).2.1.store.Holds (CatalogRecord.id e.record) := by
    decide +kernel
  exact hlost (hall Sample.document Sample.logbook (Sample.config 1) (Sample.config 3) Sample.scene
    Sample.interrupted _ _ _ (Nat.le_refl 1) (by decide) rfl rfl hfirst hsecond)

end CatalogImport
