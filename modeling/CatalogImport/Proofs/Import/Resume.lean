import CatalogImport.Proofs.Import.Checkpoint
import CatalogImport.Proofs.Import.LedgerOfImport
import CatalogImport.Proofs.Import.Scene
import CatalogImport.Proofs.Index

/-!
# Imports that are taken up again

An import that is cut short has written a first part of the records that were due, and the checkpoint
says no more than that (`exists_advance`).  The next import therefore comes again to everything that has
not been written, and to no record but in order, so that the last record with an id is the last one
written; this is what `AgreeBefore` carries along.  Main statement: imports that are cut short and taken
up again end as one import does that is not (`resumed_imports_end_alike`).
-/

namespace CatalogImport

open CatalogImport.Json

variable {R : Type} [CatalogRecord R]

/-! ## How far an import gets -/

/-- How far an import from a batch on gets in a store: of the records that are due, it has counted some,
possibly a few more have been written, and the rest has not. -/
structure Advance (document : Reading) (size resumeFrom : Nat) (t : History) (s s' : MemoryStore)
    (batches : Nat) (counted more rest : List (Entry R)) : Prop where
  due : entriesOf R (document.elements.zipIdx.drop (firstPosition resumeFrom size)) =
    counted ++ more ++ rest
  store : s' = (s.addMany (storedForms (counted ++ more))).1
  stored : ∀ e ∈ counted, ∃ form, CatalogRecord.stored e.record = .ok form
  full : batches * size ≤ counted.length ∨ more ++ rest = []
  saves : ∀ c ∈ saves t, c.lastBatch < resumeFrom + batches

/-- Of what a ledger has offered, the counted batches were written, and what else was is an offer that
was not answered. -/
theorem written_counted {cs : List (Counted R)} {last : List (List Stored × Option BatchResult)}
    {written : List Stored}
    (h : Scene.Written
      (cs.map (fun c => (storedForms c.batch.entries, some c.report)) ++ last) written) :
    ∃ more, written = storedForms (recordsIn cs) ++ more ∧ Scene.Written last more := by
  induction cs generalizing written with
  | nil => exact ⟨written, rfl, h⟩
  | cons c cs ih =>
    rw [List.map_cons, List.cons_append] at h
    cases h with
    | taken _ _ hrest =>
      obtain ⟨more, rfl, hmore⟩ := ih hrest
      refine ⟨more, ?_, hmore⟩
      rw [← List.singleton_append, recordsIn_append, recordsIn_singleton, storedForms_append,
        List.append_assoc]

/-- What was received is the first part of what was due in the document, and all of it when the import
did all it had to. -/
theorem Ledger.Settles.exists_due {config : Config} {resumeFrom : Nat} {t : History}
    {outcome : Outcome} {l : Ledger R} {document : Reading}
    (h : l.Settles config resumeFrom t outcome) (hdocument : ∀ d ∈ documents t, d = document) :
    ∃ rest, document.elements.zipIdx.drop (firstPosition resumeFrom (max config.batchSize 1)) =
      receivedElements config resumeFrom t ++ rest ∧ (outcome.cause? = none → rest = []) := by
  rcases h.opened with ⟨hnone, hcause⟩ | ⟨d, hsome⟩
  · refine ⟨document.elements.zipIdx.drop (firstPosition resumeFrom (max config.batchSize 1)), ?_,
      fun hdone => absurd hdone hcause⟩
    rw [receivedElements, dueElements, openedElements, hnone, List.flatMap_nil, List.drop_nil,
      List.take_nil, List.nil_append]
  · have hd : d = document := by
      apply hdocument
      rw [hsome]
      exact List.mem_singleton.2 rfl
    have hdue : dueElements config resumeFrom t =
        document.elements.zipIdx.drop (firstPosition resumeFrom (max config.batchSize 1)) := by
      rw [dueElements, openedElements, hsome, List.flatMap_singleton, hd]
    refine ⟨(dueElements config resumeFrom t).drop (received t), ?_, ?_⟩
    · rw [← hdue, receivedElements, List.take_append_drop]
    · intro hdone
      have hcomplete := congrArg List.length (h.complete hdone)
      rw [h.length] at hcomplete
      rw [hcomplete, List.drop_length]

/-- However an import ends, there is a number of batches by which it has got on. -/
theorem exists_advance {config : Config} {logbook : Option Logbook} {resumeFrom : Nat} {t : History}
    {outcome : Outcome} {document : Reading} {s s' : Scene}
    (h : (importRun config logbook R resumeFrom).Yields t outcome)
    (hs : Scene.After document s t s') :
    ∃ (batches : Nat) (counted more rest : List (Entry R)),
      Advance document (max config.batchSize 1) resumeFrom t s.store s'.store batches counted more
        rest ∧ (outcome.cause? = none → more ++ rest = []) := by
  obtain ⟨l, hl⟩ := exists_ledger h
  obtain ⟨unreceived, hdue, hunreceived⟩ := hl.exists_due hs.documents
  have hentries : entriesOf R
      (document.elements.zipIdx.drop (firstPosition resumeFrom (max config.batchSize 1))) =
      recordsIn l.counted ++ l.lostRecords ++ l.held ++ entriesOf R unreceived := by
    rw [hdue, entriesOf_append, hl.records]
  obtain ⟨written, hwritten, hstore⟩ := hs.store
  rw [hl.offers, Ledger.offered] at hwritten
  obtain ⟨more, rfl, hmore⟩ := written_counted hwritten
  have hstored : ∀ e ∈ recordsIn l.counted, ∃ form, CatalogRecord.stored e.record = .ok form := by
    intro e he
    obtain ⟨c, hc, hec⟩ := List.mem_flatMap.1 he
    obtain ⟨i, hi⟩ := List.mem_iff_getElem?.1 hc
    exact exists_stored_of_mem (hl.batches i c hi).stored hec
  -- a run that did all it had to has left nothing, and any other one has counted whole batches only
  have hdone : outcome.cause? = none →
      l.lostRecords = [] ∧ l.held = [] ∧ entriesOf R unreceived = [] := by
    intro hnone
    have hheld := hl.heldAt
    rw [hnone] at hheld
    refine ⟨hl.lost_eq_none ?_, hheld, ?_⟩
    · intro cause hsome
      rw [hnone] at hsome
      cases hsome
    · rw [hunreceived hnone, entriesOf_nil]
  have hfull : outcome.cause? ≠ none →
      l.counted.length * max config.batchSize 1 ≤ (recordsIn l.counted).length := by
    intro hcause
    exact Nat.le_of_eq (length_recordsIn (hl.full hcause)).symm
  cases hun : l.isUnanswered with
  | false =>
    rw [hun, if_neg Bool.false_ne_true] at hmore
    cases hmore
    rw [List.append_nil] at hstore
    refine ⟨l.counted.length, recordsIn l.counted, [],
      l.lostRecords ++ l.held ++ entriesOf R unreceived, ⟨?_, ?_, hstored, ?_, hl.saves⟩, ?_⟩
    · rw [hentries]
      simp
    · rw [List.append_nil, hstore]
    · by_cases hcause : outcome.cause? = none
      · obtain ⟨h₁, h₂, h₃⟩ := hdone hcause
        rw [h₁, h₂, h₃]
        exact .inr rfl
      · exact .inl (hfull hcause)
    · intro hcause
      obtain ⟨h₁, h₂, h₃⟩ := hdone hcause
      rw [h₁, h₂, h₃]
      rfl
  | true =>
    have hcause := hl.unanswered hun
    have hsome : outcome.cause? ≠ none := by
      rw [hcause]
      exact Option.some_ne_none _
    have hlost : l.lostRecords = [] := by
      refine hl.lost_eq_none ?_
      intro cause hcause'
      rw [hcause] at hcause'
      cases hcause'
      rfl
    rw [hlost, List.append_nil] at hentries
    rw [hun, if_pos rfl] at hmore
    cases hmore with
    | done _ hrest =>
      cases hrest
      refine ⟨l.counted.length, recordsIn l.counted, l.held, entriesOf R unreceived,
        ⟨hentries, ?_, hstored, .inl (hfull hsome), hl.saves⟩, fun hnone => absurd hnone hsome⟩
      rw [hstore, List.append_nil, storedForms_append]
    | undone _ hrest =>
      cases hrest
      refine ⟨l.counted.length, recordsIn l.counted, [], l.held ++ entriesOf R unreceived,
        ⟨?_, ?_, hstored, .inl (hfull hsome), hl.saves⟩, fun hnone => absurd hnone hsome⟩
      · rw [hentries]
        simp
      · rw [hstore, List.append_nil, List.append_nil]

/-! ## Where an import is taken up -/

/-- So many batches more put the first position off by no more than their records. -/
theorem firstPosition_le {resumeFrom resumeFrom' batches size : Nat}
    (h : resumeFrom' ≤ resumeFrom + batches) :
    firstPosition resumeFrom' size ≤ firstPosition resumeFrom size + batches * size := by
  have hmul : resumeFrom' * size ≤ resumeFrom * size + batches * size := by
    rw [← Nat.add_mul]
    exact Nat.mul_le_mul_right size h
  unfold firstPosition
  omega

namespace Scene

/-- An import that is taken up in the scene under the id of a run would begin with a batch. -/
def ResumesAt (s : Scene) (runId : String) (k : Nat) : Prop := s.journal.ResumesAt runId k

/-- Asking where to take an import up changes nothing, and the answer is right. -/
theorem resumesAt_of_yields {document : Reading} {s s' : Scene} {b : Logbook} {t : History} {k : Nat}
    (h : b.resumePoint.Yields t (.ok k)) (hs : After document s t s') :
    s' = s ∧ s.ResumesAt b.runId k := by
  refine ⟨?_, (hs.journal.resumesAt_of_yields h).2⟩
  obtain ⟨c, rfl, -⟩ := Journal.exists_checkpoint_of_resumePoint h
  cases hs with
  | cons hfirst hrest =>
    cases hrest
    exact hfirst.2

end Scene

/-! ## What an import leaves behind -/

/-- Two stores agree about all ids that no record from a position on has. -/
def AgreeBefore (R : Type) [CatalogRecord R] (document : Reading) (first : Nat)
    (s s' : MemoryStore) : Prop :=
  ∀ id, MemoryStore.lastPayload id
      (storedForms (entriesOf R (document.elements.zipIdx.drop first))) = none →
    s.records.find? id = s'.records.find? id

/-- The store into which all records of a document have been written in order. -/
def MemoryStore.filled (R : Type) [CatalogRecord R] (document : Reading) (s : MemoryStore) :
    MemoryStore :=
  (s.addMany (storedForms (entriesOf R document.elements.zipIdx))).1

theorem entriesOf_take_drop (vs : List Value) (first : Nat) :
    entriesOf R vs.zipIdx =
      entriesOf R (vs.zipIdx.take first) ++ entriesOf R (vs.zipIdx.drop first) := by
  rw [← entriesOf_append, List.take_append_drop]

/-- What is found in the filled store is what the records from a position on make of what those before
it leave. -/
theorem find?_filled (document : Reading) (s : MemoryStore) (first : Nat) (id : String) :
    (s.filled R document).records.find? id =
      (MemoryStore.lastPayload id
        (storedForms (entriesOf R (document.elements.zipIdx.drop first)))).or
      ((MemoryStore.lastPayload id
        (storedForms (entriesOf R (document.elements.zipIdx.take first)))).or
        (s.records.find? id)) := by
  rw [MemoryStore.filled, MemoryStore.find?_addMany, entriesOf_take_drop _ first,
    storedForms_append, MemoryStore.lastPayload_append, Option.or_assoc]

/-- Before the first position there is nothing to agree about but the store itself. -/
theorem agreeBefore_zero (document : Reading) (s : MemoryStore) :
    AgreeBefore R document 0 s (s.filled R document) := by
  intro id hid
  rw [find?_filled document s 0 id, hid, List.take_zero]
  rfl

/-- What has not been written lies behind the batches by which the import has got on. -/
theorem Advance.mem_drop_of_mem_rest {document : Reading} {size k k' batches : Nat} {t : History}
    {s s' : MemoryStore} {counted more rest : List (Entry R)}
    (h : Advance document size k t s s' batches counted more rest) (hk : k' ≤ k + batches) :
    ∀ e ∈ more ++ rest, e ∈ entriesOf R (document.elements.zipIdx.drop (firstPosition k' size)) := by
  intro e he
  have hdue := h.due
  rw [List.append_assoc] at hdue
  have hmem : e ∈ entriesOf R (document.elements.zipIdx.drop (firstPosition k size)) := by
    rw [hdue]
    exact List.mem_append_right _ he
  have hpairwise : (counted ++ (more ++ rest)).Pairwise (·.position < ·.position) := by
    rw [← hdue]
    exact pairwise_entriesOf (pairwise_zipIdx document.elements 0).drop
  have hfirst : ∀ e ∈ counted ++ (more ++ rest), firstPosition k size ≤ e.position := by
    rw [← hdue]
    exact fun e he => (mem_entriesOf_drop_iff.1 he).2
  have hposition := add_length_le_position hpairwise hfirst e he
  refine mem_entriesOf_drop_iff.2 ⟨(mem_entriesOf_drop_iff.1 hmem).1, ?_⟩
  have hle : firstPosition k' size ≤ firstPosition k size + batches * size := firstPosition_le hk
  rcases h.full with hfull | hnothing
  · omega
  · rw [hnothing] at he
    cases he

theorem storedForms_subset {es es' : List (Entry R)} (h : es ⊆ es') :
    storedForms es ⊆ storedForms es' := List.filterMap_subset _ h

/-- An import keeps the stores in agreement from where it was taken up to where the next one is. -/
theorem Advance.agreeBefore {document : Reading} {size k k' batches : Nat} {t : History}
    {s s' s₀ : MemoryStore} {counted more rest : List (Entry R)}
    (h : Advance document size k t s s' batches counted more rest) (hk : k' ≤ k + batches)
    (hs : AgreeBefore R document (firstPosition k size) s (s₀.filled R document)) :
    AgreeBefore R document (firstPosition k' size) s' (s₀.filled R document) := by
  intro id hid
  have hrest : MemoryStore.lastPayload id (storedForms rest) = none := by
    refine MemoryStore.lastPayload_eq_none_of_subset (storedForms_subset ?_) hid
    intro e he
    exact h.mem_drop_of_mem_rest hk e (List.mem_append_right _ he)
  have hdue : MemoryStore.lastPayload id
      (storedForms (entriesOf R (document.elements.zipIdx.drop (firstPosition k size)))) =
      MemoryStore.lastPayload id (storedForms (counted ++ more)) := by
    rw [h.due, storedForms_append, MemoryStore.lastPayload_append, hrest, Option.none_or]
  rw [h.store, MemoryStore.find?_addMany]
  cases hwritten : MemoryStore.lastPayload id (storedForms (counted ++ more)) with
  | some v =>
    rw [find?_filled document s₀ (firstPosition k size) id, hdue, hwritten]
    rfl
  | none =>
    rw [hwritten] at hdue
    rw [Option.none_or]
    exact hs id hdue

/-- An import that leaves nothing unwritten makes the stores agree. -/
theorem Advance.find?_eq {document : Reading} {size k batches : Nat} {t : History}
    {s s' s₀ : MemoryStore} {counted more rest : List (Entry R)}
    (h : Advance document size k t s s' batches counted more rest) (hdone : more ++ rest = [])
    (hs : AgreeBefore R document (firstPosition k size) s (s₀.filled R document)) (id : String) :
    s'.records.find? id = (s₀.filled R document).records.find? id := by
  obtain ⟨rfl, rfl⟩ := List.append_eq_nil_iff.1 hdone
  have hdue := h.due
  rw [List.append_nil, List.append_nil] at hdue
  rw [h.store, MemoryStore.find?_addMany, List.append_nil, ← hdue]
  cases hwritten : MemoryStore.lastPayload id
      (storedForms (entriesOf R (document.elements.zipIdx.drop (firstPosition k size)))) with
  | some v =>
    rw [find?_filled document s₀ (firstPosition k size) id, hwritten]
    rfl
  | none =>
    rw [Option.none_or]
    exact hs id hwritten

/-! ## Imports one after the other -/

/-- An import of a document under the id of a run is taken up in a scene where the checkpoint says, and
is told answers that lead to another scene.  It has then become its outcome, or, when it was cut short,
anything else. -/
def Imports (R : Type) [CatalogRecord R] (document : Reading) (b : Logbook) (config : Config)
    (s : Scene) (p : Task Outcome) (s' : Scene) : Prop :=
  ∃ (k : Nat) (s₁ : Scene) (u t : History), b.resumePoint.Yields u (.ok k) ∧
    Scene.After document s u s₁ ∧ (importRun config (some b) R k).Told t p ∧
    Scene.After document s₁ t s'

/-- Any number of imports with one size of batches came one after the other, and each was cut short
anywhere.  Between two of them the journal may have been closed and opened again. -/
inductive Interrupted (R : Type) [CatalogRecord R] (document : Reading) (b : Logbook) (size : Nat) :
    Scene → Scene → Prop
  | nil (s : Scene) : Interrupted R document b size s s
  | reopened {s s' : Scene}
      (hrest : Interrupted R document b size s.reopened s') : Interrupted R document b size s s'
  | cons {s s₁ s' : Scene} {config : Config} {p : Task Outcome} (hsize : config.batchSize = size)
      (himport : Imports R document b config s p s₁)
      (hrest : Interrupted R document b size s₁ s') : Interrupted R document b size s s'

/-- An import leads from scenes in which the stores agree before the first position to such scenes. -/
theorem Imports.agreeBefore {document : Reading} {b : Logbook} {config : Config} {s s' : Scene}
    {p : Task Outcome} {s₀ : MemoryStore} (h : Imports R document b config s p s')
    (hs : ∀ k, s.ResumesAt b.runId k → AgreeBefore R document
      (firstPosition k (max config.batchSize 1)) s.store (s₀.filled R document)) :
    ∀ k, s'.ResumesAt b.runId k → AgreeBefore R document
      (firstPosition k (max config.batchSize 1)) s'.store (s₀.filled R document) := by
  obtain ⟨k, s₁, u, t, hresume, hscene, htold, hafter⟩ := h
  obtain ⟨rfl, hk⟩ := Scene.resumesAt_of_yields hresume hscene
  obtain ⟨v, outcome, hyields, hafter⟩ := Scene.exists_completion htold hafter
  obtain ⟨batches, counted, more, rest, hadvance, -⟩ := exists_advance hyields hafter
  intro k' hk'
  exact hadvance.agreeBefore (hafter.journal.le_of_resumesAt hk hk' hadvance.saves) (hs k hk)

theorem Interrupted.agreeBefore {document : Reading} {b : Logbook} {size : Nat} {s s' : Scene}
    {s₀ : MemoryStore} (h : Interrupted R document b size s s')
    (hs : ∀ k, s.ResumesAt b.runId k → AgreeBefore R document
      (firstPosition k (max size 1)) s.store (s₀.filled R document)) :
    ∀ k, s'.ResumesAt b.runId k → AgreeBefore R document
      (firstPosition k (max size 1)) s'.store (s₀.filled R document) := by
  induction h with
  | nil s => exact hs
  | reopened _ ih => exact ih hs
  | cons hsize himport _ ih =>
    subst hsize
    exact ih (himport.agreeBefore hs)

/-- An import that does all it has to leaves the store that is filled with the document. -/
theorem Imports.find?_eq {document : Reading} {b : Logbook} {config : Config} {s s' : Scene}
    {statistics : Statistics} {s₀ : MemoryStore}
    (h : Imports R document b config s (.done (.ok statistics)) s')
    (hs : ∀ k, s.ResumesAt b.runId k → AgreeBefore R document
      (firstPosition k (max config.batchSize 1)) s.store (s₀.filled R document)) (id : String) :
    s'.store.records.find? id = (s₀.filled R document).records.find? id := by
  obtain ⟨k, s₁, u, t, hresume, hscene, htold, hafter⟩ := h
  obtain ⟨rfl, hk⟩ := Scene.resumesAt_of_yields hresume hscene
  obtain ⟨batches, counted, more, rest, hadvance, hdone⟩ := exists_advance htold hafter
  exact hadvance.find?_eq (hdone rfl) (hs k hk) id

/-- An import from the first batch that does all it has to fills the store. -/
theorem store_eq_filled {document : Reading} {logbook : Option Logbook} {config : Config}
    {s s' : Scene} {t : History} {statistics : Statistics}
    (h : (importRun config logbook R 0).Yields t (.ok statistics))
    (hs : Scene.After document s t s') : s'.store = s.store.filled R document := by
  obtain ⟨batches, counted, more, rest, hadvance, hdone⟩ := exists_advance h hs
  have hfirst : firstPosition 0 (max config.batchSize 1) = 0 := by
    unfold firstPosition
    omega
  have hdue := hadvance.due
  rw [hfirst, List.drop_zero, List.append_assoc, hdone rfl, List.append_nil] at hdue
  rw [hadvance.store, (List.append_eq_nil_iff.1 (hdone rfl)).1, List.append_nil, ← hdue]
  rfl

theorem agreeBefore_of_fresh {document : Reading} {runId : String} {size : Nat} {s : Scene}
    (hfresh : s.journal.loadCheckpoint runId = .ok none) :
    ∀ k, s.ResumesAt runId k → AgreeBefore R document (firstPosition k size) s.store
      (s.store.filled R document) := by
  rintro k ⟨c, hc, rfl⟩
  rw [hfresh] at hc
  cases hc
  have hfirst : firstPosition (Logbook.batchAfter none) size = 0 := by
    unfold firstPosition Logbook.batchAfter
    simp
  rw [hfirst]
  exact agreeBefore_zero document s.store

/-- Imports that are cut short and taken up again end as one import does that is not.  Any number of them
under the id of a run that has no checkpoint, with one size of batches, each of them cut short anywhere,
and a last one that does all it has to, leave the store with the records that a single import from the
first batch leaves: all those of the document, written in order. -/
theorem resumed_imports_end_alike {document : Reading} {b : Logbook} {size : Nat}
    {s s₁ s₂ s₀ : Scene} {config config₀ : Config} {logbook₀ : Option Logbook} {t₀ : History}
    {statistics statistics₀ : Statistics}
    (hfresh : s.journal.loadCheckpoint b.runId = .ok none)
    (hcut : Interrupted R document b size s s₁) (hsize : config.batchSize = size)
    (hlast : Imports R document b config s₁ (.done (.ok statistics)) s₂)
    (honce : (importRun config₀ logbook₀ R 0).Yields t₀ (.ok statistics₀))
    (hafter : Scene.After document s t₀ s₀) :
    s₂.store.records = s₀.store.records ∧ s₀.store = s.store.filled R document := by
  subst hsize
  have hfilled := store_eq_filled honce hafter
  refine ⟨Index.ext_find? fun id => ?_, hfilled⟩
  rw [hlast.find?_eq (hcut.agreeBefore (agreeBefore_of_fresh hfresh)) id, hfilled]

namespace Sample

/-- An import in a scene, taken up where the checkpoint says. -/
theorem imports_of_run {batchSize k n : Nat} {s : Scene} {outcome : Outcome}
    (hresume : (logbook.resumePoint.run (Scene.surroundings document) (s, n)).1 = .finished (.ok k))
    (hrun : (run batchSize k (s, n)).1 = .finished outcome) :
    Imports CardSet document logbook (config batchSize) s (.done outcome)
      (run batchSize k (s, n)).2.1 := by
  have hscene : (logbook.resumePoint.run (Scene.surroundings document) (s, n)).2 = (s, n) := rfl
  have hafter := Scene.after_of_run hresume
  rw [hscene] at hafter
  exact ⟨k, s, _, _, Program.run_yields hresume, hafter, Program.run_yields hrun,
    Scene.after_of_run hrun⟩

end Sample

theorem resumed_imports_end_alike_after_refusal :
    (Sample.run 1 1 (Sample.interrupted, 9)).2.1.store.records =
        (Sample.run 1 0 (Sample.scene, 9)).2.1.store.records ∧
      (Sample.run 1 0 (Sample.scene, 9)).2.1.store =
        Sample.scene.store.filled CardSet Sample.document := by
  have hfresh : Sample.scene.journal.loadCheckpoint Sample.logbook.runId = .ok none := rfl
  have hfirst := Sample.imports_of_run (k := 0) (n := 1) rfl Sample.run_refused
  have hlast : (Sample.run 1 1 (Sample.interrupted, 9)).1 =
      .finished (.ok ⟨2, 2, 0, 2, 1, 0, .epoch, some .epoch⟩) := by decide +kernel
  have honce : (Sample.run 1 0 (Sample.scene, 9)).1 =
      .finished (.ok ⟨3, 3, 0, 3, 1, 0, .epoch, some .epoch⟩) := by decide +kernel
  exact resumed_imports_end_alike hfresh (.cons rfl hfirst (.nil _)) rfl
    (Sample.imports_of_run Sample.resumePoint_interrupted hlast) (Sample.yields_of_run honce)
    (Scene.after_of_run honce)

end CatalogImport
