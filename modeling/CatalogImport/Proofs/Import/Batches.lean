import CatalogImport.Proofs.Batch.Sealing
import CatalogImport.Proofs.Import.LedgerOfImport

/-!
# The batches of an import

The batches that an import hands to the store come out of its document alone: the records that are due
are cut into them, and the store and the surroundings only say how many of them there are before it ends.
Main statements: the batches that were counted or may have been written are the first ones of those into
which the records are cut (`Ledger.Settles.batches_isPrefix`), and all of them when the import did all it
had to (`Ledger.Settles.batches_eq`).
-/

namespace CatalogImport

open CatalogImport.Json

section

variable (R : Type) [CatalogRecord R] (size resumeFrom : Nat) (document : Reading)

/-- The records of a document that are due in an import from a batch on, when batches have a certain
size: those at the positions from the first one of that batch on. -/
def recordsDue : List (Entry R) :=
  entriesOf R (document.elements.zipIdx.drop (firstPosition resumeFrom size))

/-- The batches into which the records that are due are cut. -/
def batchesDue : List (Batch R) := batchesOf size resumeFrom (recordsDue R size resumeFrom document)

end

/-! ## Sealed batches -/

section

variable {R : Type} {size first : Nat} {es fs : List (Entry R)} {cause? : Option Cause}

/-- The batches that a run seals of the records it has received, by why it ends.  Unless it gets to the
end, or has to stop at a batch, these are the full ones. -/
def sealedBatches (size first : Nat) (es : List (Entry R)) (cause? : Option Cause) : List (Batch R) :=
  if cause?.all (·.batchNumber?.isSome) then batchesOf size first es else fullBatchesOf size first es

@[simp] theorem sealedBatches_nil (size first : Nat) (cause? : Option Cause) :
    sealedBatches size first ([] : List (Entry R)) cause? = [] := by
  unfold sealedBatches
  split <;> simp [fullBatchesOf, batchesOf]

@[simp] theorem sealedBatches_none (size first : Nat) (es : List (Entry R)) :
    sealedBatches size first es none = batchesOf size first es := rfl

@[simp] theorem sealedBatches_source (size first : Nat) (es : List (Entry R)) (e : SourceError) :
    sealedBatches size first es (some (.source e)) = fullBatchesOf size first es := rfl

theorem number_sealedBatches {i : Nat} {b : Batch R} (h : (sealedBatches size first es cause?)[i]? = some b) :
    b.number = first + i := by
  unfold sealedBatches at h
  split at h
  · exact number_batchesOf h
  · exact number_batchesOf (getElem?_fullBatchesOf h)

theorem entries_subset_of_mem_sealedBatches {b : Batch R}
    (h : b ∈ sealedBatches size first es cause?) : b.entries ⊆ es := by
  have hmem : b ∈ batchesOf size first es := by
    unfold sealedBatches at h
    split at h
    · exact h
    · exact List.mem_of_mem_take h
  obtain ⟨j, -, rfl⟩ := List.mem_map.1 hmem
  exact List.Subset.trans (List.take_subset _ _) (List.drop_subset _ _)

theorem le_length_sealedBatches {k : Nat} (hsize : 0 < size) (hk : k * size ≤ es.length) :
    k ≤ (sealedBatches size first es cause?).length := by
  have hfull : k ≤ (fullBatchesOf size first es).length := by
    rw [length_fullBatchesOf]
    exact (Nat.le_div_iff_mul_le hsize).2 hk
  unfold sealedBatches
  split
  · exact Nat.le_trans hfull (List.take_sublist _ _).length_le
  · exact hfull

/-- Records that fill whole batches can be left out in front. -/
theorem drop_sealedBatches {k : Nat} (hsize : 0 < size) (hk : es.length = k * size) :
    (sealedBatches size first (es ++ fs) cause?).drop k = sealedBatches size (first + k) fs cause? := by
  unfold sealedBatches
  split
  · exact drop_batchesOf hsize hk
  · exact drop_fullBatchesOf hsize hk

end

/-! ## The batches of a ledger -/

variable {R : Type} {l : Ledger R}

/-- The batch of which nobody knows what the store did with it, if there is one. -/
def Ledger.inFlight (l : Ledger R) (first : Nat) : List (Batch R) :=
  if l.isUnanswered then [⟨first + l.counted.length, l.held⟩] else []

/-- The batches of a ledger that the store may have written: those that were counted, and the one in
flight. -/
def Ledger.batches (l : Ledger R) (first : Nat) : List (Batch R) :=
  l.counted.map (·.batch) ++ l.inFlight first

/-- The batches have the counted records, and those that are held if they may have been written. -/
theorem flatMap_batches (l : Ledger R) (first : Nat) :
    (l.batches first).flatMap (·.entries) =
      recordsIn l.counted ++ if l.isUnanswered then l.held else [] := by
  rw [Ledger.batches, Ledger.inFlight, List.flatMap_append, flatMap_map_batch]
  cases l.isUnanswered with
  | false => rfl
  | true => simp

variable [CatalogRecord R] {config : Config} {logbook : Option Logbook} {resumeFrom : Nat}
  {t : History} {outcome : Outcome} {document : Reading}

/-- What was offered to the store are the batches that were counted, with its reports, and the one in
flight. -/
theorem offered_eq (l : Ledger R) (first : Nat) :
    l.offered = l.counted.map (fun c => (storedForms c.batch.entries, some c.report)) ++
      (l.inFlight first).map fun b => (storedForms b.entries, none) := by
  unfold Ledger.offered Ledger.inFlight
  cases l.isUnanswered with
  | false => rfl
  | true => rfl

namespace Ledger.Settles

/-- The batches that were counted come one after the other. -/
theorem isRow_counted (h : l.Settles config resumeFrom t outcome)
    (hs : l.Sorts config logbook resumeFrom t) :
    IsRow (max config.batchSize 1) resumeFrom (l.counted.map (·.batch)) where
  number := by
    intro j b hb
    rw [List.getElem?_map] at hb
    obtain ⟨c, hc, rfl⟩ := Option.map_eq_some_iff.1 hb
    exact (h.batches j c hc).number
  bounds := by
    intro b hb
    obtain ⟨c, hc, rfl⟩ := List.mem_map.1 hb
    exact ⟨hs.nonempty c hc, h.sizes c hc⟩
  full := by
    intro b hb
    rw [← List.map_dropLast] at hb
    obtain ⟨c, hc, rfl⟩ := List.mem_map.1 hb
    exact hs.full_dropLast c hc

theorem isRow_batches (h : l.Settles config resumeFrom t outcome)
    (hs : l.Sorts config logbook resumeFrom t) :
    IsRow (max config.batchSize 1) resumeFrom (l.batches resumeFrom) := by
  have hrow := h.isRow_counted hs
  unfold Ledger.batches Ledger.inFlight
  cases hun : l.isUnanswered with
  | false =>
    rw [if_neg Bool.false_ne_true, List.append_nil]
    exact hrow
  | true =>
    have hcause : outcome.cause? ≠ none := by
      rw [h.unanswered hun]
      exact Option.some_ne_none _
    have hheld := (hs.inFlight hun).1
    rw [if_pos rfl]
    refine hrow.concat ?_ ?_ ⟨List.length_pos_of_ne_nil hheld, h.held_length_le⟩
    · intro b hb
      obtain ⟨c, hc, rfl⟩ := List.mem_map.1 hb
      exact h.full hcause c hc
    · rw [List.length_map]

/-- An import that did all it had to has opened its document. -/
theorem documents_eq (h : l.Settles config resumeFrom t outcome) (hdone : outcome.cause? = none)
    (hdocuments : ∀ d ∈ documents t, d = document) : documents t = [document] := by
  rcases h.opened with ⟨-, hcause⟩ | ⟨d, hd⟩
  · exact absurd hdone hcause
  · rw [hd, hdocuments d (hd ▸ List.mem_cons_self)]

/-- The records that are due are those of the elements that are. -/
theorem recordsDue_eq (hopened : documents t = [document]) :
    recordsDue R (max config.batchSize 1) resumeFrom document =
      entriesOf R (dueElements config resumeFrom t) := by
  rw [recordsDue, dueElements, openedElements, hopened, List.flatMap_singleton]

/-- Of an import that did all it had to, the records that were received are those that were counted. -/
theorem received_eq_counted (h : l.Settles config resumeFrom t outcome)
    (hdone : outcome.cause? = none) :
    entriesOf R (receivedElements config resumeFrom t) = recordsIn l.counted := by
  have hlost : l.lostRecords = [] := by
    refine h.lost_eq_none fun cause hcause => ?_
    rw [hdone] at hcause
    cases hcause
  have hheld := h.heldAt
  rw [hdone] at hheld
  rw [h.records, hlost, hheld, List.append_nil, List.append_nil]

theorem isUnanswered_eq_false (h : l.Settles config resumeFrom t outcome)
    (hcause : outcome.cause? ≠ some .cancelled) : l.isUnanswered = false := by
  cases hun : l.isUnanswered with
  | false => rfl
  | true => exact absurd (h.unanswered hun) hcause

/-- The records that were received are those of the batches and those that were not handed to the store.
Only if there are none of the latter, and no more elements to come, may a batch be short. -/
theorem exists_rest (h : l.Settles config resumeFrom t outcome)
    (hs : l.Sorts config logbook resumeFrom t) :
    ∃ rest, entriesOf R (receivedElements config resumeFrom t) =
        (l.batches resumeFrom).flatMap (·.entries) ++ rest ∧
      ((∀ b ∈ l.batches resumeFrom, b.size = max config.batchSize 1) ∨
        rest = [] ∧ receivedElements config resumeFrom t = dueElements config resumeFrom t) := by
  have hcounted : outcome.cause? ≠ none →
      ∀ b ∈ l.counted.map (·.batch), b.size = max config.batchSize 1 := by
    intro hcause b hb
    obtain ⟨c, hc, rfl⟩ := List.mem_map.1 hb
    exact h.full hcause c hc
  rw [flatMap_batches]
  cases hun : l.isUnanswered with
  | false =>
    rw [if_neg Bool.false_ne_true, List.append_nil]
    by_cases hcause : outcome.cause? = none
    · refine ⟨[], ?_, .inr ⟨rfl, h.complete hcause⟩⟩
      rw [List.append_nil]
      exact h.received_eq_counted hcause
    · refine ⟨l.lostRecords ++ l.held, h.records.trans (List.append_assoc ..), .inl ?_⟩
      unfold Ledger.batches Ledger.inFlight
      rw [hun, if_neg Bool.false_ne_true, List.append_nil]
      exact hcounted hcause
  | true =>
    have hcause := h.unanswered hun
    have hlost : l.lostRecords = [] := by
      refine h.lost_eq_none fun cause hcause' => ?_
      rw [hcause] at hcause'
      cases hcause'
      rfl
    rw [if_pos rfl]
    refine ⟨[], ?_, ?_⟩
    · rw [h.records, hlost, List.append_nil, List.append_nil]
    · obtain ⟨-, hfull | hall⟩ := hs.inFlight hun
      · left
        intro b hb
        unfold Ledger.batches Ledger.inFlight at hb
        rw [hun, if_pos rfl] at hb
        rcases List.mem_append.1 hb with hb | hb
        · refine hcounted ?_ b hb
          rw [hcause]
          exact Option.some_ne_none _
        · obtain rfl := List.mem_singleton.1 hb
          exact hfull
      · exact .inr ⟨rfl, hall⟩

/-- The batches that were counted or may have been written are the first ones of those into which the
records that were received are cut. -/
theorem batches_isPrefix_received (h : l.Settles config resumeFrom t outcome)
    (hs : l.Sorts config logbook resumeFrom t) :
    l.batches resumeFrom <+: batchesOf (max config.batchSize 1) resumeFrom
      (entriesOf R (receivedElements config resumeFrom t)) := by
  obtain ⟨rest, hrest, hfull⟩ := h.exists_rest hs
  rw [hrest]
  exact (h.isRow_batches hs).isPrefix_batchesOf (by omega) (hfull.imp_right And.left)

/-- They are also the first ones of those into which all records that are due are cut. -/
theorem batches_isPrefix (h : l.Settles config resumeFrom t outcome)
    (hs : l.Sorts config logbook resumeFrom t) (hopened : documents t = [document]) :
    l.batches resumeFrom <+: batchesDue R (max config.batchSize 1) resumeFrom document := by
  obtain ⟨rest, hrest, hfull⟩ := h.exists_rest hs
  have hrow := h.isRow_batches hs
  unfold batchesDue
  rw [recordsDue_eq hopened]
  rcases hfull with hfull | ⟨rfl, hall⟩
  · have hdue : entriesOf R (dueElements config resumeFrom t) =
        entriesOf R (receivedElements config resumeFrom t) ++
          entriesOf R ((dueElements config resumeFrom t).drop (received t)) := by
      rw [receivedElements, ← entriesOf_append, List.take_append_drop]
    rw [hdue, hrest, List.append_assoc]
    exact hrow.isPrefix_batchesOf (by omega) (.inl hfull)
  · rw [← hall, hrest]
    exact hrow.isPrefix_batchesOf (by omega) (.inr rfl)

theorem counted_isPrefix (h : l.Settles config resumeFrom t outcome)
    (hs : l.Sorts config logbook resumeFrom t) (hopened : documents t = [document]) :
    l.counted.map (·.batch) <+: batchesDue R (max config.batchSize 1) resumeFrom document :=
  (List.prefix_append _ _).trans (h.batches_isPrefix hs hopened)

/-- An import that did all it had to, or could not read its document further, has counted all batches that
it sealed. -/
theorem counted_eq_sealedBatches (h : l.Settles config resumeFrom t outcome)
    (hs : l.Sorts config logbook resumeFrom t)
    (hcause : outcome.cause? = none ∨ ∃ e, outcome.cause? = some (.source e)) :
    l.counted.map (·.batch) = sealedBatches (max config.batchSize 1) resumeFrom
      (entriesOf R (receivedElements config resumeFrom t)) outcome.cause? := by
  have hrow := h.isRow_counted hs
  rcases hcause with hdone | ⟨e, hsource⟩
  · rw [hdone, sealedBatches_none, h.received_eq_counted hdone, ← flatMap_map_batch]
    exact hrow.eq_batchesOf (by omega)
  · have hlost : l.lostRecords = [] := by
      refine h.lost_eq_none fun cause hcause => ?_
      rw [hsource] at hcause
      cases hcause
      rfl
    have hheld : l.held.length < max config.batchSize 1 := by
      have hheld := h.heldAt
      rwa [hsource] at hheld
    have hfull : ∀ b ∈ l.counted.map (·.batch), b.size = max config.batchSize 1 := by
      intro b hb
      obtain ⟨c, hc, rfl⟩ := List.mem_map.1 hb
      refine h.full ?_ c hc
      rw [hsource]
      exact Option.some_ne_none _
    rw [hsource, sealedBatches_source, h.records, hlost, List.append_nil,
      ← flatMap_map_batch]
    exact hrow.eq_fullBatchesOf hfull hheld

/-- The batches of an import that did all it had to are those into which the records that are due are
cut, and all of them were counted. -/
theorem batches_eq (h : l.Settles config resumeFrom t outcome)
    (hs : l.Sorts config logbook resumeFrom t) (hopened : documents t = [document])
    (hdone : outcome.cause? = none) :
    l.counted.map (·.batch) = batchesDue R (max config.batchSize 1) resumeFrom document := by
  rw [h.counted_eq_sealedBatches hs (.inl hdone), hdone, h.complete hdone, ← recordsDue_eq hopened]
  rfl

end Ledger.Settles

end CatalogImport
