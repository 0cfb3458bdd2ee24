import CatalogImport.Proofs.Import.Undisturbed

/-!
# The suffix that a resumed import submits

An import may leave out the first batches of a document.  If their elements are all records, it submits
from there on what an import of the whole document does, and rejects what that rejects: the import starts
with nothing in its open batch, and the other one has nothing in it when it gets to the same place.  Main
statement: `resumed_import_submits_suffix`.
-/

namespace CatalogImport

open CatalogImport.Json

/-! ## Entries of rejected elements -/

/-- What an entry says, without its id and its moment, which are new each time. -/
def FailedEntry.content (f : FailedEntry) : FailedEntry := { f with id := "", failedAt := .epoch }

section

variable {R : Type} [CatalogRecord R]

/-- What an entry says about an element that is no record comes out of the element. -/
theorem ValidationFailure.content_eq {x : Value × Nat} {f f' : FailedEntry}
    (h : ValidationFailure R x f) (h' : ValidationFailure R x f') : f.content = f'.content := by
  obtain ⟨violation, hinvalid, hmessage⟩ := h.message
  obtain ⟨violation', hinvalid', hmessage'⟩ := h'.message
  rw [hinvalid] at hinvalid'
  cases hinvalid'
  have hposition := h.position.trans h'.position.symm
  have hraw := h.rawData.trans h'.rawData.symm
  have hwords := hmessage.trans hmessage'.symm
  have hstage := h.stage.trans h'.stage.symm
  have hbatch := h.batchNumber.trans h'.batchNumber.symm
  simp only [FailedEntry.content, hposition, hraw, hwords, hstage, hbatch]

theorem contents_eq {xs : List (Value × Nat)} {fs fs' : List FailedEntry}
    (h : List.Forall₂ (ValidationFailure R) xs fs) (h' : List.Forall₂ (ValidationFailure R) xs fs') :
    fs.map (·.content) = fs'.map (·.content) := by
  induction h generalizing fs' with
  | nil =>
    cases h'
    rfl
  | cons hfirst _ ih =>
    cases h' with
    | cons hfirst' hrest' =>
      rw [List.map_cons, List.map_cons, hfirst.content_eq hfirst', ih hrest']

/-! ## Elements that are all records -/

theorem length_entriesOf_of_records {xs : List (Value × Nat)}
    (h : ∀ x ∈ xs, ∃ r : R, CatalogRecord.validate x.1 = .ok r) :
    (entriesOf R xs).length = xs.length := by
  induction xs with
  | nil => rfl
  | cons x xs ih =>
    obtain ⟨r, hvalid⟩ := h x List.mem_cons_self
    rw [← List.singleton_append, entriesOf_append, entriesOf_record hvalid, List.length_append,
      List.length_append, ih fun y hy => h y (List.mem_cons_of_mem x hy)]
    rfl

theorem nonRecords_of_records {xs : List (Value × Nat)}
    (h : ∀ x ∈ xs, ∃ r : R, CatalogRecord.validate x.1 = .ok r) : nonRecords R xs = [] := by
  refine List.filter_eq_nil_iff.2 fun x hx => ?_
  obtain ⟨r, hvalid⟩ := h x hx
  simp [hvalid, Except.isOk, Except.toBool]

end

/-- The batches that are left out of a document are at its first positions, as long as these can be told in
64 bits. -/
theorem Reading.elementsDue_zero (document : Reading) {size k : Nat} (hk : k * size < Nat.pow 2 64) :
    document.elementsDue size 0 =
      document.elements.zipIdx.take (k * size) ++ document.elementsDue size k := by
  have hzero : firstPosition 0 size = 0 := by
    unfold firstPosition
    omega
  have hfirst : firstPosition k size = k * size := by
    unfold firstPosition
    omega
  rw [elementsDue, elementsDue, hzero, hfirst, List.drop_zero, List.take_append_drop]

section

variable {R : Type} [CatalogRecord R] [CatalogRecord.Storable R]

/-- An import that is taken up at a batch submits what an import of the whole document submits from that
batch on, if the elements before it are all records.  Nothing disturbs the two imports, and they have one
size of batches; the document may be such that it cannot be read to its end.  Positions have 64 bits, also
that of the first element that is not left out.  The batches that were taken are those of the other import
less the first ones: they have the same numbers, and the same records at the same positions.  As many
elements were rejected, and the entries about them, which were kept or not, say the same but for their ids
and moments. -/
theorem resumed_import_submits_suffix {document : Reading} {config config' : Config}
    {logbook logbook' : Option Logbook} {k : Nat} {t t' : History} {outcome outcome' : Outcome}
    (hsize : config'.batchSize = config.batchSize)
    (hk : k * max config.batchSize 1 ≤ document.elements.length)
    (hrecords : ∀ v ∈ document.elements.take (k * max config.batchSize 1),
      ∃ r : R, CatalogRecord.validate v = .ok r)
    (hposition : k * max config.batchSize 1 < Nat.pow 2 64)
    (h : Undisturbed R document config logbook 0 t outcome)
    (h' : Undisturbed R document config' logbook' k t' outcome') :
    ∃ l l' : Ledger R, l.Settles config 0 t outcome ∧ l'.Settles config' k t' outcome' ∧
      offers t = l.counted.map (fun c => (storedForms c.batch.entries, some c.report)) ∧
      offers t' = l'.counted.map (fun c => (storedForms c.batch.entries, some c.report)) ∧
      Chronicle logbook (l.counted.map (·.batch)) (recordings t) ∧
      Chronicle logbook' (l'.counted.map (·.batch)) (recordings t') ∧
      k ≤ l.counted.length ∧
      l'.counted.map (·.batch) = (l.counted.map (·.batch)).drop k ∧
      outcome'.statistics.processingErrors = outcome.statistics.processingErrors ∧
      keepings t = keepingsOf config (CatalogRecord.kind R) l.rejected ∧
      keepings t' = keepingsOf config' (CatalogRecord.kind R) l'.rejected ∧
      l'.rejected.map (·.content) = l.rejected.map (·.content) := by
  have hpos : 0 < max config.batchSize 1 := by omega
  obtain ⟨l, hl, hsorts, hcovers⟩ := h.exists_ledger
  obtain ⟨l', hl', hsorts', hcovers'⟩ := h'.exists_ledger
  rw [hsize] at hcovers'
  -- the elements that are left out are all records, and fill whole batches
  have hvalid : ∀ x ∈ document.elements.zipIdx.take (k * max config.batchSize 1),
      ∃ r : R, CatalogRecord.validate x.1 = .ok r := by
    intro x hx
    refine hrecords x.1 ?_
    have hmem := List.mem_map_of_mem (f := Prod.fst) hx
    rwa [List.map_take, List.zipIdx_map_fst] at hmem
  have hlength : (entriesOf R (document.elements.zipIdx.take (k * max config.batchSize 1))).length =
      k * max config.batchSize 1 := by
    rw [length_entriesOf_of_records hvalid, List.length_take, List.length_zipIdx]
    omega
  have hdue : recordsDue R (max config.batchSize 1) 0 document =
      entriesOf R (document.elements.zipIdx.take (k * max config.batchSize 1)) ++
        recordsDue R (max config.batchSize 1) k document := by
    have helements := congrArg (entriesOf R) (document.elementsDue_zero hposition)
    rwa [entriesOf_append] at helements
  have hothers : nonRecords R (document.elementsDue (max config.batchSize 1) 0) =
      nonRecords R (document.elementsDue (max config.batchSize 1) k) := by
    rw [document.elementsDue_zero hposition, nonRecords_append, nonRecords_of_records hvalid,
      List.nil_append]
  refine ⟨l, l', hl, hl', hcovers.offers_eq hl, hcovers'.offers_eq hl', hsorts.chronicle,
    hsorts'.chronicle, ?_, ?_, ?_, hcovers.keepings_eq hl, hcovers'.keepings_eq hl', ?_⟩
  · rw [← List.length_map (·.batch), hcovers.batches]
    refine le_length_sealedBatches hpos ?_
    rw [hdue, List.length_append, hlength]
    exact Nat.le_add_right _ _
  · rw [hcovers'.batches, hcovers.batches, hdue, drop_sealedBatches hpos hlength, Nat.zero_add]
  · rw [hcovers'.processingErrors_eq hl', hcovers.processingErrors_eq hl, hothers]
  · have hrejected := hcovers.rejected
    rw [hothers] at hrejected
    exact contents_eq hcovers'.rejected hrejected

end

/-- The sample is imported in batches of one record, and once more from the second batch on. -/
theorem resumed_import_of_sample_submits_suffix :
    ∃ l l' : Ledger CardSet, l.counted.length = 3 ∧ l'.counted.length = 2 ∧
      l'.counted.map (·.batch) = (l.counted.map (·.batch)).drop 1 ∧
      l'.rejected.map (·.content) = l.rejected.map (·.content) := by
  have hrun : (Sample.run 1 0 (Sample.scene, 9)).1 =
      .finished (.ok ⟨3, 3, 0, 3, 1, 0, .epoch, some .epoch⟩) := by decide +kernel
  have hrun' : (Sample.run 1 1 (Sample.scene, 9)).1 =
      .finished (.ok ⟨2, 2, 0, 2, 1, 0, .epoch, some .epoch⟩) := by decide +kernel
  have hvalid : (CardSet.validate (Sample.element "a" "First")).isOk = true := by decide +kernel
  have hrecords : ∀ v ∈ Sample.document.elements.take (1 * max (Sample.config 1).batchSize 1),
      ∃ r : CardSet, CatalogRecord.validate v = .ok r := by
    intro v hv
    obtain rfl := List.mem_singleton.1 hv
    cases hfirst : CardSet.validate (Sample.element "a" "First") with
    | error violation =>
      rw [hfirst] at hvalid
      cases hvalid
    | ok r => exact ⟨r, hfirst⟩
  have hcount : (offers (Sample.history 1 0 (Sample.scene, 9))).length = 3 := by decide +kernel
  obtain ⟨l, l', -, -, hoffers, -, -, -, -, hbatches, -, -, -, hrejected⟩ :=
    resumed_import_submits_suffix (k := 1) rfl (by decide) hrecords (by decide)
      (Sample.undisturbed_of_run hrun (by decide +kernel))
      (Sample.undisturbed_of_run hrun' (by decide +kernel))
  rw [hoffers, List.length_map] at hcount
  refine ⟨l, l', hcount, ?_, hbatches, hrejected⟩
  have hlength := congrArg List.length hbatches
  rw [List.length_map, List.length_drop, List.length_map] at hlength
  omega

end CatalogImport
