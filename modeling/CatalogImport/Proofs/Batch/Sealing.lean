import CatalogImport.Proofs.Batch.Calls
import CatalogImport.Proofs.Batch.Cut

/-!
# What a batcher seals

A batcher that is handed records one after the other seals a batch whenever it has enough of them.  Main
statements: what it has sealed then are the full ones of the batches into which the records are cut
(`pushAll_startingAt`), and with what it seals when it has to finish these are all of them
(`finish_pushAll_startingAt`).  Records that fill whole batches can be left out in front: the batches of
the others are the same without them (`drop_batchesOf`, `drop_fullBatchesOf`).
-/

namespace CatalogImport

variable {R : Type} {size first : Nat} {es fs : List (Entry R)}

/-! ## Full batches -/

/-- The batches of one size into which records are cut, less the last one if it is short. -/
def fullBatchesOf (size first : Nat) (es : List (Entry R)) : List (Batch R) :=
  (batchesOf size first es).take (es.length / size)

@[simp] theorem length_fullBatchesOf (size first : Nat) (es : List (Entry R)) :
    (fullBatchesOf size first es).length = es.length / size := by
  have hle : es.length / size ≤ batchCount size es.length := by
    rcases Nat.eq_zero_or_pos size with rfl | hsize
    · simp
    · apply Nat.div_le_div_right
      omega
  rw [fullBatchesOf, List.length_take, length_batchesOf]
  omega

theorem getElem?_fullBatchesOf {j : Nat} {b : Batch R} (h : (fullBatchesOf size first es)[j]? = some b) :
    (batchesOf size first es)[j]? = some b := by
  have hlt : j < es.length / size := by
    have hlt := (List.getElem?_eq_some_iff.1 h).1
    rwa [length_fullBatchesOf] at hlt
  rwa [fullBatchesOf, List.getElem?_take_of_lt hlt] at h

/-- Full batches that come one after the other, with fewer records behind them than make one, are the full
ones of those into which all these records are cut. -/
theorem IsRow.eq_fullBatchesOf {bs : List (Batch R)} {rest : List (Entry R)} (h : IsRow size first bs)
    (hfull : ∀ b ∈ bs, b.size = size) (hrest : rest.length < size) :
    bs = fullBatchesOf size first (bs.flatMap (·.entries) ++ rest) := by
  have hsize : 0 < size := by omega
  have hprefix : bs <+: batchesOf size first (bs.flatMap (·.entries) ++ rest) :=
    h.isPrefix_batchesOf hsize (.inl hfull)
  have hcount : (bs.flatMap (·.entries) ++ rest).length / size = bs.length := by
    rw [List.length_append, length_flatMap_entries hfull, Nat.add_comm, Nat.add_mul_div_right _ _ hsize,
      Nat.div_eq_of_lt hrest, Nat.zero_add]
  rw [fullBatchesOf, hcount]
  exact List.prefix_iff_eq_take.1 hprefix

/-! ## Leaving out whole batches -/

theorem batchCount_mul_add (hsize : 0 < size) (k n : Nat) :
    batchCount size (k * size + n) = k + batchCount size n := by
  unfold batchCount
  have hsum : k * size + n + size - 1 = n + size - 1 + k * size := by omega
  rw [hsum, Nat.add_mul_div_right _ _ hsize, Nat.add_comm]

/-- Behind records that fill whole batches, the batches are those of the other records. -/
theorem batchAt_add {k : Nat} (hk : es.length = k * size) (j : Nat) :
    batchAt size first (es ++ fs) (k + j) = batchAt size (first + k) fs j := by
  have hdrop : (es ++ fs).drop ((k + j) * size) = fs.drop (j * size) := by
    rw [Nat.add_mul, ← hk, List.drop_append, List.drop_of_length_le (by omega), List.nil_append]
    congr 1
    omega
  unfold batchAt
  rw [hdrop, Nat.add_assoc]

theorem drop_batchesOf {k : Nat} (hsize : 0 < size) (hk : es.length = k * size) :
    (batchesOf size first (es ++ fs)).drop k = batchesOf size (first + k) fs := by
  refine List.ext_getElem ?_ ?_
  · rw [List.length_drop, length_batchesOf, length_batchesOf, List.length_append, hk,
      batchCount_mul_add hsize]
    omega
  · intro j hj hj'
    rw [List.getElem_drop]
    simp only [batchesOf, List.getElem_map, List.getElem_range]
    exact batchAt_add hk j

theorem drop_fullBatchesOf {k : Nat} (hsize : 0 < size) (hk : es.length = k * size) :
    (fullBatchesOf size first (es ++ fs)).drop k = fullBatchesOf size (first + k) fs := by
  have hcount : (es ++ fs).length / size - k = fs.length / size := by
    rw [List.length_append, hk, Nat.add_comm, Nat.add_mul_div_right _ _ hsize, Nat.add_sub_cancel]
  rw [fullBatchesOf, List.drop_take, drop_batchesOf hsize hk, hcount, fullBatchesOf]

/-! ## Records pushed one after the other -/

namespace Batcher

/-- The batches that are sealed when records are pushed one after the other, and what the batcher becomes. -/
def pushAll (b : Batcher R) : List (Entry R) → List (Batch R) × Batcher R
  | [] => ([], b)
  | e :: es =>
    let pushed := b.push e.position e.record
    let rest := pushed.2.pushAll es
    (pushed.1.toList ++ rest.1, rest.2)

theorem pushAll_cons_of_pending {b b' : Batcher R} {e : Entry R} (h : b.push e.position e.record = (none, b'))
    (es : List (Entry R)) : b.pushAll (e :: es) = b'.pushAll es := by
  rw [pushAll, h]
  rfl

theorem pushAll_cons_of_sealed {b b' : Batcher R} {e : Entry R} {c : Batch R}
    (h : b.push e.position e.record = (some c, b')) (es : List (Entry R)) :
    b.pushAll (e :: es) = (c :: (b'.pushAll es).1, (b'.pushAll es).2) := by
  rw [pushAll, h]
  rfl

theorem pushAll_append (b : Batcher R) (es fs : List (Entry R)) :
    b.pushAll (es ++ fs) =
      ((b.pushAll es).1 ++ ((b.pushAll es).2.pushAll fs).1, ((b.pushAll es).2.pushAll fs).2) := by
  induction es generalizing b with
  | nil => rfl
  | cons e es ih =>
    rw [List.cons_append, pushAll, pushAll, ih, List.append_assoc]

/-- What a batcher that is handed records has sealed and become: nothing is lost, every batch is full, and
the numbers go on. -/
structure Seals (b : Batcher R) (es : List (Entry R)) (bs : List (Batch R)) (b' : Batcher R) : Prop where
  batchSize : b'.batchSize = b.batchSize
  nextNumber : b'.nextNumber = b.nextNumber + bs.length
  entries : bs.flatMap (·.entries) ++ b'.pending = b.pending ++ es
  full : ∀ c ∈ bs, c.size = b.batchSize
  number : ∀ (j : Nat) (c : Batch R), bs[j]? = some c → c.number = b.nextNumber + j

/-- To push records one after the other is to make as many calls. -/
theorem pushAll_eq (b : Batcher R) (es : List (Entry R)) :
    b.pushAll es = (b.sealedOver (Call.pushes es), b.afterAll (Call.pushes es)) := by
  induction es generalizing b with
  | nil => rfl
  | cons e es ih =>
    rw [pushAll, ih]
    exact Prod.ext (b.sealedOver_cons (.push e.position e.record) (Call.pushes es)).symm rfl

theorem seals_pushAll (b : Batcher R) (es : List (Entry R)) :
    b.Seals es (b.pushAll es).1 (b.pushAll es).2 := by
  have h := b.handlesAll_handleAll (Call.pushes es)
  rw [pushAll_eq]
  refine ⟨h.batchSize, h.nextNumber, ?_, ?_, h.number⟩
  · have hentries := h.entries
    rwa [Call.filterMap_entry?_pushes] at hentries
  · intro s hs
    obtain ⟨c, hc, hfills⟩ := exists_fills_of_mem_sealedOver hs
    obtain ⟨e, -, rfl⟩ := List.mem_map.1 hc
    exact hfills

namespace Seals

variable {b b' : Batcher R} {bs : List (Batch R)}

theorem isRow (h : b.Seals es bs b') : IsRow b.batchSize b.nextNumber bs where
  number := h.number
  bounds := by
    intro c hc
    have hfull := h.full c hc
    have hsize := b.batchSize_pos
    omega
  full := fun c hc => h.full c (List.dropLast_subset _ hc)

/-- With what is sealed at the end, the batches of a batcher that held nothing are those into which the
records are cut. -/
theorem concat_finish (h : b.Seals es bs b') (hempty : b.pending = []) :
    bs ++ b'.finish.1.toList = batchesOf b.batchSize b.nextNumber es := by
  have hentries := h.entries
  rw [hempty, List.nil_append] at hentries
  cases hfinish : b'.finish with
  | mk sealed b'' =>
    cases sealed with
    | none =>
      obtain ⟨hpending, -⟩ := finish_none hfinish
      rw [hpending, List.append_nil] at hentries
      rw [← hentries]
      simpa using h.isRow.eq_batchesOf b.batchSize_pos
    | some c =>
      obtain ⟨hpending, rfl, -⟩ := finish_sealed hfinish
      have hlt := b'.pending_lt
      have hpos := List.length_pos_iff.2 hpending
      have hrow : IsRow b.batchSize b.nextNumber (bs ++ [⟨b'.nextNumber, b'.pending⟩]) := by
        refine h.isRow.concat h.full h.nextNumber ⟨hpos, ?_⟩
        rw [← h.batchSize]
        exact Nat.le_of_lt hlt
      have hflat : (bs ++ [(⟨b'.nextNumber, b'.pending⟩ : Batch R)]).flatMap (·.entries) = es := by
        rw [List.flatMap_append, List.flatMap_singleton, hentries]
      have heq := hrow.eq_batchesOf b.batchSize_pos
      rw [hflat] at heq
      exact heq

theorem eq_fullBatchesOf (h : b.Seals es bs b') (hempty : b.pending = []) :
    bs = fullBatchesOf b.batchSize b.nextNumber es := by
  have hentries := h.entries
  rw [hempty, List.nil_append] at hentries
  rw [← hentries]
  apply h.isRow.eq_fullBatchesOf h.full
  rw [← h.batchSize]
  exact b'.pending_lt

end Seals

/-- A new batcher seals the full ones of the batches into which the records are cut. -/
theorem pushAll_startingAt (size first : Nat) (es : List (Entry R)) :
    ((startingAt size first).pushAll es).1 = fullBatchesOf (max size 1) first es :=
  (seals_pushAll (startingAt size first) es).eq_fullBatchesOf rfl

/-- With what it seals at the end these are all of them. -/
theorem finish_pushAll_startingAt (size first : Nat) (es : List (Entry R)) :
    ((startingAt size first).pushAll es).1 ++ ((startingAt size first).pushAll es).2.finish.1.toList =
      batchesOf (max size 1) first es :=
  (seals_pushAll (startingAt size first) es).concat_finish rfl

end Batcher

end CatalogImport
