import CatalogImport.Proofs.Import.BatchSubmissions

/-!
# Batch numbers and positions

An import numbers its batches from the one on with which it begins, and begins at the position at which
that one would lie if all batches before it had been full.  Batches never come faster than positions do,
so the number of a batch times the size of a full one is never beyond the position of its first record.
Main statement: this holds of every batch that an import seals, and so neither the numbers of batches nor
those in checkpoints run out of their 64 bits (`numbers_keep_pace`).
-/

namespace CatalogImport

open CatalogImport.Json

section

variable {R : Type} {size first : Nat} {es : List (Entry R)}

/-- In a batch, as many positions lie before each record as its number and its place in the batch say. -/
theorem add_le_position_of_mem_batchesOf (hpairwise : es.Pairwise (·.position < ·.position))
    (hfirst : ∀ e ∈ es, first * size ≤ e.position) {b : Batch R} (hb : b ∈ batchesOf size first es)
    {i : Nat} {e : Entry R} (he : b.entries[i]? = some e) : b.number * size + i ≤ e.position := by
  obtain ⟨j, -, rfl⟩ := List.mem_map.1 hb
  have hi : i < size := by
    have hlt : i < (batchAt size first es j).size := (List.getElem?_eq_some_iff.1 he).1
    rw [size_batchAt] at hlt
    omega
  have hplace : es[j * size + i]? = some e := by
    unfold batchAt at he
    rwa [List.getElem?_take_of_lt hi, List.getElem?_drop] at he
  obtain ⟨hlt, rfl⟩ := List.getElem?_eq_some_iff.1 hplace
  have hsplit := List.take_append_drop (j * size + i) es
  have hmem : es[j * size + i] ∈ es.drop (j * size + i) := by
    rw [List.drop_eq_getElem_cons hlt]
    exact List.mem_cons_self
  have hle := add_length_le_position (hsplit.symm ▸ hpairwise) (hsplit.symm ▸ hfirst) _ hmem
  rw [List.length_take, Nat.min_eq_left (Nat.le_of_lt hlt)] at hle
  show (first + j) * size + i ≤ _
  rw [Nat.add_mul]
  omega

/-- The number of a batch, times the size of a full one, is at most the position of its first record. -/
theorem exists_firstPosition (hsize : 0 < size) (hpairwise : es.Pairwise (·.position < ·.position))
    (hfirst : ∀ e ∈ es, first * size ≤ e.position) {b : Batch R} (hb : b ∈ batchesOf size first es) :
    ∃ e ∈ es, b.firstPosition? = some e.position ∧ b.number * size ≤ e.position := by
  obtain ⟨j, hj⟩ := List.mem_iff_getElem?.1 hb
  have hpos : 0 < b.entries.length := (size_batchesOf hsize hj).1
  have hplace := List.getElem?_eq_getElem hpos
  have hmem : b.entries[0] ∈ (batchesOf size first es).flatMap (·.entries) :=
    List.mem_flatMap.2 ⟨b, hb, List.getElem_mem hpos⟩
  rw [flatMap_batchesOf hsize] at hmem
  refine ⟨_, hmem, ?_, add_le_position_of_mem_batchesOf hpairwise hfirst hb hplace⟩
  rw [Batch.firstPosition?, List.head?_eq_getElem?, hplace]
  rfl

/-- A full batch reaches at least as far as the position before that of the next number. -/
theorem exists_lastPosition (hsize : 0 < size) (hpairwise : es.Pairwise (·.position < ·.position))
    (hfirst : ∀ e ∈ es, first * size ≤ e.position) {b : Batch R} (hb : b ∈ batchesOf size first es)
    (hfull : b.size = size) :
    ∃ e, b.entries.getLast? = some e ∧ (b.number + 1) * size - 1 ≤ e.position := by
  have hlt : size - 1 < b.entries.length := by
    unfold Batch.size at hfull
    omega
  have hplace := List.getElem?_eq_getElem hlt
  have hle := add_le_position_of_mem_batchesOf hpairwise hfirst hb hplace
  refine ⟨b.entries[size - 1], ?_, ?_⟩
  · rw [List.getLast?_eq_getElem?, show b.entries.length = size from hfull]
    exact hplace
  · rw [Nat.add_mul, Nat.one_mul]
    omega

/-- What a batcher seals of records that are pushed are batches into which they are cut, whether it has to
finish or not. -/
theorem mem_batchesOf_of_mem_sealedOver {isFlushed : Bool} {b : Batch R}
    (hb : b ∈ (Batcher.startingAt size first).sealedOver
      (Batcher.Call.pushes es ++ if isFlushed then [.finish] else [])) : b ∈ batchesOf (max size 1) first es := by
  have hpushed := congrArg Prod.fst ((Batcher.startingAt size first).pushAll_eq es)
  have hafter := congrArg Prod.snd ((Batcher.startingAt size first).pushAll_eq es)
  rw [← Batcher.finish_pushAll_startingAt, hpushed, hafter]
  cases isFlushed with
  | false =>
    rw [if_neg Bool.false_ne_true, List.append_nil] at hb
    exact List.mem_append_left _ hb
  | true => rwa [if_pos rfl, Batcher.sealedOver_append, Batcher.sealedOver_finish] at hb

end

/-! ## Numbers and positions -/

section

variable {R : Type} [CatalogRecord R] {config : Config} {logbook : Option Logbook} {resumeFrom : Nat}
  {t : History}

theorem pairwise_received (hopened : (documents t).length ≤ 1) :
    (entriesOf R (receivedElements config resumeFrom t)).Pairwise (·.position < ·.position) := by
  have hpairwise : (openedElements t).Pairwise (·.2 < ·.2) := by
    unfold openedElements
    rcases hdocuments : documents t with _ | ⟨d, _ | ⟨d', ds⟩⟩
    · exact .nil
    · rw [List.flatMap_singleton]
      exact pairwise_zipIdx d.elements 0
    · rw [hdocuments, List.length_cons, List.length_cons] at hopened
      omega
  exact pairwise_entriesOf (hpairwise.sublist ((List.take_sublist _ _).trans (List.drop_sublist _ _)))

/-- Records are received from the first position of an import on.  If that does not fit into 64 bits, the
document has no elements there. -/
theorem position_of_received (hopened : (documents t).length ≤ 1)
    (hsmall : ∀ d ∈ documents t, d.elements.length < 2 ^ 64 - 1) {e : Entry R}
    (he : e ∈ entriesOf R (receivedElements config resumeFrom t)) :
    resumeFrom * max config.batchSize 1 ≤ e.position ∧ e.position < 2 ^ 64 - 1 := by
  obtain ⟨x, hx, -, hposition⟩ := mem_entriesOf_iff.1 he
  have hdue := List.mem_of_mem_take hx
  unfold dueElements openedElements at hdue
  rcases hdocuments : documents t with _ | ⟨d, _ | ⟨d', ds⟩⟩
  · rw [hdocuments, List.flatMap_nil, List.drop_nil] at hdue
    cases hdue
  · rw [hdocuments, List.flatMap_singleton] at hdue
    obtain ⟨hmem, hfirst⟩ := mem_drop_zipIdx_iff.1 hdue
    have hlt : x.2 < d.elements.length := by simpa using List.snd_lt_add_of_mem_zipIdx hmem
    have hd := hsmall d (hdocuments ▸ List.mem_cons_self)
    unfold firstPosition at hfirst
    change min _ (2 ^ 64 - 1) ≤ _ at hfirst
    omega
  · rw [hdocuments, List.length_cons, List.length_cons] at hopened
    omega

/-- In an import of a document whose positions fit into 64 bits, with one to spare, the number of each batch
that is sealed, times the size of a full one, is at most the position of its first record.  If the batch is
full, its last record lies at the last position before that of the next number, or behind it.  So the number
after that of a batch fits into 64 bits, and so does the batch from which an import is to be taken up after a
checkpoint.  The batches that are sealed are those that are submitted, in the order of their numbers; the
store is handed no others, and checkpoints are at no others. -/
theorem numbers_keep_pace {outcome : Outcome} (h : (importRun config logbook R resumeFrom).Yields t outcome)
    (hsmall : ∀ d ∈ documents t, d.elements.length < 2 ^ 64 - 1) :
    (∀ (j : Nat) (b : Batch R), (batchesSealed R config resumeFrom t)[j]? = some b →
      b.number = resumeFrom + j ∧ b.number + 1 < 2 ^ 64 ∧
      (∃ p, b.firstPosition? = some p ∧ b.number * max config.batchSize 1 ≤ p) ∧
      (b.size = max config.batchSize 1 →
        ∃ e, b.entries.getLast? = some e ∧ (b.number + 1) * max config.batchSize 1 - 1 ≤ e.position)) ∧
    submissions t = (batchesSealed R config resumeFrom t).length ∧
    (∀ call ∈ calls t, ∃ b ∈ batchesSealed R config resumeFrom t, b.stored = .ok call.1) ∧
    ∀ c ∈ saves t, c.nextBatch < 2 ^ 64 ∧ ∃ b ∈ batchesSealed R config resumeFrom t, c.lastBatch = b.number := by
  obtain ⟨document?, n, isFlushed, hshows, -⟩ := exists_shows h
  have hopened : (documents t).length ≤ 1 := by
    rw [hshows.documents]
    cases document? <;> simp
  have hbatch : ∀ (j : Nat) (b : Batch R), (batchesSealed R config resumeFrom t)[j]? = some b →
      b.number = resumeFrom + j ∧ b.number + 1 < 2 ^ 64 ∧
      (∃ p, b.firstPosition? = some p ∧ b.number * max config.batchSize 1 ≤ p) ∧
      (b.size = max config.batchSize 1 →
        ∃ e, b.entries.getLast? = some e ∧ (b.number + 1) * max config.batchSize 1 - 1 ≤ e.position) := by
    intro j b hb
    have hsize : 0 < max config.batchSize 1 := by omega
    have hposition : ∀ e ∈ entriesOf R (receivedElements config resumeFrom t),
        resumeFrom * max config.batchSize 1 ≤ e.position ∧ e.position < 2 ^ 64 - 1 :=
      fun e he => position_of_received hopened hsmall he
    have hpairwise : (entriesOf R (receivedElements config resumeFrom t)).Pairwise
        (·.position < ·.position) := pairwise_received hopened
    have hfirst := fun e he => (hposition e he).1
    have hmem : b ∈ batchesOf (max config.batchSize 1) resumeFrom
        (entriesOf R (receivedElements config resumeFrom t)) :=
      mem_batchesOf_of_mem_sealedOver (List.mem_of_getElem? hb)
    obtain ⟨e, he, hplace, hle⟩ := exists_firstPosition hsize hpairwise hfirst hmem
    have hnumber : b.number = resumeFrom + j := (Batcher.handlesAll_handleAll _ _).number j b hb
    -- a number is not larger than itself times the size, and so not larger than a position
    have hmul : b.number ≤ b.number * max config.batchSize 1 := Nat.le_mul_of_pos_right _ hsize
    have hlt := (hposition e he).2
    refine ⟨hnumber, by omega, ⟨e.position, hplace, hle⟩, ?_⟩
    exact exists_lastPosition hsize hpairwise hfirst hmem
  refine ⟨hbatch, hshows.submissions_eq, hshows.exists_of_mem_calls, fun c hc => ?_⟩
  obtain ⟨b, hb, hlast⟩ := hshows.saves c hc
  obtain ⟨j, hj⟩ := List.mem_iff_getElem?.1 hb
  have hnext := (hbatch j b hj).2.1
  rw [← hlast] at hnext
  exact ⟨hnext, b, hb, hlast⟩

end

/-- The import of the last two elements, in a batch of two records whose number is one. -/
theorem numbers_keep_pace_in_sample :
    ∃ b, (batchesSealed CardSet (Sample.config 2) 1 (Sample.history 2 1 (Sample.scene, 9)))[0]? = some b ∧
      b.number = 1 ∧ (∃ p, b.firstPosition? = some p ∧ 1 * 2 ≤ p) ∧
      (∃ e, b.entries.getLast? = some e ∧ (1 + 1) * 2 - 1 ≤ e.position) ∧
      submissions (Sample.history 2 1 (Sample.scene, 9)) = 1 ∧
      ∀ c ∈ saves (Sample.history 2 1 (Sample.scene, 9)), c.nextBatch < 2 ^ 64 := by
  have hrun : (Sample.run 2 1 (Sample.scene, 9)).1 =
      .finished (.ok ⟨2, 2, 0, 1, 0, 0, .epoch, some .epoch⟩) := by decide +kernel
  have hsealed : (batchesSealed CardSet (Sample.config 2) 1
      (Sample.history 2 1 (Sample.scene, 9))).map (·.size) = [2] := by decide +kernel
  obtain ⟨hbatch, hsubmissions, -, hsaves⟩ := numbers_keep_pace (Sample.yields_of_run hrun) fun d hd => by
    obtain rfl := Except.ok.inj ((Sample.answer_of_mem_history (mem_documents_iff.1 hd)).2 _ rfl)
    decide
  obtain ⟨b, hb⟩ := List.length_eq_one_iff.1 (by simpa using congrArg List.length hsealed)
  rw [hb] at hsealed hbatch hsubmissions
  obtain ⟨hnumber, -, hfirst, hlast⟩ := hbatch 0 b rfl
  have hnumber : b.number = 1 := hnumber
  have hfull : b.size = 2 := by simpa using hsealed
  rw [hnumber] at hfirst hlast
  exact ⟨b, congrArg (·[0]?) hb, hnumber, hfirst, hlast hfull, hsubmissions, fun c hc => (hsaves c hc).1⟩

end CatalogImport
