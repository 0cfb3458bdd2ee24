import CatalogImport.Batch.Basic

/-!
# Batchers that collect and seal

What pushing a record and finishing do to a batcher, each said once: a batch is sealed as soon as it has
its size, its entries are the pending ones in their order, and the next one gets the next number.
-/

namespace CatalogImport.Batcher

variable {R : Type}

/-- A record that seals no batch waits behind the others. -/
theorem push_pending {b b' : Batcher R} {position : Nat} {r : R}
    (h : b.push position r = (none, b')) :
    b'.batchSize = b.batchSize ∧ b'.nextNumber = b.nextNumber ∧
      b'.pending = b.pending ++ [⟨position, r⟩] := by
  unfold push at h
  dsimp only at h
  split at h
  · obtain ⟨-, rfl⟩ := Prod.mk.inj h
    exact ⟨rfl, rfl, rfl⟩
  · exact absurd (Prod.mk.inj h).1 (by simp)

/-- A record that seals a batch is the last of as many as make one. -/
theorem push_sealed {b b' : Batcher R} {position : Nat} {r : R} {sealed : Batch R}
    (h : b.push position r = (some sealed, b')) :
    sealed = ⟨b.nextNumber, b.pending ++ [⟨position, r⟩]⟩ ∧ sealed.size = b.batchSize ∧
      b' = b.afterSeal := by
  unfold push at h
  dsimp only at h
  split at h
  · exact absurd (Prod.mk.inj h).1 (by simp)
  · next hfull =>
    obtain ⟨hsealed, rfl⟩ := Prod.mk.inj h
    cases hsealed
    have hlt := b.pending_lt
    rw [List.length_append, List.length_singleton] at hfull
    refine ⟨rfl, ?_, rfl⟩
    unfold Batch.size
    rw [List.length_append, List.length_singleton]
    omega

/-- Nothing is sealed at the end only if nothing is pending. -/
theorem finish_none {b b' : Batcher R} (h : b.finish = (none, b')) : b.pending = [] ∧ b' = b := by
  unfold finish at h
  split at h
  · next hp => exact ⟨hp, (Prod.mk.inj h).2.symm⟩
  · exact absurd (Prod.mk.inj h).1 (by simp)

/-- What is sealed at the end is what was pending. -/
theorem finish_sealed {b b' : Batcher R} {sealed : Batch R} (h : b.finish = (some sealed, b')) :
    b.pending ≠ [] ∧ sealed = ⟨b.nextNumber, b.pending⟩ ∧ b' = b.afterSeal := by
  unfold finish at h
  split at h
  · exact absurd (Prod.mk.inj h).1 (by simp)
  · next hp =>
    obtain ⟨hsealed, rfl⟩ := Prod.mk.inj h
    cases hsealed
    exact ⟨hp, rfl, rfl⟩

end CatalogImport.Batcher
