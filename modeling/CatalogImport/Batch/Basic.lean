/-!
# Batches

Records are handed to a store in numbered batches.  A batcher collects records, each with its position
in the document, and seals a batch whenever it has enough of them.  Main statement: a batcher holds
fewer records than make a batch (`pending_lt`).
-/

namespace CatalogImport

/-- A record and its position in the document. -/
structure Entry (R : Type) where
  position : Nat
  record : R

/-- Records that are handed to the store together. -/
structure Batch (R : Type) where
  number : Nat
  entries : List (Entry R)

/-- How many records the batch has. -/
def Batch.size {R : Type} (b : Batch R) : Nat := b.entries.length

/-- The position of the first record. -/
def Batch.firstPosition? {R : Type} (b : Batch R) : Option Nat := b.entries.head?.map (·.position)

/-- Collects records; `pending` holds those that no batch has yet. -/
structure Batcher (R : Type) where
  batchSize : Nat
  nextNumber : Nat
  pending : List (Entry R)
  pending_lt : pending.length < batchSize

namespace Batcher

variable {R : Type}

/-- A batcher whose first batch has a certain number; a size of zero counts as one. -/
def startingAt (size firstNumber : Nat) : Batcher R :=
  ⟨max size 1, firstNumber, [], Nat.lt_of_lt_of_le Nat.zero_lt_one (Nat.le_max_right size 1)⟩

/-- A batcher that numbers from zero. -/
def new (size : Nat) : Batcher R := startingAt size 0

theorem batchSize_pos (b : Batcher R) : 0 < b.batchSize := Nat.lt_of_le_of_lt (Nat.zero_le _) b.pending_lt

/-- The batcher without pending records, after a batch has been sealed. -/
def afterSeal (b : Batcher R) : Batcher R := ⟨b.batchSize, b.nextNumber + 1, [], b.batchSize_pos⟩

/-- Adds a record, and seals a batch if that makes it full. -/
def push (b : Batcher R) (position : Nat) (record : R) : Option (Batch R) × Batcher R :=
  let entries := b.pending ++ [⟨position, record⟩]
  if h : entries.length < b.batchSize then (none, { b with pending := entries, pending_lt := h })
  else (some ⟨b.nextNumber, entries⟩, b.afterSeal)

/-- Seals a batch of what is pending, if anything is. -/
def finish (b : Batcher R) : Option (Batch R) × Batcher R :=
  if b.pending = [] then (none, b) else (some ⟨b.nextNumber, b.pending⟩, b.afterSeal)

end Batcher

end CatalogImport
