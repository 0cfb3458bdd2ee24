import CatalogImport.Proofs.Batch
import Mathlib.Algebra.Group.Nat.Defs
import Mathlib.Data.List.Forall2

/-!
# Batchers that are called in any order

A batcher may be told to finish at any time, also more than once, and may get records afterwards.  What one
call does is said once (`handles_handle`), and from it, by induction on the calls, what any row of calls
does (`handlesAll_handleAll`).  Main statement: whatever the order, no record is lost or waits too long, and
the batches have their sizes and their numbers without a gap (`batches_over_calls`).
-/

namespace CatalogImport.Batcher

variable {R : Type}

/-- What may be asked of a batcher. -/
inductive Call (R : Type) where
  /-- Take in a record that has a position. -/
  | push (position : Nat) (record : R)
  /-- Seal what is left. -/
  | finish

namespace Call

/-- The record that comes with a call. -/
def entry? : Call R → Option (Entry R)
  | push position record => some ⟨position, record⟩
  | finish => none

/-- A batch that is sealed at the call may have so many records, when batches have a certain size. -/
def Fills (size n : Nat) : Call R → Prop
  | push _ _ => n = size
  | finish => 0 < n ∧ n < size

/-- Records that are handed over one after the other. -/
def pushes (es : List (Entry R)) : List (Call R) := es.map fun e => push e.position e.record

theorem filterMap_entry?_pushes (es : List (Entry R)) : (pushes es).filterMap entry? = es := by
  rw [pushes, List.filterMap_map]
  exact List.filterMap_some

theorem Fills.bounds {c : Call R} {size n : Nat} (h : c.Fills size n) (hsize : 0 < size) :
    0 < n ∧ n ≤ size := by
  cases c with
  | push position record =>
    have heq : n = size := h
    omega
  | finish => exact ⟨h.1, Nat.le_of_lt h.2⟩

end Call

/-- Does what is asked: the batch that is sealed, if one is, and what the batcher becomes. -/
def handle (b : Batcher R) : Call R → Option (Batch R) × Batcher R
  | .push position record => b.push position record
  | .finish => b.finish

/-- Does what is asked, call by call: what is sealed at each of them, and what the batcher becomes. -/
def handleAll (b : Batcher R) : List (Call R) → List (Option (Batch R)) × Batcher R
  | [] => ([], b)
  | c :: cs => ((b.handle c).1 :: ((b.handle c).2.handleAll cs).1, ((b.handle c).2.handleAll cs).2)

/-- The batches that are sealed over some calls. -/
def sealedOver (b : Batcher R) (cs : List (Call R)) : List (Batch R) := (b.handleAll cs).1.filterMap id

/-- The batcher after some calls. -/
def afterAll (b : Batcher R) (cs : List (Call R)) : Batcher R := (b.handleAll cs).2

theorem filterMap_id_cons {α : Type} (a : Option α) (as : List (Option α)) :
    (a :: as).filterMap id = a.toList ++ as.filterMap id := by
  cases a <;> simp

theorem sealedOver_cons (b : Batcher R) (c : Call R) (cs : List (Call R)) :
    b.sealedOver (c :: cs) = (b.handle c).1.toList ++ (b.handle c).2.sealedOver cs :=
  filterMap_id_cons _ _

theorem sealedOver_append (b : Batcher R) (cs ds : List (Call R)) :
    b.sealedOver (cs ++ ds) = b.sealedOver cs ++ (b.afterAll cs).sealedOver ds := by
  induction cs generalizing b with
  | nil => rfl
  | cons c cs ih =>
    rw [List.cons_append, sealedOver_cons, sealedOver_cons, ih, List.append_assoc]
    rfl

@[simp] theorem sealedOver_finish (b : Batcher R) : b.sealedOver [.finish] = b.finish.1.toList := by
  rw [sealedOver_cons]
  exact List.append_nil _

/-! ## One call -/

/-- What one call does: nothing is lost, what is sealed gets the next number and has a size that fits the
call, and nothing waits after the batcher has finished. -/
structure Handles (b : Batcher R) (c : Call R) (sealed : Option (Batch R)) (b' : Batcher R) : Prop where
  batchSize : b'.batchSize = b.batchSize
  nextNumber : b'.nextNumber = b.nextNumber + sealed.toList.length
  entries : sealed.toList.flatMap (·.entries) ++ b'.pending = b.pending ++ c.entry?.toList
  number : ∀ s, sealed = some s → s.number = b.nextNumber
  size : ∀ s, sealed = some s → c.Fills b.batchSize s.size
  emptied : c = .finish → b'.pending = []

theorem handles_push (b : Batcher R) (position : Nat) (record : R) :
    b.Handles (.push position record) (b.push position record).1 (b.push position record).2 := by
  cases hpush : b.push position record with
  | mk sealed b' =>
    cases sealed with
    | none =>
      obtain ⟨hsize, hnumber, hpending⟩ := push_pending hpush
      exact ⟨hsize, hnumber, by simpa [Call.entry?] using hpending, by simp, by simp, by simp⟩
    | some s =>
      obtain ⟨rfl, hsize, rfl⟩ := push_sealed hpush
      refine ⟨rfl, rfl, by simp [afterSeal, Call.entry?], ?_, ?_, by simp⟩
      · rintro _ ⟨⟩
        rfl
      · rintro _ ⟨⟩
        exact hsize

theorem handles_finish (b : Batcher R) : b.Handles .finish b.finish.1 b.finish.2 := by
  cases hfinish : b.finish with
  | mk sealed b' =>
    cases sealed with
    | none =>
      obtain ⟨hpending, rfl⟩ := finish_none hfinish
      exact ⟨rfl, rfl, by simp [Call.entry?], by simp, by simp, fun _ => hpending⟩
    | some s =>
      obtain ⟨hpending, rfl, rfl⟩ := finish_sealed hfinish
      refine ⟨rfl, rfl, by simp [afterSeal, Call.entry?], ?_, ?_, fun _ => rfl⟩
      · rintro _ ⟨⟩
        rfl
      · rintro _ ⟨⟩
        exact ⟨List.length_pos_iff.2 hpending, b.pending_lt⟩

theorem handles_handle (b : Batcher R) (c : Call R) : b.Handles c (b.handle c).1 (b.handle c).2 := by
  cases c with
  | push position record => exact b.handles_push position record
  | finish => exact b.handles_finish

/-! ## Calls in a row -/

/-- What a row of calls does. -/
structure HandlesAll (b : Batcher R) (cs : List (Call R)) (answers : List (Option (Batch R)))
    (b' : Batcher R) : Prop where
  batchSize : b'.batchSize = b.batchSize
  nextNumber : b'.nextNumber = b.nextNumber + (answers.filterMap id).length
  entries : (answers.filterMap id).flatMap (·.entries) ++ b'.pending = b.pending ++ cs.filterMap Call.entry?
  number : ∀ (j : Nat) (s : Batch R), (answers.filterMap id)[j]? = some s → s.number = b.nextNumber + j
  size : List.Forall₂ (fun c sealed => ∀ s, sealed = some s → c.Fills b.batchSize s.size) cs answers
  emptied : cs.getLast? = some .finish → b'.pending = []

theorem handlesAll_handleAll (b : Batcher R) (cs : List (Call R)) :
    b.HandlesAll cs (b.handleAll cs).1 (b.handleAll cs).2 := by
  induction cs generalizing b with
  | nil => exact ⟨rfl, rfl, by simp [handleAll], by simp [handleAll], .nil, by simp⟩
  | cons c cs ih =>
    obtain ⟨hsize, hnext, hentries, hnumber, hfills, hemptied⟩ := b.handles_handle c
    have hrest := ih (b.handle c).2
    rw [handleAll]
    refine ⟨hrest.batchSize.trans hsize, ?_, ?_, ?_, ?_, ?_⟩
    · rw [hrest.nextNumber, hnext, filterMap_id_cons, List.length_append, Nat.add_assoc]
    · rw [filterMap_id_cons, List.flatMap_append, List.append_assoc, hrest.entries, ← List.append_assoc,
        hentries, List.append_assoc]
      cases c <;> simp [Call.entry?, List.filterMap_cons]
    · intro j s hs
      have hlater := hrest.number
      rw [hnext] at hlater
      cases hsealed : (b.handle c).1 with
      | none =>
        rw [hsealed] at hs hlater
        exact hlater j s hs
      | some first =>
        rw [hsealed] at hs hlater
        cases j with
        | zero =>
          obtain rfl : first = s := by simpa using hs
          exact hnumber first hsealed
        | succ j =>
          have hj := hlater j s (by simpa using hs)
          simp only [Option.toList_some, List.length_singleton] at hj
          omega
    · refine .cons hfills ?_
      rw [← hsize]
      exact hrest.size
    · intro hlast
      cases cs with
      | nil => exact hemptied (by simpa using hlast)
      | cons d cs => exact hrest.emptied (by simpa using hlast)

/-- What is sealed over some calls is sealed at one of them. -/
theorem exists_fills_of_mem_sealedOver {b : Batcher R} {cs : List (Call R)} {s : Batch R}
    (hs : s ∈ b.sealedOver cs) : ∃ c ∈ cs, c.Fills b.batchSize s.size := by
  obtain ⟨answer, hanswer, rfl⟩ := List.mem_filterMap.1 hs
  obtain ⟨i, hi, heq⟩ := List.getElem_of_mem hanswer
  have hsize := (b.handlesAll_handleAll cs).size
  have hi' : i < cs.length := hsize.length_eq ▸ hi
  exact ⟨cs[i], List.getElem_mem hi', (List.forall₂_iff_get.1 hsize).2 i hi' hi s heq⟩

/-- A batcher that may be told to finish between any two records, whatever its size and its first number.
After each call fewer records wait than make a batch, and none after it has finished.  The batches have the
records in the order in which they came, and those that wait come behind them.  Their numbers go on without a
gap; as long as the counter has not run out of its 64 bits, they and the next one fit.  None is empty, one
that is sealed because it is full has its size, and one that is sealed before has less. -/
theorem batches_over_calls (size first : Nat) (cs : List (Call R)) :
    ((startingAt size first).afterAll cs).pending.length < max size 1 ∧
    ((startingAt size first).sealedOver cs).flatMap (·.entries) ++
      ((startingAt size first).afterAll cs).pending = cs.filterMap Call.entry? ∧
    (∀ (j : Nat) (s : Batch R), ((startingAt size first).sealedOver cs)[j]? = some s →
      s.number = first + j) ∧
    ((startingAt size first).afterAll cs).nextNumber =
      first + ((startingAt size first).sealedOver cs).length ∧
    (((startingAt size first).sealedOver cs).length < 2 ^ 64 - first →
      ((startingAt size first).afterAll cs).nextNumber < 2 ^ 64 ∧
      ∀ s ∈ (startingAt size first).sealedOver cs, s.number < 2 ^ 64) ∧
    ((startingAt size first).handleAll cs).1.length = cs.length ∧
    (∀ (i : Nat) (c : Call R) (s : Batch R), cs[i]? = some c →
      ((startingAt size first).handleAll cs).1[i]? = some (some s) →
      0 < s.size ∧ c.Fills (max size 1) s.size) ∧
    (cs.getLast? = some .finish → ((startingAt size first).afterAll cs).pending = []) := by
  have h := (startingAt (R := R) size first).handlesAll_handleAll cs
  have hsize : ((startingAt size first).afterAll cs).batchSize = max size 1 := h.batchSize
  have hnext : ((startingAt size first).afterAll cs).nextNumber =
      first + ((startingAt size first).sealedOver cs).length := h.nextNumber
  refine ⟨?_, h.entries, h.number, hnext, ?_, h.size.length_eq.symm, ?_, h.emptied⟩
  · rw [← hsize]
    exact ((startingAt size first).afterAll cs).pending_lt
  · intro hcount
    refine ⟨by omega, fun s hs => ?_⟩
    obtain ⟨j, hj⟩ := List.mem_iff_getElem?.1 hs
    have hlt := (List.getElem?_eq_some_iff.1 hj).1
    have hnumber : s.number = first + j := h.number j s hj
    omega
  · intro i c s hc hs
    obtain ⟨hi, rfl⟩ := List.getElem?_eq_some_iff.1 hc
    obtain ⟨hi', hanswer⟩ := List.getElem?_eq_some_iff.1 hs
    have hfills : cs[i].Fills (max size 1) s.size := (List.forall₂_iff_get.1 h.size).2 i hi hi' s hanswer
    exact ⟨(hfills.bounds (by omega)).1, hfills⟩

example : ((startingAt 2 7).sealedOver
    [.push 0 'a', .finish, .finish, .push 1 'b', .push 3 'c', .push 4 'd']).map (fun s => (s.number, s.size)) =
      [(7, 1), (8, 2)] := rfl

end CatalogImport.Batcher
