import CatalogImport.Proofs.Journal.Progress

/-!
# What a run changes in a common journal

A run takes numbers, writes its own events under numbers that it has got, and moves its own checkpoint
(`Change`).  Whatever it changes, the checkpoint and the events of every other run stay as they are
(`Change.loadCheckpoint_eq`, `Change.ownEvents_eq`), and so does the room for an event that another run has a
number for but has not written yet (`Change.hasRoom`).
-/

namespace CatalogImport

namespace Journal

/-! ## Numbers and events -/

theorem runId_eq_of_eventKey_eq {runId other : String} {m n : Nat} (hm : m < 10 ^ 20) (hn : n < 10 ^ 20)
    (h : eventKey runId m = eventKey other n) : runId = other := by
  obtain rfl := number_eq_of_eventKey_eq hm hn h
  have hlist := congrArg String.toList h
  rw [toList_eventKey, toList_eventKey] at hlist
  exact String.toList_inj.1 (List.append_cancel_right (List.append_cancel_left hlist))

theorem Keyed.takeNumber {j : Journal} (h : Keyed j) : Keyed j.takeNumber := h.renumber (Nat.le_succ _) _

theorem Keyed.putEvent {j : Journal} (h : Keyed j) {n : Nat} (hn : n < j.next) (e : Event) :
    Keyed (j.putEvent n e) := by
  intro row hrow
  rcases mem_putRow hrow with rfl | hrow
  · exact .inr ⟨e, n, hn, rfl⟩
  · exact h row hrow

/-- The events of the run have keys below the one with the number, so an event under it comes last. -/
def HasRoom (j : Journal) (runId : String) (number : Nat) : Prop :=
  ∀ row ∈ j.leaves.rows, ∀ e, eventIn? row = some e → e.runId = runId → row.1 < eventKey runId number

/-- When a number is given out, there is room for an event under it. -/
theorem Keyed.hasRoom {j : Journal} (h : Keyed j) (hnext : j.next < 10 ^ 20) (runId : String) :
    j.takeNumber.HasRoom runId j.next := by
  intro row hrow e he hrun
  rcases h row hrow with ⟨c, rfl⟩ | ⟨d, n, hn, rfl⟩
  · cases he
  · cases he
    subst hrun
    exact eventKey_lt_eventKey e.runId hn hnext

/-- Where there is room for it, an event comes last among the events of its run. -/
theorem HasRoom.own_allEvents_putEvent {j : Journal} {n : Nat} {e : Event} (h : j.HasRoom e.runId n) :
    ownEvents e.runId (j.putEvent n e).allEvents = ownEvents e.runId j.allEvents ++ [e] := by
  unfold ownEvents allEvents
  rw [List.filter_filterMap, List.filter_filterMap]
  refine filterMap_putRow_of_last j.leaves.ordered ?_ fun row hrow hread => ?_
  · exact Option.filter_some_pos (decide_eq_true rfl)
  · obtain ⟨d, hd⟩ := Option.ne_none_iff_exists'.1 hread
    obtain ⟨hevent, hown⟩ := Option.filter_eq_some_iff.1 hd
    exact h row hrow d hevent (of_decide_eq_true hown)

/-- An event leaves the events of other runs alone, under whatever number it is written. -/
theorem Keyed.ownEvents_putEvent {j : Journal} (h : Keyed j) (hnext : j.next ≤ 10 ^ 20) {n : Nat}
    (hn : n < j.next) {e : Event} {runId : String} (hne : e.runId ≠ runId) :
    ownEvents runId (j.putEvent n e).allEvents = ownEvents runId j.allEvents := by
  unfold ownEvents allEvents
  rw [List.filter_filterMap, List.filter_filterMap]
  refine filterMap_putRow_of_none ?_ fun row hrow hkey => ?_
  · exact Option.filter_some_neg (decide_eq_false hne)
  · rcases h row hrow with ⟨c, rfl⟩ | ⟨d, m, hm, rfl⟩
    · rfl
    · have hsame := runId_eq_of_eventKey_eq (Nat.lt_of_lt_of_le hm hnext) (Nat.lt_of_lt_of_le hn hnext) hkey
      exact Option.filter_some_neg (decide_eq_false (hsame ▸ hne))

/-- Every checkpoint can be written. -/
theorem Keyed.exists_saveCheckpoint {j : Journal} (h : Keyed j) (c : Checkpoint) :
    ∃ j', j.saveCheckpoint c = .ok j' := by
  obtain ⟨old, hold⟩ := h.exists_loadCheckpoint c.runId
  exact Journal.exists_saveCheckpoint hold

/-! ## Changes -/

/-- What a run may change in a journal, if the journal knows it under an id at all. -/
inductive Change (runId : Option String) : Journal → Journal → Prop
  | nothing (j : Journal) : Change runId j j
  | number (j : Journal) : Change runId j j.takeNumber
  | event {j : Journal} {n : Nat} {e : Event} (hrun : runId = some e.runId) (hn : n < j.next) :
      Change runId j (j.putEvent n e)
  | checkpoint {j j' : Journal} {c : Checkpoint} (hrun : runId = some c.runId)
      (h : j.saveCheckpoint c = .ok j') : Change runId j j'

namespace Change

variable {runId : Option String} {other : String} {j j' : Journal}

theorem next_le (h : Change runId j j') : j.next ≤ j'.next := by
  cases h with
  | nothing => exact Nat.le_refl _
  | number => exact Nat.le_succ _
  | event hrun hn => exact Nat.le_refl _
  | checkpoint hrun hsave =>
    rcases eq_or_eq_of_saveCheckpoint hsave with rfl | rfl
    · exact Nat.le_refl _
    · exact Nat.le_refl _

theorem keyed (h : Change runId j j') (hkeyed : Keyed j) : Keyed j' := by
  cases h with
  | nothing => exact hkeyed
  | number => exact hkeyed.takeNumber
  | event hrun hn => exact hkeyed.putEvent hn _
  | checkpoint hrun hsave => exact hkeyed.saveCheckpoint hsave

/-- A run leaves the checkpoints of the others alone. -/
theorem loadCheckpoint_eq (h : Change runId j j') (hother : runId ≠ some other) :
    j'.loadCheckpoint other = j.loadCheckpoint other := by
  cases h with
  | nothing => rfl
  | number => rfl
  | event hrun hn => exact loadCheckpoint_putEvent _ _ _ _
  | checkpoint hrun hsave =>
    refine loadCheckpoint_saveCheckpoint_of_ne hsave fun heq => hother ?_
    rw [hrun, heq]

/-- A run leaves the events of the others alone. -/
theorem ownEvents_eq (h : Change runId j j') (hkeyed : Keyed j) (hnext : j.next ≤ 2 ^ 64)
    (hother : runId ≠ some other) : ownEvents other j'.allEvents = ownEvents other j.allEvents := by
  cases h with
  | nothing => rfl
  | number => rfl
  | event hrun hn =>
    refine hkeyed.ownEvents_putEvent (by omega) hn fun heq => hother ?_
    rw [hrun, heq]
  | checkpoint hrun hsave => rw [hkeyed.allEvents_saveCheckpoint hsave]

/-- A run leaves room for the events of the others. -/
theorem hasRoom (h : Change runId j j') (hother : runId ≠ some other) {n : Nat}
    (hroom : j.HasRoom other n) : j'.HasRoom other n := by
  cases h with
  | nothing => exact hroom
  | number => exact hroom
  | event hrun hn =>
    intro row hrow e he hown
    rcases mem_putRow hrow with rfl | hrow
    · cases he
      exact absurd (hown ▸ hrun) hother
    · exact hroom row hrow e he hown
  | checkpoint hrun hsave =>
    rcases eq_or_eq_of_saveCheckpoint hsave with rfl | rfl
    · exact hroom
    · intro row hrow e he hown
      rcases mem_putRow hrow with rfl | hrow
      · cases he
      · exact hroom row hrow e he hown

/-- An event that comes to the journal is one of the run. -/
theorem mem_allEvents (h : Change runId j j') (hkeyed : Keyed j) {e : Event} (he : e ∈ j'.allEvents) :
    e ∈ j.allEvents ∨ runId = some e.runId := by
  cases h with
  | nothing => exact .inl he
  | number => exact .inl he
  | event hrun hn =>
    obtain ⟨row, hrow, hevent⟩ := List.mem_filterMap.1 he
    rcases mem_putRow hrow with rfl | hrow
    · cases hevent
      exact .inr hrun
    · exact .inl (List.mem_filterMap.2 ⟨row, hrow, hevent⟩)
  | checkpoint hrun hsave =>
    rw [hkeyed.allEvents_saveCheckpoint hsave] at he
    exact .inl he

end Change

end Journal

end CatalogImport
