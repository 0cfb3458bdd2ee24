import CatalogImport.Import.Handover
import CatalogImport.Import.Source

/-!
# Handing elements over in any order

A reader and a taker move in any order, and this is all that can come of it.  Each move that is possible is
one of `Step`; `Conserves` says what they all keep, and every move uses something up (`Step.left_lt`).  Main
statements: what has been taken after any moves, and how the reader ends when the taker has got all or
closes the handover before (`handover_in_any_order`), and that all of a reading is delivered whatever the
room (`delivers_iff`).
-/

namespace CatalogImport

open CatalogImport.Json

namespace Handover

/-! ## Single moves -/

/-- The moves that are possible when `room` elements can wait, with what they lead to. -/
inductive Step (room : Nat) : Handover → Move → Handover → Prop
  | send (v : Value) (rest waiting taken : List Value) (ending : Except SourceError ReadSummary)
      (hroom : waiting.length < room) :
      Step room ⟨v :: rest, ending, waiting, taken, false, none⟩ .send
        ⟨rest, ending, waiting ++ [v], taken, false, none⟩
  | refuse (v : Value) (rest waiting taken : List Value) (ending : Except SourceError ReadSummary) :
      Step room ⟨v :: rest, ending, waiting, taken, true, none⟩ .refuse
        ⟨v :: rest, ending, waiting, taken, true, some (.error .closed)⟩
  | conclude (waiting taken : List Value) (ending : Except SourceError ReadSummary) (isClosed : Bool) :
      Step room ⟨[], ending, waiting, taken, isClosed, none⟩ .conclude
        ⟨[], ending, waiting, taken, isClosed, some ending⟩
  | take (v : Value) (unread rest taken : List Value) (ending : Except SourceError ReadSummary)
      (verdict : Option (Except SourceError ReadSummary)) :
      Step room ⟨unread, ending, v :: rest, taken, false, verdict⟩ .take
        ⟨unread, ending, rest, taken ++ [v], false, verdict⟩
  | close (unread waiting taken : List Value) (ending : Except SourceError ReadSummary)
      (verdict : Option (Except SourceError ReadSummary)) :
      Step room ⟨unread, ending, waiting, taken, false, verdict⟩ .close
        ⟨unread, ending, [], taken, true, verdict⟩

variable {room : Nat} {h h' h'' : Handover} {m : Move} {ms ms' : List Move}

theorem step_of_move? (hm : h.move? room m = some h') : Step room h m h' := by
  obtain ⟨unread, ending, waiting, taken, isClosed, verdict⟩ := h
  cases m with
  | send =>
    cases unread with
    | nil => cases hm
    | cons v rest =>
      simp only [move?, Option.ite_none_right_eq_some, Option.some.injEq] at hm
      obtain ⟨⟨hreading, hopen, hroom⟩, rfl⟩ := hm
      obtain rfl := Option.isNone_iff_eq_none.1 hreading
      obtain rfl := Bool.eq_false_iff.2 hopen
      exact .send v rest waiting taken ending hroom
  | refuse =>
    cases unread with
    | nil => cases hm
    | cons v rest =>
      simp only [move?, Option.ite_none_right_eq_some, Option.some.injEq] at hm
      obtain ⟨⟨hreading, rfl⟩, rfl⟩ := hm
      obtain rfl := Option.isNone_iff_eq_none.1 hreading
      exact .refuse v rest waiting taken ending
  | conclude =>
    cases unread with
    | nil =>
      simp only [move?, Option.ite_none_right_eq_some, Option.some.injEq] at hm
      obtain ⟨hreading, rfl⟩ := hm
      obtain rfl := Option.isNone_iff_eq_none.1 hreading
      exact .conclude waiting taken ending isClosed
    | cons v rest => cases hm
  | take =>
    cases waiting with
    | nil => cases hm
    | cons v rest =>
      simp only [move?, Option.ite_none_left_eq_some, Option.some.injEq] at hm
      obtain ⟨hopen, rfl⟩ := hm
      obtain rfl := Bool.eq_false_iff.2 hopen
      exact .take v unread rest taken ending verdict
  | close =>
    simp only [move?, Option.ite_none_left_eq_some, Option.some.injEq] at hm
    obtain ⟨hopen, rfl⟩ := hm
    obtain rfl := Bool.eq_false_iff.2 hopen
    exact .close unread waiting taken ending verdict

theorem move?_of_step (hs : Step room h m h') : h.move? room m = some h' := by
  cases hs with
  | send v rest waiting taken ending hroom => exact if_pos ⟨rfl, Bool.false_ne_true, hroom⟩
  | refuse v rest waiting taken ending => rfl
  | conclude waiting taken ending isClosed => rfl
  | take v unread rest taken ending verdict => rfl
  | close unread waiting taken ending verdict => rfl

theorem move?_eq_some_iff : h.move? room m = some h' ↔ Step room h m h' := ⟨step_of_move?, move?_of_step⟩

/-! ## Several moves -/

theorem moves?_nil : h.moves? room [] = some h := rfl

theorem moves?_cons_iff :
    h.moves? room (m :: ms) = some h'' ↔ ∃ h', Step room h m h' ∧ h'.moves? room ms = some h'' := by
  unfold moves?
  rw [List.foldlM_cons]
  refine Option.bind_eq_some_iff.trans (exists_congr fun h' => ?_)
  rw [move?_eq_some_iff]

/-- What holds before moves and is kept by each holds after them. -/
theorem holds_of_moves {P : Handover → Prop} (hstep : ∀ {g m g'}, Step room g m g' → P g → P g')
    (hrun : h.moves? room ms = some h') (hstart : P h) : P h' := by
  induction ms generalizing h with
  | nil =>
    cases hrun
    exact hstart
  | cons m ms ih =>
    obtain ⟨h₁, hs, hrest⟩ := moves?_cons_iff.1 hrun
    exact ih hrest (hstep hs hstart)

/-! ## What all moves keep -/

/-- A handover of what a reader gives: what has been taken, is waiting, was dropped or is still to be handed
over are its elements in their order, and nothing is dropped before the handover is closed.  The reader has
ended as it does by itself when it had nothing more to hand over, or it had something more and found the
handover closed. -/
structure Conserves (r : Reading) (room : Nat) (h : Handover) : Prop where
  ending : h.ending = r.ending
  elements : ∃ dropped, h.taken ++ h.waiting ++ dropped ++ h.unread = r.elements ∧
    (h.isClosed = false → dropped = [])
  waiting_le : h.waiting.length ≤ room
  waiting_closed : h.isClosed = true → h.waiting = []
  verdict : ∀ v, h.verdict = some v → h.unread = [] ∧ v = r.ending ∨
    h.isClosed = true ∧ h.unread ≠ [] ∧ v = .error .closed

variable {r : Reading}

theorem conserves_start (r : Reading) (room : Nat) : Conserves r room (start r) where
  ending := rfl
  elements := ⟨[], rfl, fun _ => rfl⟩
  waiting_le := Nat.zero_le room
  waiting_closed := fun hclosed => by cases hclosed
  verdict := fun v hv => by cases hv

theorem Step.conserves (hs : Step room h m h') (hc : Conserves r room h) : Conserves r room h' := by
  obtain ⟨hending, ⟨dropped, helements, hdropped⟩, hwaiting, hclosed, hverdict⟩ := hc
  cases hs with
  | send v rest waiting taken ending hroom =>
    refine ⟨hending, ⟨dropped, ?_, hdropped⟩, ?_, fun hc => (by cases hc), fun w hw => (by cases hw)⟩
    · obtain rfl := hdropped rfl
      simpa using helements
    · rw [List.length_append, List.length_singleton]
      exact hroom
  | refuse v rest waiting taken ending =>
    refine ⟨hending, ⟨dropped, helements, hdropped⟩, hwaiting, hclosed, fun w hw => .inr ?_⟩
    exact ⟨rfl, List.cons_ne_nil v rest, (Option.some.inj hw).symm⟩
  | conclude waiting taken ending isClosed =>
    refine ⟨hending, ⟨dropped, helements, hdropped⟩, hwaiting, hclosed, fun w hw => .inl ?_⟩
    exact ⟨rfl, (Option.some.inj hw).symm.trans hending⟩
  | take v unread rest taken ending verdict =>
    refine ⟨hending, ⟨dropped, ?_, hdropped⟩, ?_, fun hc => (by cases hc), hverdict⟩
    · simpa using helements
    · exact Nat.le_of_succ_le hwaiting
  | close unread waiting taken ending verdict =>
    refine ⟨hending, ⟨waiting, ?_, fun hc => (by cases hc)⟩, Nat.zero_le room, fun _ => rfl, fun w hw => ?_⟩
    · obtain rfl := hdropped rfl
      simpa using helements
    · rcases hverdict w hw with hown | ⟨hc, -⟩
      · exact .inl hown
      · cases hc

theorem conserves_of_moves (hrun : h.moves? room ms = some h') (hc : Conserves r room h) :
    Conserves r room h' := holds_of_moves (fun hs hc => hs.conserves hc) hrun hc

/-- A reader that has ended does nothing more. -/
theorem Step.verdict_eq {v : Except SourceError ReadSummary} (hs : Step room h m h')
    (hv : h.verdict = some v) : h'.verdict = some v := by
  cases hs with
  | take => exact hv
  | close => exact hv
  | _ => cases hv

/-- What has been taken stays so. -/
theorem Step.taken_isPrefix (hs : Step room h m h') : h.taken <+: h'.taken := by
  cases hs with
  | take v unread rest taken ending verdict => exact List.prefix_append taken [v]
  | _ => exact List.prefix_rfl

theorem verdict_eq_of_moves {v : Except SourceError ReadSummary} (hrun : h.moves? room ms = some h')
    (hv : h.verdict = some v) : h'.verdict = some v :=
  holds_of_moves (P := fun g => g.verdict = some v) (fun hs hv => hs.verdict_eq hv) hrun hv

theorem taken_isPrefix_of_moves (hrun : h.moves? room ms = some h') : h.taken <+: h'.taken :=
  holds_of_moves (P := fun g => h.taken <+: g.taken) (fun hs hbefore => hbefore.trans hs.taken_isPrefix) hrun
    List.prefix_rfl

theorem Conserves.taken_isPrefix (hc : Conserves r room h) : h.taken <+: r.elements := by
  obtain ⟨dropped, helements, -⟩ := hc.elements
  refine ⟨h.waiting ++ (dropped ++ h.unread), ?_⟩
  rw [← helements]
  simp

/-! ## How many moves there can be -/

/-- How many moves are left at most: every element can be handed over and be taken, the reader can end, and
the handover can be closed. -/
def left (h : Handover) : Nat :=
  2 * h.unread.length + h.waiting.length + (if h.isReading then 1 else 0) + (if h.isClosed then 0 else 1)

theorem Step.left_lt (hs : Step room h m h') : h'.left < h.left := by
  cases hs
  all_goals simp [left, isReading]
  all_goals omega

theorem length_add_left_le (hrun : h.moves? room ms = some h') : ms.length + h'.left ≤ h.left := by
  induction ms generalizing h with
  | nil =>
    cases hrun
    exact Nat.le_of_eq (Nat.zero_add _)
  | cons m ms ih =>
    obtain ⟨h₁, hs, hrest⟩ := moves?_cons_iff.1 hrun
    have hfirst := hs.left_lt
    have hle := ih hrest
    rw [List.length_cons]
    omega

/-! ## The end of the elements -/

/-- The taker gets nothing more: the reader has ended, and nothing is waiting. -/
def IsExhausted (h : Handover) : Prop := h.isReading = false ∧ h.waiting = []

instance (h : Handover) : Decidable h.IsExhausted :=
  inferInstanceAs (Decidable (h.isReading = false ∧ h.waiting = []))

/-- As long as the handover is open and the taker is still to get something, there is a move to make other
than to close it. -/
theorem exists_step (hroom : 0 < room) (hopen : h.isClosed = false) (hmore : ¬ h.IsExhausted) :
    ∃ m h', m ≠ .close ∧ Step room h m h' := by
  obtain ⟨unread, ending, waiting, taken, isClosed, verdict⟩ := h
  obtain rfl : isClosed = false := hopen
  rcases waiting with _ | ⟨v, rest⟩
  · rcases verdict with _ | v
    · rcases unread with _ | ⟨v, rest⟩
      · exact ⟨.conclude, _, by decide, .conclude [] taken ending false⟩
      · exact ⟨.send, _, by decide, .send v rest [] taken ending hroom⟩
    · exact absurd ⟨rfl, rfl⟩ hmore
  · exact ⟨.take, _, by decide, .take v unread rest taken ending verdict⟩

/-- A taker that gets nothing more from an open handover has got all, and the reader has ended by itself. -/
theorem Conserves.of_isExhausted (hc : Conserves r room h) (hopen : h.isClosed = false)
    (hend : h.IsExhausted) : h.taken = r.elements ∧ h.verdict = some r.ending := by
  obtain ⟨hreading, hwaiting⟩ := hend
  obtain ⟨dropped, helements, hdropped⟩ := hc.elements
  cases hv : h.verdict with
  | none =>
    rw [isReading, hv] at hreading
    cases hreading
  | some v =>
    rcases hc.verdict v hv with ⟨hunread, rfl⟩ | ⟨hclosed, -⟩
    · rw [hwaiting, hdropped hopen, hunread, List.append_nil, List.append_nil, List.append_nil] at helements
      exact ⟨helements, rfl⟩
    · rw [hopen] at hclosed
      cases hclosed

/-! ## Closed handovers -/

/-- When the handover is closed and the reader has ended, no move is possible. -/
theorem eq_nil_of_ended (hclosed : h.isClosed = true) (hended : h.isReading = false)
    (hrun : h.moves? room ms = some h') : ms = [] := by
  cases ms with
  | nil => rfl
  | cons m ms =>
    obtain ⟨h₁, hs, -⟩ := moves?_cons_iff.1 hrun
    cases hs with
    | take => cases hclosed
    | close => cases hclosed
    | _ => cases hended

/-- In a closed handover there is one more move at most: the reader ends, in one way if it has something to
hand over and in the other if not. -/
theorem moves_of_closed (hclosed : h.isClosed = true) (hrun : h.moves? room ms = some h') :
    ms = [] ∧ h' = h ∨
      h.verdict = none ∧ h.unread ≠ [] ∧ ms = [.refuse] ∧
        h' = { h with verdict := some (.error .closed) } ∨
      h.verdict = none ∧ h.unread = [] ∧ ms = [.conclude] ∧ h' = { h with verdict := some h.ending } := by
  cases ms with
  | nil =>
    cases hrun
    exact .inl ⟨rfl, rfl⟩
  | cons m ms =>
    obtain ⟨h₁, hs, hrest⟩ := moves?_cons_iff.1 hrun
    cases hs with
    | refuse v rest waiting taken ending =>
      obtain rfl := eq_nil_of_ended rfl rfl hrest
      cases hrest
      exact .inr (.inl ⟨rfl, List.cons_ne_nil v rest, rfl, rfl⟩)
    | conclude waiting taken ending isClosed =>
      obtain rfl : isClosed = true := hclosed
      obtain rfl := eq_nil_of_ended rfl rfl hrest
      cases hrest
      exact .inr (.inr ⟨rfl, rfl, rfl, rfl⟩)
    | _ => cases hclosed

/-- The reader can always end in a closed handover. -/
theorem exists_verdict_of_closed (room : Nat) (hclosed : h.isClosed = true) (hreading : h.verdict = none) :
    ∃ m h', Step room h m h' ∧ h'.isReading = false := by
  obtain ⟨unread, ending, waiting, taken, isClosed, verdict⟩ := h
  obtain rfl : isClosed = true := hclosed
  obtain rfl : verdict = none := hreading
  rcases unread with _ | ⟨v, rest⟩
  · exact ⟨.conclude, _, .conclude waiting taken ending true, rfl⟩
  · exact ⟨.refuse, _, .refuse v rest waiting taken ending, rfl⟩

/-- When a handover is closed, nothing is handed over or taken any more, the reader comes to an end, and it
ends as it does by itself unless it has something left to hand over. -/
theorem Conserves.close (hc : Conserves r room h) (hclose : h.move? room .close = some h')
    (hrun : h'.moves? room ms = some h'') :
    .send ∉ ms ∧ ms.length ≤ 1 ∧ h''.taken = h.taken ∧
      (h''.verdict = none → ∃ m h₃, h''.move? room m = some h₃ ∧ h₃.isReading = false) ∧
      ∀ v, h''.verdict = some v → (.refuse ∈ ms ↔ h.unread ≠ []) ∧
        v = if .refuse ∈ ms then .error .closed else r.ending := by
  obtain ⟨unread, ending, waiting, taken, isClosed, verdict⟩ := h
  cases step_of_move? hclose
  obtain rfl : ending = r.ending := hc.ending
  rcases moves_of_closed rfl hrun with ⟨rfl, rfl⟩ | ⟨rfl, hunread, rfl, rfl⟩ | ⟨rfl, rfl, rfl, rfl⟩
  · refine ⟨List.not_mem_nil, Nat.zero_le 1, rfl, fun hreading => ?_, fun v hv => ?_⟩
    · obtain ⟨m, h₃, hs, hended⟩ := exists_verdict_of_closed room rfl hreading
      exact ⟨m, h₃, move?_of_step hs, hended⟩
    · rcases hc.verdict v hv with ⟨hunread, rfl⟩ | ⟨hclosed, -⟩
      · exact ⟨⟨fun hmem => (List.not_mem_nil hmem).elim, fun hne => absurd hunread hne⟩, rfl⟩
      · cases hclosed
  · refine ⟨by decide, Nat.le_refl 1, rfl, fun hreading => (by cases hreading), fun v hv => ?_⟩
    exact ⟨⟨fun _ => hunread, fun _ => List.mem_singleton_self _⟩, (Option.some.inj hv).symm⟩
  · refine ⟨by decide, Nat.le_refl 1, rfl, fun hreading => (by cases hreading), fun v hv => ?_⟩
    exact ⟨⟨fun hmem => absurd hmem (by decide), fun hne => absurd rfl hne⟩, (Option.some.inj hv).symm⟩

/-- No document that is opened ends as if nobody wanted the rest. -/
theorem ending_ne_closed {field path : String} {place : Place} (hopen : openSource field path place = .ok r) :
    r.ending ≠ .error .closed := by
  cases place with
  | file bytes =>
    cases hopen
    show (stream field bytes).ending.mapError _ ≠ _
    cases (stream field bytes).ending <;> exact fun heq => by cases heq
  | folder => cases hopen
  | absent e => cases hopen

/-- A reader and a taker move in any order, and there is room for one element at least.  What has been taken
are always the first elements in their order, and there are not for ever moves to make.  As long as the taker
is still to get something, there is one.  A taker that gets nothing more has got all elements, and whatever
happens then, the reader has ended as it does by itself; for a document that is opened this is not that nobody
wanted the rest.  When the taker closes the handover, at whatever moment, nothing is handed over any more, and
the reader comes to an end after one more move at most.  It ends as if nobody wanted the rest exactly if it is
refused an element, and it is refused one exactly if it had one left when the handover was closed, whether
there was room for it or not. -/
theorem handover_in_any_order (hroom : 0 < room) (hrun : (start r).moves? room ms = some h) :
    h.taken <+: r.elements ∧ ms.length ≤ 2 * r.elements.length + 2 ∧
      (h.isClosed = false → ¬ h.IsExhausted → ∃ m h', m ≠ .close ∧ h.move? room m = some h') ∧
      (h.isClosed = false → h.IsExhausted → ∀ ms' h', h.moves? room ms' = some h' →
        h'.taken = r.elements ∧ h'.verdict = some r.ending) ∧
      (∀ field path place, openSource field path place = .ok r → r.ending ≠ .error .closed) ∧
      ∀ h₁, h.move? room .close = some h₁ → ∀ ms' h₂, h₁.moves? room ms' = some h₂ →
        .send ∉ ms' ∧ ms'.length ≤ 1 ∧ h₂.taken = h.taken ∧
          (h₂.verdict = none → ∃ m h₃, h₂.move? room m = some h₃ ∧ h₃.isReading = false) ∧
          ∀ v, h₂.verdict = some v → (.refuse ∈ ms' ↔ h.unread ≠ []) ∧
            v = if .refuse ∈ ms' then .error .closed else r.ending := by
  have hc := conserves_of_moves hrun (conserves_start r room)
  refine ⟨hc.taken_isPrefix, ?_, ?_, ?_, fun _ _ _ => ending_ne_closed,
    fun h₁ hclose ms' h₂ hrest => hc.close hclose hrest⟩
  · have hle := length_add_left_le hrun
    have hstart : (start r).left = 2 * r.elements.length + 2 := rfl
    omega
  · intro hopen hmore
    obtain ⟨m, h', hm, hs⟩ := exists_step hroom hopen hmore
    exact ⟨m, h', hm, move?_of_step hs⟩
  · intro hopen hend ms' h' hrest
    obtain ⟨htaken, hverdict⟩ := hc.of_isExhausted hopen hend
    have hmore := taken_isPrefix_of_moves hrest
    rw [htaken] at hmore
    have hless := (conserves_of_moves hrest hc).taken_isPrefix
    exact ⟨hless.eq_of_length_le hmore.length_le, verdict_eq_of_moves hrest hverdict⟩

namespace Sample

/-- Three elements. -/
def nulls : Reading := ⟨[.null, .null, .null], .ok ⟨true, 3⟩⟩

/-- The reader waits for room with the last of them, which comes after the first has been taken. -/
def blocked : Handover := ⟨[.null], .ok ⟨true, 3⟩, [.null], [.null], false, none⟩

theorem moves?_nulls : (start nulls).moves? 1 [.send, .take, .send] = some blocked := rfl

end Sample

theorem handover_closed_before_last_element :
    0 < 1 ∧ (start Sample.nulls).moves? 1 [.send, .take, .send] = some Sample.blocked ∧
      ∀ h₁, Sample.blocked.move? 1 .close = some h₁ → ∀ ms h₂, h₁.moves? 1 ms = some h₂ →
        ∀ v, h₂.verdict = some v → v = .error .closed := by
  refine ⟨Nat.one_pos, Sample.moves?_nulls, fun h₁ hclose ms h₂ hrun v hv => ?_⟩
  obtain ⟨-, -, -, -, -, hclosed⟩ := handover_in_any_order Nat.one_pos Sample.moves?_nulls
  obtain ⟨-, -, -, -, hverdict⟩ := hclosed h₁ hclose ms h₂ hrun
  obtain ⟨hrefused, rfl⟩ := hverdict v hv
  exact if_pos (hrefused.2 (List.cons_ne_nil _ _))

/-! ## All elements -/

theorem Step.isClosed_eq (hs : Step room h m h') (hm : m ≠ .close) : h'.isClosed = h.isClosed := by
  cases hs with
  | close => exact absurd rfl hm
  | _ => rfl

/-- As long as the handover is open, moves can be made after which the taker gets nothing more. -/
theorem exists_isExhausted (hroom : 0 < room) (hopen : h.isClosed = false) :
    ∃ ms h', h.moves? room ms = some h' ∧ h'.isClosed = false ∧ h'.IsExhausted := by
  generalize hn : h.left = n
  induction n using Nat.strongRecOn generalizing h with
  | ind n ih =>
    by_cases hend : h.IsExhausted
    · exact ⟨[], h, moves?_nil, hopen, hend⟩
    · obtain ⟨m, h₁, hm, hs⟩ := exists_step hroom hopen hend
      obtain ⟨ms, h', hrun, hopen', hend'⟩ :=
        ih h₁.left (hn ▸ hs.left_lt) ((hs.isClosed_eq hm).trans hopen) rfl
      exact ⟨m :: ms, h', moves?_cons_iff.2 ⟨h₁, hs, hrun⟩, hopen', hend'⟩

end Handover

/-- In some order of moves the taker takes elements until it gets nothing more, counting them from 0 on, then
closes the handover, and is told how the reader ended. -/
def Reading.Delivers (r : Reading) (room : Nat) (items : List (Value × Nat))
    (verdict : Except SourceError ReadSummary) : Prop :=
  ∃ ms h ms' h', (Handover.start r).moves? room ms = some h ∧ h.isClosed = false ∧ h.IsExhausted ∧
    items = h.taken.zipIdx ∧ h.moves? room (.close :: ms') = some h' ∧ h'.verdict = some verdict

/-- All elements are delivered with their positions, in whatever order the moves are made. -/
theorem Reading.delivers_iff {r : Reading} {room : Nat} {items : List (Value × Nat)}
    {verdict : Except SourceError ReadSummary} (hroom : 0 < room) :
    r.Delivers room items verdict ↔ items = r.elements.zipIdx ∧ verdict = r.ending := by
  constructor
  · rintro ⟨ms, h, ms', h', hrun, hopen, hend, rfl, hclosed, hverdict⟩
    have hc := Handover.conserves_of_moves hrun (Handover.conserves_start r room)
    obtain ⟨htaken, hown⟩ := hc.of_isExhausted hopen hend
    rw [Handover.verdict_eq_of_moves hclosed hown] at hverdict
    exact ⟨congrArg List.zipIdx htaken, (Option.some.inj hverdict).symm⟩
  · rintro ⟨rfl, rfl⟩
    obtain ⟨ms, h, hrun, hopen, hend⟩ :=
      Handover.exists_isExhausted (h := Handover.start r) hroom rfl
    have hc := Handover.conserves_of_moves hrun (Handover.conserves_start r room)
    obtain ⟨htaken, hown⟩ := hc.of_isExhausted hopen hend
    obtain ⟨unread, ending, waiting, taken, isClosed, verdict⟩ := h
    obtain rfl : isClosed = false := hopen
    have hclose : Handover.Step room _ _ _ := .close unread waiting taken ending verdict
    have hlast := Handover.moves?_cons_iff.2 ⟨_, hclose, Handover.moves?_nil⟩
    exact ⟨ms, _, [], _, hrun, rfl, hend, congrArg List.zipIdx htaken.symm, hlast, hown⟩

end CatalogImport
