import CatalogImport.Proofs.Import.JournalHistory
import CatalogImport.Proofs.Import.Ledger
import CatalogImport.Proofs.Journal.Checkpoint

/-!
# How the checkpoint of a run moves

A journal that does what it says moves the checkpoint of a run only when one is written for it.
`Follows` says what becomes of the checkpoint in the course of a history, and depends on nothing but what
was asked about batches.  Main statements: the checkpoint is at the furthest batch at which one was ever put
(`Follows.batchAfter_eq`); what recording one batch makes of the checkpoint (`Follows.recorded`, with
`batchAfter_checkpointAt_over` and `recordsCounted_checkpointAt_over`), and what recording one batch after
the other does when the journal answers everything (`Follows.chronicle`).
-/

namespace CatalogImport

/-- What an exchange makes of the checkpoint of a run. -/
def Moves (runId : String) (c c' : Option Checkpoint) : Exchange → Prop
  | ⟨.loadCheckpoint other, .ok x⟩ => (other = runId → x = c) ∧ c' = c
  | ⟨.saveCheckpoint new, .ok _⟩ => c' = if new.runId = runId then some (new.over c) else c
  | _ => c' = c

/-- What a history makes of the checkpoint of a run. -/
inductive Follows (runId : String) : Option Checkpoint → History → Option Checkpoint → Prop
  | nil (c : Option Checkpoint) : Follows runId c [] c
  | cons {c c₁ c' : Option Checkpoint} {e : Exchange} {t : History} (hfirst : Moves runId c c₁ e)
      (hrest : Follows runId c₁ t c') : Follows runId c (e :: t) c'

/-- A checkpoint that was written. -/
def writtenCheckpoint? : Exchange → Option Checkpoint
  | ⟨.saveCheckpoint c, .ok _⟩ => some c
  | _ => none

/-- The checkpoints that were written, for whatever runs. -/
def writtenCheckpoints (t : History) : List Checkpoint := t.filterMap writtenCheckpoint?

theorem writtenCheckpoints_append (t u : History) :
    writtenCheckpoints (t ++ u) = writtenCheckpoints t ++ writtenCheckpoints u := List.filterMap_append

/-- They are among those that were to be written. -/
theorem writtenCheckpoints_subset_saves (t : History) : writtenCheckpoints t ⊆ saves t := by
  intro c hc
  obtain ⟨⟨q, x⟩, he, hwritten⟩ := List.mem_filterMap.1 hc
  refine List.mem_filterMap.2 ⟨⟨q, x⟩, he, ?_⟩
  cases q with
  | saveCheckpoint new =>
    cases x with
    | error e => cases hwritten
    | ok _ => exact hwritten
  | _ => cases hwritten

namespace Journal

variable {j j' : Journal} {runId : String} {c : Option Checkpoint}

/-- A checkpoint that can be read stays so, and moves as the exchange says. -/
theorem Admits.moves {e : Exchange} (h : Admits j j' e) (hc : j.loadCheckpoint runId = .ok c) :
    ∃ c', j'.loadCheckpoint runId = .ok c' ∧ Moves runId c c' e := by
  have hsame (hj : j' = j) : j'.loadCheckpoint runId = .ok c := by rw [hj, hc]
  obtain ⟨q, x⟩ := e
  cases q with
  | append event =>
    cases x with
    | error reason => exact ⟨c, hsame h, rfl⟩
    | ok _ =>
      obtain rfl : j' = j.append event := h
      refine ⟨c, ?_, rfl⟩
      rw [loadCheckpoint_append, hc]
  | loadCheckpoint other =>
    cases x with
    | error reason => exact ⟨c, hsame h, rfl⟩
    | ok d =>
      refine ⟨c, hsame h.2, ?_, rfl⟩
      rintro rfl
      exact Except.ok.inj (h.1.symm.trans hc)
  | saveCheckpoint new =>
    cases x with
    | error reason => exact ⟨c, hsame h, rfl⟩
    | ok _ =>
      have hsaved : j.saveCheckpoint new = .ok j' := h
      by_cases hrun : new.runId = runId
      · subst hrun
        exact ⟨_, loadCheckpoint_saveCheckpoint hsaved hc, (if_pos rfl).symm⟩
      · refine ⟨c, ?_, (if_neg hrun).symm⟩
        rw [loadCheckpoint_saveCheckpoint_of_ne hsaved hrun, hc]
  | _ => exact ⟨c, hsame h, rfl⟩

/-- A checkpoint that can be read stays so, and follows the history. -/
theorem After.follows {t : History} (h : After j t j') (hc : j.loadCheckpoint runId = .ok c) :
    ∃ c', j'.loadCheckpoint runId = .ok c' ∧ Follows runId c t c' := by
  induction h generalizing c with
  | nil j => exact ⟨c, hc, .nil c⟩
  | cons hfirst _ ih =>
    obtain ⟨c₁, hc₁, hmoves⟩ := hfirst.moves hc
    obtain ⟨c', hc', hfollows⟩ := ih hc₁
    exact ⟨c', hc', .cons hmoves hfollows⟩

end Journal

namespace Follows

variable {runId : String} {c c' : Option Checkpoint} {t u : History}

theorem eq_of_nil (h : Follows runId c [] c') : c' = c := by
  cases h
  rfl

theorem uncons {e : Exchange} (h : Follows runId c (e :: t) c') :
    ∃ c₁, Moves runId c c₁ e ∧ Follows runId c₁ t c' := by
  cases h with
  | cons hfirst hrest => exact ⟨_, hfirst, hrest⟩

theorem split (h : Follows runId c (t ++ u) c') :
    ∃ c₁, Follows runId c t c₁ ∧ Follows runId c₁ u c' := by
  induction t generalizing c with
  | nil => exact ⟨c, .nil c, h⟩
  | cons e t ih =>
    obtain ⟨c₁, hfirst, hrest⟩ := h.uncons
    obtain ⟨c₂, hleft, hright⟩ := ih hrest
    exact ⟨c₂, .cons hfirst hleft, hright⟩

/-- Nothing else moves a checkpoint. -/
theorem eq_of_not_isRecording {e : Exchange} (h : Moves runId c c' e) (he : isRecording e = false) :
    c' = c := by
  obtain ⟨q, x⟩ := e
  cases q with
  | loadCheckpoint other => cases he
  | saveCheckpoint new => cases he
  | _ => exact h

/-- The checkpoint depends only on what was asked about batches. -/
theorem recordings (h : Follows runId c t c') : Follows runId c (recordings t) c' := by
  induction h with
  | nil c => exact .nil c
  | @cons c c₁ c' e t hfirst hrest ih =>
    unfold CatalogImport.recordings at ih ⊢
    cases he : isRecording e with
    | true =>
      rw [List.filter_cons_of_pos he]
      exact .cons hfirst ih
    | false =>
      obtain rfl := eq_of_not_isRecording hfirst he
      rw [List.filter_cons_of_neg (by simp [he])]
      exact ih

/-- A checkpoint stays as long as none is written for its run. -/
theorem eq_of_written (h : Follows runId c t c') (ht : ∀ d ∈ writtenCheckpoints t, d.runId ≠ runId) :
    c' = c := by
  induction h with
  | nil c => rfl
  | @cons c c₁ c' e t hfirst hrest ih =>
    rw [← List.singleton_append, writtenCheckpoints_append] at ht
    rw [ih fun d hd => ht d (List.mem_append_right _ hd)]
    obtain ⟨q, x⟩ := e
    cases q with
    | saveCheckpoint new =>
      cases x with
      | error e => exact hfirst
      | ok _ =>
        have hne := ht new (List.mem_append_left _ (List.mem_singleton.2 rfl))
        exact Eq.trans hfirst (if_neg hne)
    | loadCheckpoint other =>
      cases x with
      | error e => exact hfirst
      | ok d => exact hfirst.2
    | _ => exact hfirst

end Follows

/-! ## How far checkpoints have got -/

/-- The greatest of some numbers, and 0 if there are none. -/
def greatest (ns : List Nat) : Nat := ns.foldr max 0

@[simp] theorem greatest_nil : greatest [] = 0 := rfl

@[simp] theorem greatest_cons (n : Nat) (ns : List Nat) : greatest (n :: ns) = max n (greatest ns) := rfl

theorem greatest_append (ms ns : List Nat) : greatest (ms ++ ns) = max (greatest ms) (greatest ns) := by
  induction ms with
  | nil => exact (Nat.zero_max _).symm
  | cons m ms ih => rw [List.cons_append, greatest_cons, greatest_cons, ih, Nat.max_assoc]

theorem greatest_le_iff {ns : List Nat} {n : Nat} : greatest ns ≤ n ↔ ∀ m ∈ ns, m ≤ n := by
  induction ns with
  | nil => simp
  | cons m ms ih => rw [greatest_cons, Nat.max_le, ih, List.forall_mem_cons]

/-- The batch behind all those at which checkpoints of a run were put in the course of a history. -/
def furthest (runId : String) (t : History) : Nat :=
  greatest (((writtenCheckpoints t).filter fun c => c.runId = runId).map (·.nextBatch))

theorem furthest_append (runId : String) (t u : History) :
    furthest runId (t ++ u) = max (furthest runId t) (furthest runId u) := by
  unfold furthest
  rw [writtenCheckpoints_append, List.filter_append, List.map_append, greatest_append]

/-- Checkpoints are only put at batches that are recorded. -/
theorem furthest_recordings (runId : String) (t : History) :
    furthest runId (recordings t) = furthest runId t := by
  have hwritten : writtenCheckpoints (recordings t) = writtenCheckpoints t := by
    refine filterMap_filter_of_none (fun e he => ?_) t
    obtain ⟨q, x⟩ := e
    cases q with
    | saveCheckpoint c => cases he
    | _ => rfl
  unfold furthest
  rw [hwritten]

section

variable {runId : String} {c c' : Option Checkpoint} {t : History}

/-- Of a checkpoint that is written and the one in its place, the one at the later batch is left. -/
theorem batchAfter_over (new : Checkpoint) (c : Option Checkpoint) :
    Logbook.batchAfter (some (new.over c)) = max (Logbook.batchAfter c) new.nextBatch := by
  cases c with
  | none => exact (Nat.zero_max new.nextBatch).symm
  | some d =>
    by_cases hstale : new.lastBatch < d.lastBatch
    · have hover : new.over (some d) = d := if_pos hstale
      rw [hover]
      exact (Nat.max_eq_left (Nat.succ_le_succ (Nat.le_of_lt hstale))).symm
    · have hover : new.over (some d) = new := if_neg hstale
      rw [hover]
      exact (Nat.max_eq_right (Nat.succ_le_succ (Nat.le_of_not_lt hstale))).symm

/-- An exchange moves the checkpoint as far as it puts one. -/
theorem batchAfter_of_moves {e : Exchange} (h : Moves runId c c' e) :
    Logbook.batchAfter c' = max (Logbook.batchAfter c) (furthest runId [e]) := by
  have hstays (hc : c' = c) : Logbook.batchAfter c' = max (Logbook.batchAfter c) 0 := by
    rw [hc, Nat.max_zero]
  obtain ⟨q, x⟩ := e
  cases q with
  | saveCheckpoint new =>
    cases x with
    | error e => exact hstays h
    | ok _ =>
      have hwritten : writtenCheckpoints [⟨.saveCheckpoint new, .ok ()⟩] = [new] := rfl
      obtain rfl : c' = if new.runId = runId then some (new.over c) else c := h
      by_cases hrun : new.runId = runId
      · rw [if_pos hrun, batchAfter_over]
        simp [furthest, hwritten, hrun]
      · rw [if_neg hrun]
        simp [furthest, hwritten, hrun]
  | loadCheckpoint other =>
    cases x with
    | error e => exact hstays h
    | ok d => exact hstays h.2
  | _ => exact hstays h

/-- After a history the run would be taken up behind the furthest that a checkpoint has ever got. -/
theorem Follows.batchAfter_eq (h : Follows runId c t c') :
    Logbook.batchAfter c' = max (Logbook.batchAfter c) (furthest runId t) := by
  induction h with
  | nil c => exact (Nat.max_zero _).symm
  | @cons c c₁ c' e t hfirst hrest ih =>
    rw [ih, batchAfter_of_moves hfirst, ← List.singleton_append (l := t), furthest_append,
      Nat.max_assoc]

/-- They get no further than the checkpoints that were to be written. -/
theorem furthest_le {n : Nat} (h : ∀ d ∈ saves t, d.lastBatch < n) : furthest runId t ≤ n := by
  refine greatest_le_iff.2 fun m hm => ?_
  obtain ⟨d, hd, rfl⟩ := List.mem_map.1 hm
  exact h d (writtenCheckpoints_subset_saves t (List.mem_filter.1 hd).1)

/-- The checkpoint moves on by no more than the batches by which an import has got on. -/
theorem Journal.After.le_of_resumesAt {j j' : Journal} {k k' batches : Nat} (h : Journal.After j t j')
    (hk : j.ResumesAt runId k) (hk' : j'.ResumesAt runId k')
    (hsaves : ∀ d ∈ saves t, d.lastBatch < k + batches) : k' ≤ k + batches := by
  obtain ⟨c, hc, rfl⟩ := hk
  obtain ⟨c', hc', rfl⟩ := hk'
  obtain ⟨d, hd, hfollows⟩ := h.follows hc
  obtain rfl : d = c' := Except.ok.inj (hd.symm.trans hc')
  rw [hfollows.batchAfter_eq]
  exact Nat.max_le.2 ⟨Nat.le_add_right _ _, furthest_le hsaves⟩

end

/-! ## Recording batches -/

/-- The records that a checkpoint counts. -/
def recordsCounted (c : Option Checkpoint) : Nat := c.elim 0 (·.recordsDone)

/-- The journal failed to do something. -/
def isJournalFailure : Exchange → Bool
  | ⟨.append _, .error _⟩ => true
  | ⟨.loadCheckpoint _, .error _⟩ => true
  | ⟨.saveCheckpoint _, .error _⟩ => true
  | _ => false

/-- The journal did all that it was asked to do. -/
def JournalAnswers (t : History) : Prop := ∀ e ∈ t, isJournalFailure e = false

instance (t : History) : Decidable (JournalAnswers t) :=
  inferInstanceAs (Decidable (∀ e ∈ t, isJournalFailure e = false))

namespace JournalAnswers

variable {t u : History}

theorem left (h : JournalAnswers (t ++ u)) : JournalAnswers t :=
  fun e he => h e (List.mem_append_left u he)

theorem right (h : JournalAnswers (t ++ u)) : JournalAnswers u :=
  fun e he => h e (List.mem_append_right t he)

theorem recordings (h : JournalAnswers t) : JournalAnswers (recordings t) :=
  fun e he => h e (List.mem_filter.1 he).1

end JournalAnswers

section

variable {b : Logbook} {c c' : Option Checkpoint} {number records : Nat} {g : History}

/-- Recording a batch writes a checkpoint that counts its records, if the journal did all that it was
asked to do, and otherwise leaves the checkpoint alone. -/
theorem Follows.recorded (hentry : Recorded (some b) number records g) (h : Follows b.runId c g c') :
    (JournalAnswers g ∧ ∃ moment, c' = some ((b.checkpointAt c number records moment).over c)) ∨
      (¬ JournalAnswers g ∧ c' = c) := by
  cases hentry with
  | unread b number records e =>
    obtain ⟨c₁, hload, hrest⟩ := h.uncons
    refine .inr ⟨fun hanswers => ?_, hrest.eq_of_nil.trans hload⟩
    cases hanswers _ List.mem_cons_self
  | unlogged b number records d moment e =>
    obtain ⟨c₁, hload, hrest⟩ := h.uncons
    obtain ⟨c₂, happend, hrest⟩ := hrest.uncons
    refine .inr ⟨fun hanswers => ?_, hrest.eq_of_nil.trans (happend.trans hload.2)⟩
    cases hanswers _ (List.mem_cons_of_mem _ List.mem_cons_self)
  | logged b number records d moment later answer =>
    obtain ⟨c₁, hload, hrest₁⟩ := h.uncons
    obtain ⟨c₂, happend, hrest₂⟩ := hrest₁.uncons
    obtain ⟨c₃, hsave, hrest₃⟩ := hrest₂.uncons
    clear h hrest₁ hrest₂
    -- the checkpoint that was read is the one that is found when the new one is written
    obtain rfl : d = c := hload.1 rfl
    obtain rfl : c₁ = d := hload.2
    obtain rfl : c₂ = c₁ := happend
    obtain rfl := hrest₃.eq_of_nil
    cases answer with
    | error e =>
      refine .inr ⟨fun hanswers => ?_, hsave⟩
      cases hanswers _ (List.mem_cons_of_mem _ (List.mem_cons_of_mem _ List.mem_cons_self))
    | ok _ =>
      refine .inl ⟨?_, later, hsave.trans (if_pos rfl)⟩
      rw [JournalAnswers, List.forall_mem_cons, List.forall_mem_cons, List.forall_mem_singleton]
      exact ⟨rfl, rfl, rfl⟩

/-- Recording a batch never makes the checkpoint go back. -/
theorem batchAfter_checkpointAt_over (b : Logbook) (c : Option Checkpoint) (number records : Nat)
    (moment : Calendar.Instant) :
    Logbook.batchAfter (some ((b.checkpointAt c number records moment).over c)) =
      max (Logbook.batchAfter c) (number + 1) := batchAfter_over _ c

/-- A batch before the one at which the checkpoint is does not count any more, and a later one counts with
those before it.  The same batch alone counts when it is recorded again. -/
theorem recordsCounted_checkpointAt_over (b : Logbook) (c : Option Checkpoint) (number records : Nat)
    (moment : Calendar.Instant) :
    recordsCounted (some ((b.checkpointAt c number records moment).over c)) =
      if number + 1 < Logbook.batchAfter c then recordsCounted c
      else if number + 1 = Logbook.batchAfter c then records
      else recordsCounted c + records := by
  cases c with
  | none => rfl
  | some d =>
    have hnext : Logbook.batchAfter (some d) = d.lastBatch + 1 := rfl
    rw [hnext]
    by_cases hstale : number < d.lastBatch
    · have hover : (b.checkpointAt (some d) number records moment).over (some d) = d := if_pos hstale
      rw [hover, if_pos (Nat.succ_lt_succ hstale)]
    · have hover : (b.checkpointAt (some d) number records moment).over (some d) =
        b.checkpointAt (some d) number records moment := if_neg hstale
      have hcount : recordsCounted (some (b.checkpointAt (some d) number records moment)) =
        Logbook.recordsBefore (some d) number + records := rfl
      rw [hover, hcount, if_neg (by omega), Logbook.recordsBefore]
      by_cases heq : number + 1 = d.lastBatch + 1
      · rw [if_pos heq, if_neg (by omega), Nat.zero_add]
      · rw [if_neg heq, if_pos (by omega)]
        rfl

/-- When batches that come after those of the checkpoint are recorded one after the other, and the journal
does all that it is asked to do, their records are counted, and the checkpoint is at the last of them. -/
theorem Follows.chronicle {R : Type} {bs : List (Batch R)} {first : Nat}
    (hchronicle : Chronicle (some b) bs g) (h : Follows b.runId c g c') (hanswers : JournalAnswers g)
    (hnumber : ∀ (j : Nat) (x : Batch R), bs[j]? = some x → x.number = first + j)
    (hfirst : Logbook.batchAfter c ≤ first) :
    recordsCounted c' = recordsCounted c + (bs.flatMap (·.entries)).length ∧
      (bs = [] ∧ c' = c ∨
        bs ≠ [] ∧ ∃ d, c' = some d ∧ Logbook.batchAfter (some d) = first + bs.length) := by
  induction hchronicle generalizing c' with
  | nil =>
    obtain rfl := h.eq_of_nil
    exact ⟨rfl, .inl ⟨rfl, rfl⟩⟩
  | @concat bs x g entry hbefore hentry ih =>
    obtain ⟨c₁, hleft, hright⟩ := h.split
    have hprefix : ∀ (j : Nat) (y : Batch R), bs[j]? = some y → y.number = first + j := by
      intro j y hy
      have hlt : j < bs.length := (List.getElem?_eq_some_iff.1 hy).1
      exact hnumber j y (by rw [List.getElem?_append_left hlt, hy])
    have hx : x.number = first + bs.length := hnumber _ x List.getElem?_concat_length
    obtain ⟨hcounted, hlast⟩ := ih hleft hanswers.left hprefix
    have hnext : Logbook.batchAfter c₁ ≤ x.number := by
      rcases hlast with ⟨-, rfl⟩ | ⟨-, d, rfl, hd⟩
      · omega
      · omega
    rcases hright.recorded hentry with ⟨-, moment, rfl⟩ | ⟨hfailed, -⟩
    · refine ⟨?_, .inr ⟨List.append_ne_nil_of_right_ne_nil _ (List.cons_ne_nil _ _), _, rfl, ?_⟩⟩
      · rw [recordsCounted_checkpointAt_over, if_neg (by omega), if_neg (by omega), hcounted,
          List.flatMap_append, List.length_append, List.flatMap_singleton, Nat.add_assoc]
        rfl
      · rw [batchAfter_checkpointAt_over, List.length_append, List.length_singleton]
        omega
    · exact absurd hanswers.right hfailed

end

end CatalogImport
