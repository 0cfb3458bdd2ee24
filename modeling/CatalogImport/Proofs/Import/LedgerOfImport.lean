import CatalogImport.Proofs.Batch
import CatalogImport.Proofs.Import.Ledger

/-!
# The books of a run

A run that goes on has books: a ledger that accounts for it, in which the open batch is what is held.
The run starts with an empty ledger, each step keeps the books or closes them (`Books.step`,
`Books.stop`), and so does a whole run.  Main statement: every import has a ledger that accounts for it
to its end, whatever it is answered (`exists_ledger`).
-/

namespace CatalogImport

open CatalogImport.Calendar CatalogImport.Json

variable {R : Type} [CatalogRecord R]

/-- The books of a run that goes on: what is held is the open batch. -/
structure Books (config : Config) (logbook : Option Logbook) (resumeFrom : Nat)
    (xs : List (Value × Nat)) (g : History) (l : Ledger R) (run : RunState R) : Prop
    extends Accounts config logbook resumeFrom xs g l run where
  pending : l.held = run.batcher.pending
  notLost : l.lost = none
  answered : l.isUnanswered = false
  batchSize : run.batcher.batchSize = max config.batchSize 1
  nextNumber : run.batcher.nextNumber = resumeFrom + l.counted.length
  full : ∀ c ∈ l.counted, c.batch.size = max config.batchSize 1

theorem books_start (config : Config) (logbook : Option Logbook) (resumeFrom : Nat)
    (startedAt : Instant) :
    Books config logbook resumeFrom [] [] Ledger.empty
      (⟨.start startedAt, .startingAt config.batchSize resumeFrom, []⟩ : RunState R) where
  records := rfl
  rejected := .nil
  failed := rfl
  processingErrors := rfl
  tally := ⟨rfl, rfl, rfl, rfl, rfl⟩
  batches := by
    intro i c h
    cases h
  sizes := by
    intro c h
    cases h
  tells := .nil
  chronicle := .nil
  pending := rfl
  notLost := rfl
  answered := rfl
  batchSize := rfl
  nextNumber := rfl
  full := by
    intro c h
    cases h

/-! ## One step -/

section

variable {config : Config} {logbook : Option Logbook} {resumeFrom : Nat}
  {due xs : List (Value × Nat)} {g g' : History} {l : Ledger R} {run run' : RunState R}

/-- A record is received and held; what the batcher has become is another matter. -/
theorem Accounts.push {x : Value × Nat} {r : R} (h : Accounts config logbook resumeFrom xs g l run)
    (hanswered : l.isUnanswered = false) (hvalid : CatalogRecord.validate x.1 = .ok r)
    (batcher : Batcher R) :
    Accounts config logbook resumeFrom (xs ++ [x]) (g ++ [⟨.enter .validating, ()⟩])
      { l with held := l.held ++ [⟨x.2, r⟩] } (run.pushed batcher) := by
  obtain ⟨htells, hrecordings⟩ := h.tells_append .receipt
  refine ⟨?_, ?_, h.failed, h.processingErrors, ?_, h.batches, h.sizes, ?_, ?_⟩
  · rw [entriesOf_append, entriesOf_record hvalid, h.records, List.append_assoc]
    rfl
  · rw [nonRecords_append, nonRecords_record hvalid, List.append_nil]
    exact h.rejected
  · rw [List.length_append, List.length_singleton]
    exact h.tally.push
  · rw [List.length_append, List.length_singleton]
    simpa [Ledger.offered, hanswered] using htells
  · rw [hrecordings]
    exact h.chronicle

/-- An element that is no record is received and rejected. -/
theorem Accounts.reject {x : Value × Nat} {violation : Violation} {entry : FailedEntry}
    (h : Accounts config logbook resumeFrom xs g l run) (hlost : l.lost = none)
    (hinvalid : CatalogRecord.validate (R := R) x.1 = .error violation)
    (hentry : ValidationFailure R x entry) :
    Accounts config logbook resumeFrom (xs ++ [x]) (g ++ [⟨.enter .validating, ()⟩])
      { l with rejected := l.rejected ++ [entry] }
      { run with statistics := run.statistics.recordInvalid, failed := run.failed ++ [entry] } := by
  obtain ⟨htells, hrecordings⟩ := h.tells_append .receipt
  refine ⟨?_, ?_, ?_, ?_, h.tally.reject, h.batches, h.sizes, ?_, ?_⟩
  · rw [entriesOf_append, entriesOf_nonRecord hinvalid, List.append_nil]
    exact h.records
  · rw [nonRecords_append, nonRecords_nonRecord hinvalid]
    exact List.rel_append h.rejected (.cons hentry .nil)
  · rw [h.failed]
    simp [Ledger.lostEntries, hlost]
  · rw [List.length_append, List.length_singleton, ← h.processingErrors]
    rfl
  · rw [List.length_append, List.length_singleton]
    simpa [Ledger.offered] using htells
  · rw [hrecordings]
    exact h.chronicle

/-- What may be held at the end, by why the run ends; a batch has at most `size` records. -/
def Ledger.HeldAt (l : Ledger R) (size : Nat) : Option Cause → Prop
  | some .cancelled => l.held.length ≤ size
  | some (.invalidRecord _ _) | some (.source _) => l.held.length < size
  | _ => l.held = []

/-- The books of a run that ends, over elements of which some were due.  Only when all that were due have
been received may the last batch be a short one. -/
structure Closing (config : Config) (logbook : Option Logbook) (resumeFrom : Nat)
    (due xs : List (Value × Nat)) (g : History) (l : Ledger R) (run : RunState R)
    (cause? : Option Cause) : Prop
    extends Accounts config logbook resumeFrom xs g l run where
  heldAt : l.HeldAt (max config.batchSize 1) cause?
  lost : ∀ b entries, l.lost = some (b, entries) → ∃ cause, cause? = some cause ∧
    cause.batchNumber? = some b.number ∧
    List.Forall₂ (LoadFailure b cause) b.entries entries
  unanswered : l.isUnanswered = true → cause? = some .cancelled
  inFlight : l.isUnanswered = true → l.held ≠ [] ∧
    (l.held.length = max config.batchSize 1 ∨ xs = due)
  full : cause? ≠ none → ∀ c ∈ l.counted, c.batch.size = max config.batchSize 1
  full_dropLast : ∀ c ∈ l.counted.dropLast, c.batch.size = max config.batchSize 1

/-- The open batch has fewer records than make one. -/
theorem Books.held_lt (h : Books config logbook resumeFrom xs g l run) :
    l.held.length < max config.batchSize 1 := by
  rw [h.pending, ← h.batchSize]
  exact run.batcher.pending_lt

/-- A run may end wherever it goes on, for a cause that no batch is to blame for. -/
theorem Books.close {cause : Cause} (h : Books config logbook resumeFrom xs g l run)
    (hcause : l.HeldAt (max config.batchSize 1) (some cause)) :
    Closing config logbook resumeFrom due xs g l run (some cause) where
  toAccounts := h.toAccounts
  heldAt := hcause
  lost := by
    intro b entries hlost
    rw [h.notLost] at hlost
    cases hlost
  unanswered := by
    intro hanswered
    rw [h.answered] at hanswered
    cases hanswered
  inFlight := by
    intro hanswered
    rw [h.answered] at hanswered
    cases hanswered
  full := fun _ => h.full
  full_dropLast := fun c hc => h.full c (List.dropLast_subset _ hc)

/-- A run that goes on may be cancelled. -/
theorem Books.cancel (h : Books config logbook resumeFrom xs g l run) :
    Closing config logbook resumeFrom due xs (g ++ [⟨.isCancelled, true⟩]) l run (some .cancelled) :=
  have hheld : l.HeldAt (max config.batchSize 1) (some .cancelled) := Nat.le_of_lt h.held_lt
  { h.close hheld with toAccounts := h.toAccounts.drop .cancelled (List.append_nil _) }

/-- The run ends with a batch that was not counted. -/
theorem Accounts.closeBy {l' : Ledger R} {b : Batch R} {cause : Cause}
    (h : Accounts config logbook resumeFrom xs g l' run) (hdisposal : Disposal l b l' (some cause))
    (hlost : l.lost = none) (hheld : l.held = b.entries)
    (hsize : 0 < b.size ∧ b.size ≤ max config.batchSize 1)
    (hfull : ∀ c ∈ l.counted, c.batch.size = max config.batchSize 1)
    (hanswered : l.isUnanswered = false) (hall : b.size = max config.batchSize 1 ∨ xs = due) :
    Closing config logbook resumeFrom due xs g l' run (some cause) := by
  have hdropLast : ∀ c ∈ l.counted.dropLast, c.batch.size = max config.batchSize 1 :=
    fun c hc => hfull c (List.dropLast_subset _ hc)
  have hlength : l.held.length = b.size := congrArg List.length hheld
  cases hdisposal with
  | lost entries cause hcause hentries =>
    refine ⟨h, ?_, ?_, ?_, ?_, fun _ => hfull, hdropLast⟩
    · cases cause with
      | batchFailed number attempts e => rfl
      | batchUnwritable number reason => rfl
      | fileUnusable path reason => cases hcause
      | invalidRecord position violation => cases hcause
      | source e => cases hcause
      | cancelled => cases hcause
    · intro b' entries' heq
      cases heq
      exact ⟨cause, rfl, hcause, hentries⟩
    · intro hun
      exact absurd hun (by simp [hanswered])
    · intro hun
      exact absurd hun (by simp [hanswered])
  | dropped isUnanswered =>
    refine ⟨h, ?_, ?_, fun _ => rfl, fun _ => ⟨?_, ?_⟩, fun _ => hfull, hdropLast⟩
    · show l.held.length ≤ max config.batchSize 1
      omega
    · intro b' entries' heq
      exact absurd (hlost.symm.trans heq) (by simp)
    · refine List.ne_nil_of_length_pos ?_
      show 0 < l.held.length
      omega
    · show l.held.length = max config.batchSize 1 ∨ xs = due
      rw [hlength]
      exact hall

/-- What the batch is that a record seals, as the ledger sees it. -/
theorem Books.sealed {x : Value × Nat} {r : R} {b : Batch R} {batcher : Batcher R}
    (h : Books config logbook resumeFrom xs g l run) (hpush : run.batcher.push x.2 r = (some b, batcher)) :
    l.held ++ [⟨x.2, r⟩] = b.entries ∧ b.number = resumeFrom + l.counted.length ∧
      b.size = max config.batchSize 1 ∧ (0 < b.size ∧ b.size ≤ max config.batchSize 1) ∧
      batcher = run.batcher.afterSeal := by
  obtain ⟨hb, hsize, hbatcher⟩ := Batcher.push_sealed hpush
  have hfull := hsize.trans h.batchSize
  refine ⟨?_, ?_, hfull, by omega, hbatcher⟩
  · rw [hb, h.pending]
  · rw [hb]
    exact h.nextNumber

theorem Books.reject {x : Value × Nat} {violation : Violation} {entry : FailedEntry}
    (h : Books config logbook resumeFrom xs g l run)
    (hinvalid : CatalogRecord.validate (R := R) x.1 = .error violation)
    (hentry : ValidationFailure R x entry) :
    Books config logbook resumeFrom (xs ++ [x]) (g ++ [⟨.enter .validating, ()⟩])
      { l with rejected := l.rejected ++ [entry] }
      { run with statistics := run.statistics.recordInvalid, failed := run.failed ++ [entry] } :=
  { h.toAccounts.reject h.notLost hinvalid hentry with
    pending := h.pending, notLost := h.notLost, answered := h.answered, batchSize := h.batchSize,
    nextNumber := h.nextNumber, full := h.full }

/-- A step after which the run goes on keeps the books. -/
theorem Books.step {x : Value × Nat} (h : Books config logbook resumeFrom xs g l run)
    (hstep : ElementStep config logbook run x g' run' none) :
    ∃ l', Books config logbook resumeFrom (xs ++ [x]) (g ++ g') l' run' := by
  generalize hnone : (none : Option Cause) = cause? at hstep
  cases hstep with
  | pending r batcher hvalid hpush =>
    obtain ⟨hsize, hnumber, hpending⟩ := Batcher.push_pending hpush
    refine ⟨_, { h.toAccounts.push h.answered hvalid batcher with
      pending := ?_, notLost := h.notLost, answered := h.answered, batchSize := ?_,
      nextNumber := ?_, full := h.full }⟩
    · rw [h.pending]
      exact hpending.symm
    · exact hsize.trans h.batchSize
    · exact hnumber.trans h.nextNumber
  | sealed r b batcher g₁ _ _ hvalid hpush hsubmit =>
    obtain ⟨hheld, hnumber, hfull, hsize, rfl⟩ := h.sealed hpush
    obtain ⟨l', haccounts, hbatcher, hdisposal⟩ :=
      (h.toAccounts.push h.answered hvalid run.batcher.afterSeal).submit h.notLost h.answered hheld
        hnumber hsize hsubmit
    subst hnone
    cases hdisposal with
    | counted report s =>
      rw [List.append_assoc] at haccounts
      refine ⟨_, { haccounts with
        pending := ?_, notLost := h.notLost, answered := h.answered, batchSize := ?_,
        nextNumber := ?_, full := ?_ }⟩
      · rw [hbatcher]
        rfl
      · rw [hbatcher]
        exact h.batchSize
      · rw [hbatcher]
        show run.batcher.nextNumber + 1 = resumeFrom + (l.counted ++ [(⟨b, report, s⟩ : Counted R)]).length
        rw [h.nextNumber, List.length_append, List.length_singleton]
        omega
      · intro c hc
        rcases List.mem_append.1 hc with hc | hc
        · exact h.full c hc
        · obtain rfl := List.mem_singleton.1 hc
          exact hfull
  | rejected violation entry hinvalid hentry =>
    exact ⟨_, h.reject hinvalid hentry⟩

/-- A step at which the run has to stop closes the books. -/
theorem Books.stop {x : Value × Nat} {cause : Cause} (h : Books config logbook resumeFrom xs g l run)
    (hstep : ElementStep config logbook run x g' run' (some cause)) :
    ∃ l', Closing config logbook resumeFrom due (xs ++ [x]) (g ++ g') l' run' (some cause) := by
  generalize hsome : some cause = cause? at hstep
  cases hstep with
  | pending r batcher hvalid hpush => cases hsome
  | sealed r b batcher g₁ _ _ hvalid hpush hsubmit =>
    obtain ⟨hheld, hnumber, hfull, hsize, rfl⟩ := h.sealed hpush
    obtain ⟨l', haccounts, -, hdisposal⟩ :=
      (h.toAccounts.push h.answered hvalid run.batcher.afterSeal).submit h.notLost h.answered hheld
        hnumber hsize hsubmit
    subst hsome
    rw [List.append_assoc] at haccounts
    exact ⟨l', haccounts.closeBy hdisposal h.notLost hheld hsize h.full h.answered (.inl hfull)⟩
  | rejected violation entry hinvalid hentry =>
    have hcause : cause = .invalidRecord x.2 violation := by
      split at hsome
      · cases hsome
      · exact Option.some.inj hsome
    rw [← hsome, hcause]
    exact ⟨_, (h.reject hinvalid hentry).close h.held_lt⟩

/-! ## Whole runs -/

/-- The books are kept as long as the run goes on. -/
theorem Books.takes {ys : List (Value × Nat)} (h : Books config logbook resumeFrom xs g l run)
    (htakes : Takes config logbook run ys g' run') :
    ∃ l', Books config logbook resumeFrom (xs ++ ys) (g ++ g') l' run' := by
  induction htakes generalizing xs g l with
  | nil run =>
    rw [List.append_nil, List.append_nil]
    exact ⟨l, h⟩
  | cons hstep _ ih =>
    obtain ⟨l', h'⟩ := h.step hstep
    obtain ⟨l'', h''⟩ := ih h'
    rw [List.append_assoc, List.append_assoc] at h''
    exact ⟨l'', h''⟩

/-- However taking in elements ends early, the books are closed. -/
theorem Books.intake {ys : List (Value × Nat)} {cause : Cause}
    (h : Books config logbook resumeFrom [] [] l run)
    (hintake : Intake config logbook run due ys g' run' (some cause)) :
    ∃ l', Closing config logbook resumeFrom due ys g' l' run' (some cause) := by
  generalize hsome : some cause = cause? at hintake
  cases hintake with
  | cancelled _ zs _ _ hdue htakes =>
    obtain ⟨l', h'⟩ := h.takes htakes
    exact ⟨l', h'.cancel⟩
  | stopped zs x ws g₁ g₂ run₁ _ cause' hdue htakes hstep =>
    obtain ⟨l', h'⟩ := h.takes htakes
    exact h'.stop hstep
  | drained _ _ htakes => cases hsome

/-- However a run over an opened document ends, the books are closed. -/
theorem exists_closing_of_runEnd {startedAt : Instant} {document : Reading}
    {ys : List (Value × Nat)} {cause? : Option Cause}
    (h : RunEnd config logbook ⟨.start startedAt, .startingAt config.batchSize resumeFrom, []⟩ document
      due ys g' run' cause?) :
    ∃ l' : Ledger R, Closing config logbook resumeFrom due ys g' l' run' cause? := by
  have hstart : Books config logbook resumeFrom [] [] Ledger.empty
      (⟨.start startedAt, .startingAt config.batchSize resumeFrom, []⟩ : RunState R) :=
    books_start config logbook resumeFrom startedAt
  cases h with
  | early _ _ _ cause hintake => exact hstart.intake hintake
  | unread _ _ e htakes hending =>
    obtain ⟨l', h'⟩ := hstart.takes htakes
    exact ⟨l', h'.close h'.held_lt⟩
  | flushed g₁ g₂ run₁ _ b batcher summary _ htakes hending hfinish hsubmit =>
    obtain ⟨l', h'⟩ := hstart.takes htakes
    rw [List.nil_append, List.nil_append] at h'
    obtain ⟨hpending, hb, -⟩ := Batcher.finish_sealed hfinish
    have hheld : l'.held = b.entries := by
      rw [h'.pending, hb]
    have hnumber : b.number = resumeFrom + l'.counted.length := by
      rw [hb]
      exact h'.nextNumber
    have hsize : 0 < b.size ∧ b.size ≤ max config.batchSize 1 := by
      unfold Batch.size
      rw [← hheld]
      refine ⟨List.length_pos_of_ne_nil ?_, Nat.le_of_lt h'.held_lt⟩
      rw [h'.pending]
      exact hpending
    have hsealed : Accounts config logbook resumeFrom due g₁ l' { run₁ with batcher } :=
      { h'.toAccounts with }
    obtain ⟨l'', haccounts, -, hdisposal⟩ :=
      hsealed.submit h'.notLost h'.answered hheld hnumber hsize hsubmit
    cases cause? with
    | some cause =>
      exact ⟨l'', haccounts.closeBy hdisposal h'.notLost hheld hsize h'.full h'.answered (.inr rfl)⟩
    | none =>
      cases hdisposal with
      | counted report s =>
        refine ⟨_, { haccounts with
          heldAt := rfl, lost := ?_, unanswered := ?_, inFlight := ?_, full := ?_, full_dropLast := ?_ }⟩
        · intro b' entries hlost
          exact absurd (h'.notLost.symm.trans hlost) (by simp)
        · intro hun
          exact absurd (h'.answered.symm.trans hun) (by simp)
        · intro hun
          exact absurd (h'.answered.symm.trans hun) (by simp)
        · intro hcause
          exact absurd rfl hcause
        · rw [List.dropLast_concat]
          exact h'.full
  | drained _ _ batcher summary htakes hending hfinish =>
    obtain ⟨l', h'⟩ := hstart.takes htakes
    obtain ⟨hpending, -⟩ := Batcher.finish_none hfinish
    refine ⟨l', { h'.toAccounts with
      heldAt := h'.pending.trans hpending, lost := ?_, unanswered := ?_, inFlight := ?_
      full := fun _ => h'.full
      full_dropLast := fun c hc => h'.full c (List.dropLast_subset _ hc) }⟩
    · intro b' entries hlost
      exact absurd (h'.notLost.symm.trans hlost) (by simp)
    · intro hun
      exact absurd (h'.answered.symm.trans hun) (by simp)
    · intro hun
      exact absurd (h'.answered.symm.trans hun) (by simp)

/-- What is received is the first part of what is due, and all of it when the run does all it has to. -/
theorem exists_rest_of_runEnd {document : Reading} {ys : List (Value × Nat)} {cause? : Option Cause}
    (h : RunEnd config logbook run document due ys g run' cause?) :
    ∃ rest, due = ys ++ rest ∧ (cause? = none → rest = []) := by
  cases h with
  | early _ _ _ cause hintake =>
    generalize hsome : some cause = cause? at hintake
    cases hintake with
    | cancelled _ rest _ _ hdue _ => exact ⟨rest, hdue, fun hnone => by cases hnone⟩
    | stopped zs x rest _ _ _ _ _ hdue _ _ =>
      refine ⟨rest, ?_, fun hnone => by cases hnone⟩
      rw [hdue, List.append_assoc]
      rfl
    | drained _ _ _ => cases hsome
  | unread _ _ _ _ _ => exact ⟨[], (List.append_nil _).symm, fun _ => rfl⟩
  | flushed _ _ _ _ _ _ _ _ _ _ _ _ => exact ⟨[], (List.append_nil _).symm, fun _ => rfl⟩
  | drained _ _ _ _ _ _ _ => exact ⟨[], (List.append_nil _).symm, fun _ => rfl⟩

end

/-- The elements that are due in an import: those of the opened document from the first position on that
the import gets to, with their positions. -/
def dueElements (config : Config) (resumeFrom : Nat) (t : History) : List (Value × Nat) :=
  (openedElements t).drop (firstPosition resumeFrom (max config.batchSize 1))

/-- The elements that an import received. -/
def receivedElements (config : Config) (resumeFrom : Nat) (t : History) : List (Value × Nat) :=
  (dueElements config resumeFrom t).take (received t)

/-- An import whose document is opened runs over it, keeps what was rejected, and has received what that
run has. -/
theorem exists_runEnd {config : Config} {logbook : Option Logbook} {resumeFrom : Nat} {t : History}
    {outcome : Outcome} (h : (importRun config logbook R resumeFrom).Yields t outcome) :
    (documents t = [] ∧ ∃ startedAt moment cause, gist t = [⟨.openDocument, .error cause⟩] ∧
        outcome = verdict ((Statistics.start startedAt).finish moment) (some cause)) ∨
      ∃ (startedAt moment : Instant) (document : Reading) (g keeps : History) (run : RunState R),
        documents t = [document] ∧ gist t = ⟨.openDocument, .ok document⟩ :: g ++ keeps ∧
        RunEnd config logbook ⟨.start startedAt, .startingAt config.batchSize resumeFrom, []⟩ document
          (dueElements config resumeFrom t) (receivedElements config resumeFrom t) g run
          outcome.cause? ∧
        Keeps config (CatalogRecord.kind R) run.failed keeps ∧
        outcome = verdict (run.statistics.finish moment) outcome.cause? := by
  obtain ⟨xs, hrun⟩ := importRun_of_yields h
  rw [receivedElements, dueElements, openedElements, ← received_gist t, ← documents_gist t]
  generalize gist t = g at hrun
  cases hrun with
  | unopened startedAt moment cause => exact .inl ⟨rfl, startedAt, moment, cause, rfl, rfl⟩
  | opened startedAt moment document _ g keeps run cause? hend hkeeps =>
    right
    obtain ⟨rest, hdue, -⟩ := exists_rest_of_runEnd hend
    obtain ⟨l, hclosing⟩ := exists_closing_of_runEnd hend
    obtain ⟨hreceived, hopened, -⟩ := keepings_of_keeps hkeeps
    have htells := hclosing.tells
    have hdocuments : documents (⟨.openDocument, .ok document⟩ :: g ++ keeps) = [document] := by
      rw [documents_append, hopened, List.append_nil]
      exact congrArg (document :: ·) htells.documents
    have hlength : received (⟨.openDocument, .ok document⟩ :: g ++ keeps) = xs.length := by
      rw [received_append, hreceived]
      exact htells.received
    rw [hdocuments, hlength, List.flatMap_singleton]
    refine ⟨startedAt, moment, document, g, keeps, run, rfl, rfl, ?_, hkeeps, ?_⟩
    · have htake : (document.elements.zipIdx.drop
          (firstPosition resumeFrom (max config.batchSize 1))).take xs.length = xs := by
        rw [hdue, List.take_left' rfl]
      rw [htake, cause?_verdict]
      exact hend
    · rw [cause?_verdict]

/-- The books of an import are closed for the elements received, for what it asked before the rejected
records were kept, and for the state in which it ended. -/
theorem exists_closing {config : Config} {logbook : Option Logbook} {resumeFrom : Nat} {t : History}
    {outcome : Outcome} (h : (importRun config logbook R resumeFrom).Yields t outcome) :
    ∃ (l : Ledger R) (run : RunState R) (g : History) (moment : Instant),
      Closing config logbook resumeFrom (dueElements config resumeFrom t)
        (receivedElements config resumeFrom t) g l run outcome.cause? ∧
      outcome.statistics = run.statistics.finish moment ∧
      (documents t = [] ∧ outcome.cause? ≠ none ∨ ∃ document, documents t = [document]) ∧
      (outcome.cause? = none →
        receivedElements config resumeFrom t = dueElements config resumeFrom t) ∧
      received t = received g ∧ offers t = offers g ∧ snapshots t = snapshots g ∧
      recordings t = recordings g ∧
      keepings t = keepingsOf config (CatalogRecord.kind R) run.failed := by
  rcases exists_runEnd h with ⟨hnone, startedAt, moment, cause, hg, rfl⟩ |
    ⟨startedAt, moment, document, g, keeps, run, hopened, hg, hend, hkeeps, houtcome⟩
  · have hdue : dueElements config resumeFrom t = [] := by
      rw [dueElements, openedElements, hnone, List.flatMap_nil, List.drop_nil]
    rw [receivedElements, hdue, List.take_nil, ← received_gist t, ← offers_gist t, ← snapshots_gist t,
      ← recordings_gist t, ← keepings_gist t, hg, hnone, cause?_verdict]
    have hpos : 0 < max config.batchSize 1 := by omega
    have hheld : (Ledger.empty : Ledger R).HeldAt (max config.batchSize 1) (some cause) := by
      cases cause <;> simp [Ledger.HeldAt, Ledger.empty, hpos]
    have hclosing : Closing config logbook resumeFrom [] [] []
        Ledger.empty ⟨.start startedAt, .startingAt config.batchSize resumeFrom, []⟩ (some cause) :=
      (books_start (R := R) config logbook resumeFrom startedAt).close hheld
    refine ⟨Ledger.empty, ⟨.start startedAt, .startingAt config.batchSize resumeFrom, []⟩, [], moment,
      hclosing, statistics_verdict _ _, .inl ⟨rfl, Option.some_ne_none cause⟩, fun _ => rfl, rfl, rfl,
      rfl, rfl, ?_⟩
    simp [keepingsOf, keepings, keeping?]
  · obtain ⟨rest, hdue, hrest⟩ := exists_rest_of_runEnd hend
    obtain ⟨l, hclosing⟩ := exists_closing_of_runEnd hend
    obtain ⟨hreceived, -, hoffers, hsnapshots, hrecordings, hkeepings⟩ := keepings_of_keeps hkeeps
    rw [← received_gist t, ← offers_gist t, ← snapshots_gist t, ← recordings_gist t,
      ← keepings_gist t, hg]
    refine ⟨l, run, g, moment, hclosing, ?_, .inr ⟨document, hopened⟩, ?_, ?_, ?_, ?_, ?_, ?_⟩
    · rw [houtcome, statistics_verdict]
    · intro hnone
      rw [hrest hnone, List.append_nil] at hdue
      exact hdue.symm
    · rw [received_append, hreceived]
      rfl
    · rw [offers_append, hoffers, List.append_nil]
      rfl
    · rw [snapshots_append, hsnapshots, List.append_nil]
      rfl
    · rw [recordings_append, hrecordings, List.append_nil]
      rfl
    · rw [keepings_append, hkeepings]
      have hnothing : keepings (⟨.openDocument, .ok document⟩ :: g) = [] := hclosing.tells.keepings
      rw [hnothing, List.nil_append]

/-- A ledger settles an import with its history and its outcome: it says what became of the elements
that were received, and the history and the outcome say the same. -/
structure Ledger.Settles (l : Ledger R) (config : Config) (resumeFrom : Nat) (t : History)
    (outcome : Outcome) : Prop where
  opened : documents t = [] ∧ outcome.cause? ≠ none ∨ ∃ document, documents t = [document]
  length : (receivedElements config resumeFrom t).length = received t
  complete : outcome.cause? = none →
    receivedElements config resumeFrom t = dueElements config resumeFrom t
  records : entriesOf R (receivedElements config resumeFrom t) =
    recordsIn l.counted ++ l.lostRecords ++ l.held
  rejected : List.Forall₂ (ValidationFailure R)
    (nonRecords R (receivedElements config resumeFrom t)) l.rejected
  statistics : ∃ s moment, outcome.statistics = s.finish moment ∧
    s.processingErrors = l.rejected.length ∧
    Tally l.counted l.lostRecords.length l.held.length s
  batches : ∀ (i : Nat) (c : Counted R), l.counted[i]? = some c →
    c.IsLastOf (l.counted.take (i + 1)) (resumeFrom + i)
  sizes : ∀ c ∈ l.counted, c.batch.size ≤ max config.batchSize 1
  offers : offers t = l.offered
  snapshots : snapshots t = l.counted.map (·.statistics)
  saves : ∀ c ∈ saves t, c.lastBatch < resumeFrom + l.counted.length
  keepings : keepings t =
    keepingsOf config (CatalogRecord.kind R) (l.rejected ++ l.lostEntries)
  heldAt : l.HeldAt (max config.batchSize 1) outcome.cause?
  lost : ∀ b entries, l.lost = some (b, entries) → ∃ cause, outcome.cause? = some cause ∧
    cause.batchNumber? = some b.number ∧ List.Forall₂ (LoadFailure b cause) b.entries entries
  unanswered : l.isUnanswered = true → outcome.cause? = some .cancelled
  full : outcome.cause? ≠ none → ∀ c ∈ l.counted, c.batch.size = max config.batchSize 1

theorem Ledger.Settles.lost_eq_none {config : Config} {resumeFrom : Nat} {t : History}
    {outcome : Outcome} {l : Ledger R} (h : l.Settles config resumeFrom t outcome)
    (hcause : ∀ cause, outcome.cause? = some cause → cause.batchNumber? = none) :
    l.lostRecords = [] := by
  unfold Ledger.lostRecords
  cases hlost : l.lost with
  | none => rfl
  | some lost =>
    obtain ⟨cause, hsome, hnumber, -⟩ := h.lost lost.1 lost.2 hlost
    rw [hcause cause hsome] at hnumber
    cases hnumber

theorem Ledger.Settles.held_length_le {config : Config} {resumeFrom : Nat} {t : History}
    {outcome : Outcome} {l : Ledger R} (h : l.Settles config resumeFrom t outcome) :
    l.held.length ≤ max config.batchSize 1 := by
  have hheld := h.heldAt
  unfold Ledger.HeldAt at hheld
  split at hheld
  · exact hheld
  · exact Nat.le_of_lt hheld
  · exact Nat.le_of_lt hheld
  · rw [hheld]
    exact Nat.zero_le _

/-- The batches of a ledger are as they should be, those that were counted and the one of which nobody
knows what the store did with it: none is empty, all are full but the last one at the end of what is due,
and the counted ones were recorded in the journal one after the other. -/
structure Ledger.Sorts (l : Ledger R) (config : Config) (logbook : Option Logbook) (resumeFrom : Nat)
    (t : History) : Prop where
  nonempty : ∀ c ∈ l.counted, 0 < c.batch.size
  full_dropLast : ∀ c ∈ l.counted.dropLast, c.batch.size = max config.batchSize 1
  inFlight : l.isUnanswered = true → l.held ≠ [] ∧
    (l.held.length = max config.batchSize 1 ∨
      receivedElements config resumeFrom t = dueElements config resumeFrom t)
  chronicle : Chronicle logbook (l.counted.map (·.batch)) (recordings t)

/-- Every import is settled by a ledger, whatever it was answered, and its batches are as they should
be. -/
theorem exists_sorted_ledger {config : Config} {logbook : Option Logbook} {resumeFrom : Nat}
    {t : History} {outcome : Outcome}
    (h : (importRun config logbook R resumeFrom).Yields t outcome) :
    ∃ l : Ledger R, l.Settles config resumeFrom t outcome ∧ l.Sorts config logbook resumeFrom t := by
  obtain ⟨l, run, g, moment, hclosing, hstatistics, hopened, hcomplete, hreceived, hoffers,
    hsnapshots, hrecordings, hkeepings⟩ := exists_closing h
  have htells := hclosing.tells
  have hsorts : l.Sorts config logbook resumeFrom t :=
    { nonempty := fun c hc => (hclosing.sizes c hc).1
      full_dropLast := hclosing.full_dropLast
      inFlight := hclosing.inFlight
      chronicle := by
        rw [hrecordings]
        exact hclosing.chronicle }
  refine ⟨l, ?_, hsorts⟩
  exact
    { opened := hopened
      length := htells.received.symm.trans hreceived.symm
      complete := hcomplete
      records := hclosing.records
      rejected := hclosing.rejected
      statistics := ⟨run.statistics, moment, hstatistics, hclosing.processingErrors, hclosing.tally⟩
      batches := hclosing.batches
      sizes := fun c hc => (hclosing.sizes c hc).2
      offers := hoffers.trans htells.offers
      snapshots := hsnapshots.trans htells.snapshots
      saves := by
        intro c hc
        rw [← saves_recordings] at hc
        obtain ⟨b, hb, hlast⟩ := hsorts.chronicle.exists_lastBatch c hc
        obtain ⟨d, hd, rfl⟩ := List.mem_map.1 hb
        obtain ⟨i, hi⟩ := List.mem_iff_getElem?.1 hd
        have hlt : i < l.counted.length := (List.getElem?_eq_some_iff.1 hi).1
        rw [hlast, (hclosing.batches i d hi).number]
        omega
      keepings := by
        rw [hkeepings, hclosing.failed]
      heldAt := hclosing.heldAt
      lost := hclosing.lost
      unanswered := hclosing.unanswered
      full := hclosing.full }

/-- Every import is settled by a ledger, whatever it was answered. -/
theorem exists_ledger {config : Config} {logbook : Option Logbook} {resumeFrom : Nat} {t : History}
    {outcome : Outcome} (h : (importRun config logbook R resumeFrom).Yields t outcome) :
    ∃ l : Ledger R, l.Settles config resumeFrom t outcome := by
  obtain ⟨l, hsettles, -⟩ := exists_sorted_ledger h
  exact ⟨l, hsettles⟩

end CatalogImport
