import CatalogImport.Proofs.Import.Batches
import CatalogImport.Proofs.Import.Scene

/-!
# Imports that nothing hinders

An import ends early only for a reason that shows in what it was answered: it was cancelled, a store
refused records once too often, or the document is not as it should be.  Where there is no such reason it
does all it has to.  Main statement: it then submits all records that are due, in batches of its size, and
all of them are taken (`unhindered_import_submits_all`).
-/

namespace CatalogImport

open CatalogImport.Calendar CatalogImport.Json

/-- Whether a store took what was handed to it, if it said so. -/
def reply? : Exchange → Option Bool
  | ⟨.addMany _, some (.ok _)⟩ => some true
  | ⟨.addMany _, some (.error _)⟩ => some false
  | _ => none

/-- What a store answered to the calls, in order. -/
def replies (t : History) : List Bool := t.filterMap reply?

@[simp] theorem replies_append (t u : History) : replies (t ++ u) = replies t ++ replies u :=
  List.filterMap_append

@[simp] theorem replies_gist (t : History) : replies (gist t) = replies t := by
  refine filterMap_gist (fun e he => ?_) t
  obtain ⟨q, x⟩ := e
  cases q with
  | addMany records => cases he
  | _ => rfl

/-- So many calls failed, one after the other. -/
theorem replies_failedCalls (records : List Stored) (errors : List StoreError) :
    replies (failedCalls records errors) = List.replicate errors.length false := by
  induction errors with
  | nil => rfl
  | cons e errors ih => exact congrArg (false :: ·) ih

/-- No cancellation comes, and the store does not refuse records so often that they are given up. -/
structure Unhindered (maxRetries : Nat) (t : History) : Prop where
  notCancelled : ∀ e ∈ t, isCancellation e = false
  accepting : ¬ List.replicate (maxRetries + 1) false <:+: replies t

namespace Unhindered

variable {maxRetries : Nat} {t u : History}

theorem left (h : Unhindered maxRetries (t ++ u)) : Unhindered maxRetries t where
  notCancelled := fun e he => h.notCancelled e (List.mem_append_left u he)
  accepting := by
    intro hrefused
    have haccepting := h.accepting
    rw [replies_append] at haccepting
    exact haccepting (hrefused.trans (List.prefix_append _ _).isInfix)

theorem right (h : Unhindered maxRetries (t ++ u)) : Unhindered maxRetries u where
  notCancelled := fun e he => h.notCancelled e (List.mem_append_right t he)
  accepting := by
    intro hrefused
    have haccepting := h.accepting
    rw [replies_append] at haccepting
    exact haccepting (hrefused.trans (List.suffix_append _ _).isInfix)

theorem gist (h : Unhindered maxRetries t) : Unhindered maxRetries (gist t) where
  notCancelled := fun e he => h.notCancelled e (mem_gist_iff.1 he).1
  accepting := by
    rw [replies_gist]
    exact h.accepting

/-- The store does not refuse the last call that is allowed. -/
theorem length_ne {records : List Stored} {errors : List StoreError} {e : StoreError}
    (h : Unhindered maxRetries (failedCalls records errors ++ [⟨.addMany records, some (.error e)⟩])) :
    errors.length ≠ maxRetries := by
  intro hlength
  have haccepting := h.accepting
  rw [← failedCalls_concat, replies_failedCalls, List.length_append, hlength] at haccepting
  exact haccepting List.infix_rfl

end Unhindered

/-- Why an import of the document that nothing hinders ends early, if it does: the document cannot be read
to its end. -/
def Reading.cause? (document : Reading) : Option Cause :=
  match document.ending with
  | .ok _ => none
  | .error e => some (.source e)

theorem Reading.cause?_of_ok (document : Reading) {summary : ReadSummary}
    (h : document.ending = .ok summary) : document.cause? = none := by
  rw [Reading.cause?, h]

theorem Reading.cause?_of_error (document : Reading) {e : SourceError}
    (h : document.ending = .error e) : document.cause? = some (.source e) := by
  rw [Reading.cause?, h]

/-- What interrupts a submission is a cancellation. -/
theorem Interrupts.isCancellation {records : List Stored} {e : Exchange} (h : Interrupts records e) :
    isCancellation e = true := by
  cases h <;> rfl

variable {R : Type} [CatalogRecord R]

/-- A batch of records that all have a form can be handed over. -/
theorem stored_ne_error {b : Batch R} {reason : String}
    (h : ∀ e ∈ b.entries, ∃ form, CatalogRecord.stored e.record = .ok form) :
    b.stored ≠ .error reason := by
  unfold Batch.stored
  generalize b.entries = es at h
  induction es generalizing reason with
  | nil => exact fun heq => by cases heq
  | cons e es ih =>
    obtain ⟨form, hform⟩ := h e List.mem_cons_self
    have hes := fun d hd => h d (List.mem_cons_of_mem e hd)
    rw [List.mapM_cons, hform]
    intro heq
    cases hrest : es.mapM fun e => CatalogRecord.stored e.record with
    | error reason' => exact ih hes hrest
    | ok forms =>
      rw [hrest] at heq
      cases heq

section

variable {config : Config} {logbook : Option Logbook} {resumeFrom : Nat} {due xs : List (Value × Nat)}
  {g g' : History} {l : Ledger R} {run run' : RunState R} {cause? : Option Cause}

theorem SubmitStep.cause?_eq_none {b : Batch R} (h : SubmitStep config logbook run b g run' cause?)
    (hg : Unhindered config.maxRetries g)
    (hb : ∀ e ∈ b.entries, ∃ form, CatalogRecord.stored e.record = .ok form) : cause? = none := by
  cases h with
  | cancelled => cases hg.notCancelled _ List.mem_cons_self
  | dropped records errors e hstored hinterrupts =>
    have hfalse := hg.notCancelled e (List.mem_append_right _ List.mem_cons_self)
    rw [hinterrupts.isCancellation] at hfalse
    cases hfalse
  | counted records errors report entry hstored hlength hentry => rfl
  | refused records errors e entries hstored hlength hentries =>
    exact absurd hlength hg.length_ne
  | unwritable reason entries hstored hentries => exact absurd hstored (stored_ne_error hb)

/-- What is held are records that were received. -/
theorem Books.mem_entriesOf (h : Books config logbook resumeFrom xs g l run) {e : Entry R}
    (he : e ∈ l.held) : e ∈ entriesOf R xs := by
  rw [h.records]
  exact List.mem_append_right _ he

theorem Books.cause?_eq_none {x : Value × Nat} (h : Books config logbook resumeFrom xs g l run)
    (hstep : ElementStep config logbook run x g' run' cause?)
    (hskip : config.skipValidationErrors = true) (hg : Unhindered config.maxRetries g')
    (hwritable : ∀ e ∈ entriesOf R (xs ++ [x]), ∃ form, CatalogRecord.stored e.record = .ok form) :
    cause? = none := by
  cases hstep with
  | pending r batcher hvalid hpush => rfl
  | sealed r b batcher g' _ _ hvalid hpush hsubmit =>
    refine hsubmit.cause?_eq_none (Unhindered.right (t := [_]) hg) fun e he => hwritable e ?_
    rw [← (h.sealed hpush).1] at he
    rw [entriesOf_append, entriesOf_record hvalid]
    rcases List.mem_append.1 he with he | he
    · exact List.mem_append_left _ (h.mem_entriesOf he)
    · exact List.mem_append_right _ he
  | rejected violation entry hinvalid hentry => rw [if_pos hskip]

/-- A run that nothing hinders, and in which all records that are due have a form, receives all that is due,
and does all it has to unless its document cannot be read further. -/
theorem RunEnd.eq_due_of_unhindered {startedAt : Instant} {document : Reading}
    (h : RunEnd config logbook ⟨.start startedAt, .startingAt config.batchSize resumeFrom, []⟩ document
      due xs g run' cause?)
    (hskip : config.skipValidationErrors = true) (hg : Unhindered config.maxRetries g)
    (hwritable : ∀ e ∈ entriesOf R due, ∃ form, CatalogRecord.stored e.record = .ok form) :
    xs = due ∧ cause? = document.cause? := by
  have hstart : Books config logbook resumeFrom [] [] Ledger.empty
      (⟨.start startedAt, .startingAt config.batchSize resumeFrom, []⟩ : RunState R) :=
    books_start config logbook resumeFrom startedAt
  cases h with
  | early _ _ _ cause hintake =>
    generalize hsome : some cause = cause? at hintake
    cases hintake with
    | cancelled _ ys _ _ hdue htakes =>
      cases hg.notCancelled _ (List.mem_append_right _ List.mem_cons_self)
    | stopped ys x zs g₁ g₂ run₁ _ cause' hdue htakes hstep =>
      obtain ⟨l', h'⟩ := hstart.takes htakes
      have hnone := h'.cause?_eq_none hstep hskip hg.right fun e he => hwritable e (by
        rw [hdue, ← List.singleton_append, ← List.append_assoc, entriesOf_append]
        exact List.mem_append_left _ he)
      cases hnone
    | drained _ _ htakes => cases hsome
  | unread _ _ e htakes hending => exact ⟨rfl, (document.cause?_of_error hending).symm⟩
  | flushed g₁ g₂ run₁ _ b batcher summary _ htakes hending hfinish hsubmit =>
    obtain ⟨l', h'⟩ := hstart.takes htakes
    obtain ⟨-, rfl, -⟩ := Batcher.finish_sealed hfinish
    rw [document.cause?_of_ok hending]
    refine ⟨rfl, hsubmit.cause?_eq_none hg.right fun e he => hwritable e (h'.mem_entriesOf ?_)⟩
    rw [h'.pending]
    exact he
  | drained _ _ batcher summary htakes hending hfinish =>
    exact ⟨rfl, (document.cause?_of_ok hending).symm⟩

end

section

variable {config : Config} {logbook : Option Logbook} {resumeFrom : Nat} {t : History}
  {outcome : Outcome} {document : Reading} {summary : ReadSummary}

/-- An import that nothing hinders opens its document and receives all that is due, and does all it has to
unless the document cannot be read further. -/
theorem receives_all_of_unhindered
    (h : (importRun config logbook R resumeFrom).Yields t outcome)
    (hopens : ∀ x, (⟨.openDocument, x⟩ : Exchange) ∈ t → x = .ok document)
    (hskip : config.skipValidationErrors = true) (ht : Unhindered config.maxRetries t)
    (hwritable : ∀ e ∈ recordsDue R (max config.batchSize 1) resumeFrom document,
      ∃ form, CatalogRecord.stored e.record = .ok form) :
    documents t = [document] ∧
      receivedElements config resumeFrom t = dueElements config resumeFrom t ∧
      outcome.cause? = document.cause? := by
  rcases exists_runEnd h with ⟨-, startedAt, moment, cause, hg, -⟩ |
    ⟨startedAt, moment, document', g, keeps, run, hopened, hg, hend, -, -⟩
  · have hmem : (⟨.openDocument, .error cause⟩ : Exchange) ∈ gist t := by
      rw [hg]
      exact List.mem_cons_self
    cases hopens _ (mem_gist_iff.1 hmem).1
  · have hmem : document' ∈ documents t := by
      rw [hopened]
      exact List.mem_cons_self
    cases hopens _ (mem_documents_iff.1 hmem)
    have hrun := ht.gist
    rw [hg] at hrun
    rw [Ledger.Settles.recordsDue_eq hopened] at hwritable
    exact ⟨hopened, hend.eq_due_of_unhindered hskip (Unhindered.right (t := [_]) hrun.left) hwritable⟩

/-- An import that nothing hinders does all it has to. -/
theorem cause?_eq_none_of_unhindered
    (h : (importRun config logbook R resumeFrom).Yields t outcome)
    (hopens : ∀ x, (⟨.openDocument, x⟩ : Exchange) ∈ t → x = .ok document)
    (hread : document.ending = .ok summary) (hskip : config.skipValidationErrors = true)
    (ht : Unhindered config.maxRetries t)
    (hwritable : ∀ e ∈ recordsDue R (max config.batchSize 1) resumeFrom document,
      ∃ form, CatalogRecord.stored e.record = .ok form) :
    outcome.cause? = none := by
  obtain ⟨-, -, hcause⟩ := receives_all_of_unhindered h hopens hskip ht hwritable
  rw [hcause, document.cause?_of_ok hread]

/-- What an import submits that is never cancelled, of a document that can be read and whose records can
all be handed over, to a store that takes every batch before it is given up.  It does all it has to.  The
batches that the store took are those into which the records at the positions that are due are cut:
together they have exactly these records in their order, they are numbered from the batch at which the
run began, all of them are full but possibly the last, and none is empty.  Each was handed over as a
whole, counted, and recorded in the journal with its number, and nothing else was handed over. -/
theorem unhindered_import_submits_all
    (h : (importRun config logbook R resumeFrom).Yields t outcome)
    (hopens : ∀ x, (⟨.openDocument, x⟩ : Exchange) ∈ t → x = .ok document)
    (hread : document.ending = .ok summary) (hskip : config.skipValidationErrors = true)
    (ht : Unhindered config.maxRetries t)
    (hwritable : ∀ e ∈ recordsDue R (max config.batchSize 1) resumeFrom document,
      ∃ form, CatalogRecord.stored e.record = .ok form) :
    ∃ l : Ledger R, l.Settles config resumeFrom t outcome ∧ outcome = .ok outcome.statistics ∧
      offers t = l.counted.map (fun c => (storedForms c.batch.entries, some c.report)) ∧
      (∀ c ∈ l.counted, c.batch.stored = .ok (storedForms c.batch.entries)) ∧
      l.counted.map (·.batch) = batchesDue R (max config.batchSize 1) resumeFrom document ∧
      (l.counted.map (·.batch)).flatMap (·.entries) =
        recordsDue R (max config.batchSize 1) resumeFrom document ∧
      (∀ j c, l.counted[j]? = some c → c.batch.number = resumeFrom + j ∧
        1 ≤ c.batch.size ∧ c.batch.size ≤ max config.batchSize 1 ∧
        (j + 1 < l.counted.length → c.batch.size = max config.batchSize 1)) ∧
      l.counted.length = batchCount (max config.batchSize 1)
        (recordsDue R (max config.batchSize 1) resumeFrom document).length ∧
      (recordsDue R (max config.batchSize 1) resumeFrom document = [] → l.counted = []) ∧
      outcome.statistics.batchesProcessed = l.counted.length ∧
      Chronicle logbook (l.counted.map (·.batch)) (recordings t) := by
  have hsize : 0 < max config.batchSize 1 := by omega
  have hdone := cause?_eq_none_of_unhindered h hopens hread hskip ht hwritable
  obtain ⟨l, hsettles, hsorts⟩ := exists_sorted_ledger (R := R) h
  have hopened : documents t = [document] :=
    hsettles.documents_eq hdone fun d hd => Except.ok.inj (hopens _ (mem_documents_iff.1 hd))
  have hbatches := hsettles.batches_eq hsorts hopened hdone
  have hanswered := hsettles.isUnanswered_eq_false (by simp [hdone])
  have hcount : l.counted.length = batchCount (max config.batchSize 1)
      (recordsDue R (max config.batchSize 1) resumeFrom document).length := by
    rw [← List.length_map (·.batch), hbatches, batchesDue, length_batchesOf]
  obtain ⟨s, moment, hstatistics, -, htally⟩ := hsettles.statistics
  refine ⟨l, hsettles, ?_, ?_, ?_, hbatches, ?_, ?_, hcount, ?_, ?_, hsorts.chronicle⟩
  · cases outcome with
    | ok s => rfl
    | error a => cases hdone
  · rw [hsettles.offers, Ledger.offered, hanswered, if_neg Bool.false_ne_true, List.append_nil]
  · intro c hc
    obtain ⟨i, hi⟩ := List.mem_iff_getElem?.1 hc
    exact (hsettles.batches i c hi).stored
  · rw [hbatches, batchesDue, flatMap_batchesOf hsize]
  · intro j c hc
    have hb : (batchesDue R (max config.batchSize 1) resumeFrom document)[j]? = some c.batch := by
      rw [← hbatches, List.getElem?_map, hc]
      rfl
    have hbounds := size_batchesOf hsize hb
    rw [← batchesDue, ← hbatches, List.length_map] at hbounds
    exact ⟨number_batchesOf hb, hbounds⟩
  · intro hnothing
    rw [hnothing, List.length_nil, batchCount_zero] at hcount
    exact List.eq_nil_of_length_eq_zero hcount
  · rw [hstatistics]
    exact htally.batchesProcessed

end

theorem unhindered_import_of_sample_submits_all :
    ∃ l : Ledger CardSet, l.counted.length = 2 ∧
      (l.counted.map (·.batch)).flatMap (·.entries) =
        recordsDue CardSet 2 0 Sample.document ∧
      (recordsDue CardSet 2 0 Sample.document).map (·.position) = [0, 2, 3] := by
  have hrun : (Sample.run 2 0 (Sample.scene, 9)).1 =
      .finished (.ok ⟨3, 3, 0, 2, 1, 0, .epoch, some .epoch⟩) := by decide +kernel
  have hreplies : replies (Sample.history 2 0 (Sample.scene, 9)) = [true, true] := by decide +kernel
  have hunhindered : Unhindered (Sample.config 2).maxRetries (Sample.history 2 0 (Sample.scene, 9)) :=
    ⟨fun e he => (Sample.answer_of_mem_history he).1, by rw [hreplies]; decide⟩
  have hwritable : ∀ e ∈ recordsDue CardSet 2 0 Sample.document,
      ∃ form, CatalogRecord.stored e.record = .ok form := fun e _ => ⟨_, rfl⟩
  obtain ⟨l, -, -, -, -, -, hrecords, -, hcount, -⟩ := unhindered_import_submits_all
    (Sample.yields_of_run hrun) (fun x hx => (Sample.answer_of_mem_history hx).2 x rfl) rfl rfl
    hunhindered hwritable
  have hlength : batchCount (max (Sample.config 2).batchSize 1)
      (recordsDue CardSet 2 0 Sample.document).length = 2 := by decide +kernel
  exact ⟨l, hcount.trans hlength, hrecords, by decide +kernel⟩

end CatalogImport
