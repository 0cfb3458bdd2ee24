import CatalogImport.Proofs.Import.Calls
import CatalogImport.Proofs.Record.Storable

/-!
# Imports that nothing disturbs

An import whose document opens, that goes on after elements that are no records, and that neither a
cancellation nor the store hinders, does what its document says and nothing else.  Main statement: its
ledger has in counted batches, or holds, exactly the records that are due, and has rejected exactly the
elements that are due and no records (`Undisturbed.exists_ledger`).
-/

namespace CatalogImport

open CatalogImport.Json

/-- An import of a document that opens, which goes on after elements that are no records, is not cancelled,
and hands over nothing that the store refuses too often. -/
structure Undisturbed (R : Type) [CatalogRecord R] (document : Reading) (config : Config)
    (logbook : Option Logbook) (resumeFrom : Nat) (t : History) (outcome : Outcome) : Prop where
  yields : (importRun config logbook R resumeFrom).Yields t outcome
  opens : ∀ x, (⟨.openDocument, x⟩ : Exchange) ∈ t → x = .ok document
  skips : config.skipValidationErrors = true
  unhindered : Unhindered config.maxRetries t

/-- The elements of a document that are due in an import from a batch on, with their positions. -/
def Reading.elementsDue (document : Reading) (size resumeFrom : Nat) : List (Value × Nat) :=
  document.elements.zipIdx.drop (firstPosition resumeFrom size)

variable {R : Type} [CatalogRecord R]

/-- A ledger of an import that has taken in all that was due: its batches are those that are sealed of the
records, what is left of these is held, and the other elements were rejected. -/
structure Ledger.Covers (l : Ledger R) (document : Reading) (size resumeFrom : Nat) : Prop where
  lost : l.lost = none
  answered : l.isUnanswered = false
  records : recordsDue R size resumeFrom document = recordsIn l.counted ++ l.held
  batches : l.counted.map (·.batch) =
    sealedBatches size resumeFrom (recordsDue R size resumeFrom document) document.cause?
  rejected : List.Forall₂ (ValidationFailure R)
    (nonRecords R (document.elementsDue size resumeFrom)) l.rejected

namespace Ledger.Covers

variable {l : Ledger R} {document : Reading} {size resumeFrom : Nat}

theorem lostRecords_eq_nil (h : l.Covers document size resumeFrom) : l.lostRecords = [] := by
  rw [Ledger.lostRecords, h.lost]
  rfl

theorem lostEntries_eq_nil (h : l.Covers document size resumeFrom) : l.lostEntries = [] := by
  rw [Ledger.lostEntries, h.lost]
  rfl

variable {config : Config} {t : History} {outcome : Outcome}

theorem offers_eq (h : l.Covers document size resumeFrom) (hl : l.Settles config resumeFrom t outcome) :
    offers t = l.counted.map fun c => (storedForms c.batch.entries, some c.report) := by
  rw [hl.offers, Ledger.offered, h.answered, if_neg Bool.false_ne_true, List.append_nil]

/-- Only the entries of elements that are no records are kept. -/
theorem keepings_eq (h : l.Covers document size resumeFrom) (hl : l.Settles config resumeFrom t outcome) :
    keepings t = keepingsOf config (CatalogRecord.kind R) l.rejected := by
  rw [hl.keepings, h.lostEntries_eq_nil, List.append_nil]

/-- Every record that is due is counted as one. -/
theorem totalRecords_eq (h : l.Covers document size resumeFrom)
    (hl : l.Settles config resumeFrom t outcome) :
    outcome.statistics.totalRecords = (recordsDue R size resumeFrom document).length := by
  obtain ⟨s, moment, hstatistics, -, htally⟩ := hl.statistics
  have htotal : outcome.statistics.totalRecords = s.totalRecords := by
    rw [hstatistics]
    rfl
  rw [htotal, htally.totalRecords, h.lostRecords_eq_nil, h.records, List.length_append]
  rfl

theorem processingErrors_eq (h : l.Covers document size resumeFrom)
    (hl : l.Settles config resumeFrom t outcome) :
    outcome.statistics.processingErrors =
      (nonRecords R (document.elementsDue size resumeFrom)).length := by
  obtain ⟨s, moment, hstatistics, herrors, -⟩ := hl.statistics
  have hcount : outcome.statistics.processingErrors = s.processingErrors := by
    rw [hstatistics]
    rfl
  rw [hcount, herrors, h.rejected.length_eq]

end Ledger.Covers

namespace Undisturbed

variable {document : Reading} {config : Config} {logbook : Option Logbook} {resumeFrom : Nat}
  {t : History} {outcome : Outcome}

theorem notCancelled (h : Undisturbed R document config logbook resumeFrom t outcome) : NotCancelled t :=
  h.unhindered.notCancelled

variable [CatalogRecord.Storable R]

/-- A record of a document can be handed to a store. -/
theorem exists_stored_of_mem {xs : List (Value × Nat)} {e : Entry R} (he : e ∈ entriesOf R xs) :
    ∃ form, CatalogRecord.stored e.record = .ok form := by
  obtain ⟨x, -, hvalid, -⟩ := mem_entriesOf_iff.1 he
  exact CatalogRecord.Storable.exists_stored hvalid

/-- It opens its document, receives all that is due, and ends early only if the document cannot be read
further. -/
theorem receives_all (h : Undisturbed R document config logbook resumeFrom t outcome) :
    documents t = [document] ∧
      receivedElements config resumeFrom t =
        document.elementsDue (max config.batchSize 1) resumeFrom ∧
      outcome.cause? = document.cause? := by
  obtain ⟨hopened, hreceived, hcause⟩ := receives_all_of_unhindered h.yields h.opens h.skips h.unhindered
    fun _ he => exists_stored_of_mem he
  refine ⟨hopened, ?_, hcause⟩
  rw [hreceived, dueElements, openedElements, hopened, List.flatMap_singleton, Reading.elementsDue]

/-- There is a ledger of it in which the document has left its traces and nothing else has. -/
theorem exists_ledger (h : Undisturbed R document config logbook resumeFrom t outcome) :
    ∃ l : Ledger R, l.Settles config resumeFrom t outcome ∧ l.Sorts config logbook resumeFrom t ∧
      l.Covers document (max config.batchSize 1) resumeFrom := by
  obtain ⟨-, hreceived, hcause⟩ := h.receives_all
  obtain ⟨l, hl, hsorts⟩ := exists_sorted_ledger (R := R) h.yields
  -- no batch is to blame for the end, and it was no cancellation
  have hend : outcome.cause? = none ∨ ∃ e, outcome.cause? = some (.source e) := by
    rw [hcause]
    cases hending : document.ending with
    | ok summary => exact .inl (document.cause?_of_ok hending)
    | error e => exact .inr ⟨e, document.cause?_of_error hending⟩
  have hlost : l.lost = none := by
    cases hlost : l.lost with
    | none => rfl
    | some lost =>
      obtain ⟨cause, hsome, hnumber, -⟩ := hl.lost lost.1 lost.2 hlost
      rcases hend with hnone | ⟨e, hsource⟩
      · rw [hnone] at hsome
        cases hsome
      · rw [hsource] at hsome
        cases hsome
        cases hnumber
  have hanswered : l.isUnanswered = false := by
    refine hl.isUnanswered_eq_false ?_
    rcases hend with hnone | ⟨e, hsource⟩
    · simp [hnone]
    · simp [hsource]
  have hdue : recordsDue R (max config.batchSize 1) resumeFrom document =
      entriesOf R (receivedElements config resumeFrom t) := by
    rw [hreceived]
    rfl
  refine ⟨l, hl, hsorts, hlost, hanswered, ?_, ?_, ?_⟩
  · have hrecords := hl.records
    rw [Ledger.lostRecords, hlost] at hrecords
    simpa [hdue] using hrecords
  · rw [hdue, ← hcause]
    exact hl.counted_eq_sealedBatches hsorts hend
  · rw [← hreceived]
    exact hl.rejected

end Undisturbed

/-- An import in a scene is undisturbed if its store does not refuse anything too often. -/
theorem Scene.undisturbed_of_run {document : Reading} {config : Config} {logbook : Option Logbook}
    {resumeFrom : Nat} {w : Scene × Nat} {outcome : Outcome}
    (hrun : ((importRun config logbook R resumeFrom).run (surroundings document) w).1 = .finished outcome)
    (hskip : config.skipValidationErrors = true)
    (hreplies : ¬ List.replicate (config.maxRetries + 1) false <:+:
      replies ((importRun config logbook R resumeFrom).transcript (surroundings document) w)) :
    Undisturbed R document config logbook resumeFrom
      ((importRun config logbook R resumeFrom).transcript (surroundings document) w) outcome := by
  have hanswer : ∀ e ∈ (importRun config logbook R resumeFrom).transcript (surroundings document) w,
      isCancellation e = false ∧ ∀ x, e = ⟨.openDocument, x⟩ → x = .ok document := by
    intro e he
    obtain ⟨_, _, hanswer⟩ := Program.exists_answer_of_mem_transcript he
    exact answer_of_surroundings hanswer
  exact ⟨Program.run_yields hrun, fun x hx => (hanswer _ hx).2 x rfl, hskip,
    ⟨fun e he => (hanswer e he).1, hreplies⟩⟩

/-- The sample is imported from a batch on, in a scene whose store refuses nothing. -/
theorem Sample.undisturbed_of_run {batchSize resumeFrom : Nat} {w : Scene × Nat} {outcome : Outcome}
    (hrun : (run batchSize resumeFrom w).1 = .finished outcome)
    (hreplies : ∀ reply ∈ replies (history batchSize resumeFrom w), reply = true) :
    Undisturbed CardSet document (config batchSize) (some logbook) resumeFrom
      (history batchSize resumeFrom w) outcome := by
  refine Scene.undisturbed_of_run hrun rfl fun hrefused => ?_
  cases hreplies false (hrefused.subset List.mem_cons_self)

end CatalogImport
