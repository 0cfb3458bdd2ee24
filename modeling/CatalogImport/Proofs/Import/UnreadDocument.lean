import CatalogImport.Import.Source
import CatalogImport.Proofs.Import.Prefix
import CatalogImport.Proofs.Import.Undisturbed

/-!
# Documents that cannot be read to their end

Whether a document can be read shows only at its end, when some batches have been stored and others
records wait for theirs to become full.  An import of a document that cannot be read to its end is not
reported as done, and the waiting records go nowhere.  Main statement:
`unread_document_is_not_flushed`.
-/

namespace CatalogImport

open CatalogImport.Json

variable {R : Type} [CatalogRecord R]

section

variable {l : Ledger R} {document : Reading} {config : Config} {logbook : Option Logbook}
  {resumeFrom : Nat} {t : History} {outcome : Outcome}

/-- Nothing but sealed batches is handed to the store, whether it takes them or not. -/
theorem Undisturbed.exists_counted_of_mem_calls [CatalogRecord.Storable R]
    (h : Undisturbed R document config logbook resumeFrom t outcome)
    (hl : l.Covers document (max config.batchSize 1) resumeFrom) :
    ∀ call ∈ calls t, ∃ c ∈ l.counted, call.1 = storedForms c.batch.entries := by
  obtain ⟨-, hreceived, hcause⟩ := h.receives_all
  obtain ⟨rounds, unwritable, hcalls, hbatches, -⟩ := exists_rounds h.yields h.notCancelled
  have hcounted : rounds.map (·.batch) ++ unwritable.toList = l.counted.map (·.batch) := by
    rw [hbatches, hl.batches, hreceived, hcause]
    rfl
  intro call hcall
  rw [hcalls] at hcall
  obtain ⟨round, hround, hcall⟩ := List.mem_flatMap.1 hcall
  have hmem : round.batch ∈ l.counted.map (·.batch) := by
    rw [← hcounted]
    exact List.mem_append_left _ (List.mem_map_of_mem hround)
  obtain ⟨c, hc, hbatch⟩ := List.mem_map.1 hmem
  refine ⟨c, hc, ?_⟩
  rw [Round.fst_of_mem_calls hcall, hbatch]

/-- The store has been written the counted batches. -/
theorem Ledger.Covers.store_eq {s s' : Scene} (h : l.Covers document (max config.batchSize 1) resumeFrom)
    (hl : l.Settles config resumeFrom t outcome) (hs : Scene.After document s t s') :
    s'.store = (s.store.addMany (storedForms (recordsIn l.counted))).1 := by
  have hbatches : l.batches resumeFrom = l.counted.map (·.batch) := by
    rw [Ledger.batches, Ledger.inFlight, h.answered, if_neg Bool.false_ne_true, List.append_nil]
  obtain ⟨bs, hbs, hstore⟩ := hl.store_eq hs
  rw [hbatches, or_self] at hbs
  rw [hstore, hbs, flatMap_map_batch]

end

/-- An undisturbed import of a document that cannot be read to its end says so, and counts all records at
the positions that are due.  As many of them as fill batches are submitted, in full batches one after the
other, with their numbers; these batches are all that is ever handed to the store, all that the store has
been written, and all that is recorded in the journal.  The other records, fewer than make a batch, are not
among the entries that are kept either, all of which are about elements that are no records. -/
theorem unread_document_is_not_flushed [CatalogRecord.Storable R] {document : Reading} {config : Config}
    {logbook : Option Logbook} {resumeFrom : Nat} {t : History} {outcome : Outcome} {e : SourceError}
    {size v : Nat} (hsize : size = max config.batchSize 1)
    (hv : v = (recordsDue R size resumeFrom document).length) (hread : document.ending = .error e)
    (h : Undisturbed R document config logbook resumeFrom t outcome) :
    outcome = .error ⟨.source e, outcome.statistics⟩ ∧ outcome.statistics.totalRecords = v ∧
      ∃ l : Ledger R, l.Settles config resumeFrom t outcome ∧
        recordsDue R size resumeFrom document = recordsIn l.counted ++ l.held ∧
        l.held.length = v % size ∧ l.counted.length = v / size ∧
        (∀ j c, l.counted[j]? = some c → c.batch.number = resumeFrom + j ∧ c.batch.size = size) ∧
        offers t = l.counted.map (fun c => (storedForms c.batch.entries, some c.report)) ∧
        (∀ call ∈ calls t, ∃ c ∈ l.counted, call.1 = storedForms c.batch.entries) ∧
        Chronicle logbook (l.counted.map (·.batch)) (recordings t) ∧
        keepings t = keepingsOf config (CatalogRecord.kind R) l.rejected ∧
        List.Forall₂ (ValidationFailure R) (nonRecords R (document.elementsDue size resumeFrom))
          l.rejected ∧
        (∀ s s', Scene.After document s t s' →
          s'.store = (s.store.addMany (storedForms (recordsIn l.counted))).1) ∧
        ∀ b j j' c, logbook = some b → Journal.After j t j' → j.loadCheckpoint b.runId = .ok c →
          Logbook.batchAfter c ≤ resumeFrom → JournalAnswers t →
          ∃ c', j'.loadCheckpoint b.runId = .ok c' ∧
            recordsCounted c' = recordsCounted c + v / size * size ∧
            (v / size = 0 ∧ c' = c ∨
              v / size ≠ 0 ∧ Logbook.batchAfter c' = resumeFrom + v / size) := by
  subst hsize hv
  have hpos : 0 < max config.batchSize 1 := by omega
  obtain ⟨l, hl, hsorts, hcovers⟩ := h.exists_ledger
  obtain ⟨-, -, hcause⟩ := h.receives_all
  have hsource := document.cause?_of_error hread
  rw [hsource] at hcause
  have hfull : ∀ c ∈ l.counted, c.batch.size = max config.batchSize 1 := by
    apply hl.full
    rw [hcause]
    exact Option.some_ne_none _
  have hcount : l.counted.length =
      (recordsDue R (max config.batchSize 1) resumeFrom document).length / max config.batchSize 1 := by
    rw [← List.length_map (·.batch), hcovers.batches, hsource, sealedBatches_source,
      length_fullBatchesOf]
  have hrecords : (recordsIn l.counted).length =
      (recordsDue R (max config.batchSize 1) resumeFrom document).length / max config.batchSize 1 *
        max config.batchSize 1 := by
    rw [length_recordsIn hfull, hcount]
  refine ⟨?_, hcovers.totalRecords_eq hl, l, hl, hcovers.records, ?_, hcount, ?_, hcovers.offers_eq hl,
    h.exists_counted_of_mem_calls hcovers, hsorts.chronicle, hcovers.keepings_eq hl, hcovers.rejected,
    fun s s' hafter => hcovers.store_eq hl hafter, ?_⟩
  · cases outcome with
    | ok statistics => cases hcause
    | error aborted =>
      obtain ⟨cause, statistics⟩ := aborted
      cases hcause
      rfl
  · have htotal := congrArg List.length hcovers.records
    have hdivision := Nat.div_add_mod' (recordsDue R (max config.batchSize 1) resumeFrom document).length
      (max config.batchSize 1)
    rw [List.length_append, hrecords] at htotal
    omega
  · intro j c hc
    exact ⟨(hl.batches j c hc).number, hfull c (List.mem_of_getElem? hc)⟩
  · rintro b j j' c rfl hafter hc hfirst hanswers
    obtain ⟨c', hc', hcounted, hlast⟩ := hl.exists_checkpoint hsorts hafter hc hfirst hanswers
    refine ⟨c', hc', ?_, ?_⟩
    · rw [hcounted, hrecords]
    · rw [← hcount]
      rcases hlast with ⟨hnone, hsame⟩ | ⟨hsome, d, rfl, hnext⟩
      · exact .inl ⟨List.length_eq_zero_iff.2 hnone, hsame⟩
      · exact .inr ⟨fun hnone => hsome (List.length_eq_zero_iff.1 hnone), hnext⟩

namespace Sample

/-- The text of a document of three card sets, behind which something follows. -/
def overrunText : String :=
  "\x7b\"data\":[\x7b\"id\":\"a\",\"name\":\"A\",\"code\":\"x\",\"set_type\":\"y\"\x7d," ++
  "\x7b\"id\":\"b\",\"name\":\"B\",\"code\":\"x\",\"set_type\":\"y\"\x7d," ++
  "\x7b\"id\":\"c\",\"name\":\"C\",\"code\":\"x\",\"set_type\":\"y\"\x7d]\x7d?"

/-- What is read of that text. -/
def overrun : Reading :=
  let streamed := stream dataField (bytesOf overrunText)
  ⟨streamed.items, streamed.ending.mapError fun f => .malformed (f.message (bytesOf overrunText))⟩

def overrunCause : SourceError := .malformed "trailing characters at line 1 column 155"

/-- The import of the text in batches of two records. -/
def overrunTask : Task Outcome := importRun (config 2) (some logbook) CardSet 0

/-- What is asked and answered in the course of it. -/
def overrunHistory : History := overrunTask.transcript (Scene.surroundings overrun) (scene, 9)

/-- What it comes to, and what it is told. -/
theorem run_overrun : (overrunTask.run (Scene.surroundings overrun) (scene, 9)).1 =
      .finished (.error ⟨.source overrunCause, ⟨3, 2, 0, 1, 0, 0, .epoch, some .epoch⟩⟩) ∧
    overrun.ending = .error overrunCause ∧ (recordsDue CardSet 2 0 overrun).length = 3 ∧
    replies overrunHistory = [true] ∧ JournalAnswers overrunHistory := by decide +kernel

end Sample

/-- Of the three records of the text two are stored, and the third is left when the text goes on behind the
document. -/
theorem overrun_document_is_not_flushed :
    openSource dataField "sets.json" (.file (bytesOf Sample.overrunText)) = .ok Sample.overrun ∧
      ∃ l : Ledger CardSet, l.counted.length = 1 ∧ l.held.length = 1 ∧
        (∀ call ∈ calls Sample.overrunHistory,
          ∃ c ∈ l.counted, call.1 = storedForms c.batch.entries) ∧
        ∃ c, (Sample.overrunTask.run (Scene.surroundings Sample.overrun)
            (Sample.scene, 9)).2.1.journal.loadCheckpoint Sample.logbook.runId = .ok c ∧
          recordsCounted c = 2 ∧ Logbook.batchAfter c = 1 := by
  obtain ⟨hrun, hread, hrecords, hreplies, hanswers⟩ := Sample.run_overrun
  have haccepting : ¬ List.replicate ((Sample.config 2).maxRetries + 1) false <:+:
      replies Sample.overrunHistory := by
    rw [hreplies]
    decide
  have hundisturbed := Scene.undisturbed_of_run (R := CardSet) hrun rfl haccepting
  have hsize : 2 = max (Sample.config 2).batchSize 1 := rfl
  obtain ⟨-, -, l, -, -, hheld, hcounted, -, -, hcalls, -, -, -, -, hcheckpoint⟩ :=
    unread_document_is_not_flushed hsize hrecords.symm hread hundisturbed
  obtain ⟨c, hc, hdone, hlast⟩ := hcheckpoint Sample.logbook _ _ none rfl (Scene.after_of_run hrun).journal
    rfl (Nat.le_refl 0) hanswers
  refine ⟨rfl, l, hcounted, hheld, hcalls, c, hc, hdone, ?_⟩
  rcases hlast with ⟨hzero, -⟩ | ⟨-, hnext⟩
  · cases hzero
  · exact hnext

end CatalogImport
