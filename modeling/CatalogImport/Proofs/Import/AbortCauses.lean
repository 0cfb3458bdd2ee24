import CatalogImport.Proofs.Import.Calls

/-!
# Why imports end early

An import ends early because it was cancelled, or for a reason that shows in the document, in its records or
in what the store answered: `Reached` says which, cause by cause.  Main statements: the import ends for a
cancellation whenever one comes (`notCancelled_of_yields`), and any other cause has been reached
(`reached_of_yields`).
-/

namespace CatalogImport

open CatalogImport.Calendar CatalogImport.Json

/-! ## Cancellations -/

theorem NotCancelled.append {t u : History} (ht : NotCancelled t) (hu : NotCancelled u) :
    NotCancelled (t ++ u) := List.forall_mem_append.2 ⟨ht, hu⟩

theorem NotCancelled.cons {e : Exchange} {t : History} (he : isCancellation e = false) (ht : NotCancelled t) :
    NotCancelled (e :: t) := List.forall_mem_cons.2 ⟨he, ht⟩

theorem notCancelled_failedCalls (records : List Stored) (errors : List StoreError) :
    NotCancelled (failedCalls records errors) := by
  intro e he
  obtain ⟨_, -, rfl⟩ := List.mem_map.1 he
  rfl

theorem notCancelled_recorded {logbook : Option Logbook} {number records : Nat} {g : History}
    (h : Recorded logbook number records g) : NotCancelled g := by
  cases h <;> simp [NotCancelled, isCancellation]

/-- Cancellations matter, so there are none when there are none in the gist. -/
theorem NotCancelled.of_gist {t : History} (h : NotCancelled (CatalogImport.gist t)) : NotCancelled t := by
  intro e he
  cases hcancelled : isCancellation e with
  | false => rfl
  | true =>
    have hmatters : matters e = true := by rw [matters, hcancelled, Bool.or_true]
    exact hcancelled.symm.trans (h e (mem_gist_iff.2 ⟨he, hmatters⟩))

variable {R : Type} [CatalogRecord R]

section

variable {config : Config} {logbook : Option Logbook} {run run' : RunState R} {g : History}
  {cause? : Option Cause}

theorem SubmitStep.notCancelled {b : Batch R} (h : SubmitStep config logbook run b g run' cause?)
    (hcause : cause? ≠ some .cancelled) : NotCancelled g := by
  cases h with
  | cancelled => exact absurd rfl hcause
  | dropped => exact absurd rfl hcause
  | counted records errors report entry hstored hlength hentry =>
    exact (notCancelled_failedCalls records errors).append
      (.cons rfl (.cons rfl (notCancelled_recorded hentry)))
  | refused records errors e entries hstored hlength hentries =>
    rw [← failedCalls_concat]
    exact notCancelled_failedCalls records (errors ++ [e])
  | unwritable => exact List.forall_mem_nil _

theorem ElementStep.notCancelled {x : Value × Nat} (h : ElementStep config logbook run x g run' cause?)
    (hcause : cause? ≠ some .cancelled) : NotCancelled g := by
  cases h with
  | pending => exact .cons rfl (List.forall_mem_nil _)
  | sealed r b batcher g _ _ hvalid hpush hsubmit => exact .cons rfl (hsubmit.notCancelled hcause)
  | rejected => exact .cons rfl (List.forall_mem_nil _)

/-- A run that goes on has not been cancelled. -/
theorem Takes.notCancelled {xs : List (Value × Nat)} (h : Takes config logbook run xs g run') :
    NotCancelled g := by
  induction h with
  | nil run => exact List.forall_mem_nil _
  | cons hstep _ ih => exact (hstep.notCancelled (by simp)).append ih

theorem RunEnd.notCancelled {document : Reading} {due xs : List (Value × Nat)}
    (h : RunEnd config logbook run document due xs g run' cause?) (hcause : cause? ≠ some .cancelled) :
    NotCancelled g := by
  cases h with
  | early _ _ _ cause hintake =>
    generalize hsome : some cause = cause? at hintake
    cases hintake with
    | cancelled => exact absurd hsome hcause
    | stopped ys x zs g₁ g₂ run₁ _ cause' hdue htakes hstep =>
      exact htakes.notCancelled.append (hstep.notCancelled (hsome ▸ hcause))
    | drained => cases hsome
  | unread _ _ e htakes hending => exact htakes.notCancelled
  | flushed g₁ g₂ run₁ _ b batcher summary _ htakes hending hfinish hsubmit =>
    exact htakes.notCancelled.append (hsubmit.notCancelled hcause)
  | drained _ _ batcher summary htakes hending hfinish => exact htakes.notCancelled

end

theorem notCancelled_of_keeps {config : Config} {kind : RecordKind} {failed : List FailedEntry} {g : History}
    (h : Keeps config kind failed g) : NotCancelled g := by
  unfold Keeps at h
  split at h
  · rw [h]
    exact List.forall_mem_nil _
  · obtain ⟨answer, rfl⟩ := h
    exact .cons rfl (List.forall_mem_nil _)

section

variable {config : Config} {logbook : Option Logbook} {resumeFrom : Nat} {t : History} {outcome : Outcome}

/-- An import that ends for another reason, or does all it has to, has not been cancelled. -/
theorem notCancelled_of_yields (h : (importRun config logbook R resumeFrom).Yields t outcome)
    (hcause : outcome.cause? ≠ some .cancelled) : NotCancelled t := by
  refine NotCancelled.of_gist ?_
  rcases exists_runEnd h with ⟨-, startedAt, moment, cause, hg, -⟩ |
    ⟨startedAt, moment, document, g, keeps, run, -, hg, hend, hkeeps, -⟩
  · rw [hg]
    exact .cons rfl (List.forall_mem_nil _)
  · rw [hg]
    exact NotCancelled.append (.cons rfl (hend.notCancelled hcause)) (notCancelled_of_keeps hkeeps)

end

/-! ## Other causes -/

/-- The import has reached a cause to end early: its document cannot be opened, or cannot be read beyond the
elements that were received; the element received last is no record, and such elements are not passed over; or
the last batch of the records received was refused at every attempt, or one of its records has no form to be
handed over in. -/
inductive Reached (R : Type) [CatalogRecord R] (config : Config) (resumeFrom : Nat) (t : History) :
    Cause → Prop
  | unopened (cause : Cause) (hopens : (⟨.openDocument, .error cause⟩ : Exchange) ∈ t) :
      Reached R config resumeFrom t cause
  | unread (document : Reading) (e : SourceError) (hopened : documents t = [document])
      (hending : document.ending = .error e)
      (hreceived : receivedElements config resumeFrom t = dueElements config resumeFrom t) :
      Reached R config resumeFrom t (.source e)
  | invalid (x : Value × Nat) (violation : Violation)
      (hlast : (receivedElements config resumeFrom t).getLast? = some x)
      (hinvalid : CatalogRecord.validate (R := R) x.1 = .error violation)
      (hstrict : config.skipValidationErrors = false) :
      Reached R config resumeFrom t (.invalidRecord x.2 violation)
  | refused (b : Batch R) (records : List Stored) (errors : List StoreError) (e : StoreError)
      (hlast : (batchesOf (max config.batchSize 1) resumeFrom
        (entriesOf R (receivedElements config resumeFrom t))).getLast? = some b)
      (hstored : b.stored = .ok records) (hlength : errors.length = config.maxRetries)
      (hcalls : (errors ++ [e]).map (fun e => (records, some (.error e))) <:+ calls t) :
      Reached R config resumeFrom t (.batchFailed b.number (config.maxRetries + 1) e)
  | unwritable (b : Batch R) (reason : String)
      (hlast : (batchesOf (max config.batchSize 1) resumeFrom
        (entriesOf R (receivedElements config resumeFrom t))).getLast? = some b)
      (hstored : b.stored = .error reason) :
      Reached R config resumeFrom t (.batchUnwritable b.number reason)

/-- A run that has to stop at a batch has sealed all records that it received. -/
theorem sealedBatches_of_batch {R : Type} {size first : Nat} {es : List (Entry R)} (cause : Cause)
    (hcause : cause.batchNumber?.isSome = true) :
    sealedBatches size first es (some cause) = batchesOf size first es := by
  rw [sealedBatches, Option.all_some, if_pos hcause]

/-- A run that ends early, not cancelled and for no batch, has met an element that is no record, or cannot read
its document further. -/
theorem RunEnd.exists_element_of_not_batch {config : Config} {logbook : Option Logbook}
    {run run' : RunState R} {document : Reading} {due xs : List (Value × Nat)} {g : History} {cause : Cause}
    (h : RunEnd config logbook run document due xs g run' (some cause)) (hg : NotCancelled g)
    (hcause : cause.batchNumber? = none) :
    (∃ x violation, xs.getLast? = some x ∧ CatalogRecord.validate (R := R) x.1 = .error violation ∧
        config.skipValidationErrors = false ∧ cause = .invalidRecord x.2 violation) ∨
      xs = due ∧ ∃ e, document.ending = .error e ∧ cause = .source e := by
  cases h with
  | early _ _ _ _ hintake =>
    cases hintake with
    | cancelled => cases hg _ (List.mem_append_right _ List.mem_cons_self)
    | stopped ys x zs g₁ g₂ run₁ _ _ hdue htakes hstep =>
      left
      generalize hsome : some cause = cause? at hstep
      cases hstep with
      | pending => cases hsome
      | sealed r b batcher g' _ _ hvalid hpush hsubmit =>
        obtain ⟨-, -, -, -, -, -, hbatch⟩ := hsubmit.exists_rounds (NotCancelled.right (t := [_]) hg.right)
        rw [hbatch cause hsome.symm] at hcause
        cases hcause
      | rejected violation entry hinvalid hentry =>
        cases hskip : config.skipValidationErrors with
        | true =>
          rw [hskip] at hsome
          cases hsome
        | false =>
          rw [hskip] at hsome
          cases hsome
          exact ⟨x, violation, List.getLast?_concat .., hinvalid, rfl, rfl⟩
  | unread _ _ e htakes hending => exact .inr ⟨rfl, e, hending, rfl⟩
  | flushed g₁ g₂ run₁ _ b batcher summary _ htakes hending hfinish hsubmit =>
    obtain ⟨-, -, -, -, -, -, hbatch⟩ := hsubmit.exists_rounds hg.right
    rw [hbatch cause rfl] at hcause
    cases hcause

/-- An import that ends early, but has not been cancelled, has reached the cause it ends for. -/
theorem reached_of_yields {config : Config} {logbook : Option Logbook} {resumeFrom : Nat} {t : History}
    {outcome : Outcome} {cause : Cause} (h : (importRun config logbook R resumeFrom).Yields t outcome)
    (hcause : outcome.cause? = some cause) (hnever : cause ≠ .cancelled) :
    Reached R config resumeFrom t cause := by
  have ht : NotCancelled t := notCancelled_of_yields h (by simpa [hcause] using hnever)
  have hgist := ht.gist
  rcases exists_runEnd h with ⟨-, startedAt, moment, cause', hg, rfl⟩ |
    ⟨startedAt, moment, document, g, keeps, run, hopened, hg, hend, hkeeps, -⟩
  · rw [cause?_verdict] at hcause
    cases hcause
    have hmem : (⟨.openDocument, .error cause⟩ : Exchange) ∈ gist t := by
      rw [hg]
      exact List.mem_cons_self
    exact .unopened cause (mem_gist_iff.1 hmem).1
  rw [hg] at hgist
  have hrun : NotCancelled g := NotCancelled.right (t := [_]) hgist.left
  rw [hcause] at hend
  obtain ⟨rounds, unwritable, hends, hcalls, hbatches⟩ := hend.exists_rounds hrun
  have hallcalls : calls t = rounds.flatMap (·.calls) := by
    rw [← calls_gist, hg, calls_append, calls_keeps hkeeps, List.append_nil]
    exact hcalls
  cases hends with
  | taken _ _ htaken hnone =>
    rcases hend.exists_element_of_not_batch hrun (hnone cause rfl) with
      ⟨x, violation, hlast, hinvalid, hstrict, rfl⟩ | ⟨hreceived, e, hending, rfl⟩
    · exact .invalid x violation hlast hinvalid hstrict
    · exact .unread document e hopened hending hreceived
  | refused before last e htaken hlast =>
    have hsealed : (before ++ [last]).map (·.batch) = batchesOf (max config.batchSize 1) resumeFrom
        (entriesOf R (receivedElements config resumeFrom t)) := by
      rw [← sealedBatches_of_batch (.batchFailed last.batch.number (config.maxRetries + 1) e) rfl, ← hbatches,
        Option.toList_none, List.append_nil]
    refine .refused last.batch (storedForms last.batch.entries) last.errors e ?_ hlast.stored
      hlast.length_eq ?_
    · rw [← hsealed, List.map_append]
      exact List.getLast?_concat ..
    · rw [hallcalls, List.flatMap_append, List.flatMap_singleton, Round.calls, hlast.answer, List.map_append]
      exact List.suffix_append _ _
  | unwritable _ b reason htaken hb =>
    have hsealed : rounds.map (·.batch) ++ [b] = batchesOf (max config.batchSize 1) resumeFrom
        (entriesOf R (receivedElements config resumeFrom t)) := by
      rw [← sealedBatches_of_batch (.batchUnwritable b.number reason) rfl, ← hbatches, Option.toList_some]
    refine .unwritable b reason ?_ hb
    rw [← hsealed]
    exact List.getLast?_concat ..

end CatalogImport
