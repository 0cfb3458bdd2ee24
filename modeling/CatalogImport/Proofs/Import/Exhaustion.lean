import CatalogImport.Proofs.Import.Calls

/-!
# Submissions that are exhausted

A store that fails at every call is called as often as is allowed, with the same records and a pause after
each call but the last.  Then the batch is kept, and the submission ends.  Main statements: this is all that
such a submission asks for (`submission_of_failures`), and what is kept of the batch says the same as the
cause for which the import ends, except that the file has no room for the number of attempts when as many
repetitions are allowed as 32 bits can say (`kept_batch_of_failures`).
-/

namespace CatalogImport

open CatalogImport.Calendar CatalogImport.Json

/-- Every call of the store failed. -/
def AllFail (t : History) : Prop := ∀ call ∈ calls t, ∃ e, call.2 = some (.error e)

theorem AllFail.left {t u : History} (h : AllFail (t ++ u)) : AllFail t := by
  intro call hcall
  apply h
  simp [hcall]

theorem AllFail.right {t u : History} (h : AllFail (t ++ u)) : AllFail u := by
  intro call hcall
  apply h
  simp [hcall]

/-- A batch was to be kept. -/
def keptBatch? : Exchange → Option (RecordKind × FailedBatch)
  | ⟨.keepBatch kind kept, _⟩ => some (kind, kept)
  | _ => none

/-- The batches that were to be kept, in order, with their kinds. -/
def keptBatches (t : History) : List (RecordKind × FailedBatch) := t.filterMap keptBatch?

@[simp] theorem keptBatches_append (t u : History) :
    keptBatches (t ++ u) = keptBatches t ++ keptBatches u := List.filterMap_append

/-! ## Calls that fail again and again -/

/-- A call that failed, and what comes up before the next one. -/
def RetryPolicy.repeated (policy : RetryPolicy) (records : List Stored) (failed : StoreError × Nat) :
    History :=
  [⟨.addMany records, some (.error failed.1)⟩, ⟨.notice .retrying, ()⟩,
    ⟨.pause (policy.backoffMillis failed.2), some ()⟩]

/-- Calls that failed one after the other, from one with a number on. -/
def RetryPolicy.repeats (policy : RetryPolicy) (records : List Stored) (attempt : Nat)
    (errors : List StoreError) : History := (errors.zipIdx attempt).flatMap (policy.repeated records)

section

variable {policy : RetryPolicy} {records : List Stored}

theorem repeats_cons (attempt : Nat) (e : StoreError) (errors : List StoreError) :
    policy.repeats records attempt (e :: errors) =
      policy.repeated records (e, attempt) ++ policy.repeats records (attempt + 1) errors := by
  simp [RetryPolicy.repeats, List.zipIdx_cons]

theorem calls_repeats (attempt : Nat) (errors : List StoreError) :
    calls (policy.repeats records attempt errors) = errors.map fun e => (records, some (.error e)) := by
  induction errors generalizing attempt with
  | nil => rfl
  | cons e errors ih =>
    rw [repeats_cons, calls_append, ih]
    rfl

theorem keptBatches_repeats (attempt : Nat) (errors : List StoreError) :
    keptBatches (policy.repeats records attempt errors) = [] := by
  induction errors generalizing attempt with
  | nil => rfl
  | cons e errors ih =>
    rw [repeats_cons, keptBatches_append, ih]
    rfl

/-- Where every call fails, attempts go on until they are exhausted. -/
theorem attempts_of_failures {left attempt count : Nat} {t : History}
    {result : Option (Attempted StoreError BatchResult × Nat)}
    (h : (attemptsFrom policy records left attempt count).Yields t result) (ht : NotCancelled t)
    (hfail : AllFail t) :
    ∃ errors e, errors.length = left ∧ result = some (.exhausted e, count + left) ∧
      t = policy.repeats records attempt errors ++ [⟨.addMany records, some (.error e)⟩] := by
  induction left generalizing attempt count t with
  | zero =>
    rw [attemptsFrom_zero] at h
    obtain ⟨answer, u, rfl, h₁⟩ := yields_ask_bind_iff.1 h
    obtain ⟨e, rfl⟩ := hfail (records, answer) List.mem_cons_self
    obtain ⟨rfl, rfl⟩ := Program.yields_pure_iff.1 h₁
    exact ⟨[], e, rfl, rfl, rfl⟩
  | succ left ih =>
    rw [attemptsFrom_succ] at h
    obtain ⟨answer, u, rfl, h₁⟩ := yields_ask_bind_iff.1 h
    obtain ⟨e, rfl⟩ := hfail (records, answer) List.mem_cons_self
    obtain ⟨_, v, rfl, h₂⟩ := yields_ask_bind_iff.1 h₁
    obtain ⟨x, w, rfl, h₃⟩ := yields_ask_bind_iff.1 h₂
    cases x with
    | none => cases ht ⟨.pause (policy.backoffMillis attempt), none⟩ (by simp)
    | some _ =>
      have hsplit : (⟨.addMany records, some (.error e)⟩ :: ⟨.notice .retrying, ()⟩ ::
          ⟨.pause (policy.backoffMillis attempt), some ()⟩ :: w : History) =
          policy.repeated records (e, attempt) ++ w := rfl
      rw [hsplit] at ht hfail ⊢
      obtain ⟨errors, last, hlength, hresult, hw⟩ := ih h₃ ht.right hfail.right
      refine ⟨e :: errors, last, by simp [hlength], ?_, ?_⟩
      · rw [hresult, Nat.add_assoc, Nat.add_comm 1]
      · rw [hw, repeats_cons, List.append_assoc]

end

/-! ## The whole submission -/

/-- What is asked to keep a batch that the store never took, and what may be said of it. -/
inductive BatchKeeping (kind : RecordKind) (number attempts : Nat) (e : StoreError) (records : List Stored) :
    Bool → History → Prop
  | off : BatchKeeping kind number attempts e records false []
  | kept (moment : Instant) (name : String) : BatchKeeping kind number attempts e records true
      [⟨.now, moment⟩, ⟨.keepBatch kind
        ⟨number, e.message, attempts % 2 ^ 32, records.map (·.payload), moment⟩, some (.ok name)⟩]
  | unwritten (moment : Instant) (error : FileError) : BatchKeeping kind number attempts e records true
      [⟨.now, moment⟩, ⟨.keepBatch kind
        ⟨number, e.message, attempts % 2 ^ 32, records.map (·.payload), moment⟩, some (.error error)⟩,
        ⟨.notice .batchArtifactUnwritten, ()⟩]

theorem batchKeeping_of_yields {kind : RecordKind} {persist : Bool} {number attempts : Nat} {e : StoreError}
    {records : List Stored} {t : History} {x : Option Unit}
    (h : (keepUnsubmitted kind persist number attempts e records).run.Yields t x) (ht : NotCancelled t) :
    x = some () ∧ BatchKeeping kind number attempts e records persist t := by
  unfold keepUnsubmitted at h
  cases persist with
  | false =>
    obtain ⟨rfl, rfl⟩ := Program.yields_pure_iff.1 h
    exact ⟨rfl, .off⟩
  | true =>
    obtain ⟨moment, u, rfl, h₁⟩ := Program.yields_ask_iff.1 h
    obtain ⟨answer, v, rfl, h₂⟩ := Program.yields_ask_iff.1 h₁
    rcases answer with _ | error | name
    · cases ht _ (List.mem_cons_of_mem _ List.mem_cons_self)
    · obtain ⟨_, w, rfl, h₃⟩ := Program.yields_ask_iff.1 h₂
      obtain ⟨rfl, rfl⟩ := Program.yields_done_iff.1 h₃
      exact ⟨rfl, .unwritten moment error⟩
    · obtain ⟨rfl, rfl⟩ := Program.yields_done_iff.1 h₂
      exact ⟨rfl, .kept moment name⟩

section

variable {R : Type} [CatalogRecord R] {policy : RetryPolicy} {persist : Bool} {b : Batch R}
  {records : List Stored} {t : History} {result : Option (Except Unsubmitted Submitted)}

/-- A submission whose calls all fail makes them all, with pauses between them, keeps the batch, and says
how often it has tried and what the last error was. -/
theorem submission_of_failures (h : (submit policy persist b).run.Yields t result)
    (hstored : b.stored = .ok records) (ht : NotCancelled t) (hfail : AllFail t) :
    ∃ errors e keeping, errors.length = policy.maxAttempts - 1 ∧
      result = some (.error ⟨errors.length, .batchFailed b.number (errors.length + 1) e, records⟩) ∧
      t = policy.repeats records 1 errors ++
        ⟨.addMany records, some (.error e)⟩ :: ⟨.notice .retriesExhausted, ()⟩ :: keeping ∧
      BatchKeeping (CatalogRecord.kind R) b.number (errors.length + 1) e records persist keeping := by
  unfold submit at h
  rw [hstored] at h
  obtain ⟨x, u, v, rfl, hu, hv⟩ := Program.yields_bind_iff.1 h
  have hattempts : (attemptsFrom policy records (policy.maxAttempts - 1) 1 0).Yields u x := hu
  obtain ⟨errors, e, hlength, rfl, rfl⟩ := attempts_of_failures hattempts ht.left hfail.left
  obtain ⟨_, w, rfl, h₁⟩ := yields_cancellable_ask_bind_iff.1 hv
  obtain ⟨y, w₁, w₂, rfl, hkeep, h₂⟩ := yields_cancellable_bind_iff.1 h₁
  have hquiet : NotCancelled w₁ := (NotCancelled.right (t := [_]) ht.right).left
  obtain ⟨rfl, hkeeping⟩ := batchKeeping_of_yields hkeep hquiet
  obtain ⟨rfl, rfl⟩ := Program.yields_done_iff.1 h₂
  rw [Nat.zero_add, ← hlength] at hkeeping
  refine ⟨errors, e, w₁, hlength, ?_, ?_, hkeeping⟩
  · rw [Nat.zero_add, ← hlength]
  · simp

theorem BatchKeeping.calls_eq {kind : RecordKind} {number attempts : Nat} {e : StoreError}
    {keeping : History} (h : BatchKeeping kind number attempts e records persist keeping) :
    calls keeping = [] := by
  cases h <;> rfl

/-- The batch that is to be kept, if batches are kept at all. -/
theorem BatchKeeping.exists_kept {kind : RecordKind} {number attempts : Nat} {e : StoreError}
    {keeping : History} (h : BatchKeeping kind number attempts e records persist keeping) :
    ∃ moment, keptBatches keeping = if persist then
      [(kind, ⟨number, e.message, attempts % 2 ^ 32, records.map (·.payload), moment⟩)] else [] := by
  cases h with
  | off => exact ⟨.epoch, rfl⟩
  | kept moment name => exact ⟨moment, rfl⟩
  | unwritten moment error => exact ⟨moment, rfl⟩

/-- The payloads of records that are handed over are those of the records themselves. -/
theorem forall₂_payload (hstored : b.stored = .ok records) :
    List.Forall₂ (fun x form => CatalogRecord.payload x.record = .ok form.payload) b.entries records := by
  refine (forall₂_of_stored hstored).imp ?_
  intro x form hform
  unfold CatalogRecord.stored at hform
  cases hpayload : CatalogRecord.payload x.record with
  | error reason => simp [hpayload, Except.map] at hform
  | ok v =>
    simp only [hpayload, Except.map, Except.ok.injEq] at hform
    rw [← hform]

/-- The calls of such a submission, what it comes to, and what is kept of the batch, whose number of attempts
is cut to 32 bits. -/
theorem exhausted_of_failures {maxRetries : Nat} {delay : Span}
    (h : (submit (.linear maxRetries delay) persist b).run.Yields t result)
    (hstored : b.stored = .ok records) (ht : NotCancelled t) (hfail : AllFail t) :
    ∃ errors e moment, errors.length = maxRetries ∧
      calls t = (errors ++ [e]).map (fun e => (records, some (.error e))) ∧
      result = some (.error ⟨maxRetries, .batchFailed b.number (maxRetries + 1) e, records⟩) ∧
      keptBatches t = if persist then [(CatalogRecord.kind R,
        ⟨b.number, e.message, (maxRetries + 1) % 2 ^ 32, records.map (·.payload), moment⟩)] else [] := by
  obtain ⟨errors, e, keeping, hlength, rfl, rfl, hkeeping⟩ := submission_of_failures h hstored ht hfail
  obtain rfl : errors.length = maxRetries := hlength
  obtain ⟨moment, hkept⟩ := hkeeping.exists_kept
  refine ⟨errors, e, moment, rfl, ?_, rfl, ?_⟩
  · rw [calls_append, calls_repeats, List.map_append]
    exact congrArg (_ ++ (records, some (.error e)) :: ·) hkeeping.calls_eq
  · rw [keptBatches_append, keptBatches_repeats, List.nil_append]
    exact hkept

/-- A submission to a store that fails at every call, whatever the number of repetitions that 32 bits can
say and whatever the batch.  It is not taken, and calls the store once more than repetitions are allowed, each
time with all its records.  The import ends for the last error, with the number of the batch and the number of
these calls.  If batches are kept, exactly one is, with that number, the words of that error, and the payloads
of the records of the batch in order, which are those of the records that were handed over.  It has the number
of these calls as well, unless as many repetitions are allowed as 32 bits can say; then it says that there was
no call at all. -/
theorem kept_batch_of_failures {maxRetries : Nat} {delay : Span}
    (h : (submit (.linear maxRetries delay) persist b).run.Yields t result)
    (hstored : b.stored = .ok records) (hmax : maxRetries < 2 ^ 32) (ht : NotCancelled t)
    (hfail : AllFail t) :
    ∃ (u : Unsubmitted) (e : StoreError) (moment : Instant) (attempts : Nat),
      result = some (.error u) ∧ u.cause = .batchFailed b.number (maxRetries + 1) e ∧
      u.retries = maxRetries ∧
      (∀ call ∈ calls t, call.1 = u.records) ∧ (calls t).length = maxRetries + 1 ∧
      (calls t).getLast? = some (u.records, some (.error e)) ∧
      List.Forall₂ (fun x form => CatalogRecord.payload x.record = .ok form.payload) b.entries u.records ∧
      keptBatches t = (if persist then [(CatalogRecord.kind R,
        ⟨b.number, e.message, attempts, u.records.map (·.payload), moment⟩)] else []) ∧
      (attempts = maxRetries + 1 ↔ maxRetries ≠ 2 ^ 32 - 1) ∧ (maxRetries = 2 ^ 32 - 1 → attempts = 0) := by
  obtain ⟨errors, e, moment, hlength, hcalls, rfl, hkept⟩ := exhausted_of_failures h hstored ht hfail
  refine ⟨_, e, moment, (maxRetries + 1) % 2 ^ 32, rfl, rfl, rfl, ?_, ?_, ?_, forall₂_payload hstored, hkept,
    ?_, ?_⟩
  · intro call hcall
    rw [hcalls] at hcall
    obtain ⟨e', -, rfl⟩ := List.mem_map.1 hcall
    rfl
  · rw [hcalls, List.length_map, List.length_append, hlength, List.length_singleton]
  · rw [hcalls]
    simp
  · omega
  · omega

end

/-! ## A store that is always busy -/

namespace Scene

/-- Answers with which everything goes on, but each call of the store fails. -/
def busy : (q : Request) → q.Answer
  | .now => .epoch
  | .freshId => ""
  | .enter _ => ()
  | .notice _ => ()
  | .isCancelled => false
  | .openDocument => .error .cancelled
  | .addMany _ => some (.error (.transport "busy"))
  | .pause _ => some ()
  | .keepBatch _ _ => some (.ok "")
  | .keepRecords _ _ => .ok ""
  | .progress _ => ()
  | .append _ => .ok ()
  | .loadCheckpoint _ => .ok none
  | .saveCheckpoint _ => .ok ()

/-- Every program comes to an end there. -/
theorem exists_yields_busy {α : Type} (p : Task α) :
    ∃ t a, p.Yields t a ∧ NotCancelled t ∧ AllFail t ∧ ∀ e ∈ t, e = ⟨e.1, busy e.1⟩ := by
  obtain ⟨t, a, hyields, hanswers⟩ := Program.exists_yields busy p
  refine ⟨t, a, hyields, ?_, ?_, hanswers⟩
  · intro e he
    rw [hanswers e he]
    obtain ⟨q, x⟩ := e
    cases q <;> rfl
  · intro call hcall
    obtain ⟨e, he, hcall⟩ := List.mem_filterMap.1 hcall
    rw [hanswers e he] at hcall
    obtain ⟨q, x⟩ := e
    cases q with
    | addMany records =>
      cases hcall
      exact ⟨_, rfl⟩
    | _ => cases hcall

end Scene

namespace Sample

/-- A batch of one set. -/
def batch : Batch CardSet :=
  ⟨4, [⟨0, ⟨"a", "First", "x", "core", none, none, false, false, false, none, none⟩⟩]⟩

/-- What is handed over of it. -/
def handedOver : List Stored := storedForms batch.entries

theorem stored_batch : batch.stored = .ok handedOver := rfl

end Sample

/-- Two repetitions are allowed. -/
theorem kept_batch_of_three_failures :
    ∃ t u moment, (submit (.linear 2 ⟨1, 0⟩) true Sample.batch).run.Yields t (some (.error u)) ∧
      NotCancelled t ∧ AllFail t ∧ 2 < 2 ^ 32 ∧ (calls t).length = 3 ∧
      u.cause = .batchFailed 4 3 (.transport "busy") ∧
      keptBatches t = [(.sets, ⟨4, (StoreError.transport "busy").message, 3,
        u.records.map (·.payload), moment⟩)] := by
  obtain ⟨t, result, hyields, ht, hfail, hbusy⟩ :=
    Scene.exists_yields_busy (submit (.linear 2 ⟨1, 0⟩) true Sample.batch).run
  obtain ⟨u, e, moment, attempts, rfl, hcause, -, -, hlength, hlast, -, hkept, hattempts, -⟩ :=
    kept_batch_of_failures hyields Sample.stored_batch (by decide) ht hfail
  have he : e = .transport "busy" := by
    obtain ⟨x, hx, hcall⟩ := List.mem_filterMap.1 (List.mem_of_getLast? hlast)
    rw [hbusy x hx] at hcall
    obtain ⟨q, answer⟩ := x
    cases q with
    | addMany records => cases hcall; rfl
    | _ => cases hcall
  obtain rfl : attempts = 3 := hattempts.2 (by decide)
  subst he
  exact ⟨t, u, moment, hyields, ht, hfail, by decide, hlength, hcause, hkept⟩

/-- As many repetitions are allowed as 32 bits can say: the import ends after 2 ^ 32 attempts at the batch,
and what is kept of it says that there was none. -/
theorem kept_batch_without_attempts :
    ∃ t u e kept, (submit (.linear (2 ^ 32 - 1) ⟨0, 0⟩) true Sample.batch).run.Yields t (some (.error u)) ∧
      NotCancelled t ∧ AllFail t ∧ (calls t).length = 2 ^ 32 ∧ u.cause = .batchFailed 4 (2 ^ 32) e ∧
      keptBatches t = [(.sets, kept)] ∧ kept.attempts = 0 := by
  obtain ⟨t, result, hyields, ht, hfail, -⟩ :=
    Scene.exists_yields_busy (submit (.linear (2 ^ 32 - 1) ⟨0, 0⟩) true Sample.batch).run
  obtain ⟨errors, e, moment, hlength, hcalls, rfl, hkept⟩ :=
    exhausted_of_failures hyields Sample.stored_batch ht hfail
  have hall : 2 ^ 32 - 1 + 1 = 2 ^ 32 := Nat.sub_add_cancel (by decide)
  rw [if_pos rfl, hall, Nat.mod_self] at hkept
  refine ⟨t, _, e, _, hyields, ht, hfail, ?_, congrArg (Cause.batchFailed 4 · e) hall, hkept, rfl⟩
  rw [hcalls, List.length_map, List.length_append, hlength, List.length_singleton, hall]

end CatalogImport
