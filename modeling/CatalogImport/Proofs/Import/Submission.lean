import CatalogImport.Proofs.Import.History
import Mathlib.Data.List.Forall2

/-!
# How a submission ends

A submission is a row of calls of the store of which all but the last failed.  Main statement: what is
called and what comes of it, for every way in which the store answers and a cancellation may come
(`submission_of_yields`).
-/

namespace CatalogImport

/-- Calls of the store that failed, one for each error. -/
def failedCalls (records : List Stored) (errors : List StoreError) : History :=
  errors.map fun e => ⟨.addMany records, some (.error e)⟩

theorem failedCalls_concat (records : List Stored) (errors : List StoreError) (e : StoreError) :
    failedCalls records (errors ++ [e]) =
      failedCalls records errors ++ [⟨.addMany records, some (.error e)⟩] := List.map_append

/-! ## Programs that may be broken off -/

theorem yields_cancellable_bind_iff {α β : Type} {p : Cancellable α} {f : α → Cancellable β}
    {t : History} {r : Option β} :
    (p >>= f).run.Yields t r ↔ ∃ a u v, t = u ++ v ∧ p.run.Yields u a ∧
      match a with
      | some a => (f a).run.Yields v r
      | none => v = [] ∧ r = none := by
  refine Program.yields_bind_iff.trans (exists_congr fun a => ?_)
  cases a with
  | none =>
    refine exists_congr fun u => exists_congr fun v => ?_
    exact and_congr_right fun _ => and_congr_right fun _ => Program.yields_done_iff
  | some a => rfl

theorem yields_cancellable_ask_bind_iff {β : Type} {q : Request} {f : q.Answer → Cancellable β}
    {t : History} {r : Option β} :
    ((liftM (ask q) : Cancellable q.Answer) >>= f).run.Yields t r ↔
      ∃ x u, t = ⟨q, x⟩ :: u ∧ (f x).run.Yields u r := Program.yields_ask_iff

/-! ## Attempts -/

/-- The attempts that are left after some have failed, as a program that may be broken off. -/
def attemptsFrom (policy : RetryPolicy) (records : List Stored) (left attempt count : Nat) :
    Task (Option (Attempted StoreError BatchResult × Nat)) :=
  ((policy.attemptFrom
    (do
      let answer ← cancellable (ask (.addMany records))
      return attemptOf answer : Counting (Attempt StoreError BatchResult))
    (fun _ _ _ => do
      modify (· + 1)
      ask (.notice .retrying))
    (fun millis => cancellable (ask (.pause millis))) left attempt).run count).run

theorem attemptsFrom_zero (policy : RetryPolicy) (records : List Stored) (attempt count : Nat) :
    attemptsFrom policy records 0 attempt count = (ask (.addMany records) >>= fun
      | none => pure none
      | some (.ok r) => pure (some (.ok r, count))
      | some (.error e) => pure (some (.exhausted e, count))) := by
  unfold attemptsFrom RetryPolicy.attemptFrom
  refine congrArg (Program.ask (Request.addMany records)) (funext fun answer => ?_)
  rcases answer with _ | _ | _ <;> rfl

theorem attemptsFrom_succ (policy : RetryPolicy) (records : List Stored)
    (left attempt count : Nat) :
    attemptsFrom policy records (left + 1) attempt count = (ask (.addMany records) >>= fun
      | none => pure none
      | some (.ok r) => pure (some (.ok r, count))
      | some (.error _) => ask (.notice .retrying) >>= fun _ =>
          ask (.pause (policy.backoffMillis attempt)) >>= fun
            | none => pure none
            | some _ => attemptsFrom policy records left (attempt + 1) (count + 1)) := by
  conv =>
    lhs
    unfold attemptsFrom RetryPolicy.attemptFrom
  refine congrArg (Program.ask (Request.addMany records)) (funext fun answer => ?_)
  rcases answer with _ | _ | _
  · rfl
  · refine congrArg (Program.ask (Request.notice .retrying)) (funext fun _ => ?_)
    refine congrArg (Program.ask (Request.pause _)) (funext fun x => ?_)
    cases x <;> rfl
  · rfl

/-- The calls of attempts of which `left` may follow the first, and what they come to: the result with
the number of repetitions, or nothing when they are broken off. -/
inductive Attempting (records : List Stored) (left : Nat) :
    History → Option (Attempted StoreError BatchResult × Nat) → Prop
  | taken (errors : List StoreError) (r : BatchResult) (h : errors.length ≤ left) :
      Attempting records left (failedCalls records errors ++ [⟨.addMany records, some (.ok r)⟩])
        (some (.ok r, errors.length))
  | refused (errors : List StoreError) (e : StoreError) (h : errors.length = left) :
      Attempting records left (failedCalls records errors ++ [⟨.addMany records, some (.error e)⟩])
        (some (.exhausted e, errors.length))
  | interrupted (errors : List StoreError) (h : errors.length ≤ left) :
      Attempting records left (failedCalls records errors ++ [⟨.addMany records, none⟩]) none
  | paused (errors : List StoreError) (millis : Nat) (h : errors.length ≤ left) :
      Attempting records left (failedCalls records errors ++ [⟨.pause millis, none⟩]) none

/-- A failed call in front makes one repetition more. -/
theorem Attempting.cons {records : List Stored} {left : Nat} {g : History}
    {result : Option (Attempted StoreError BatchResult × Nat)} (h : Attempting records left g result)
    (e : StoreError) :
    Attempting records (left + 1) (⟨.addMany records, some (.error e)⟩ :: g)
      (result.map fun r => (r.1, r.2 + 1)) := by
  cases h with
  | taken errors r h => exact .taken (e :: errors) r (by simpa using h)
  | refused errors last h => exact .refused (e :: errors) last (by simpa using h)
  | interrupted errors h => exact .interrupted (e :: errors) (by simpa using h)
  | paused errors millis h => exact .paused (e :: errors) millis (by simpa using h)

theorem attempting_of_yields {policy : RetryPolicy} {records : List Stored}
    {left attempt count : Nat} {t : History}
    {result : Option (Attempted StoreError BatchResult × Nat)}
    (h : (attemptsFrom policy records left attempt count).Yields t result) :
    ∃ r, Attempting records left (gist t) r ∧ result = r.map fun r => (r.1, count + r.2) := by
  induction left generalizing attempt count t result with
  | zero =>
    rw [attemptsFrom_zero] at h
    obtain ⟨answer, u, rfl, h₁⟩ := yields_ask_bind_iff.1 h
    rcases answer with _ | e | r
    · obtain ⟨rfl, rfl⟩ := Program.yields_pure_iff.1 h₁
      exact ⟨none, .interrupted [] (Nat.le_refl 0), rfl⟩
    · obtain ⟨rfl, rfl⟩ := Program.yields_pure_iff.1 h₁
      exact ⟨some (.exhausted e, 0), .refused [] e rfl, rfl⟩
    · obtain ⟨rfl, rfl⟩ := Program.yields_pure_iff.1 h₁
      exact ⟨some (.ok r, 0), .taken [] r (Nat.le_refl 0), rfl⟩
  | succ left ih =>
    rw [attemptsFrom_succ] at h
    obtain ⟨answer, u, rfl, h₁⟩ := yields_ask_bind_iff.1 h
    rcases answer with _ | e | r
    · obtain ⟨rfl, rfl⟩ := Program.yields_pure_iff.1 h₁
      exact ⟨none, .interrupted [] (Nat.zero_le _), rfl⟩
    · obtain ⟨_, v, rfl, h₂⟩ := yields_ask_bind_iff.1 h₁
      obtain ⟨x, w, rfl, h₃⟩ := yields_ask_bind_iff.1 h₂
      cases x with
      | none =>
        obtain ⟨rfl, rfl⟩ := Program.yields_pure_iff.1 h₃
        exact ⟨none, .paused [e] _ (Nat.le_add_left 1 left), rfl⟩
      | some _ =>
        obtain ⟨r, hr, hresult⟩ := ih h₃
        rw [gist_cons_of_matters rfl, gist_cons_of_not_matters rfl, gist_cons_of_not_matters rfl]
        refine ⟨_, hr.cons e, ?_⟩
        rw [hresult, Option.map_map]
        refine congrArg (r.map ·) (funext fun x => ?_)
        simp [Nat.add_comm 1, Nat.add_assoc]
    · obtain ⟨rfl, rfl⟩ := Program.yields_pure_iff.1 h₁
      exact ⟨some (.ok r, 0), .taken [] r (Nat.zero_le _), rfl⟩

/-! ## Batches -/

section

variable {R : Type} [CatalogRecord R]

/-- The forms in which records are handed to a store, of those that have one. -/
def storedForms (es : List (Entry R)) : List Stored :=
  es.filterMap fun e => (CatalogRecord.stored e.record).toOption

@[simp] theorem storedForms_append (es fs : List (Entry R)) :
    storedForms (es ++ fs) = storedForms es ++ storedForms fs := List.filterMap_append

/-- A record is handed over under its id. -/
theorem id_of_stored {r : R} {form : Stored} (h : CatalogRecord.stored r = .ok form) :
    form.id = CatalogRecord.id r := by
  unfold CatalogRecord.stored at h
  cases hp : CatalogRecord.payload r with
  | error reason =>
    rw [hp] at h
    cases h
  | ok v =>
    rw [hp] at h
    cases h
    rfl

/-- When a batch can be handed over, each of its records has a form. -/
theorem forall₂_of_stored {b : Batch R} {records : List Stored} (h : b.stored = .ok records) :
    List.Forall₂ (fun e s => CatalogRecord.stored e.record = .ok s) b.entries records := by
  unfold Batch.stored at h
  generalize b.entries = es at h
  induction es generalizing records with
  | nil =>
    cases h
    exact .nil
  | cons e es ih =>
    rw [List.mapM_cons] at h
    cases hs : CatalogRecord.stored e.record with
    | error reason => rw [hs] at h; cases h
    | ok s =>
      cases hr : es.mapM fun e => CatalogRecord.stored e.record with
      | error reason => rw [hs, hr] at h; cases h
      | ok rest =>
        rw [hs, hr] at h
        cases h
        exact .cons hs (ih hr)

theorem exists_mem_of_forall₂ {α β : Type} {P : α → β → Prop} {as : List α} {bs : List β}
    (h : List.Forall₂ P as bs) {a : α} (ha : a ∈ as) : ∃ b ∈ bs, P a b := by
  induction h with
  | nil => cases ha
  | cons hab _ ih =>
    rcases List.mem_cons.1 ha with rfl | ha
    · exact ⟨_, List.mem_cons_self, hab⟩
    · obtain ⟨b, hb, hp⟩ := ih ha
      exact ⟨b, List.mem_cons_of_mem _ hb, hp⟩

/-- When a batch can be handed over, so can each of its records. -/
theorem exists_stored_of_mem {b : Batch R} {records : List Stored} (h : b.stored = .ok records)
    {e : Entry R} (he : e ∈ b.entries) : ∃ s, CatalogRecord.stored e.record = .ok s := by
  obtain ⟨s, -, hs⟩ := exists_mem_of_forall₂ (forall₂_of_stored h) he
  exact ⟨s, hs⟩

theorem storedForms_of_stored {b : Batch R} {records : List Stored} (h : b.stored = .ok records) :
    storedForms b.entries = records := by
  have hf := forall₂_of_stored h
  clear h
  generalize b.entries = es at hf
  induction hf with
  | nil => rfl
  | cons hs _ ih =>
    unfold storedForms at ih ⊢
    rw [List.filterMap_cons_some (by rw [hs]; rfl), ih]

/-- The exchange in which a submission of records is cancelled: a call of the store, of which nobody
knows whether it did anything, a pause, or the keeping of the batch. -/
inductive Interrupts (records : List Stored) : Exchange → Prop
  | call : Interrupts records ⟨.addMany records, none⟩
  | pause (millis : Nat) : Interrupts records ⟨.pause millis, none⟩
  | keeping (kind : RecordKind) (batch : FailedBatch) : Interrupts records ⟨.keepBatch kind batch, none⟩

/-- The calls that one submission makes, and what it comes to; nothing when it is dropped. -/
inductive Submission (maxRetries : Nat) (b : Batch R) :
    History → Option (Except Unsubmitted Submitted) → Prop
  | unwritable (reason : String) (hstored : b.stored = .error reason) :
      Submission maxRetries b [] (some (.error ⟨0, .batchUnwritable b.number reason, []⟩))
  | taken (records : List Stored) (errors : List StoreError) (result : BatchResult)
      (hstored : b.stored = .ok records) (hlength : errors.length ≤ maxRetries) :
      Submission maxRetries b
        (failedCalls records errors ++ [⟨.addMany records, some (.ok result)⟩])
        (some (.ok ⟨result, errors.length⟩))
  | refused (records : List Stored) (errors : List StoreError) (e : StoreError)
      (hstored : b.stored = .ok records) (hlength : errors.length = maxRetries) :
      Submission maxRetries b
        (failedCalls records errors ++ [⟨.addMany records, some (.error e)⟩])
        (some (.error ⟨errors.length, .batchFailed b.number (errors.length + 1) e, records⟩))
  | dropped (records : List Stored) (errors : List StoreError) (e : Exchange)
      (hstored : b.stored = .ok records) (hinterrupts : Interrupts records e) :
      Submission maxRetries b (failedCalls records errors ++ [e]) none

/-- Keeping a batch does not matter unless it is cancelled. -/
theorem gist_keepUnsubmitted {kind : RecordKind} {persist : Bool} {number n : Nat}
    {e : StoreError} {records : List Stored} {t : History} {x : Option Unit}
    (h : (keepUnsubmitted kind persist number n e records).run.Yields t x) :
    x = some () ∧ gist t = [] ∨ x = none ∧ ∃ batch, gist t = [⟨.keepBatch kind batch, none⟩] := by
  unfold keepUnsubmitted at h
  cases persist with
  | false =>
    obtain ⟨rfl, rfl⟩ := Program.yields_pure_iff.1 h
    exact .inl ⟨rfl, rfl⟩
  | true =>
    obtain ⟨moment, u, rfl, h₁⟩ := Program.yields_ask_iff.1 h
    obtain ⟨answer, v, rfl, h₂⟩ := Program.yields_ask_iff.1 h₁
    rcases answer with _ | _ | _
    · obtain ⟨rfl, rfl⟩ := Program.yields_done_iff.1 h₂
      exact .inr ⟨rfl, _, rfl⟩
    · obtain ⟨_, w, rfl, h₃⟩ := Program.yields_ask_iff.1 h₂
      obtain ⟨rfl, rfl⟩ := Program.yields_done_iff.1 h₃
      exact .inl ⟨rfl, rfl⟩
    · obtain ⟨rfl, rfl⟩ := Program.yields_done_iff.1 h₂
      exact .inl ⟨rfl, rfl⟩

theorem submission_of_yields {policy : RetryPolicy} {persist : Bool} {b : Batch R} {t : History}
    {result : Option (Except Unsubmitted Submitted)}
    (h : (submit policy persist b).run.Yields t result) :
    Submission (policy.maxAttempts - 1) b (gist t) result := by
  unfold submit at h
  cases hstored : b.stored with
  | error reason =>
    rw [hstored] at h
    obtain ⟨rfl, rfl⟩ := Program.yields_done_iff.1 h
    exact .unwritable reason hstored
  | ok records =>
    rw [hstored] at h
    obtain ⟨x, u, v, rfl, hu, hv⟩ := Program.yields_bind_iff.1 h
    have hattempts : (attemptsFrom policy records (policy.maxAttempts - 1) 1 0).Yields u x := hu
    obtain ⟨r, hr, hx⟩ := attempting_of_yields hattempts
    rw [gist_append]
    generalize gist u = g at hr
    cases hr with
    | taken errors result hlength =>
      subst hx
      obtain ⟨rfl, rfl⟩ := Program.yields_done_iff.1 hv
      rw [gist_nil, List.append_nil, Nat.zero_add]
      exact .taken records errors result hstored hlength
    | refused errors e hlength =>
      subst hx
      obtain ⟨_, w, rfl, h₁⟩ := yields_cancellable_ask_bind_iff.1 hv
      obtain ⟨y, w₁, w₂, rfl, hk, h₂⟩ := yields_cancellable_bind_iff.1 h₁
      rw [gist_cons_of_not_matters rfl, gist_append]
      rcases gist_keepUnsubmitted hk with ⟨rfl, hg⟩ | ⟨rfl, batch, hg⟩
      · obtain ⟨rfl, rfl⟩ := Program.yields_done_iff.1 h₂
        rw [hg, gist_nil, List.append_nil, List.append_nil, Nat.zero_add]
        exact .refused records errors e hstored hlength
      · obtain ⟨rfl, rfl⟩ := h₂
        rw [hg, gist_nil, List.append_nil, ← failedCalls_concat]
        exact .dropped records (errors ++ [e]) _ hstored (.keeping _ batch)
    | interrupted errors hlength =>
      subst hx
      obtain ⟨rfl, rfl⟩ := Program.yields_done_iff.1 hv
      rw [gist_nil, List.append_nil]
      exact .dropped records errors _ hstored .call
    | paused errors millis hlength =>
      subst hx
      obtain ⟨rfl, rfl⟩ := Program.yields_done_iff.1 hv
      rw [gist_nil, List.append_nil]
      exact .dropped records errors _ hstored (.pause millis)

end

end CatalogImport
