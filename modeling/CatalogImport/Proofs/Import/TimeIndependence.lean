import CatalogImport.Import.Registry
import CatalogImport.Proofs.Import.Checkpoint

/-!
# Imports in step

The time and the ids that an import is given, and what becomes of the files that it writes, have no bearing on
what it asks of the document, of the store and of the journal.  `InStep` relates two programs of which each
asks such things aside, whatever it is answered, and which otherwise ask the same.  Main statement: an import
is in step with itself, and comes to the same but for the time (`inStep_importRun`).
-/

namespace CatalogImport

open CatalogImport.Calendar CatalogImport.Json

/-! ## Apart from the time -/

/-- The counters of a run, without its start and its end. -/
def Statistics.timeless (s : Statistics) : Statistics := { s with startedAt := .epoch, finishedAt := none }

/-- What an import came to, without its start and its end. -/
def Outcome.timeless : Outcome → Outcome
  | .ok s => .ok s.timeless
  | .error a => .error ⟨a.cause, a.statistics.timeless⟩

/-- How far a run has come, without when it was written. -/
def Checkpoint.timeless (c : Checkpoint) : Checkpoint := { c with updatedAt := .epoch }

/-! ## Programs in step -/

/-- What is answered has no bearing on what an import does, as long as it has not been cancelled. -/
def Request.isAside : Request → Bool
  | .openDocument => false
  | .addMany _ => false
  | .append _ => false
  | .loadCheckpoint _ => false
  | .saveCheckpoint _ => false
  | _ => true

/-- As long as it is not cancelled, the program asks everything aside, and it comes to a result of a kind. -/
def AsksAside {α : Type} (P : α → Prop) : Task α → Prop
  | .done a => P a
  | .ask q next => q.isAside = true ∧ ∀ x, isCancellation ⟨q, x⟩ = false → AsksAside P (next x)

theorem AsksAside.bind {α β : Type} {P : α → Prop} {P' : β → Prop} {p : Task α} {f : α → Task β}
    (hp : AsksAside P p) (hf : ∀ a, P a → AsksAside P' (f a)) : AsksAside P' (p >>= f) := by
  induction p with
  | done a => exact hf a hp
  | ask q next ih => exact ⟨hp.1, fun x hx => ih x (hp.2 x hx)⟩

/-- A relation between tasks that holds where both are done, and is kept where both ask something aside and
where both are gone on with. -/
structure GoesTogether (Rel : ∀ {α β : Type}, (α → β → Prop) → Task α → Task β → Prop) : Prop where
  done : ∀ {α β : Type} {S : α → β → Prop} {a : α} {b : β}, S a b → Rel S (.done a) (.done b)
  aside : ∀ {α β : Type} {S : α → β → Prop} {q : Request} {f : q.Answer → Task α} {f' : q.Answer → Task β},
    q.isAside = true →
    (∀ x x', isCancellation ⟨q, x⟩ = false → isCancellation ⟨q, x'⟩ = false → Rel S (f x) (f' x')) →
    Rel S (ask q >>= f) (ask q >>= f')
  bind : ∀ {α β γ δ : Type} {S : α → β → Prop} {S' : γ → δ → Prop} {p : Task α} {p' : Task β}
    {f : α → Task γ} {f' : β → Task δ},
    Rel S p p' → (∀ a b, S a b → Rel S' (f a) (f' b)) → Rel S' (p >>= f) (p' >>= f')

namespace GoesTogether

variable {Rel : ∀ {α β : Type}, (α → β → Prop) → Task α → Task β → Prop} {α β : Type} {S : α → β → Prop}

/-- Both tasks look for a cancellation, find none, and go on. -/
theorem notCancelled (hrel : GoesTogether @Rel) {f : Bool → Task α} {f' : Bool → Task β}
    (h : Rel S (f false) (f' false)) : Rel S (isCancelled >>= f) (isCancelled >>= f') :=
  hrel.aside rfl fun x x' hx hx' => by
    cases x with
    | true => cases hx
    | false =>
      cases x' with
      | true => cases hx'
      | false => exact h

/-- Both tasks ask something aside, or neither does. -/
theorem ite_aside (hrel : GoesTogether @Rel) {c : Prop} [Decidable c] {q : Request} {p : Task α}
    {p' : Task β} (hq : q.isAside = true) (h : Rel S p p') :
    Rel S (if c then ask q >>= fun _ => p else p) (if c then ask q >>= fun _ => p' else p') := by
  split
  · exact hrel.aside hq fun _ _ _ _ => h
  · exact h

end GoesTogether

/-- Two programs ask the same of the document, of the store, and of the journal under the id of a run, but for
the time, and go on in step when they are answered the same but for the time.  Aside each may ask what it
likes, and goes on in step whatever it is answered.  At their ends they have come to related results. -/
inductive InStep (runId : Option String) {α β : Type} (S : α → β → Prop) : Task α → Task β → Prop
  | done {a : α} {b : β} (h : S a b) : InStep runId S (.done a) (.done b)
  | left {q : Request} {next : q.Answer → Task α} {p : Task β} (hq : q.isAside = true)
      (h : ∀ x, isCancellation ⟨q, x⟩ = false → InStep runId S (next x) p) :
      InStep runId S (.ask q next) p
  | right {q : Request} {p : Task α} {next : q.Answer → Task β} (hq : q.isAside = true)
      (h : ∀ x, isCancellation ⟨q, x⟩ = false → InStep runId S p (next x)) :
      InStep runId S p (.ask q next)
  | opened {next : Except Cause Reading → Task α} {next' : Except Cause Reading → Task β}
      (h : ∀ x, InStep runId S (next x) (next' x)) :
      InStep runId S (.ask .openDocument next) (.ask .openDocument next')
  | offered {records : List Stored} {next : Option (Except StoreError BatchResult) → Task α}
      {next' : Option (Except StoreError BatchResult) → Task β}
      (h : ∀ x, InStep runId S (next (some x)) (next' (some x))) :
      InStep runId S (.ask (.addMany records) next) (.ask (.addMany records) next')
  | logged {happening : Happening} {r : String} {moment moment' : Instant}
      {next : Except JournalError Unit → Task α} {next' : Except JournalError Unit → Task β}
      (hrun : runId = some r) (h : InStep runId S (next (.ok ())) (next' (.ok ()))) :
      InStep runId S (.ask (.append ⟨r, happening, moment⟩) next)
        (.ask (.append ⟨r, happening, moment'⟩) next')
  | loaded {r : String} {next : Except JournalError (Option Checkpoint) → Task α}
      {next' : Except JournalError (Option Checkpoint) → Task β} (hrun : runId = some r)
      (h : ∀ c c' : Option Checkpoint, c.map (·.timeless) = c'.map (·.timeless) →
        InStep runId S (next (.ok c)) (next' (.ok c'))) :
      InStep runId S (.ask (.loadCheckpoint r) next) (.ask (.loadCheckpoint r) next')
  | saved {c c' : Checkpoint} {next : Except JournalError Unit → Task α}
      {next' : Except JournalError Unit → Task β} (hrun : runId = some c.runId)
      (hc : c.timeless = c'.timeless) (h : InStep runId S (next (.ok ())) (next' (.ok ()))) :
      InStep runId S (.ask (.saveCheckpoint c) next) (.ask (.saveCheckpoint c') next')

namespace InStep

variable {runId : Option String} {α β γ δ : Type} {S : α → β → Prop} {S' : γ → δ → Prop}

/-- Programs in step that are gone on with by programs in step are in step. -/
theorem bind {p : Task α} {p' : Task β} {f : α → Task γ} {f' : β → Task δ} (h : InStep runId S p p')
    (hf : ∀ a b, S a b → InStep runId S' (f a) (f' b)) : InStep runId S' (p >>= f) (p' >>= f') := by
  induction h with
  | done h => exact hf _ _ h
  | left hq _ ih => exact .left hq fun x hx => ih x hx
  | right hq _ ih => exact .right hq fun x hx => ih x hx
  | opened _ ih => exact .opened fun x => ih x
  | offered _ ih => exact .offered fun x => ih x
  | logged hrun _ ih => exact .logged hrun ih
  | loaded hrun _ ih => exact .loaded hrun fun c c' hc => ih c c' hc
  | saved hrun hc _ ih => exact .saved hrun hc ih

/-- Both programs ask something aside, and go on. -/
theorem aside {q : Request} {f : q.Answer → Task α} {f' : q.Answer → Task β} (hq : q.isAside = true)
    (h : ∀ x x', isCancellation ⟨q, x⟩ = false → isCancellation ⟨q, x'⟩ = false →
      InStep runId S (f x) (f' x')) : InStep runId S (ask q >>= f) (ask q >>= f') :=
  .left hq fun x hx => .right hq fun x' hx' => h x x' hx hx'

theorem goesTogether : GoesTogether (@InStep runId) := ⟨.done, .aside, .bind⟩

/-- Parts in which everything is asked aside need not go together. -/
theorem asides {P : α → Prop} {P' : β → Prop} {p : Task α} {u : Task β} {f : α → Task γ}
    {f' : β → Task δ} (hp : AsksAside P p) (hu : AsksAside P' u)
    (hf : ∀ a b, P a → P' b → InStep runId S' (f a) (f' b)) : InStep runId S' (p >>= f) (u >>= f') := by
  induction p with
  | ask q next ih => exact .left hp.1 fun x hx => ih x (hp.2 x hx)
  | done a =>
    induction u with
    | ask q next ih => exact .right hu.1 fun x hx => ih x (hu.2 x hx)
    | done b => exact hf a b hp hu

end InStep

/-! ## The logbook -/

section

variable {b : Logbook} {runId : Option String}

theorem inStep_log (x : Happening) : InStep (some b.runId) Eq (b.log x) (b.log x) :=
  .aside rfl fun _ _ _ _ => .logged rfl (.done rfl)

theorem recordsBefore_eq {c c' : Option Checkpoint} (h : c.map (·.timeless) = c'.map (·.timeless))
    (number : Nat) : Logbook.recordsBefore c number = Logbook.recordsBefore c' number := by
  cases c with
  | none =>
    cases c' with
    | none => rfl
    | some c' => cases h
  | some c =>
    cases c' with
    | none => cases h
    | some c' =>
      have htimeless : c.timeless = c'.timeless := Option.some.inj h
      have hlast : c.timeless.lastBatch = c'.timeless.lastBatch := congrArg _ htimeless
      have hdone : c.timeless.recordsDone = c'.timeless.recordsDone := congrArg _ htimeless
      change (if c.timeless.lastBatch < number then c.timeless.recordsDone else 0) =
        if c'.timeless.lastBatch < number then c'.timeless.recordsDone else 0
      rw [hlast, hdone]

theorem inStep_batchCommitted (number records : Nat) :
    InStep (some b.runId) Eq (b.batchCommitted number records) (b.batchCommitted number records) := by
  refine .loaded rfl fun c c' hc => .aside rfl fun moment moment' _ _ => .logged rfl ?_
  refine .aside rfl fun later later' _ _ => .saved rfl ?_ (.done rfl)
  rw [recordsBefore_eq hc]
  rfl

/-- Whether something is written into a logbook is the same in both, and else only noted. -/
theorem inStep_record {logbook : Option Logbook} {n : Notice}
    {write : Logbook → Task (Except LogbookError Unit)}
    (h : ∀ b, logbook = some b → InStep (logbook.map (·.runId)) Eq (write b) (write b)) :
    InStep (logbook.map (·.runId)) Eq (record logbook n write) (record logbook n write) := by
  unfold record
  cases logbook with
  | none => exact .done rfl
  | some b =>
    refine (h b rfl).bind fun r _ hr => ?_
    subst hr
    cases r with
    | ok _ => exact .done rfl
    | error e => exact .left rfl fun _ _ => .right rfl fun _ _ => .done rfl

theorem inStep_record_log {logbook : Option Logbook} {n : Notice} (x : Logbook → Happening) :
    InStep (logbook.map (·.runId)) Eq (record logbook n fun b => b.log (x b))
      (record logbook n fun b => b.log (x b)) := by
  refine inStep_record fun b hb => ?_
  rw [hb]
  exact inStep_log (x b)

end

/-! ## Submitting a batch -/

section

variable {R : Type} [CatalogRecord R] {runId : Option String}

theorem inStep_attemptsFrom (policy : RetryPolicy) (records : List Stored) (left attempt count : Nat) :
    InStep runId Eq (attemptsFrom policy records left attempt count)
      (attemptsFrom policy records left attempt count) := by
  induction left generalizing attempt count with
  | zero =>
    rw [attemptsFrom_zero]
    refine .offered fun answer => ?_
    cases answer with
    | ok r => exact .done rfl
    | error e => exact .done rfl
  | succ left ih =>
    rw [attemptsFrom_succ]
    refine .offered fun answer => ?_
    cases answer with
    | ok r => exact .done rfl
    | error e =>
      refine .aside rfl fun _ _ _ _ => .aside rfl fun x x' hx hx' => ?_
      cases x with
      | none => cases hx
      | some _ =>
        cases x' with
        | none => cases hx'
        | some _ => exact ih (attempt + 1) (count + 1)

/-- What becomes of the file is noted at most. -/
theorem asksAside_keepUnsubmitted (kind : RecordKind) (persist : Bool) (number n : Nat) (e : StoreError)
    (records : List Stored) :
    AsksAside (· = some ()) (keepUnsubmitted kind persist number n e records).run := by
  cases persist with
  | false => exact rfl
  | true =>
    refine ⟨rfl, fun moment _ => ⟨rfl, fun answer hanswer => ?_⟩⟩
    rcases answer with _ | _ | _
    · cases hanswer
    · exact ⟨rfl, fun _ _ => rfl⟩
    · exact rfl

theorem inStep_submit (policy : RetryPolicy) (persist : Bool) (b : Batch R) :
    InStep runId Eq (submit policy persist b).run (submit policy persist b).run := by
  unfold submit
  cases b.stored with
  | error reason => exact .done rfl
  | ok records =>
    have hkeep (n : Nat) (e : StoreError) :=
      asksAside_keepUnsubmitted (CatalogRecord.kind R) persist b.number n e records
    refine InStep.bind (inStep_attemptsFrom policy records (policy.maxAttempts - 1) 1 0) fun x _ hx => ?_
    subst hx
    rcases x with _ | ⟨_ | e | e, retries⟩
    · exact .done rfl
    · exact .done rfl
    -- A batch is kept alike, whether the store refused it for good or too often.
    all_goals
      refine .left rfl fun _ _ => .right rfl fun _ _ => ?_
      refine InStep.asides (p := (keepUnsubmitted _ persist b.number (retries + 1) e records).run)
        (u := (keepUnsubmitted _ persist b.number (retries + 1) e records).run) (hkeep (retries + 1) e)
        (hkeep (retries + 1) e) fun y y' hy hy' => ?_
      subst hy hy'
      exact .done rfl

end

/-! ## Runs -/

/-- Two runs hold the same records, and have counted the same. -/
structure RunsAlike {R : Type} (run run' : RunState R) : Prop where
  batcher : run.batcher = run'.batcher
  statistics : run.statistics.timeless = run'.statistics.timeless

/-- Two runs are alike, and go on or end for the same cause. -/
def StepsAlike {R : Type} (y y' : RunState R × Option Cause) : Prop := RunsAlike y.1 y'.1 ∧ y.2 = y'.2

namespace RunsAlike

variable {R : Type} {run run' : RunState R}

/-- The counters go on alike, whatever is counted. -/
theorem count (h : RunsAlike run run') (f : Statistics → Statistics)
    (hf : ∀ s, (f s).timeless = (f s.timeless).timeless) :
    (f run.statistics).timeless = (f run'.statistics).timeless := by
  rw [hf, h.statistics, ← hf]

end RunsAlike

/-- Two imports came to the same, but for the time. -/
def OutcomesAlike (outcome outcome' : Outcome) : Prop := outcome.timeless = outcome'.timeless

/-! ## Two runs, step by step -/

/-- Such a relation holds between the ways in which two runs that are alike submit a batch and end. -/
structure RunsTogether (Rel : ∀ {α β : Type}, (α → β → Prop) → Task α → Task β → Prop) (R : Type)
    [CatalogRecord R] (config config' : Config) (logbook logbook' : Option Logbook) : Prop
    extends GoesTogether @Rel where
  skipValidationErrors : config.skipValidationErrors = config'.skipValidationErrors
  submitBatch : ∀ {run run' : RunState R}, RunsAlike run run' → ∀ b : Batch R,
    Rel StepsAlike (submitBatch config logbook run b) (submitBatch config' logbook' run' b)
  finalize : ∀ {run run' : RunState R}, RunsAlike run run' →
    Rel OutcomesAlike (finalize config logbook run) (finalize config' logbook' run')
  abort : ∀ {run run' : RunState R}, RunsAlike run run' → ∀ cause : Cause,
    Rel OutcomesAlike (abort config logbook run cause) (abort config' logbook' run' cause)

namespace RunsTogether

variable {Rel : ∀ {α β : Type}, (α → β → Prop) → Task α → Task β → Prop} {R : Type} [CatalogRecord R]
  {config config' : Config} {logbook logbook' : Option Logbook} {run run' : RunState R}

theorem takeElement (hrel : RunsTogether @Rel R config config' logbook logbook') (h : RunsAlike run run')
    (position : Nat) (v : Value) :
    Rel StepsAlike (takeElement config logbook run position v)
      (takeElement config' logbook' run' position v) := by
  obtain ⟨statistics, batcher, failed⟩ := run
  obtain ⟨statistics', batcher', failed'⟩ := run'
  obtain rfl : batcher = batcher' := h.batcher
  refine hrel.aside rfl fun _ _ _ _ => ?_
  cases CatalogRecord.validate (R := R) v with
  | ok r =>
    refine hrel.aside rfl fun _ _ _ _ => ?_
    have hcounted (batcher : Batcher R) : RunsAlike ⟨statistics.recordValid, batcher, failed⟩
        ⟨statistics'.recordValid, batcher, failed'⟩ :=
      ⟨rfl, h.count Statistics.recordValid fun _ => rfl⟩
    dsimp only
    rcases batcher.push position r with ⟨_ | b, batcher⟩
    · exact hrel.done ⟨hcounted batcher, rfl⟩
    · exact hrel.submitBatch (hcounted batcher) b
  | error violation =>
    refine hrel.aside rfl fun _ _ _ _ => hrel.aside rfl fun id id' _ _ => hrel.aside rfl
      fun moment moment' _ _ => hrel.done ⟨⟨rfl, h.count Statistics.recordInvalid fun _ => rfl⟩, ?_⟩
    dsimp only
    rw [hrel.skipValidationErrors]

theorem takeElements (hrel : RunsTogether @Rel R config config' logbook logbook') (h : RunsAlike run run')
    (skip position : Nat) (vs : List Value) :
    Rel StepsAlike (takeElements config logbook skip run position vs)
      (takeElements config' logbook' skip run' position vs) := by
  induction vs generalizing run run' position with
  | nil => exact hrel.notCancelled (hrel.done ⟨h, rfl⟩)
  | cons v rest ih =>
    refine hrel.notCancelled ?_
    by_cases hskip : position < skip
    · simp only [Bool.false_eq_true, if_false, if_pos hskip]
      exact ih h (position + 1)
    · simp only [Bool.false_eq_true, if_false, if_neg hskip]
      refine hrel.bind (hrel.takeElement h position v) fun y y' hy => ?_
      obtain ⟨run₁, cause?⟩ := y
      obtain ⟨run₁', cause?'⟩ := y'
      obtain ⟨hrun, hcause⟩ := hy
      obtain rfl : cause? = cause?' := hcause
      cases cause? with
      | some cause => exact hrel.done ⟨hrun, rfl⟩
      | none => exact ih hrun (position + 1)

theorem flush (hrel : RunsTogether @Rel R config config' logbook logbook') (h : RunsAlike run run') :
    Rel StepsAlike (flush config logbook run) (flush config' logbook' run') := by
  refine hrel.aside rfl fun _ _ _ _ => ?_
  rw [h.batcher]
  rcases run'.batcher.finish with ⟨_ | b, batcher⟩
  · exact hrel.done ⟨h, rfl⟩
  · have hfinished : RunsAlike { run with batcher } { run' with batcher } := ⟨rfl, h.statistics⟩
    exact hrel.submitBatch hfinished b

/-- A part of a run that says whether the run ends, and what it does else. -/
theorem close (hrel : RunsTogether @Rel R config config' logbook logbook')
    {p p' : Task (RunState R × Option Cause)} {go go' : RunState R → Task Outcome} (h : Rel StepsAlike p p')
    (hgo : ∀ run run', RunsAlike run run' → Rel OutcomesAlike (go run) (go' run')) :
    Rel OutcomesAlike
      (p >>= fun
        | (run, some cause) => CatalogImport.abort config logbook run cause
        | (run, none) => go run)
      (p' >>= fun
        | (run, some cause) => CatalogImport.abort config' logbook' run cause
        | (run, none) => go' run) := by
  refine hrel.bind h fun y y' hy => ?_
  obtain ⟨run₁, cause?⟩ := y
  obtain ⟨run₁', cause?'⟩ := y'
  obtain ⟨hrun, hcause⟩ := hy
  obtain rfl : cause? = cause?' := hcause
  cases cause? with
  | some cause => exact hrel.abort hrun cause
  | none => exact hgo _ _ hrun

/-- What holds of how two runs submit batches and end holds of the runs over an opened document. -/
theorem runDocument (hrel : RunsTogether @Rel R config config' logbook logbook') (h : RunsAlike run run')
    (resumeFrom : Nat) (document : Reading) :
    Rel OutcomesAlike (runDocument config logbook run resumeFrom document)
      (runDocument config' logbook' run' resumeFrom document) := by
  unfold CatalogImport.runDocument
  rw [h.batcher]
  refine hrel.close (hrel.takeElements h _ 0 document.elements) fun run₁ run₁' hrun => ?_
  cases document.ending with
  | error e => exact hrel.abort hrun (.source e)
  | ok summary =>
    refine hrel.ite_aside rfl ?_
    exact hrel.close (hrel.flush hrun) fun _ _ hrun => hrel.finalize hrun

end RunsTogether

section

variable {R : Type} [CatalogRecord R] {config : Config} {logbook : Option Logbook} {run run' : RunState R}

theorem asksAside_notices {β : Type} (xs : List β) (n : Notice) :
    AsksAside (fun _ => True) (forIn xs PUnit.unit fun _ _ => do
      ask (.notice n)
      pure (ForInStep.yield PUnit.unit) : Task PUnit) := by
  induction xs with
  | nil => trivial
  | cons x xs ih =>
    rw [List.forIn_cons]
    exact ⟨rfl, fun _ _ => ih⟩

omit [CatalogRecord R] in
theorem inStep_countBatch (h : RunsAlike run run') (b : Batch R) (s : Submitted) :
    InStep (logbook.map (·.runId)) RunsAlike (countBatch logbook run b s) (countBatch logbook run' b s) := by
  refine InStep.goesTogether.ite_aside rfl ?_
  refine .asides (asksAside_notices s.result.errorDetails .recordRefused)
    (asksAside_notices s.result.errorDetails .recordRefused) fun _ _ _ _ => ?_
  refine .left rfl fun _ _ => .right rfl fun _ _ => ?_
  have hrecorded : InStep (logbook.map (·.runId)) Eq
      (record logbook .checkpointUnsaved (·.batchCommitted b.number b.size))
      (record logbook .checkpointUnsaved (·.batchCommitted b.number b.size)) := by
    refine inStep_record fun c hc => ?_
    rw [hc]
    exact inStep_batchCommitted b.number b.size
  refine hrecorded.bind fun _ _ _ => .done ⟨h.batcher, ?_⟩
  exact h.count (fun x => (x.recordRetries s.retries).recordBatch b.size s.result) fun _ => rfl

theorem asksAside_loadEntries (number : Nat) (message : String) (es : List (Entry R)) (sent : List Stored) :
    AsksAside (fun _ => True) (loadEntries number message es sent) := by
  induction es generalizing sent with
  | nil => trivial
  | cons e es ih => exact ⟨rfl, fun _ _ => ⟨rfl, fun _ _ => (ih sent.tail).bind fun _ _ => trivial⟩⟩

theorem inStep_countUnsubmitted (h : RunsAlike run run') (b : Batch R) (u : Unsubmitted) :
    InStep (logbook.map (·.runId)) RunsAlike (countUnsubmitted run b u) (countUnsubmitted run' b u) := by
  refine .asides (asksAside_loadEntries b.number u.cause.message b.entries u.records)
    (asksAside_loadEntries b.number u.cause.message b.entries u.records) fun _ _ _ _ => .done ?_
  exact ⟨h.batcher, h.count (fun x => (x.recordRetries u.retries).recordFailedBatch b.size) fun _ => rfl⟩

theorem inStep_submitBatch (h : RunsAlike run run') (b : Batch R) :
    InStep (logbook.map (·.runId)) StepsAlike (submitBatch config logbook run b)
      (submitBatch config logbook run' b) := by
  refine .aside rfl fun _ _ _ _ => InStep.goesTogether.notCancelled ?_
  refine InStep.bind (inStep_submit config.retryPolicy config.persistFailures b) fun x _ hx => ?_
  subst hx
  rcases x with _ | u | s
  · exact .done ⟨h, rfl⟩
  · exact (inStep_countUnsubmitted h b u).bind fun _ _ hrun => .done ⟨hrun, rfl⟩
  · exact (inStep_countBatch h b s).bind fun _ _ hrun => .done ⟨hrun, rfl⟩

/-! ## Whole imports -/

theorem asksAside_keepFailed (kind : RecordKind) (failed : List FailedEntry) :
    AsksAside (fun _ => True) (keepFailed config kind failed) := by
  unfold keepFailed
  split
  · trivial
  · refine ⟨rfl, fun answer _ => ?_⟩
    cases answer with
    | ok _ => trivial
    | error _ => exact ⟨rfl, fun _ _ => trivial⟩

theorem inStep_finalize (h : RunsAlike run run') :
    InStep (logbook.map (·.runId)) OutcomesAlike (finalize config logbook run)
      (finalize config logbook run') := by
  have htotal : run.statistics.timeless.totalRecords = run'.statistics.timeless.totalRecords :=
    congrArg (·.totalRecords) h.statistics
  refine .aside rfl fun _ _ _ _ => ?_
  refine .asides (asksAside_keepFailed _ run.failed) (asksAside_keepFailed _ run'.failed) fun _ _ _ _ => ?_
  refine .aside rfl fun moment moment' _ _ => InStep.bind (S := Eq) ?_ fun _ _ _ => ?_
  · change InStep _ Eq (record logbook _ fun b => b.log (.completed run.statistics.timeless.totalRecords))
      (record logbook _ fun b => b.log (.completed run'.statistics.timeless.totalRecords))
    rw [htotal]
    exact inStep_record_log _
  · exact .aside rfl fun _ _ _ _ => .done (congrArg Except.ok h.statistics)

theorem inStep_abort (h : RunsAlike run run') (cause : Cause) :
    InStep (logbook.map (·.runId)) OutcomesAlike (abort config logbook run cause)
      (abort config logbook run' cause) := by
  refine .aside rfl fun _ _ _ _ => ?_
  refine .asides (asksAside_keepFailed _ run.failed) (asksAside_keepFailed _ run'.failed) fun _ _ _ _ => ?_
  refine .aside rfl fun moment moment' _ _ => .aside rfl fun _ _ _ _ => ?_
  refine InStep.bind (inStep_record_log _) fun _ _ _ => .done ?_
  exact congrArg (fun s => Except.error (⟨cause, s⟩ : Aborted)) h.statistics

/-- Two runs that are alike are in step. -/
theorem inStep_runsTogether :
    RunsTogether (@InStep (logbook.map (·.runId))) R config config logbook logbook where
  toGoesTogether := InStep.goesTogether
  skipValidationErrors := rfl
  submitBatch := inStep_submitBatch
  finalize := inStep_finalize
  abort := inStep_abort

/-- However the time goes, which ids it gets and what becomes of its files: an import asks the same of the
document, of the store and of the journal, and comes to the same. -/
theorem inStep_importRun (R : Type) [CatalogRecord R] (config : Config) (logbook : Option Logbook)
    (resumeFrom : Nat) :
    InStep (logbook.map (·.runId)) OutcomesAlike (importRun config logbook R resumeFrom)
      (importRun config logbook R resumeFrom) := by
  refine .aside rfl fun startedAt startedAt' _ _ => .aside rfl fun _ _ _ _ => ?_
  refine InStep.bind (inStep_record_log _) fun _ _ _ => .opened fun answer => ?_
  have hstart : RunsAlike (R := R) ⟨.start startedAt, .startingAt config.batchSize resumeFrom, []⟩
      ⟨.start startedAt', .startingAt config.batchSize resumeFrom, []⟩ := ⟨rfl, rfl⟩
  cases answer with
  | error cause => exact inStep_abort hstart cause
  | ok document => exact inStep_runsTogether.runDocument hstart resumeFrom document

theorem inStep_importerOf (R : Type) [CatalogRecord R] (job : Job) :
    InStep (job.logbook.map (·.runId)) OutcomesAlike (importerOf R job) (importerOf R job) := by
  have hrun := inStep_importRun R job.config job.logbook job.resumeFrom
  unfold importerOf checkKind
  split
  · exact .aside rfl fun _ _ _ _ => hrun
  · exact hrun

end

end CatalogImport
