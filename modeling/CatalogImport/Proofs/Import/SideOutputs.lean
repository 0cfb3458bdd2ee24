import CatalogImport.Proofs.Import.Questions
import CatalogImport.Proofs.Import.Scene
import CatalogImport.Proofs.Import.TimeIndependence

/-!
# Side outputs

What an import writes into the journal and into files is written on the side: it may be written, fail, or not
be asked for at all.  `SameWork` relates two programs that go on with the document and the store alike,
whatever either of them is answered besides; two imports do the same work that differ in what they write on
the side (`sameWork_importRun`), and programs that do the same work leave the same in a store
(`SameWork.ranAlike`).  Main statement: side outputs never change an import
(`side_outputs_change_nothing`).
-/

namespace CatalogImport

open CatalogImport.Calendar CatalogImport.Json

/-! ## Work -/

/-- The question is about the document or the store. -/
def Request.isWork : Request → Bool
  | .openDocument => true
  | .addMany _ => true
  | _ => false

/-- As long as it is not cancelled, the program does no work, and comes to a result of a kind. -/
def DoesNoWork {α : Type} (P : α → Prop) : Task α → Prop
  | .done a => P a
  | .ask q next => q.isWork = false ∧ ∀ x, isCancellation ⟨q, x⟩ = false → DoesNoWork P (next x)

/-- Two programs open the document and call the store alike, and go on alike when they are answered alike.
Besides, each may ask what it likes, and goes on alike whatever it is answered.  At their ends they have come
to related results. -/
inductive SameWork {α β : Type} (S : α → β → Prop) : Task α → Task β → Prop
  | done {a : α} {b : β} (h : S a b) : SameWork S (.done a) (.done b)
  | left {q : Request} {next : q.Answer → Task α} {p : Task β} (hq : q.isWork = false)
      (h : ∀ x, isCancellation ⟨q, x⟩ = false → SameWork S (next x) p) : SameWork S (.ask q next) p
  | right {q : Request} {p : Task α} {next : q.Answer → Task β} (hq : q.isWork = false)
      (h : ∀ x, isCancellation ⟨q, x⟩ = false → SameWork S p (next x)) : SameWork S p (.ask q next)
  | opened {next : Except Cause Reading → Task α} {next' : Except Cause Reading → Task β}
      (h : ∀ x, SameWork S (next x) (next' x)) :
      SameWork S (.ask .openDocument next) (.ask .openDocument next')
  | offered {records : List Stored} {next : Option (Except StoreError BatchResult) → Task α}
      {next' : Option (Except StoreError BatchResult) → Task β}
      (h : ∀ x, SameWork S (next (some x)) (next' (some x))) :
      SameWork S (.ask (.addMany records) next) (.ask (.addMany records) next')

/-- What is asked aside is no work. -/
theorem not_isWork_of_isAside {q : Request} (hq : q.isAside = true) : q.isWork = false := by
  cases q <;> first | rfl | cases hq

section

variable {α β γ δ : Type} {P : α → Prop} {P' : β → Prop} {S : α → β → Prop} {S' : γ → δ → Prop}

theorem DoesNoWork.bind {p : Task α} {f : α → Task β} (hp : DoesNoWork P p)
    (hf : ∀ a, P a → DoesNoWork P' (f a)) : DoesNoWork P' (p >>= f) := by
  induction p with
  | done a => exact hf a hp
  | ask q next ih => exact ⟨hp.1, fun x hx => ih x (hp.2 x hx)⟩

theorem AsksAside.doesNoWork {p : Task α} (hp : AsksAside P p) : DoesNoWork P p := by
  induction p with
  | done a => exact hp
  | ask q next ih => exact ⟨not_isWork_of_isAside hp.1, fun x hx => ih x (hp.2 x hx)⟩

theorem Program.AsksOnly.doesNoWork {p : Task α} (hp : p.AsksOnly (·.isWork = false)) :
    DoesNoWork (fun _ => True) p := by
  induction p with
  | done a => trivial
  | ask q next ih => exact ⟨hp.1, fun x _ => ih x (hp.2 x)⟩

namespace SameWork

theorem bind {p : Task α} {p' : Task β} {f : α → Task γ} {f' : β → Task δ} (h : SameWork S p p')
    (hf : ∀ a b, S a b → SameWork S' (f a) (f' b)) : SameWork S' (p >>= f) (p' >>= f') := by
  induction h with
  | done h => exact hf _ _ h
  | left hq _ ih => exact .left hq fun x hx => ih x hx
  | right hq _ ih => exact .right hq fun x hx => ih x hx
  | opened _ ih => exact .opened fun x => ih x
  | offered _ ih => exact .offered fun x => ih x

/-- Parts that do no work need not go together. -/
theorem besides {p : Task α} {u : Task β} {f : α → Task γ} {g : β → Task δ} (hp : DoesNoWork P p)
    (hu : DoesNoWork P' u) (hf : ∀ a b, P a → P' b → SameWork S' (f a) (g b)) :
    SameWork S' (p >>= f) (u >>= g) := by
  induction p with
  | ask q next ih => exact .left hp.1 fun x hx => ih x (hp.2 x hx)
  | done a =>
    induction u with
    | ask q next ih => exact .right hu.1 fun x hx => ih x (hu.2 x hx)
    | done b => exact hf a b hp hu

/-- Programs that do no work do the same work. -/
theorem of_doesNoWork {p : Task α} {u : Task β} (hp : DoesNoWork P p) (hu : DoesNoWork P' u)
    (h : ∀ a b, P a → P' b → S a b) : SameWork S p u := by
  have hboth := besides (f := .done) (g := .done) hp hu fun a b ha hb => .done (h a b ha hb)
  rwa [Program.bind_done, Program.bind_done] at hboth

/-- Both programs ask something besides, and go on. -/
theorem aside {q : Request} {f : q.Answer → Task α} {f' : q.Answer → Task β} (hq : q.isWork = false)
    (h : ∀ x x', isCancellation ⟨q, x⟩ = false → isCancellation ⟨q, x'⟩ = false →
      SameWork S (f x) (f' x')) : SameWork S (ask q >>= f) (ask q >>= f') :=
  .left hq fun x hx => .right hq fun x' hx' => h x x' hx hx'

theorem goesTogether : GoesTogether @SameWork := ⟨.done, fun hq => .aside (not_isWork_of_isAside hq), .bind⟩

end SameWork

end

/-! ## Parts that do no work -/

section

variable {logbook : Option Logbook}

/-- Whatever is written into the logbook, or if there is none: that is no work. -/
theorem doesNoWork_record_log {n : Notice} (x : Logbook → Happening) :
    DoesNoWork (fun _ => True) (record logbook n fun b => b.log (x b)) := by
  have h : (record logbook n fun b => b.log (x b)).AsksOnly (·.isWork = false) :=
    asksOnly_record rfl fun b => asksOnly_log (P := (·.isWork = false)) rfl (fun _ _ => rfl) b
  exact h.doesNoWork

theorem doesNoWork_keepFailed (config : Config) (kind : RecordKind) (failed : List FailedEntry) :
    DoesNoWork (fun _ => True) (keepFailed config kind failed) :=
  (asksOnly_keepFailed (P := (·.isWork = false)) rfl fun _ => rfl).doesNoWork

theorem doesNoWork_ite_ask {α : Type} {P : α → Prop} {c : Prop} [Decidable c] {q : Request} {p : Task α}
    (hq : q.isWork = false) (hp : DoesNoWork P p) : DoesNoWork P (if c then ask q >>= fun _ => p else p) := by
  split
  · exact ⟨hq, fun _ _ => hp⟩
  · exact hp

variable {R : Type}

theorem doesNoWork_countBatch (run : RunState R) (b : Batch R) (s : Submitted) :
    DoesNoWork (fun run' => run'.batcher = run.batcher ∧
        run'.statistics = (run.statistics.recordRetries s.retries).recordBatch b.size s.result)
      (countBatch logbook run b s) := by
  have hnotices : DoesNoWork (fun _ => True) (forIn s.result.errorDetails PUnit.unit fun _ _ => do
      ask (.notice .recordRefused)
      pure (ForInStep.yield PUnit.unit) : Task PUnit) :=
    (asksAside_notices s.result.errorDetails .recordRefused).doesNoWork
  have hrecorded : (record logbook .checkpointUnsaved (·.batchCommitted b.number b.size)).AsksOnly
      (·.isWork = false) :=
    asksOnly_record rfl fun c => asksOnly_batchCommitted (P := (·.isWork = false)) rfl (fun _ => rfl)
      (fun _ _ _ _ => rfl) (fun _ => rfl) c b.number b.size
  refine doesNoWork_ite_ask rfl (hnotices.bind fun _ _ => ⟨rfl, fun _ _ => ?_⟩)
  exact hrecorded.doesNoWork.bind fun _ _ => ⟨rfl, rfl⟩

variable [CatalogRecord R]

theorem doesNoWork_countUnsubmitted (run : RunState R) (b : Batch R) (u : Unsubmitted) :
    DoesNoWork (fun run' => run'.batcher = run.batcher ∧
        run'.statistics = (run.statistics.recordRetries u.retries).recordFailedBatch b.size)
      (countUnsubmitted run b u) :=
  (asksAside_loadEntries b.number u.cause.message b.entries u.records).doesNoWork.bind fun _ _ => ⟨rfl, rfl⟩

/-- What a run comes to in the end says what it has counted. -/
theorem doesNoWork_finalize (config : Config) (run : RunState R) :
    DoesNoWork (fun outcome => outcome.timeless = .ok run.statistics.timeless)
      (finalize config logbook run) :=
  ⟨rfl, fun _ _ => (doesNoWork_keepFailed config _ run.failed).bind fun _ _ => ⟨rfl, fun _ _ =>
    (doesNoWork_record_log _).bind fun _ _ => ⟨rfl, fun _ _ => rfl⟩⟩⟩

theorem doesNoWork_abort (config : Config) (run : RunState R) (cause : Cause) :
    DoesNoWork (fun outcome => outcome.timeless = .error ⟨cause, run.statistics.timeless⟩)
      (abort config logbook run cause) :=
  ⟨rfl, fun _ _ => (doesNoWork_keepFailed config _ run.failed).bind fun _ _ => ⟨rfl, fun _ _ =>
    ⟨rfl, fun _ _ => (doesNoWork_record_log _).bind fun _ _ => rfl⟩⟩⟩

end

/-! ## The work of an import -/

/-- Two configurations say the same, except for what becomes of records that are rejected, for how long a
pause is, and for whether somebody listens to the progress. -/
structure Config.WorksLike (config config' : Config) : Prop where
  batchSize : config.batchSize = config'.batchSize
  maxRetries : config.maxRetries = config'.maxRetries
  skipValidationErrors : config.skipValidationErrors = config'.skipValidationErrors

section

variable {R : Type} [CatalogRecord R] {config config' : Config} {logbook logbook' : Option Logbook}
  {run run' : RunState R}

theorem sameWork_attemptsFrom (policy policy' : RetryPolicy) (records : List Stored)
    (left attempt count : Nat) :
    SameWork Eq (attemptsFrom policy records left attempt count)
      (attemptsFrom policy' records left attempt count) := by
  induction left generalizing attempt count with
  | zero =>
    rw [attemptsFrom_zero, attemptsFrom_zero]
    refine .offered fun answer => ?_
    cases answer <;> exact .done rfl
  | succ left ih =>
    rw [attemptsFrom_succ, attemptsFrom_succ]
    refine .offered fun answer => ?_
    cases answer with
    | ok r => exact .done rfl
    | error e =>
      refine .aside rfl fun _ _ _ _ => .left rfl fun x hx => .right rfl fun x' hx' => ?_
      cases x with
      | none => cases hx
      | some _ =>
        cases x' with
        | none => cases hx'
        | some _ => exact ih (attempt + 1) (count + 1)

/-- A batch is submitted alike, whether it is kept after it has been refused or not. -/
theorem sameWork_submit (hconfig : config.WorksLike config') (b : Batch R) :
    SameWork Eq (submit config.retryPolicy config.persistFailures b).run
      (submit config'.retryPolicy config'.persistFailures b).run := by
  unfold submit
  cases b.stored with
  | error reason => exact .done rfl
  | ok records =>
    have hattempts : SameWork Eq ((attempts config.retryPolicy records).run 0)
        ((attempts config'.retryPolicy records).run 0) := by
      change SameWork Eq (attemptsFrom _ records config.maxRetries 1 0)
        (attemptsFrom _ records config'.maxRetries 1 0)
      rw [hconfig.maxRetries]
      exact sameWork_attemptsFrom config.retryPolicy config'.retryPolicy records config'.maxRetries 1 0
    have hkeep (persist : Bool) (n : Nat) (e : StoreError) :=
      (asksAside_keepUnsubmitted (CatalogRecord.kind R) persist b.number n e records).doesNoWork
    refine hattempts.bind fun x _ hx => ?_
    subst hx
    rcases x with _ | ⟨_ | e | e, retries⟩
    · exact .done rfl
    · exact .done rfl
    -- A batch is kept alike, whether the store refused it for good or too often.
    all_goals
      refine .left rfl fun _ _ => .right rfl fun _ _ => ?_
      refine SameWork.besides
        (p := (keepUnsubmitted _ config.persistFailures b.number (retries + 1) e records).run)
        (u := (keepUnsubmitted _ config'.persistFailures b.number (retries + 1) e records).run)
        (hkeep _ (retries + 1) e) (hkeep _ (retries + 1) e) fun y y' hy hy' => ?_
      subst hy hy'
      exact .done rfl

omit [CatalogRecord R] in
/-- What becomes of a batch is counted alike. -/
theorem sameWork_counted (h : RunsAlike run run') {p p' : Task (RunState R)} (f : Statistics → Statistics)
    (hf : ∀ s, (f s).timeless = (f s.timeless).timeless)
    (hp : DoesNoWork (fun r => r.batcher = run.batcher ∧ r.statistics = f run.statistics) p)
    (hp' : DoesNoWork (fun r => r.batcher = run'.batcher ∧ r.statistics = f run'.statistics) p')
    (cause? : Option Cause) :
    SameWork StepsAlike (p >>= fun r => pure (r, cause?)) (p' >>= fun r => pure (r, cause?)) := by
  refine .besides hp hp' fun r r' hr hr' => .done ⟨⟨?_, ?_⟩, rfl⟩
  · exact (hr.1.trans h.batcher).trans hr'.1.symm
  · show r.statistics.timeless = r'.statistics.timeless
    rw [hr.2, hr'.2]
    exact h.count f hf

theorem sameWork_submitBatch (hconfig : config.WorksLike config') (h : RunsAlike run run') (b : Batch R) :
    SameWork StepsAlike (submitBatch config logbook run b) (submitBatch config' logbook' run' b) := by
  refine .aside rfl fun _ _ _ _ => SameWork.goesTogether.notCancelled ?_
  refine (sameWork_submit hconfig b).bind fun x _ hx => ?_
  subst hx
  rcases x with _ | u | s
  · exact .done ⟨h, rfl⟩
  · exact sameWork_counted h (fun x => (x.recordRetries u.retries).recordFailedBatch b.size) (fun _ => rfl)
      (doesNoWork_countUnsubmitted run b u) (doesNoWork_countUnsubmitted run' b u) (some u.cause)
  · exact sameWork_counted h (fun x => (x.recordRetries s.retries).recordBatch b.size s.result) (fun _ => rfl)
      (doesNoWork_countBatch run b s) (doesNoWork_countBatch run' b s) none

theorem sameWork_finalize (h : RunsAlike run run') :
    SameWork OutcomesAlike (finalize config logbook run) (finalize config' logbook' run') :=
  .of_doesNoWork (doesNoWork_finalize config run) (doesNoWork_finalize config' run') fun a b ha hb => by
    rw [OutcomesAlike, ha, hb, h.statistics]

theorem sameWork_abort (h : RunsAlike run run') (cause : Cause) :
    SameWork OutcomesAlike (abort config logbook run cause) (abort config' logbook' run' cause) :=
  .of_doesNoWork (doesNoWork_abort config run cause) (doesNoWork_abort config' run' cause)
    fun a b ha hb => by rw [OutcomesAlike, ha, hb, h.statistics]

/-- Two runs that are alike do the same work, whatever they write on the side. -/
theorem sameWork_runsTogether (hconfig : config.WorksLike config') :
    RunsTogether @SameWork R config config' logbook logbook' where
  toGoesTogether := SameWork.goesTogether
  skipValidationErrors := hconfig.skipValidationErrors
  submitBatch := sameWork_submitBatch hconfig
  finalize := sameWork_finalize
  abort := sameWork_abort

/-- Whatever an import writes on the side, whether it can be written or not: it does the same work, and comes
to the same but for the time. -/
theorem sameWork_importRun (R : Type) [CatalogRecord R] (hconfig : config.WorksLike config')
    (logbook logbook' : Option Logbook) (resumeFrom : Nat) :
    SameWork OutcomesAlike (importRun config logbook R resumeFrom)
      (importRun config' logbook' R resumeFrom) := by
  refine .aside rfl fun startedAt startedAt' _ _ => .aside rfl fun _ _ _ _ => ?_
  refine .besides (doesNoWork_record_log _) (doesNoWork_record_log _) fun _ _ _ _ => .opened fun answer => ?_
  have hstart : RunsAlike (R := R) ⟨.start startedAt, .startingAt config.batchSize resumeFrom, []⟩
      ⟨.start startedAt', .startingAt config'.batchSize resumeFrom, []⟩ :=
    ⟨congrArg (Batcher.startingAt · resumeFrom) hconfig.batchSize, rfl⟩
  cases answer with
  | error cause => exact sameWork_abort hstart cause
  | ok document => exact (sameWork_runsTogether hconfig).runDocument hstart resumeFrom document

end

/-! ## Runs in surroundings -/

/-- The end to which a program came, its result as something else. -/
def Program.Ending.map {α β : Type} (f : α → β) : Program.Ending α → Program.Ending β
  | .finished a => .finished (f a)
  | .stalled => .stalled
  | .collapsed => .collapsed

section

variable {σ σ' τ : Type}

/-- What a task asks in certain surroundings, be it answered or not. -/
def asked {α : Type} (h : Surroundings σ) : Task α → σ → List Request
  | .done _, _ => []
  | .ask q next, w =>
    q :: match h q w with
      | (.answer x, w) => asked h (next x) w
      | _ => []

/-- The records with which the store is called. -/
def handed? : Request → Option (List Stored)
  | .addMany records => some records
  | _ => none

/-- The records with which a task calls the store in certain surroundings, call by call. -/
def handedOver {α : Type} (h : Surroundings σ) (p : Task α) (w : σ) : List (List Stored) :=
  (asked h p w).filterMap handed?

/-- The surroundings open a document and serve a store.  Whatever else is asked is answered somehow, and leaves
the store as it is; nothing is cancelled. -/
structure Serves (h : Surroundings σ) (opening : Program.Reply (Except Cause Reading))
    (serve : List Stored → τ → Program.Reply (Except StoreError BatchResult) × τ) (store : σ → τ) : Prop where
  openDocument : ∀ w, (h .openDocument w).1 = opening ∧ store (h .openDocument w).2 = store w
  addMany : ∀ records w, (h (.addMany records) w).1 = (serve records (store w)).1.map some ∧
    store (h (.addMany records) w).2 = (serve records (store w)).2
  besides : ∀ q w, q.isWork = false → ∃ x, (h q w).1 = .answer x ∧ isCancellation ⟨q, x⟩ = false ∧
    store (h q w).2 = store w

/-- Two runs hand over the same, leave the same in the store, and come to the same end. -/
structure RanAlike {α β γ : Type} (h : Surroundings σ) (h' : Surroundings σ') (store : σ → τ)
    (store' : σ' → τ) (f : α → γ) (f' : β → γ) (p : Task α) (p' : Task β) (w : σ) (w' : σ') : Prop where
  calls : handedOver h p w = handedOver h' p' w'
  store : store (p.run h w).2 = store' (p'.run h' w').2
  ending : (p.run h w).1.map f = (p'.run h' w').1.map f'

variable {h : Surroundings σ} {h' : Surroundings σ'} {opening : Program.Reply (Except Cause Reading)}
  {serve : List Stored → τ → Program.Reply (Except StoreError BatchResult) × τ} {store : σ → τ}
  {store' : σ' → τ}

theorem run_ask_of_answer {α : Type} {q : Request} {next : q.Answer → Task α} {w : σ} {x : q.Answer}
    (hq : (h q w).1 = .answer x) : Program.run h (.ask q next) w = (next x).run h (h q w).2 := by
  have heq : h q w = (.answer x, (h q w).2) := Prod.ext hq rfl
  rw [Program.run, heq]

theorem handedOver_ask_of_answer {α : Type} {q : Request} {next : q.Answer → Task α} {w : σ} {x : q.Answer}
    (hq : (h q w).1 = .answer x) :
    handedOver h (.ask q next) w = (handed? q).toList ++ handedOver h (next x) (h q w).2 := by
  have heq : h q w = (.answer x, (h q w).2) := Prod.ext hq rfl
  rw [handedOver, asked, heq, List.filterMap_cons]
  cases handed? q <;> rfl

theorem handedOver_ask_of_no_answer {α : Type} {q : Request} {next : q.Answer → Task α} {w : σ}
    (hq : ∀ x, (h q w).1 ≠ .answer x) : handedOver h (.ask q next) w = (handed? q).toList := by
  rw [handedOver, asked, List.filterMap_cons]
  rcases hw : h q w with ⟨reply, w₁⟩
  rw [hw] at hq
  cases reply with
  | answer x => exact absurd rfl (hq x)
  | silence => cases handed? q <;> rfl
  | collapse => cases handed? q <;> rfl

theorem handed?_eq_none {q : Request} (hq : q.isWork = false) : handed? q = none := by
  cases q <;> first | rfl | cases hq

section

variable {α β γ : Type} {f : α → γ} {f' : β → γ} {p : Task α} {p' : Task β} {w : σ} {w' : σ'}

theorem RanAlike.symm (hboth : RanAlike h h' store store' f f' p p' w w') :
    RanAlike h' h store' store f' f p' p w' w :=
  ⟨hboth.calls.symm, hboth.store.symm, hboth.ending.symm⟩

/-- A question that is no work may be asked in front. -/
theorem RanAlike.left {q : Request} {next : q.Answer → Task α} {x : q.Answer} (hq : q.isWork = false)
    (hanswer : (h q w).1 = .answer x)
    (hrest : RanAlike h h' store store' f f' (next x) p' (h q w).2 w') :
    RanAlike h h' store store' f f' (.ask q next) p' w w' := by
  refine ⟨?_, ?_, ?_⟩
  · rw [handedOver_ask_of_answer hanswer, handed?_eq_none hq]
    exact hrest.calls
  · rw [run_ask_of_answer hanswer]
    exact hrest.store
  · rw [run_ask_of_answer hanswer]
    exact hrest.ending

/-- Both ask the same and get the same reply, if any. -/
theorem RanAlike.both {q : Request} {next : q.Answer → Task α} {next' : q.Answer → Task β}
    (hreply : (h q w).1 = (h' q w').1) (hstore : store (h q w).2 = store' (h' q w').2)
    (hrest : ∀ x, (h q w).1 = .answer x →
      RanAlike h h' store store' f f' (next x) (next' x) (h q w).2 (h' q w').2) :
    RanAlike h h' store store' f f' (.ask q next) (.ask q next') w w' := by
  rcases hq : h q w with ⟨reply, w₁⟩
  rcases hq' : h' q w' with ⟨reply', w₁'⟩
  rw [hq, hq'] at hreply hstore hrest
  obtain rfl : reply = reply' := hreply
  have hfirst : (h q w).1 = reply := congrArg Prod.fst hq
  have hfirst' : (h' q w').1 = reply := congrArg Prod.fst hq'
  cases reply with
  | answer x =>
    have hnext := hrest x rfl
    refine ⟨?_, ?_, ?_⟩
    · rw [handedOver_ask_of_answer hfirst, handedOver_ask_of_answer hfirst', hq, hq', hnext.calls]
    · rw [run_ask_of_answer hfirst, run_ask_of_answer hfirst', hq, hq']
      exact hnext.store
    · rw [run_ask_of_answer hfirst, run_ask_of_answer hfirst', hq, hq']
      exact hnext.ending
  | _ =>
    refine ⟨?_, ?_, ?_⟩
    · rw [handedOver_ask_of_no_answer (by simp [hfirst]), handedOver_ask_of_no_answer (by simp [hfirst'])]
    · rw [Program.run, Program.run, hq, hq']
      exact hstore
    · rw [Program.run, Program.run, hq, hq']
      rfl

/-- Programs that do the same work run alike where the same store is served. -/
theorem SameWork.ranAlike {S : α → β → Prop} (hwork : SameWork S p p') (hresult : ∀ a b, S a b → f a = f' b)
    (hs : Serves h opening serve store) (hs' : Serves h' opening serve store')
    (hstore : store w = store' w') : RanAlike h h' store store' f f' p p' w w' := by
  induction hwork generalizing w w' with
  | done hab => exact ⟨rfl, hstore, congrArg _ (hresult _ _ hab)⟩
  | left hq _ ih =>
    obtain ⟨x, hanswer, hx, hsame⟩ := hs.besides _ w hq
    exact .left hq hanswer (ih x hx (hsame.trans hstore))
  | right hq _ ih =>
    obtain ⟨x, hanswer, hx, hsame⟩ := hs'.besides _ w' hq
    exact (RanAlike.left hq hanswer (ih x hx (hstore.trans hsame.symm)).symm).symm
  | opened _ ih =>
    obtain ⟨hreply, hsame⟩ := hs.openDocument w
    obtain ⟨hreply', hsame'⟩ := hs'.openDocument w'
    have hstores := (hsame.trans hstore).trans hsame'.symm
    exact .both (hreply.trans hreply'.symm) hstores fun x _ => ih x hstores
  | @offered records _ _ _ ih =>
    obtain ⟨hreply, hafter⟩ := hs.addMany records w
    obtain ⟨hreply', hafter'⟩ := hs'.addMany records w'
    rw [← hstore] at hreply' hafter'
    have hstores := hafter.trans hafter'.symm
    refine .both (hreply.trans hreply'.symm) hstores fun x hx => ?_
    rw [hreply] at hx
    cases hserved : (serve records (store w)).1 with
    | answer y =>
      rw [hserved] at hx
      cases hx
      exact ih y hstores
    | silence =>
      rw [hserved] at hx
      cases hx
    | collapse =>
      rw [hserved] at hx
      cases hx

/-- Where the document is opened or not, and the store answers every call, everything is answered. -/
theorem Serves.exists_answer (hs : Serves h opening serve store) {x : Except Cause Reading}
    (hopening : opening = .answer x) (hserve : ∀ records s, ∃ y, (serve records s).1 = .answer y)
    (q : Request) (w : σ) : ∃ x w', h q w = (.answer x, w') := by
  suffices hanswer : ∃ x, (h q w).1 = .answer x from
    hanswer.elim fun x hx => ⟨x, (h q w).2, Prod.ext hx rfl⟩
  cases q with
  | openDocument => exact ⟨x, (hs.openDocument w).1.trans hopening⟩
  | addMany records =>
    obtain ⟨y, hy⟩ := hserve records (store w)
    refine ⟨some y, (hs.addMany records w).1.trans ?_⟩
    rw [hy]
    rfl
  | _ => exact (hs.besides _ w rfl).imp fun _ hx => hx.1

end

/-- Side outputs never change an import.  Two imports of the same document from the same batch on, into stores
that answer alike and hold the same at first, call the store alike, leave the same in it, and come to the same
but for the time: they do all they have to or end for the same cause, and have counted the same.  It does not
matter which of what they write into the journal and into files can be written, nor what is read from the
journal, nor whether they write there at all.  If the store answers every call, both come to an end. -/
theorem side_outputs_change_nothing (R : Type) [CatalogRecord R] {config config' : Config}
    (hconfig : config.WorksLike config') (logbook logbook' : Option Logbook) (resumeFrom : Nat)
    (hs : Serves h opening serve store) (hs' : Serves h' opening serve store') {w : σ} {w' : σ'}
    (hstore : store w = store' w') :
    handedOver h (importRun config logbook R resumeFrom) w =
      handedOver h' (importRun config' logbook' R resumeFrom) w' ∧
    store ((importRun config logbook R resumeFrom).run h w).2 =
      store' ((importRun config' logbook' R resumeFrom).run h' w').2 ∧
    ((importRun config logbook R resumeFrom).run h w).1.map Outcome.timeless =
      ((importRun config' logbook' R resumeFrom).run h' w').1.map Outcome.timeless ∧
    ((∃ x, opening = .answer x) → (∀ records s, ∃ y, (serve records s).1 = .answer y) →
      ∃ outcome outcome', ((importRun config logbook R resumeFrom).run h w).1 = .finished outcome ∧
        ((importRun config' logbook' R resumeFrom).run h' w').1 = .finished outcome' ∧
        outcome.timeless = outcome'.timeless) := by
  obtain ⟨hcalls, hleft, hending⟩ := (sameWork_importRun R hconfig logbook logbook' resumeFrom).ranAlike
    (fun _ _ houtcomes => houtcomes) hs hs' hstore
  refine ⟨hcalls, hleft, hending, ?_⟩
  rintro ⟨x, hopening⟩ hserve
  obtain ⟨outcome, houtcome⟩ := Program.exists_finished (hs.exists_answer hopening hserve)
    (importRun config logbook R resumeFrom) w
  obtain ⟨outcome', houtcome'⟩ := Program.exists_finished (hs'.exists_answer hopening hserve)
    (importRun config' logbook' R resumeFrom) w'
  rw [houtcome, houtcome'] at hending
  exact ⟨outcome, outcome', houtcome, houtcome', Program.Ending.finished.inj hending⟩

end

/-! ## Where nothing can be written on the side -/

namespace Scene

variable {document : Reading}

/-- Answers from a scene whose files and whose journal cannot be written or read. -/
def unwritable (document : Reading) : Surroundings (Scene × Nat)
  | .keepBatch _ _, w => (.answer (some (.error (.other "full"))), w)
  | .keepRecords _ _, w => (.answer (.error (.other "full")), w)
  | .append _, w => (.answer (.error (.append "full")), w)
  | .loadCheckpoint _, w => (.answer (.error (.load "gone")), w)
  | .saveCheckpoint _, w => (.answer (.error (.save "full")), w)
  | q, w => surroundings document q w

/-- A store that takes so many batches and refuses all others. -/
def serve (records : List Stored) :
    MemoryStore × Nat → Program.Reply (Except StoreError BatchResult) × MemoryStore × Nat
  | (s, 0) => (.answer (.error (.transport "refused")), (s, 0))
  | (s, n + 1) => (.answer (.ok (s.addMany records).2), ((s.addMany records).1, n))

/-- The store of a scene, and how many batches it takes. -/
def till (w : Scene × Nat) : MemoryStore × Nat := (w.1.store, w.2)

theorem serves_surroundings : Serves (surroundings document) (.answer (.ok document)) serve till where
  openDocument := fun _ => ⟨rfl, rfl⟩
  addMany := by
    rintro records ⟨s, _ | n⟩ <;> exact ⟨rfl, rfl⟩
  besides := by
    rintro q ⟨s, n⟩ hq
    cases q with
    | openDocument => cases hq
    | addMany records => cases hq
    | saveCheckpoint c =>
      unfold surroundings
      dsimp only
      split <;> exact ⟨_, rfl, rfl, rfl⟩
    | _ => exact ⟨_, rfl, rfl, rfl⟩

theorem serves_unwritable : Serves (unwritable document) (.answer (.ok document)) serve till where
  openDocument := fun _ => ⟨rfl, rfl⟩
  addMany := by
    rintro records ⟨s, _ | n⟩ <;> exact ⟨rfl, rfl⟩
  besides := by
    rintro q ⟨s, n⟩ hq
    cases q with
    | openDocument => cases hq
    | addMany records => cases hq
    | _ => exact ⟨_, rfl, rfl, rfl⟩

end Scene

/-- The store refuses the second batch; nothing that is to be kept or logged can be written. -/
theorem side_outputs_change_nothing_in_sample :
    ∃ outcome, ((Sample.task 1 0).run (Scene.unwritable Sample.document) (Sample.scene, 1)).1 =
        .finished (.error outcome) ∧
      outcome.cause = Sample.refused.cause ∧
      outcome.statistics.timeless = Sample.refused.statistics.timeless ∧
      handedOver (Scene.unwritable Sample.document) (Sample.task 1 0) (Sample.scene, 1) =
        handedOver (Scene.surroundings Sample.document) (Sample.task 1 0) (Sample.scene, 1) ∧
      ((Sample.task 1 0).run (Scene.unwritable Sample.document) (Sample.scene, 1)).2.1.store =
        Sample.interrupted.store := by
  have hserves : Serves (Scene.unwritable Sample.document) _ _ _ := Scene.serves_unwritable
  have hserves' : Serves (Scene.surroundings Sample.document) _ _ _ := Scene.serves_surroundings
  have hsame : Scene.till (Sample.scene, 1) = Scene.till (Sample.scene, 1) := rfl
  have hconfig : (Sample.config 1).WorksLike (Sample.config 1) := ⟨rfl, rfl, rfl⟩
  obtain ⟨hcalls, hstore, -, hends⟩ := side_outputs_change_nothing CardSet hconfig (some Sample.logbook)
    (some Sample.logbook) 0 hserves hserves' hsame
  have hanswers : ∀ records s, ∃ y, (Scene.serve records s).1 = .answer y := by
    rintro records ⟨s, _ | n⟩ <;> exact ⟨_, rfl⟩
  obtain ⟨outcome, outcome', houtcome, houtcome', heq⟩ := hends ⟨_, rfl⟩ hanswers
  obtain rfl : outcome' = .error Sample.refused :=
    Program.Ending.finished.inj (houtcome'.symm.trans Sample.run_refused)
  cases outcome with
  | ok s => cases heq
  | error a =>
    have ha := Aborted.mk.inj (Except.error.inj heq)
    exact ⟨a, houtcome, ha.1, ha.2, hcalls, congrArg Prod.fst hstore⟩

end CatalogImport
