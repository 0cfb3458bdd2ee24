import CatalogImport.Proofs.Import.Questions
import Mathlib.Data.List.Destutter

/-!
# The phases of an import

Which phases an import enters, one after the other, is told by a small grammar (`Phase.Course`): rounds, in each
of which an element is taken in, and then one of four ways to the end.  Each part of an import adds its share,
whatever it is answered (`Enters`).  Main statements: the phases of an import are such a course, whose last phase
tells how it ended (`enters_importRun`), and so they are when a phase that is entered again is not counted
(`Phase.Course.destutter`).
-/

namespace CatalogImport

open CatalogImport.Json

namespace Phase

/-! ## The grammar of phases -/

/-- In a round an element is taken in. -/
inductive Round : List Phase → Prop
  /-- It is no record, or the run ends before. -/
  | refused : Round [validating]
  | taken : Round [validating, batching]
  /-- It fills a batch. -/
  | submitted : Round [validating, batching, submitting]

/-- Any number of rounds. -/
inductive Rounds : List Phase → Prop
  | nil : Rounds []
  | cons {u v : List Phase} (hround : Round u) (hrest : Rounds v) : Rounds (u ++ v)

/-- The end of an import, and its last phase. -/
inductive Closing : List Phase → Phase → Prop
  | aborted : Closing [aborted] aborted
  /-- The last batch is not submitted. -/
  | unsubmitted : Closing [flushing, submitting, aborted] aborted
  /-- There is no last batch. -/
  | finalized : Closing [flushing, finalizing, done] done
  | submitted : Closing [flushing, submitting, finalizing, done] done

/-- The phases of an import, and the last one. -/
inductive Course : List Phase → Phase → Prop
  | intro {u v : List Phase} {last : Phase} (hrounds : Rounds u) (hclosing : Closing v last) :
      Course (notStarted :: (u ++ v)) last

theorem Round.rounds {u : List Phase} (h : Round u) : Rounds u :=
  List.append_nil u ▸ Rounds.cons h .nil

theorem Closing.getLast? {v : List Phase} {last : Phase} (h : Closing v last) : v.getLast? = some last := by
  cases h <;> rfl

theorem Course.getLast? {w : List Phase} {last : Phase} (h : Course w last) : w.getLast? = some last := by
  obtain ⟨hrounds, hclosing⟩ := h
  rw [List.getLast?_cons, List.getLast?_append, hclosing.getLast?]
  rfl

/-! ## Phases that are entered again -/

/-- Rounds, and the end behind them, begin with one of three phases. -/
theorem exists_cons_of_rounds {u v : List Phase} {last : Phase} (hrounds : Rounds u) (hclosing : Closing v last) :
    ∃ p rest, u ++ v = p :: rest ∧ (p = validating ∨ p = aborted ∨ p = flushing) := by
  cases hrounds with
  | nil => cases hclosing <;> exact ⟨_, _, rfl, by decide⟩
  | cons hround _ => cases hround <;> exact ⟨_, _, rfl, .inl rfl⟩

/-- The first phase is counted. -/
theorem exists_destutter'_eq_cons (p : Phase) (ps : List Phase) :
    ∃ rest, ps.destutter' (· ≠ ·) p = p :: rest := by
  induction ps generalizing p with
  | nil => exact ⟨[], rfl⟩
  | cons q ps ih =>
    by_cases h : p ≠ q
    · exact ⟨_, List.destutter'_cons_pos ps h⟩
    · rw [List.destutter'_cons_neg ps h]
      exact ih p

/-- A phase that differs from the next one is counted. -/
theorem destutter_cons_of_ne {p q : Phase} {rest : List Phase} (h : p ≠ q) :
    (p :: q :: rest).destutter (· ≠ ·) = p :: (q :: rest).destutter (· ≠ ·) :=
  List.destutter_cons_cons ..  |>.trans (if_pos h)

theorem Closing.destutter {v : List Phase} {last : Phase} (h : Closing v last) : v.destutter (· ≠ ·) = v := by
  cases h <;> rfl

theorem exists_destutter {u v : List Phase} {last : Phase} (hrounds : Rounds u) (hclosing : Closing v last) :
    ∃ u', Rounds u' ∧ (u ++ v).destutter (· ≠ ·) = u' ++ v := by
  induction hrounds with
  | nil => exact ⟨[], .nil, hclosing.destutter⟩
  | @cons round u hround hrest ih =>
    obtain ⟨u', hu', hih⟩ := ih
    obtain ⟨p, rest, hp, hfirst⟩ := exists_cons_of_rounds hrest hclosing
    rw [hp] at hih
    rw [List.append_assoc, hp]
    have hbatching : batching ≠ p := by rcases hfirst with rfl | rfl | rfl <;> decide
    have hsubmitting : submitting ≠ p := by rcases hfirst with rfl | rfl | rfl <;> decide
    cases hround with
    | refused =>
      by_cases hagain : validating = p
      · subst hagain
        exact ⟨u', hu', hih⟩
      · refine ⟨[validating] ++ u', .cons .refused hu', ?_⟩
        rw [List.singleton_append, destutter_cons_of_ne hagain, hih]
        rfl
    | taken =>
      refine ⟨[validating, batching] ++ u', .cons .taken hu', ?_⟩
      rw [List.cons_append, List.singleton_append, destutter_cons_of_ne (by decide),
        destutter_cons_of_ne hbatching, hih]
      rfl
    | submitted =>
      refine ⟨[validating, batching, submitting] ++ u', .cons .submitted hu', ?_⟩
      rw [List.cons_append, List.cons_append, List.singleton_append, destutter_cons_of_ne (by decide),
        destutter_cons_of_ne (by decide), destutter_cons_of_ne hsubmitting, hih]
      rfl

/-- Without the phases that are entered again, a course is still one. -/
theorem Course.destutter {w : List Phase} {last : Phase} (h : Course w last) :
    Course (w.destutter (· ≠ ·)) last := by
  obtain ⟨hrounds, hclosing⟩ := h
  obtain ⟨u', hu', hdestutter⟩ := exists_destutter hrounds hclosing
  obtain ⟨p, rest, hp, hfirst⟩ := exists_cons_of_rounds hrounds hclosing
  have hne : notStarted ≠ p := by rcases hfirst with rfl | rfl | rfl <;> decide
  rw [hp] at hdestutter ⊢
  rw [destutter_cons_of_ne hne, hdestutter]
  exact .intro hu' hclosing

end Phase

/-! ## Phases that are entered -/

/-- The phase that is entered. -/
def entered? : Exchange → Option Phase
  | ⟨.enter p, _⟩ => some p
  | _ => none

/-- The phases that are entered, in order. -/
def enteredPhases (t : History) : List Phase := t.filterMap entered?

/-- The question is not about a phase. -/
def Request.IsSteady : Request → Prop
  | .enter _ => False
  | _ => True

theorem Request.IsOfBatch.isSteady {q : Request} (h : q.IsOfBatch) : q.IsSteady := by
  cases q with
  | enter p => exact h
  | _ => trivial

theorem enteredPhases_cons_of_isSteady {e : Exchange} (h : e.1.IsSteady) (t : History) :
    enteredPhases (e :: t) = enteredPhases t := by
  obtain ⟨q, x⟩ := e
  cases q with
  | enter p => cases h
  | _ => rfl

theorem enteredPhases_eq_nil {t : History} (h : ∀ e ∈ t, e.1.IsSteady) : enteredPhases t = [] := by
  induction t with
  | nil => rfl
  | cons e t ih =>
    rw [enteredPhases_cons_of_isSteady (h e List.mem_cons_self)]
    exact ih fun e' he' => h e' (List.mem_cons_of_mem e he')

/-- Whatever a program is answered, the phases that it enters are as said of them and of what it comes to. -/
def Enters {α : Type} (p : Task α) (post : List Phase → α → Prop) : Prop :=
  ∀ t a, p.Yields t a → post (enteredPhases t) a

section

variable {α β : Type} {p : Task α} {f : α → Task β} {post : List Phase → α → Prop}
  {post' : List Phase → β → Prop}

theorem Enters.mono {post' : List Phase → α → Prop} (h : Enters p post) (hpost : ∀ w a, post w a → post' w a) :
    Enters p post' := fun t a hyields => hpost _ a (h t a hyields)

theorem Enters.bind (hp : Enters p post) (hf : ∀ w a, post w a → Enters (f a) fun w' => post' (w ++ w')) :
    Enters (p >>= f) post' := by
  intro t b h
  obtain ⟨a, u, v, rfl, hu, hv⟩ := Program.yields_bind_iff.1 h
  rw [enteredPhases, List.filterMap_append]
  exact hf _ a (hp u a hu) v b hv

theorem enters_pure {a : α} (h : post [] a) : Enters (pure a) post := by
  intro t b hyields
  obtain ⟨rfl, rfl⟩ := Program.yields_pure_iff.1 hyields
  exact h

/-- A part that asks for no phase enters none. -/
theorem Enters.of_asksOnly (h : p.AsksOnly Request.IsSteady) : Enters p fun w _ => w = [] :=
  fun _ _ hyields => enteredPhases_eq_nil (h.of_mem hyields)

theorem enters_of_asksOnly_bind (h : p.AsksOnly Request.IsSteady) (hf : ∀ a, Enters (f a) post') :
    Enters (p >>= f) post' :=
  (Enters.of_asksOnly h).bind fun w a hw => by
    subst hw
    exact hf a

theorem enters_ask_bind {q : Request} {f : q.Answer → Task β} (hq : q.IsSteady)
    (hf : ∀ x, Enters (f x) post') : Enters (ask q >>= f) post' :=
  enters_of_asksOnly_bind ⟨hq, fun _ => trivial⟩ hf

theorem enters_enter_bind {phase : Phase} {f : Unit → Task β}
    (hf : Enters (f ()) fun w => post' (phase :: w)) : Enters (ask (.enter phase) >>= f) post' := by
  intro t b h
  obtain ⟨_, u, rfl, hu⟩ := yields_ask_bind_iff.1 h
  exact hf u b hu

end

/-! ## The parts of an import -/

section

variable {R : Type} [CatalogRecord R] {config : Config} {logbook : Option Logbook}

/-- The phase in which an import that came to an end is left. -/
def Outcome.phase : Outcome → Phase
  | .ok _ => .done
  | .error _ => .aborted

theorem asksOnly_keepFailed_isSteady (kind : RecordKind) (failed : List FailedEntry) :
    (keepFailed config kind failed).AsksOnly Request.IsSteady :=
  asksOnly_keepFailed trivial fun _ => trivial

theorem asksOnly_record_log {n : Notice} {x : Happening} :
    (record logbook n (·.log x)).AsksOnly Request.IsSteady :=
  asksOnly_record trivial (asksOnly_log trivial fun _ _ => trivial)

theorem enters_finalize (run : RunState R) : Enters (finalize config logbook run) fun w outcome =>
    w = [.finalizing, .done] ∧ outcome.phase = .done := by
  refine enters_enter_bind (enters_of_asksOnly_bind (asksOnly_keepFailed_isSteady _ _) fun _ => ?_)
  refine enters_ask_bind trivial fun _ => enters_of_asksOnly_bind asksOnly_record_log fun _ => ?_
  exact enters_enter_bind (enters_pure ⟨rfl, rfl⟩)

theorem enters_abort (run : RunState R) (cause : Cause) :
    Enters (abort config logbook run cause) fun w outcome => w = [.aborted] ∧ outcome.phase = .aborted := by
  refine enters_enter_bind (enters_of_asksOnly_bind (asksOnly_keepFailed_isSteady _ _) fun _ => ?_)
  refine enters_ask_bind trivial fun _ => enters_ask_bind trivial fun _ => ?_
  exact enters_of_asksOnly_bind asksOnly_record_log fun _ => enters_pure ⟨rfl, rfl⟩

theorem enters_submitBatch (run : RunState R) (b : Batch R) :
    Enters (submitBatch config logbook run b) fun w _ => w = [.submitting] := by
  obtain ⟨p, hp, hsubmit⟩ := exists_batchPart config logbook run b
  rw [hsubmit]
  refine enters_enter_bind (f := fun _ => p) ?_
  refine (Enters.of_asksOnly (hp.mono fun _ => Request.IsOfBatch.isSteady)).mono fun w a hw => ?_
  rw [hw]

/-- To take in an element is a round. -/
theorem enters_takeElement (run : RunState R) (position : Nat) (v : Value) :
    Enters (takeElement config logbook run position v) fun w _ => Phase.Round w := by
  refine enters_enter_bind ?_
  cases CatalogRecord.validate (R := R) v with
  | ok r =>
    refine enters_enter_bind ?_
    rcases run.batcher.push position r with ⟨_ | b, batcher⟩
    · exact enters_pure .taken
    · refine (enters_submitBatch _ b).mono fun w a hw => ?_
      rw [hw]
      exact .submitted
  | error violation =>
    refine enters_ask_bind trivial fun _ => enters_ask_bind trivial fun _ => enters_ask_bind trivial fun _ => ?_
    exact enters_pure .refused

/-- To take in elements is as many rounds. -/
theorem enters_takeElements (skip position : Nat) (run : RunState R) (vs : List Value) :
    Enters (takeElements config logbook skip run position vs) fun w _ => Phase.Rounds w := by
  induction vs generalizing run position with
  | nil =>
    refine enters_ask_bind trivial fun cancelled => ?_
    cases cancelled <;> exact enters_pure .nil
  | cons v rest ih =>
    refine enters_ask_bind trivial fun cancelled => ?_
    cases cancelled with
    | true => exact enters_pure .nil
    | false =>
      change Enters (if position < skip then _ else _ : Task (RunState R × Option Cause)) _
      split
      · exact ih (position + 1) run
      · refine (enters_takeElement run position v).bind fun w x hround => ?_
        rcases x with ⟨run', _ | cause⟩
        · exact (ih (position + 1) run').mono fun w' _ hrest => .cons hround hrest
        · refine enters_pure ?_
          rw [List.append_nil]
          exact hround.rounds

/-- What is left is submitted, or there is nothing left and the run goes on. -/
theorem enters_flush (run : RunState R) : Enters (flush config logbook run) fun w x =>
    w = [.flushing] ∧ x.2 = none ∨ w = [.flushing, .submitting] := by
  refine enters_enter_bind ?_
  rcases run.batcher.finish with ⟨_ | b, batcher⟩
  · exact enters_pure (.inl ⟨rfl, rfl⟩)
  · refine (enters_submitBatch _ b).mono fun w a hw => .inr ?_
    rw [hw]

/-- When all elements have been taken in, the run comes to its end over what is left. -/
theorem enters_closing (run : RunState R) : Enters (flush config logbook run >>= fun x => match x with
    | (run, some cause) => abort config logbook run cause
    | (run, none) => finalize config logbook run) fun w outcome => Phase.Closing w outcome.phase := by
  refine (enters_flush run).bind fun w x hflush => ?_
  rcases x with ⟨run', _ | cause⟩
  · refine (enters_finalize run').mono fun w' outcome hend => ?_
    rw [hend.1, hend.2]
    rcases hflush with ⟨rfl, -⟩ | rfl
    · exact .finalized
    · exact .submitted
  · refine (enters_abort run' cause).mono fun w' outcome hend => ?_
    rw [hend.1, hend.2]
    rcases hflush with ⟨-, hnone⟩ | rfl
    · cases hnone
    · exact .unsubmitted

theorem enters_runDocument (run : RunState R) (k : Nat) (document : Reading) :
    Enters (runDocument config logbook run k document) fun w outcome =>
      ∃ u v, w = u ++ v ∧ Phase.Rounds u ∧ Phase.Closing v outcome.phase := by
  have haborts (run : RunState R) (cause : Cause) :
      Enters (abort config logbook run cause) fun w outcome => Phase.Closing w outcome.phase :=
    (enters_abort run cause).mono fun w outcome hend => by
      rw [hend.1, hend.2]
      exact .aborted
  refine (enters_takeElements _ _ run _).bind fun u x hrounds => Enters.mono ?_
    fun v outcome (hclosing : Phase.Closing v outcome.phase) => ⟨u, v, rfl, hrounds, hclosing⟩
  rcases x with ⟨run', _ | cause⟩
  · cases document.ending with
    | error e => exact haborts run' _
    | ok summary =>
      change Enters (if _ then _ else _ : Task Outcome) _
      split
      · exact enters_ask_bind trivial fun _ => enters_closing run'
      · exact enters_closing run'
  · exact haborts run' cause

/-- The phases of an import are a course, and the last one tells how it ended. -/
theorem enters_importRun (k : Nat) :
    Enters (importRun config logbook R k) fun w outcome => Phase.Course w outcome.phase := by
  refine enters_ask_bind trivial fun startedAt => enters_enter_bind ?_
  have hstart (b : Logbook) : (b.runStarted k).AsksOnly Request.IsSteady :=
    asksOnly_log trivial (fun _ _ => trivial) b
  refine enters_of_asksOnly_bind (asksOnly_record trivial hstart) fun _ => ?_
  refine enters_ask_bind trivial fun answer => ?_
  cases answer with
  | error cause =>
    refine (enters_abort _ cause).mono fun w outcome hend => ?_
    rw [hend.1, hend.2]
    exact .intro .nil .aborted
  | ok document =>
    refine (enters_runDocument _ k document).mono fun w outcome hend => ?_
    obtain ⟨u, v, rfl, hrounds, hclosing⟩ := hend
    exact .intro hrounds hclosing

end

end CatalogImport
