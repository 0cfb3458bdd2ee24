import CatalogImport.Import.Controller
import CatalogImport.Proofs.Import.Phases
import CatalogImport.Proofs.Import.Scene
import CatalogImport.Rehearsal.World

/-!
# Calls of a controller

A call runs an import, and the controller does no more than keep account of its phases
(`Controller.run_answers`), so it does not matter to a call how the controller has been called before
(`Controller.call_eq`).  Main statement: the phases of a call are a course whose end tells how the call ended
(`phases_of_call`).  So are those that a world shows in which an import is rehearsed (`World.course_of_run`).
-/

namespace CatalogImport

namespace Controller

variable {R : Type} [CatalogRecord R] {κ σ α : Type}

/-- The surroundings to which no phase matters. -/
def quietly (s : Surroundings σ) : Surroundings σ
  | .enter _, w => (.answer (), w)
  | q, w => s q w

/-- The controller after it has entered phases. -/
def enterAll (c : Controller) (ps : List Phase) : Controller :=
  { c with phase := ps.getLast?.getD c.phase, entered := c.entered ++ ps }

theorem enterAll_cons (c : Controller) (p : Phase) (ps : List Phase) :
    c.enterAll (p :: ps) = (c.enter p).enterAll ps := by
  unfold enterAll enter
  rw [List.getLast?_cons, Option.getD_some, List.append_assoc, List.singleton_append]

theorem enterAll_nil (c : Controller) : c.enterAll [] = c := by
  unfold enterAll
  rw [List.append_nil]
  rfl

theorem answers_of_isSteady {q : Request} (h : q.IsSteady) (s : Surroundings σ) (c : Controller) (w : σ) :
    answers s q (c, w) = ((quietly s q w).1, c, (quietly s q w).2) := by
  cases q with
  | enter p => cases h
  | _ => rfl

/-- A program runs as if there was no controller, which enters the phases that the program does. -/
theorem run_answers (s : Surroundings σ) (p : Task α) (c : Controller) (w : σ) :
    p.run (answers s) (c, w) = ((p.run (quietly s) w).1,
      c.enterAll (enteredPhases (p.transcript (quietly s) w)), (p.run (quietly s) w).2) := by
  induction p generalizing c w with
  | done a => exact Prod.ext rfl (Prod.ext c.enterAll_nil.symm rfl)
  | ask q next ih =>
    rw [Program.run, Program.run, Program.transcript]
    by_cases hq : q.IsSteady
    · rw [answers_of_isSteady hq]
      rcases quietly s q w with ⟨reply, w'⟩
      cases reply with
      | answer x =>
        change (next x).run (answers s) (c, w') = _
        rw [ih x c w', enteredPhases_cons_of_isSteady hq]
      | silence => exact Prod.ext rfl (Prod.ext c.enterAll_nil.symm rfl)
      | collapse => exact Prod.ext rfl (Prod.ext c.enterAll_nil.symm rfl)
    · cases q with
      | enter p =>
        change (next ()).run (answers s) (c.enter p, w) = _
        rw [ih () (c.enter p) w, ← enterAll_cons]
        rfl
      | _ => exact absurd trivial hq

/-- The phases that are entered in a call. -/
def phasesOf (R : Type) [CatalogRecord R] (config : Config) (logbook : Option Logbook) (k : Call κ σ) (w : σ) :
    List Phase :=
  enteredPhases ((importRun config logbook R k.resumeFrom).transcript (quietly k.surroundings) (w, k.own))

/-- What a call comes to does not depend on the phase in which the controller is. -/
theorem call_eq (c : Controller) (k : Call κ σ) (w : σ) :
    c.call R k w = (((importRun c.config c.logbook R k.resumeFrom).run (quietly k.surroundings) (w, k.own)).1,
      { c with entered := [] }.enterAll (phasesOf R c.config c.logbook k w),
      ((importRun c.config c.logbook R k.resumeFrom).run (quietly k.surroundings) (w, k.own)).2.1) := by
  rw [call, run_answers]
  rfl

/-- Calls leave a controller with the configuration and the logbook that it had. -/
theorem config_calls (c : Controller) (w : σ) (ks : List (Call κ σ)) :
    (calls R c w ks).1.config = c.config ∧ (calls R c w ks).1.logbook = c.logbook := by
  induction ks generalizing c w with
  | nil => exact ⟨rfl, rfl⟩
  | cons k ks ih =>
    have hrest := ih (c.call R k w).2.1 (c.call R k w).2.2
    rw [call_eq] at hrest
    rw [calls, List.foldl_cons, call_eq]
    exact hrest

/-- Of a call that has not returned, the phases are the beginning of a course. -/
theorem exists_course (config : Config) (logbook : Option Logbook) (k : Call κ σ) (w : σ) :
    ∃ phases last, Phase.Course phases last ∧ phasesOf R config logbook k w <+: phases := by
  obtain ⟨p, hp⟩ :=
    Program.exists_told (quietly k.surroundings) (importRun config logbook R k.resumeFrom) (w, k.own)
  obtain ⟨u, outcome, hu, -⟩ := Program.exists_yields Scene.refusal p
  refine ⟨_, _, enters_importRun k.resumeFrom _ outcome (hp.trans hu), ?_⟩
  rw [phasesOf, enteredPhases, enteredPhases, List.filterMap_append]
  exact List.prefix_append _ _

/-- However a controller has been called before, the phases of a call that returns are a course, with or without
those that are entered again, and the controller is left in the phase that tells how the call ended.  The call
comes to what it would come to as the first, on what the others have left behind. -/
theorem phases_of_call {config : Config} {logbook : Option Logbook} {before : List (Call κ σ)} {w w' : σ}
    {c : Controller} (hbefore : calls R (new config logbook) w before = (c, w')) (k : Call κ σ) :
    (∀ outcome, (c.call R k w').1 = .finished outcome →
      Phase.Course (c.call R k w').2.1.entered outcome.phase ∧
      Phase.Course ((c.call R k w').2.1.entered.destutter (· ≠ ·)) outcome.phase ∧
      ((c.call R k w').2.1.phase = .done ↔ ∃ statistics, outcome = .ok statistics) ∧
      ((c.call R k w').2.1.phase = .aborted ↔ ∃ aborted, outcome = .error aborted)) ∧
    (∃ phases last, Phase.Course phases last ∧ (c.call R k w').2.1.entered <+: phases) ∧
    (c.call R k w').1 = ((new config logbook).call R k w').1 ∧
    (c.call R k w').2.1.entered = ((new config logbook).call R k w').2.1.entered ∧
    (c.call R k w').2.2 = ((new config logbook).call R k w').2.2 := by
  obtain ⟨hconfig, hlogbook⟩ := config_calls (R := R) (new config logbook) w before
  rw [hbefore] at hconfig hlogbook
  obtain ⟨_, _, phase, entered⟩ := c
  obtain rfl : _ = config := hconfig
  obtain rfl : _ = logbook := hlogbook
  simp only [call_eq]
  refine ⟨fun outcome hfinished => ?_, exists_course _ _ k w', rfl, rfl, rfl⟩
  have hcourse := enters_importRun k.resumeFrom _ outcome (Program.run_yields hfinished)
  refine ⟨hcourse, hcourse.destutter, ?_⟩
  rw [enterAll, phasesOf, hcourse.getLast?, Option.getD_some]
  cases outcome with
  | ok statistics => simp [Outcome.phase]
  | error aborted => simp [Outcome.phase]

namespace Sample

/-- A call from the first batch on, in which the store takes so many batches. -/
def call (batches : Nat) : Call Nat Scene := ⟨0, batches, Scene.surroundings CatalogImport.Sample.document⟩

/-- A controller for batches of one record, and what it leaves behind, when the store has taken a batch and
refused the next. -/
def interrupted : Controller × Scene :=
  calls CardSet (new (CatalogImport.Sample.config 1) none) CatalogImport.Sample.scene [call 1]

end Sample

/-- The call after one that was aborted is done. -/
theorem phases_of_second_call :
    Sample.interrupted.1.phase = .aborted ∧
    (Sample.interrupted.1.call CardSet (Sample.call 9) Sample.interrupted.2).2.1.phase = .done ∧
    Phase.Course (Sample.interrupted.1.call CardSet (Sample.call 9) Sample.interrupted.2).2.1.entered .done := by
  have hended : ∃ s, (Sample.interrupted.1.call CardSet (Sample.call 9) Sample.interrupted.2).1 =
      .finished (.ok s) := by
    refine ⟨⟨3, 3, 0, 3, 1, 0, .epoch, some .epoch⟩, ?_⟩
    decide +kernel
  obtain ⟨s, hended⟩ := hended
  have hbefore : calls CardSet (new (CatalogImport.Sample.config 1) none) CatalogImport.Sample.scene
      [Sample.call 1] = (Sample.interrupted.1, Sample.interrupted.2) := by
    rw [Sample.interrupted]
  obtain ⟨hphases, -⟩ := phases_of_call hbefore (Sample.call 9)
  obtain ⟨hcourse, -, hdone, -⟩ := hphases (.ok s) hended
  exact ⟨by decide +kernel, hdone.2 ⟨s, rfl⟩, hcourse⟩

end Controller

/-! ## Phases in a rehearsal -/

namespace World

variable {σ α : Type} {serve : Serving σ}

/-- What a world shows of phases changes only when one is entered. -/
theorem phases_of_isSteady {q : Request} (hq : q.IsSteady) (serve : Serving σ) (w : World σ) :
    (surroundings serve q w).2.phase = w.phase ∧ (surroundings serve q w).2.phases = w.phases := by
  have hjournal (journal : JournalDesk) :
      (w.withJournal journal).phase = w.phase ∧ (w.withJournal journal).phases = w.phases := by
    unfold withJournal
    split <;> exact ⟨rfl, rfl⟩
  cases q with
  | enter p => cases hq
  | addMany records =>
    simp only [surroundings, addMany]
    rcases serve records w.store with ⟨_ | _ | _, cancels, store⟩ <;> exact ⟨rfl, rfl⟩
  | notice n =>
    simp only [surroundings]
    split <;> exact ⟨rfl, rfl⟩
  | keepBatch kind b =>
    simp only [surroundings]
    split <;> exact ⟨rfl, rfl⟩
  | append e => exact hjournal _
  | loadCheckpoint runId => exact ⟨rfl, rfl⟩
  | saveCheckpoint c => exact hjournal _
  | _ => exact ⟨rfl, rfl⟩

/-- A world shows the phases that were entered, without those that it was in already. -/
theorem phases_run (serve : Serving σ) (p : Task α) (w : World σ) : (run serve p w).2.phases =
    ((enteredPhases (p.transcript (surroundings serve) w)).destutter' (· ≠ ·) w.phase).tail.reverse ++
      w.phases := by
  induction p generalizing w with
  | done a => rfl
  | ask q next ih =>
    rw [run, Program.run, Program.transcript]
    by_cases hq : q.IsSteady
    · obtain ⟨hphase, hphases⟩ := phases_of_isSteady hq serve w
      rcases hanswer : surroundings serve q w with ⟨reply, w'⟩
      rw [hanswer] at hphase hphases
      cases reply with
      | answer x =>
        change (run serve (next x) w').2.phases = _
        rw [ih x w', enteredPhases_cons_of_isSteady hq, hphase, hphases]
      | silence => exact hphases
      | collapse => exact hphases
    · cases q with
      | enter p =>
        change (run serve (next ()) (w.enter p)).2.phases =
          ((p :: enteredPhases _).destutter' _ _).tail.reverse ++ _
        rw [ih () (w.enter p), enter]
        by_cases hsame : p = w.phase
        · rw [if_pos hsame, List.destutter'_cons_neg _ fun hne => hne hsame.symm]
        · obtain ⟨rest, hrest⟩ := Phase.exists_destutter'_eq_cons p
            (enteredPhases ((next ()).transcript (surroundings serve) (w.enter p)))
          rw [enter, if_neg hsame] at hrest
          rw [if_neg hsame, List.destutter'_cons_pos _ (Ne.symm hsame), List.tail_cons, hrest]
          simp
      | _ => exact absurd trivial hq

/-- What a world shows of the phases of an import is a course, unless the import begins in the phase in which the
world is: this one is not shown. -/
theorem course_of_run {R : Type} [CatalogRecord R] {config : Config} {logbook : Option Logbook} {k : Nat}
    {outcome : Outcome} {w w' : World σ} (hnew : w.phases = [])
    (hrun : run serve (importRun config logbook R k) w = (.finished outcome, w')) :
    Phase.Course ((if w.phase = .notStarted then [.notStarted] else []) ++ w'.phases.reverse) outcome.phase := by
  have hfinished : ((importRun config logbook R k).run (surroundings serve) w).1 = .finished outcome :=
    congrArg Prod.fst hrun
  have hphases := phases_run serve (importRun config logbook R k) w
  have hcourse := enters_importRun k _ outcome (Program.run_yields hfinished)
  generalize enteredPhases ((importRun config logbook R k).transcript (surroundings serve) w) = ps
    at hphases hcourse
  rw [hrun, hnew, List.append_nil] at hphases
  rw [show w'.phases = _ from hphases, List.reverse_reverse]
  have hcollapsed := hcourse.destutter
  obtain ⟨hrounds, hclosing⟩ := hcourse
  rw [List.destutter_cons'] at hcollapsed
  by_cases hphase : w.phase = .notStarted
  · rw [if_pos hphase, hphase, List.destutter'_cons_neg _ fun hne => hne rfl]
    obtain ⟨rest, hrest⟩ := Phase.exists_destutter'_eq_cons .notStarted (_ ++ _)
    rw [hrest] at hcollapsed ⊢
    exact hcollapsed
  · rw [if_neg hphase, List.destutter'_cons_pos _ hphase]
    exact hcollapsed

end World

end CatalogImport
