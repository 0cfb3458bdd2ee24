import CatalogImport.Import.Floor
import CatalogImport.Proofs.Import.EventLog
import CatalogImport.Proofs.Import.TimeIndependence
import CatalogImport.Proofs.Journal.Changes

/-!
# What a job does by itself

What matters of a job's surroundings are its belongings: its store, its checkpoint, and the events that it has
logged.  From these every question of the job is answered, up to the time, the ids and what becomes of files.
A job may have come some way (`Party.Leads`), it may come to an end (`Party.Ends`), and it may be bound to come
to one (`Party.Sure`).  Main statement: where a job can come to an end it is bound to come to the same, but for
the time (`sure_of_ends`).
-/

namespace CatalogImport

open CatalogImport.Calendar

/-! ## Belongings -/

/-- What a job has to itself. -/
structure Belongings (σ : Type) where
  store : σ
  checkpoint : Option Checkpoint
  /-- What the job has logged. -/
  log : List Event

/-- Belongings are the same but for the time. -/
structure Belongings.Alike {σ : Type} (b b' : Belongings σ) : Prop where
  store : b.store = b'.store
  checkpoint : b.checkpoint.map (·.timeless) = b'.checkpoint.map (·.timeless)
  log : b.log.map (·.timeless) = b'.log.map (·.timeless)

theorem Belongings.Alike.rfl {σ : Type} {b : Belongings σ} : b.Alike b := ⟨.refl _, .refl _, .refl _⟩

theorem Belongings.Alike.symm {σ : Type} {b b' : Belongings σ} (h : b.Alike b') : b'.Alike b :=
  ⟨h.store.symm, h.checkpoint.symm, h.log.symm⟩

/-- Of checkpoints that are the same but for the time, the same are left. -/
theorem Checkpoint.timeless_over {c c' : Checkpoint} {old old' : Option Checkpoint}
    (hc : c.timeless = c'.timeless) (hold : old.map (·.timeless) = old'.map (·.timeless)) :
    (c.over old).timeless = (c'.over old').timeless := by
  cases old with
  | none =>
    cases old' with
    | none => exact hc
    | some d' => cases hold
  | some d =>
    cases old' with
    | none => cases hold
    | some d' =>
      have hd : d.timeless = d'.timeless := Option.some.inj hold
      have hbatch : c.timeless.lastBatch = c'.timeless.lastBatch := congrArg _ hc
      have hbatch' : d.timeless.lastBatch = d'.timeless.lastBatch := congrArg _ hd
      change (if c.timeless.lastBatch < d.timeless.lastBatch then d else c).timeless =
        (if c'.timeless.lastBatch < d'.timeless.lastBatch then d' else c').timeless
      rw [hbatch, hbatch']
      split
      · exact hd
      · exact hc

/-- What is asked of the journal is about a certain run. -/
def Request.Minds (runId : Option String) : Request → Prop
  | .append e => runId = some e.runId
  | .loadCheckpoint r => runId = some r
  | .saveCheckpoint c => runId = some c.runId
  | _ => True

theorem Request.minds_of_isAside {runId : Option String} {q : Request} (hq : q.isAside = true) :
    q.Minds runId := by
  cases q <;> trivial

namespace Party

variable {σ : Type} (p : Party σ)

/-- What may be answered to a job with some belongings, and what these are then. -/
inductive Grants (b : Belongings σ) : (q : Request) → q.Answer → Belongings σ → Prop
  | answer {q : Request} {x : q.Answer} {s : σ} (h : p.Answers b.store q x s) :
      Grants b q x { b with store := s }
  | log (e : Event) : Grants b (.append e) (.ok ()) { b with log := b.log ++ [e] }
  | load (runId : String) : Grants b (.loadCheckpoint runId) (.ok b.checkpoint) b
  | save (c : Checkpoint) :
      Grants b (.saveCheckpoint c) (.ok ()) { b with checkpoint := some (c.over b.checkpoint) }
  | keepBatch (kind : RecordKind) (batch : FailedBatch) (result : Except FileError String) :
      Grants b (.keepBatch kind batch) (some result) b
  | keepRecords (kind : RecordKind) (entries : List FailedEntry) (result : Except FileError String) :
      Grants b (.keepRecords kind entries) result b

/-- A program may come to an end. -/
inductive Ends : Task Outcome → Belongings σ → Outcome → Belongings σ → Prop
  | done (outcome : Outcome) (b : Belongings σ) : Ends (.done outcome) b outcome b
  | ask {q : Request} {next : q.Answer → Task Outcome} {x : q.Answer} {b b₁ b' : Belongings σ}
      {outcome : Outcome} (hx : p.Grants b q x b₁) (h : Ends (next x) b₁ outcome b') :
      Ends (.ask q next) b outcome b'

/-- A program never waits for an answer in vain, and whatever it is answered, it ends as it should. -/
def Sure (Q : Outcome → Belongings σ → Prop) : Task Outcome → Belongings σ → Prop
  | .done outcome, b => Q outcome b
  | .ask q next, b => (∃ x b', p.Grants b q x b') ∧ ∀ x b', p.Grants b q x b' → Sure Q (next x) b'

/-- The job has been started with some belongings and has come so far. -/
inductive Leads (b₀ : Belongings σ) : Task Outcome → Belongings σ → Prop
  | start : Leads b₀ p.task b₀
  | ask {q : Request} {next : q.Answer → Task Outcome} {x : q.Answer} {b b' : Belongings σ}
      (h : Leads b₀ (.ask q next) b) (hx : p.Grants b q x b') : Leads b₀ (next x) b'

variable {p}

theorem Leads.ends {b₀ b b' : Belongings σ} {task : Task Outcome} {outcome : Outcome}
    (h : p.Leads b₀ task b) (hend : p.Ends task b outcome b') : p.Ends p.task b₀ outcome b' := by
  induction h with
  | start => exact hend
  | ask h hx ih => exact ih (.ask hx hend)

theorem Leads.sure {Q : Outcome → Belongings σ → Prop} {b₀ b : Belongings σ} {task : Task Outcome}
    (h : p.Leads b₀ task b) (hsure : p.Sure Q p.task b₀) : p.Sure Q task b := by
  induction h with
  | start => exact hsure
  | ask h hx ih => exact ih.2 _ _ hx

/-! ## Asking aside -/

section

variable {q : Request} {x : q.Answer} {b b' : Belongings σ}

/-- What is asked aside leaves the belongings as they are, and nothing is cancelled. -/
theorem Grants.of_isAside (h : p.Grants b q x b') (hq : q.isAside = true) :
    b' = b ∧ isCancellation ⟨q, x⟩ = false := by
  cases h with
  | answer h =>
    cases h with
    | openDocument => cases hq
    | addMany h => cases hq
    | _ => exact ⟨rfl, rfl⟩
  | log e => cases hq
  | load runId => cases hq
  | save c => cases hq
  | keepBatch kind batch result => exact ⟨rfl, rfl⟩
  | keepRecords kind entries result => exact ⟨rfl, rfl⟩

/-- What is asked aside is answered. -/
theorem exists_grants_of_isAside (p : Party σ) (b : Belongings σ) (hq : q.isAside = true) :
    ∃ x, p.Grants b q x b := by
  cases q with
  | now => exact ⟨_, .answer (.now .epoch)⟩
  | freshId => exact ⟨_, .answer (.freshId "")⟩
  | enter phase => exact ⟨_, .answer (.enter phase)⟩
  | notice n => exact ⟨_, .answer (.notice n)⟩
  | isCancelled => exact ⟨_, .answer .isCancelled⟩
  | pause millis => exact ⟨_, .answer (.pause millis)⟩
  | progress statistics => exact ⟨_, .answer (.progress statistics)⟩
  | keepBatch kind batch => exact ⟨_, .keepBatch kind batch (.error .notFound)⟩
  | keepRecords kind entries => exact ⟨_, .keepRecords kind entries (.error .notFound)⟩
  | openDocument => cases hq
  | addMany records => cases hq
  | append e => cases hq
  | loadCheckpoint runId => cases hq
  | saveCheckpoint c => cases hq

end

/-! ## Bound to come to the same -/

/-- Of two programs in step with like belongings, where the one can come to an end the other is bound to come
to the same. -/
theorem sure_of_ends {runId : Option String} {S : Outcome → Outcome → Prop} {task task' : Task Outcome}
    {b b₁ b' : Belongings σ} {outcome : Outcome} (hstep : InStep runId S task task')
    (hend : p.Ends task b outcome b₁) (hb : b.Alike b') :
    p.Sure (fun outcome' b₁' => S outcome outcome' ∧ b₁.Alike b₁') task' b' := by
  induction hstep generalizing b b' with
  | done h =>
    cases hend
    exact ⟨h, hb⟩
  | left hq _ ih =>
    cases hend with
    | ask hx hend =>
      obtain ⟨rfl, hcancelled⟩ := hx.of_isAside hq
      exact ih _ hcancelled hend hb
  | right hq _ ih =>
    obtain ⟨x, hx⟩ := exists_grants_of_isAside p b' hq
    refine ⟨⟨x, b', hx⟩, fun x b₂ hx => ?_⟩
    obtain ⟨rfl, hcancelled⟩ := hx.of_isAside hq
    exact ih x hcancelled hend hb
  | opened _ ih =>
    cases hend with
    | ask hx hend =>
      cases hx with
      | answer h =>
        cases h
        refine ⟨⟨_, _, .answer .openDocument⟩, fun x b₂ hx => ?_⟩
        cases hx with
        | answer h =>
          cases h
          exact ih _ hend hb
  | offered _ ih =>
    cases hend with
    | ask hx hend =>
      cases hx with
      | answer h =>
        cases h with
        | addMany hserve =>
          rw [hb.store] at hserve
          refine ⟨⟨_, _, .answer (.addMany hserve)⟩, fun x b₂ hx => ?_⟩
          cases hx with
          | answer h =>
            cases h with
            | addMany hserve' =>
              rw [hserve] at hserve'
              cases hserve'
              exact ih _ hend ⟨rfl, hb.checkpoint, hb.log⟩
  | logged hrun _ ih =>
    cases hend with
    | ask hx hend =>
      cases hx with
      | answer h => cases h
      | log e =>
        refine ⟨⟨_, _, .log _⟩, fun x b₂ hx => ?_⟩
        cases hx with
        | answer h => cases h
        | log e' =>
          refine ih hend ⟨hb.store, hb.checkpoint, ?_⟩
          rw [List.map_append, List.map_append, hb.log]
          rfl
  | loaded hrun _ ih =>
    cases hend with
    | ask hx hend =>
      cases hx with
      | answer h => cases h
      | load =>
        refine ⟨⟨_, _, .load _⟩, fun x b₂ hx => ?_⟩
        cases hx with
        | answer h => cases h
        | load => exact ih _ _ hb.checkpoint hend hb
  | saved hrun hc _ ih =>
    cases hend with
    | ask hx hend =>
      cases hx with
      | answer h => cases h
      | save c =>
        refine ⟨⟨_, _, .save _⟩, fun x b₂ hx => ?_⟩
        cases hx with
        | answer h => cases h
        | save c' =>
          exact ih hend ⟨hb.store, congrArg some (Checkpoint.timeless_over hc hb.checkpoint), hb.log⟩

/-! ## Minding its own -/

/-- A program that is in step with some other one goes on so. -/
theorem exists_inStep_of_grants {runId : Option String} {S : Outcome → Outcome → Prop} {q : Request}
    {next : q.Answer → Task Outcome} {task' : Task Outcome} {x : q.Answer} {b b' : Belongings σ}
    (hstep : InStep runId S (.ask q next) task') (hx : p.Grants b q x b') :
    ∃ task'', InStep runId S (next x) task'' := by
  generalize htask : (Program.ask q next : Task Outcome) = task at hstep
  induction hstep with
  | done h => cases htask
  | left hq h _ =>
    cases htask
    exact ⟨_, h x (hx.of_isAside hq).2⟩
  | right hq _ ih =>
    obtain ⟨y, hy⟩ := exists_grants_of_isAside p b hq
    exact ih y (hy.of_isAside hq).2 htask
  | opened h _ =>
    cases htask
    exact ⟨_, h x⟩
  | offered h _ =>
    cases htask
    cases hx with
    | answer hx =>
      cases hx with
      | addMany hserve => exact ⟨_, h _⟩
  | logged hrun h _ =>
    cases htask
    cases hx with
    | answer hx => cases hx
    | log e => exact ⟨_, h⟩
  | loaded hrun h _ =>
    cases htask
    cases hx with
    | answer hx => cases hx
    | load r => exact ⟨_, h _ _ rfl⟩
  | saved hrun hc h _ =>
    cases htask
    cases hx with
    | answer hx => cases hx
    | save c => exact ⟨_, h⟩

/-- What a program in step asks of the journal is about its own run. -/
theorem minds_of_inStep {runId : Option String} {S : Outcome → Outcome → Prop} {q : Request}
    {next : q.Answer → Task Outcome} {task' : Task Outcome} (p : Party σ) (b : Belongings σ)
    (hstep : InStep runId S (.ask q next) task') : q.Minds runId := by
  generalize htask : (Program.ask q next : Task Outcome) = task at hstep
  induction hstep with
  | done h => cases htask
  | left hq _ _ =>
    cases htask
    exact Request.minds_of_isAside hq
  | right hq _ ih =>
    obtain ⟨y, hy⟩ := exists_grants_of_isAside p b hq
    exact ih y (hy.of_isAside hq).2 htask
  | opened _ _ =>
    cases htask
    trivial
  | offered _ _ =>
    cases htask
    trivial
  | logged hrun _ _ =>
    cases htask
    exact hrun
  | loaded hrun _ _ =>
    cases htask
    exact hrun
  | saved hrun _ _ _ =>
    cases htask
    exact hrun

/-- A job is the same whenever it is run, but for the time. -/
def IsSteady (p : Party σ) : Prop := InStep p.runId OutcomesAlike p.task p.task

theorem Leads.exists_inStep {b₀ b : Belongings σ} {task : Task Outcome} (h : p.Leads b₀ task b)
    (hp : p.IsSteady) : ∃ task', InStep p.runId OutcomesAlike task task' := by
  induction h with
  | start => exact ⟨_, hp⟩
  | ask h hx ih =>
    obtain ⟨task', hstep⟩ := ih
    exact exists_inStep_of_grants hstep hx

/-- However far a job has come, what it asks of the journal is about its own run. -/
theorem Leads.minds {b₀ b : Belongings σ} {q : Request} {next : q.Answer → Task Outcome}
    (h : p.Leads b₀ (.ask q next) b) (hp : p.IsSteady) : q.Minds p.runId := by
  obtain ⟨task', hstep⟩ := h.exists_inStep hp
  exact minds_of_inStep p b hstep

end Party

end CatalogImport
