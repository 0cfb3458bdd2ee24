import CatalogImport.Proofs.Import.JobDeterminism
import Mathlib.Logic.Hydra

/-!
# Jobs that do not meddle

Each desk on a floor is `Accounted` for by belongings that its job comes to by itself, and so it stays, whoever
moves: a move at another desk changes the common journal only as the other's run may (`Desk.Step.change`), which
has no bearing on these belongings (`Desk.Accounted.of_change`), and a move at the desk itself is answered from
them (`Desk.Accounted.of_step`).  Main statements: this holds however the desks have moved (`Floor.Sound`,
`Floor.sound_of_runs`), a desk that cannot move has ended, waits for its own store or has no number left for a
file (`Desk.canMove_or`), and the desks come to rest (`Floor.acc_moves`).
-/

namespace CatalogImport

variable {σ : Type}

/-- Neither job's log shows the events of the other. -/
def Party.Apart (p p' : Party σ) : Prop :=
  ∀ runId runId', p.runId = some runId → p'.runId = some runId' →
    ¬ Journal.Shows runId runId' ∧ ¬ Journal.Shows runId' runId

theorem Party.Apart.symm {p p' : Party σ} (h : p.Apart p') : p'.Apart p :=
  fun runId runId' hrun hrun' => (h runId' runId hrun' hrun).symm

theorem Party.Apart.ne {p p' : Party σ} (h : p.Apart p') {runId : String} (hrun : p'.runId = some runId) :
    p.runId ≠ some runId :=
  fun hsame => (h runId runId hsame hrun).1 (.inl rfl)

/-- The checkpoint of a run, if it has one that can be read. -/
def Journal.checkpointOf (j : Journal) (runId : Option String) : Option Checkpoint :=
  runId.bind fun runId => (j.loadCheckpoint runId).toOption.join

/-- What a job has to itself when it begins. -/
def Party.belongings (p : Party σ) (j : Journal) : Belongings σ := ⟨p.store, j.checkpointOf p.runId, []⟩

theorem Journal.Keyed.loadCheckpoint_eq {j : Journal} (h : j.Keyed) (runId : String) :
    j.loadCheckpoint runId = .ok (j.checkpointOf (some runId)) := by
  obtain ⟨c, hc⟩ := h.exists_loadCheckpoint runId
  unfold checkpointOf
  rw [Option.bind_some, hc]
  rfl

/-- What is asked of the files is answered, but for a number when none is left. -/
theorem FileTree.exists_handler (q : FileRequest) (t : FileTree) :
    q = .numberOverflow ∨ ∃ x t', FileTree.handler q t = (.answer x, t') := by
  cases q with
  | createFolders path =>
    cases hmade : t.createFolders path with
    | ok t' => exact .inr ⟨.ok (), t', by rw [handler, hmade]⟩
    | error e => exact .inr ⟨.error e, t, by rw [handler, hmade]⟩
  | createNew path text =>
    cases hmade : t.createNew path text with
    | ok t' => exact .inr ⟨.ok (), t', by rw [handler, hmade]⟩
    | error e => exact .inr ⟨.error e, t, by rw [handler, hmade]⟩
  | numberOverflow => exact .inl rfl

namespace Desk

variable {c c' : Common} {d d' : Desk σ}

/-! ## Moves -/

theorem Step.party_eq (h : Step c d c' d') : d'.party = d.party := by
  cases h <;> rfl

/-- A desk is accounted for by its job's belongings and by the numbers that others have got, since the journal
was as it was at first. -/
structure Accounted (j₀ j : Journal) (d : Desk σ) (b : Belongings σ) (others : Nat) : Prop where
  leads : d.party.Leads (d.party.belongings j₀) d.doing.task b
  store : d.store = b.store
  checkpoint : ∀ runId, d.party.runId = some runId → j.loadCheckpoint runId = .ok b.checkpoint
  log : ∀ runId, d.party.runId = some runId → j.next ≤ 2 ^ 64 →
    Journal.ownEvents runId j.allEvents = Journal.ownEvents runId j₀.allEvents ++ b.log
  given : ∀ n e next, d.doing = .logging n e next → n < j.next
  room : ∀ n e next, d.doing = .logging n e next → j.next ≤ 2 ^ 64 → j.HasRoom e.runId n
  numbers : j.next = j₀.next + b.log.length + d.doing.numbers + others

/-- A move at a desk changes the journal only as the job's run may. -/
theorem Step.change {j₀ : Journal} {b : Belongings σ} {others : Nat} (h : Step c d c' d')
    (hd : Accounted j₀ c.journal d b others) (hsteady : d.party.IsSteady) :
    Journal.Change d.party.runId c.journal c'.journal := by
  cases h with
  | number => exact .number _
  | log => exact .event (hd.leads.minds hsteady) (hd.given _ _ _ rfl)
  | save hsave => exact .checkpoint (hd.leads.minds hsteady) hsave
  | _ => exact .nothing _

/-- What others change has no bearing on a desk. -/
theorem Accounted.of_change {j₀ j j' : Journal} {b : Belongings σ} {others : Nat} {runId : Option String}
    (hd : Accounted j₀ j d b others) (hsteady : d.party.IsSteady) (h : Journal.Change runId j j')
    (hkeyed : j.Keyed) (hother : ∀ own, d.party.runId = some own → runId ≠ some own) :
    ∃ others', Accounted j₀ j' d b others' := by
  have hle := h.next_le
  refine ⟨others + (j'.next - j.next), hd.leads, hd.store, ?_, ?_, ?_, ?_, ?_⟩
  · intro own hown
    rw [h.loadCheckpoint_eq (hother own hown)]
    exact hd.checkpoint own hown
  · intro own hown hnext
    have hbefore : j.next ≤ 2 ^ 64 := Nat.le_trans hle hnext
    rw [h.ownEvents_eq hkeyed hbefore (hother own hown)]
    exact hd.log own hown hbefore
  · intro n e next hdoing
    exact Nat.lt_of_lt_of_le (hd.given n e next hdoing) hle
  · intro n e next hdoing hnext
    have hleads := hd.leads
    rw [hdoing] at hleads
    exact h.hasRoom (hother _ (hleads.minds hsteady)) (hd.room n e next hdoing (Nat.le_trans hle hnext))
  · have hnumbers := hd.numbers
    omega

/-- A desk at which nothing is being logged, where the journal is as before for its job. -/
theorem Accounted.answered {j₀ j : Journal} {p : Party σ} {s s' : σ} {q : Request}
    {next : q.Answer → Task Outcome} {x : q.Answer} {b b' : Belongings σ} {others : Nat} {doing : Doing}
    (hd : Accounted j₀ j ⟨p, s, doing⟩ b others) (htask : doing.task = .ask q next)
    (hdoing : doing.numbers = 0) (hx : p.Grants b q x b') (hstore : s' = b'.store)
    (hcheckpoint : b'.checkpoint = b.checkpoint) (hlog : b'.log = b.log) :
    Accounted j₀ j ⟨p, s', .free (next x)⟩ b' others where
  leads := by
    have hleads : p.Leads (p.belongings j₀) doing.task b := hd.leads
    rw [htask] at hleads
    exact hleads.ask hx
  store := hstore
  checkpoint := by
    rw [hcheckpoint]
    exact hd.checkpoint
  log := by
    rw [hlog]
    exact hd.log
  given := fun n e next h => by cases h
  room := fun n e next h => by cases h
  numbers := by
    have hnumbers : j.next = j₀.next + b.log.length + doing.numbers + others := hd.numbers
    rw [hlog]
    change j.next = j₀.next + b.log.length + 0 + others
    omega

/-- A desk at which the job has got no further, and nothing is being logged. -/
theorem Accounted.delayed {j₀ j : Journal} {p : Party σ} {s : σ} {b : Belongings σ} {others : Nat}
    {doing doing' : Doing} (hd : Accounted j₀ j ⟨p, s, doing⟩ b others) (htask : doing'.task = doing.task)
    (hdoing : doing.numbers = 0) (hdoing' : ∀ n e next, doing' ≠ .logging n e next) :
    Accounted j₀ j ⟨p, s, doing'⟩ b others where
  leads := by
    have hleads : p.Leads (p.belongings j₀) doing.task b := hd.leads
    rw [← htask] at hleads
    exact hleads
  store := hd.store
  checkpoint := hd.checkpoint
  log := hd.log
  given := fun n e next h => absurd h (hdoing' n e next)
  room := fun n e next h => absurd h (hdoing' n e next)
  numbers := by
    have hnumbers : j.next = j₀.next + b.log.length + doing.numbers + others := hd.numbers
    have hnone : doing'.numbers = 0 := by
      cases doing' with
      | logging n e next => exact absurd rfl (hdoing' n e next)
      | _ => rfl
    change j.next = j₀.next + b.log.length + doing'.numbers + others
    omega

section

variable {j₀ j : Journal} {p : Party σ} {s : σ} {b : Belongings σ} {others : Nat}

/-- A number is given out for an event. -/
theorem Accounted.number {e : Event} {next : Except JournalError Unit → Task Outcome}
    (hd : Accounted j₀ j ⟨p, s, .free (.ask (.append e) next)⟩ b others) (hkeyed : j.Keyed) :
    Accounted j₀ j.takeNumber ⟨p, s, .logging j.next e next⟩ b others where
  leads := hd.leads
  store := hd.store
  checkpoint := hd.checkpoint
  log := fun runId hrun hnext => hd.log runId hrun (Nat.le_of_succ_le hnext)
  given := fun n _ _ hdoing => by
    cases hdoing
    exact Nat.lt_succ_self _
  room := fun n _ _ hdoing hnext => by
    cases hdoing
    have hlt : j.next + 1 ≤ 2 ^ 64 := hnext
    exact hkeyed.hasRoom (by omega) _
  numbers := by
    have hnumbers : j.next = j₀.next + b.log.length + 0 + others := hd.numbers
    change j.next + 1 = j₀.next + b.log.length + 1 + others
    omega

/-- An event is written under its number. -/
theorem Accounted.written {n : Nat} {e : Event} {next : Except JournalError Unit → Task Outcome}
    (hd : Accounted j₀ j ⟨p, s, .logging n e next⟩ b others) (hsteady : p.IsSteady) :
    Accounted j₀ (j.putEvent n e) ⟨p, s, .free (next (.ok ()))⟩ { b with log := b.log ++ [e] } others where
  leads := hd.leads.ask (.log e)
  store := hd.store
  checkpoint := fun runId hrun => by
    rw [Journal.loadCheckpoint_putEvent]
    exact hd.checkpoint runId hrun
  log := fun runId hrun hnext => by
    have hown : p.runId = some e.runId := hd.leads.minds hsteady
    obtain rfl : e.runId = runId := Option.some.inj (hown.symm.trans hrun)
    have hbefore := hd.log e.runId hrun hnext
    rw [(hd.room n e next rfl hnext).own_allEvents_putEvent, hbefore, List.append_assoc]
  given := fun n e next h => by cases h
  room := fun n e next h => by cases h
  numbers := by
    have hnumbers : j.next = j₀.next + b.log.length + 1 + others := hd.numbers
    change j.next = j₀.next + (b.log ++ [e]).length + 0 + others
    rw [List.length_append, List.length_singleton]
    omega

/-- The checkpoint is moved. -/
theorem Accounted.saved {j' : Journal} {x : Checkpoint} {next : Except JournalError Unit → Task Outcome}
    (hd : Accounted j₀ j ⟨p, s, .free (.ask (.saveCheckpoint x) next)⟩ b others) (hsteady : p.IsSteady)
    (hkeyed : j.Keyed) (hsave : j.saveCheckpoint x = .ok j') :
    Accounted j₀ j' ⟨p, s, .free (next (.ok ()))⟩ { b with checkpoint := some (x.over b.checkpoint) }
      others := by
  have hown : p.runId = some x.runId := hd.leads.minds hsteady
  have hnext : j'.next = j.next := by
    rcases Journal.eq_or_eq_of_saveCheckpoint hsave with rfl | rfl
    · rfl
    · rfl
  refine ⟨hd.leads.ask (.save x), hd.store, fun runId hrun => ?_, fun runId hrun hle => ?_,
    fun n e next h => by (cases h), fun n e next h => by (cases h), ?_⟩
  · obtain rfl : x.runId = runId := Option.some.inj (hown.symm.trans hrun)
    exact Journal.loadCheckpoint_saveCheckpoint hsave (hd.checkpoint x.runId hrun)
  · rw [hkeyed.allEvents_saveCheckpoint hsave]
    exact hd.log runId hrun (hnext ▸ hle)
  · rw [hnext]
    exact hd.numbers

end

/-- After a move at a desk, it is accounted for by what its job comes to by itself. -/
theorem Accounted.of_step {j₀ : Journal} {b : Belongings σ} {others : Nat}
    (hd : Accounted j₀ c.journal d b others) (hsteady : d.party.IsSteady) (hkeyed : c.journal.Keyed)
    (h : Step c d c' d') : ∃ b', Accounted j₀ c'.journal d' b' others := by
  cases h with
  | @answer _ p s s' q next x h =>
    obtain rfl : s = b.store := hd.store
    exact ⟨_, hd.answered rfl rfl (.answer h) rfl rfl rfl⟩
  | number => exact ⟨b, hd.number hkeyed⟩
  | log => exact ⟨_, hd.written hsteady⟩
  | @load j files p s runId next =>
    have hown : p.runId = some runId := hd.leads.minds hsteady
    have hload : j.loadCheckpoint runId = .ok b.checkpoint := hd.checkpoint runId hown
    rw [hload]
    exact ⟨_, hd.answered rfl rfl (.load runId) hd.store rfl rfl⟩
  | save hsave => exact ⟨_, hd.saved hsteady hkeyed hsave⟩
  | refuse hsave =>
    obtain ⟨j', hsaved⟩ := hkeyed.exists_saveCheckpoint _
    rw [hsaved] at hsave
    cases hsave
  | keep moment h => exact ⟨b, hd.delayed h.symm rfl fun n e next hdoing => by cases hdoing⟩
  | file h => exact ⟨b, hd.delayed rfl rfl fun n e next hdoing => by cases hdoing⟩
  | @kept _ p s k result =>
    cases k with
    | batch kind batch next =>
      exact ⟨_, hd.answered rfl rfl (.keepBatch kind batch result) hd.store rfl rfl⟩
    | records kind entries next =>
      exact ⟨_, hd.answered rfl rfl (.keepRecords kind entries result) hd.store rfl rfl⟩

/-! ## Desks that cannot move -/

/-- A job that has not ended goes on, unless there is no number left for its file or it waits for a store that
never answers it. -/
theorem canMove_or (c : Common) (d : Desk σ) :
    d.CanMove c ∨ (∃ outcome, d.doing = .free (.done outcome)) ∨ d.OutOfNumbers ∨
      ∃ records next, d.doing = .free (.ask (.addMany records) next) ∧
        d.party.serve records d.store = none := by
  obtain ⟨p, s, doing⟩ := d
  obtain ⟨j, files⟩ := c
  cases doing with
  | logging n e next => exact .inl ⟨_, _, .log⟩
  | keeping k file =>
    cases file with
    | done result => exact .inl ⟨_, _, .kept⟩
    | ask q next =>
      rcases FileTree.exists_handler q files with rfl | ⟨x, files', hx⟩
      · exact .inr (.inr (.inl ⟨k, next, rfl⟩))
      · exact .inl ⟨_, _, .file hx⟩
  | free task =>
    cases task with
    | done outcome => exact .inr (.inl ⟨outcome, rfl⟩)
    | ask q next =>
      cases q with
      | now => exact .inl ⟨_, _, .answer (.now .epoch)⟩
      | freshId => exact .inl ⟨_, _, .answer (.freshId "")⟩
      | enter phase => exact .inl ⟨_, _, .answer (.enter phase)⟩
      | notice n => exact .inl ⟨_, _, .answer (.notice n)⟩
      | isCancelled => exact .inl ⟨_, _, .answer .isCancelled⟩
      | openDocument => exact .inl ⟨_, _, .answer .openDocument⟩
      | pause millis => exact .inl ⟨_, _, .answer (.pause millis)⟩
      | progress statistics => exact .inl ⟨_, _, .answer (.progress statistics)⟩
      | append e => exact .inl ⟨_, _, .number⟩
      | loadCheckpoint runId => exact .inl ⟨_, _, .load⟩
      | keepBatch kind batch => exact .inl ⟨_, _, .keep (k := .batch kind batch next) .epoch rfl⟩
      | keepRecords kind entries => exact .inl ⟨_, _, .keep (k := .records kind entries next) .epoch rfl⟩
      | addMany records =>
        cases hserve : p.serve records s with
        | none => exact .inr (.inr (.inr ⟨records, next, rfl, hserve⟩))
        | some served => exact .inl ⟨_, _, .answer (.addMany hserve)⟩
      | saveCheckpoint x =>
        cases hsave : j.saveCheckpoint x with
        | ok j' => exact .inl ⟨_, _, .save hsave⟩
        | error e => exact .inl ⟨_, _, .refuse hsave⟩

/-- A job that is bound to come to an end goes on until it has come to one, or there is no number left. -/
theorem canMove_or_of_sure {b : Belongings σ} {Q : Outcome → Belongings σ → Prop}
    (hsure : d.party.Sure Q d.doing.task b) (hstore : d.store = b.store) :
    d.CanMove c ∨ d.OutOfNumbers ∨ ∃ outcome, d.doing = .free (.done outcome) ∧ Q outcome b := by
  rcases d.canMove_or c with hmove | ⟨outcome, hdoing⟩ | hout | ⟨records, next, hdoing, hserve⟩
  · exact .inl hmove
  · rw [hdoing] at hsure
    exact .inr (.inr ⟨outcome, hdoing, hsure⟩)
  · exact .inr (.inl hout)
  · rw [hdoing] at hsure
    obtain ⟨⟨x, b', hx⟩, -⟩ := hsure
    cases hx with
    | answer h =>
      cases h with
      | addMany h =>
        rw [← hstore, hserve] at h
        cases h

/-! ## Coming to rest -/

/-- At a desk of some kind something is being done after something else. -/
def Follows (σ : Type) (doing' doing : Doing) : Prop :=
  ∃ (c c' : Common) (p : Party σ) (s s' : σ), Step c ⟨p, s, doing⟩ c' ⟨p, s', doing'⟩

/-- A desk at which a file is written comes to rest if it does once the file has been written. -/
theorem acc_keeping {k : Keeping} (h : ∀ result, Acc (Follows σ) (.free (k.resume result)))
    (file : FileTask (Except FileError String)) : Acc (Follows σ) (.keeping k file) := by
  induction file with
  | done result =>
    refine ⟨_, ?_⟩
    rintro doing ⟨c, c', p, s, s', hstep⟩
    cases hstep
    exact h result
  | ask q next ih =>
    refine ⟨_, ?_⟩
    rintro doing ⟨c, c', p, s, s', hstep⟩
    cases hstep
    exact ih _

/-- A desk comes to rest, as its job does not ask for ever. -/
theorem acc_free (task : Task Outcome) : Acc (Follows σ) (.free task) := by
  induction task with
  | done outcome =>
    refine ⟨_, ?_⟩
    rintro doing ⟨c, c', p, s, s', hstep⟩
    cases hstep with
    | @keep _ _ _ _ k moment h => cases k <;> cases h
  | ask q next ih =>
    refine ⟨_, ?_⟩
    rintro doing ⟨c, c', p, s, s', hstep⟩
    cases hstep with
    | answer h => exact ih _
    | load => exact ih _
    | save h => exact ih _
    | refuse h => exact ih _
    | number =>
      refine ⟨_, ?_⟩
      rintro doing ⟨c, c', p, s, s', hstep⟩
      cases hstep
      exact ih _
    | @keep _ _ _ _ k moment h =>
      refine acc_keeping (fun result => ?_) _
      cases k with
      | batch kind batch next =>
        cases h
        exact ih _
      | records kind entries next =>
        cases h
        exact ih _

theorem wellFounded_follows : WellFounded (Follows σ) := by
  refine ⟨fun doing => ?_⟩
  cases doing with
  | free task => exact acc_free task
  | keeping k file => exact acc_keeping (fun result => acc_free _) file
  | logging n e next =>
    refine ⟨_, ?_⟩
    rintro doing ⟨c, c', p, s, s', hstep⟩
    cases hstep
    exact acc_free _

end Desk

namespace Floor

variable {f g : Floor σ} {parties : List (Party σ)} {c : Common} {j₀ : Journal}

/-- The desks do not move for ever, in whatever order they do. -/
theorem acc_moves (f : Floor σ) : Acc (fun g f => Moves f g) f := by
  have hcut : WellFounded (Relation.CutExpand (Desk.Follows σ)) := Desk.wellFounded_follows.cutExpand
  refine Subrelation.accessible (fun {g f} hmove => ?_)
    ((InvImage.wf (fun f : Floor σ => (↑(f.desks.map (·.doing)) : Multiset Doing)) hcut).apply f)
  cases hmove with
  | @step c c' before after d d' hstep =>
    obtain ⟨p, s, doing⟩ := d
    obtain ⟨p', s', doing'⟩ := d'
    obtain rfl : p' = p := hstep.party_eq
    have hfollows : Desk.Follows σ doing' doing := ⟨c, c', p', s, s', hstep⟩
    have hswap (x : Doing) : (↑(before.map (·.doing) ++ x :: after.map (·.doing)) : Multiset Doing) =
        {x} + ↑(before.map (·.doing) ++ after.map (·.doing)) :=
      Multiset.coe_eq_coe.2 List.perm_middle
    simp only [InvImage, List.map_append, List.map_cons]
    rw [hswap, hswap]
    exact Relation.cutExpand_single_add hfollows _

theorem Runs.head {g' : Floor σ} (hmove : Moves f g) (h : Runs g g') : Runs f g' := by
  induction h with
  | refl => exact .tail .refl hmove
  | tail _ hlast ih => exact .tail ih hlast

/-- From every floor the desks come to one at which none of them can move. -/
theorem exists_rest (f : Floor σ) : ∃ g, f.Runs g ∧ ∀ d ∈ g.desks, ¬ d.CanMove g.common := by
  have hacc := acc_moves f
  induction hacc with
  | intro f _ ih =>
    by_cases hmoves : ∃ g, Moves f g
    · obtain ⟨g, hmove⟩ := hmoves
      obtain ⟨rest, hrun, hrest⟩ := ih g hmove
      exact ⟨rest, hrun.head hmove, hrest⟩
    · refine ⟨f, .refl, fun d hd hcan => hmoves ?_⟩
      obtain ⟨c', d', hstep⟩ := hcan
      obtain ⟨common, desks⟩ := f
      obtain ⟨before, after, rfl⟩ := List.append_of_mem hd
      exact ⟨_, .step hstep⟩

/-! ## However the desks move -/

/-- Every desk is accounted for, and the journal holds nothing but what it held at first and what the jobs have
logged.  A job that is alone on the floor has got all numbers. -/
structure Sound (parties : List (Party σ)) (j₀ : Journal) (f : Floor σ) : Prop where
  order : f.desks.map (·.party) = parties
  keyed : f.common.journal.Keyed
  accounted : ∀ d ∈ f.desks, ∃ b others, d.Accounted j₀ f.common.journal b others ∧
    (parties.length ≤ 1 → others = 0)
  events : ∀ e ∈ f.common.journal.allEvents, e ∈ j₀.allEvents ∨
    ∃ p ∈ parties, p.runId = some e.runId

theorem sound_start (hkeyed : c.journal.Keyed) : Sound parties c.journal (.start parties c) where
  order := by
    unfold start
    rw [List.map_map]
    exact List.map_id parties
  keyed := hkeyed
  accounted := by
    intro d hd
    obtain ⟨p, hp, rfl⟩ := List.mem_map.1 hd
    refine ⟨p.belongings c.journal, 0, ⟨.start, rfl, fun runId hrun => ?_, fun runId hrun _ => ?_,
      fun n e next h => by (cases h), fun n e next h => by (cases h), rfl⟩, fun _ => rfl⟩
    · change c.journal.loadCheckpoint runId = .ok (c.journal.checkpointOf p.runId)
      rw [show p.runId = some runId from hrun]
      exact hkeyed.loadCheckpoint_eq runId
    · exact (List.append_nil _).symm
  events := fun e he => .inl he

theorem Sound.of_moves (h : Sound parties j₀ f) (hapart : parties.Pairwise Party.Apart)
    (hsteady : ∀ p ∈ parties, p.IsSteady) (hmove : Moves f g) : Sound parties j₀ g := by
  cases hmove with
  | @step c c' before after d d' hstep =>
    have hparties := h.order
    obtain ⟨b, others, hd, halone⟩ := h.accounted d (List.mem_append_right _ List.mem_cons_self)
    have hmem : ∀ x ∈ before ++ d :: after, x.party ∈ parties := by
      intro x hx
      rw [← hparties]
      exact List.mem_map_of_mem hx
    have hdmem := hmem d (List.mem_append_right _ List.mem_cons_self)
    have hchange := hstep.change hd (hsteady _ hdmem)
    -- a desk at which nothing is done belongs to a job of another run, and is not the only one
    have hothers : ∀ x, x ∈ before ∨ x ∈ after → d.party.Apart x.party ∧ 1 < parties.length := by
      rw [← hparties, List.pairwise_map, List.pairwise_append, List.pairwise_cons] at hapart
      obtain ⟨-, ⟨hafter, -⟩, hbefore⟩ := hapart
      rw [← hparties, List.length_map, List.length_append, List.length_cons]
      rintro x (hx | hx)
      · have := List.length_pos_of_mem hx
        exact ⟨(hbefore x hx d List.mem_cons_self).symm, by omega⟩
      · have := List.length_pos_of_mem hx
        exact ⟨hafter x hx, by omega⟩
    have hframe : ∀ x, x ∈ before ∨ x ∈ after → ∃ b others, x.Accounted j₀ c'.journal b others ∧
        (parties.length ≤ 1 → others = 0) := by
      intro x hx
      have hxmem : x ∈ before ++ d :: after := by
        rcases hx with hx | hx
        · exact List.mem_append_left _ hx
        · exact List.mem_append_right _ (List.mem_cons_of_mem _ hx)
      obtain ⟨hapart, hlength⟩ := hothers x hx
      obtain ⟨b, others, haccounted, -⟩ := h.accounted x hxmem
      obtain ⟨others', haccounted⟩ := haccounted.of_change (hsteady _ (hmem x hxmem)) hchange h.keyed
        fun own hown => hapart.ne hown
      exact ⟨b, others', haccounted, fun hle => absurd hlength (Nat.not_lt.2 hle)⟩
    refine ⟨?_, hchange.keyed h.keyed, ?_, ?_⟩
    · rw [← hparties]
      simp [hstep.party_eq]
    · intro x hx
      rcases List.mem_append.1 hx with hx | hx
      · exact hframe x (.inl hx)
      · rcases List.mem_cons.1 hx with rfl | hx
        · obtain ⟨b', haccounted⟩ := hd.of_step (hsteady _ hdmem) h.keyed hstep
          exact ⟨b', others, haccounted, halone⟩
        · exact hframe x (.inr hx)
    · intro e he
      rcases hchange.mem_allEvents h.keyed he with hbefore | hown
      · exact h.events e hbefore
      · exact .inr ⟨d.party, hdmem, hown⟩

theorem sound_of_runs (hkeyed : c.journal.Keyed) (hapart : parties.Pairwise Party.Apart)
    (hsteady : ∀ p ∈ parties, p.IsSteady) (hrun : (Floor.start parties c).Runs f) :
    Sound parties c.journal f := by
  induction hrun with
  | refl => exact sound_start hkeyed
  | tail _ hmove ih => exact ih.of_moves hapart hsteady hmove

end Floor

end CatalogImport
