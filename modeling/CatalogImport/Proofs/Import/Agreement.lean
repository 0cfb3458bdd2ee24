import CatalogImport.Proofs.Import.EventLog
import CatalogImport.Proofs.Import.Recount

/-!
# Checkpoint and log of a run

When a batch is committed, this is logged first and then the checkpoint is put there: two writes, and in
between the log is ahead.  `Reaches` says at which points of the imports under the id of a run it is not.
Main statement: at all of these the checkpoint says what the log adds up to
(`checkpoint_agrees_with_log`).
-/

namespace CatalogImport

/-! ## Committed batches in logs -/

/-- The number of a committed batch and how many records it has. -/
def Happening.commit? : Happening → Option (Nat × Nat)
  | .committed number records => some (number, records)
  | _ => none

/-- The batches that were committed under the id of a run, by the events of any runs. -/
def commitsOf (runId : String) (es : List Event) : List (Nat × Nat) :=
  (Journal.ownEvents runId es).filterMap (·.happening.commit?)

/-- The batch that an exchange logs to have been committed under the id of a run. -/
def loggedCommit? (runId : String) (e : Exchange) : Option (Nat × Nat) :=
  ((logged? e).filter (·.runId = runId)).bind (·.happening.commit?)

@[simp] theorem commitsOf_append (runId : String) (es fs : List Event) :
    commitsOf runId (es ++ fs) = commitsOf runId es ++ commitsOf runId fs := by
  simp [commitsOf, Journal.ownEvents]

theorem commitsOf_loggedEvents (runId : String) (t : History) :
    commitsOf runId (loggedEvents t) = t.filterMap (loggedCommit? runId) := by
  unfold commitsOf Journal.ownEvents loggedEvents
  rw [List.filter_filterMap, List.filterMap_filterMap]
  rfl

/-- All of them are logged when batches are recorded. -/
theorem commitsOf_recordings (runId : String) (t : History) :
    commitsOf runId (loggedEvents (recordings t)) = commitsOf runId (loggedEvents t) := by
  rw [commitsOf_loggedEvents, commitsOf_loggedEvents]
  refine filterMap_filter_of_none (fun e he => ?_) t
  obtain ⟨q, x⟩ := e
  cases q with
  | append event =>
    obtain ⟨other, happening, moment⟩ := event
    cases happening with
    | committed number records => cases he
    | _ => cases x <;> simp [loggedCommit?, logged?, Happening.commit?]
  | _ => rfl

/-- Events of other runs commit nothing under the id of the run. -/
theorem commitsOf_of_ne {runId : String} {es : List Event} (h : ∀ e ∈ es, e.runId ≠ runId) :
    commitsOf runId es = [] := by
  unfold commitsOf Journal.ownEvents
  rw [List.filter_eq_nil_iff.2 fun e he => by simpa using h e he, List.filterMap_nil]

theorem commitsOf_of_timeless {R : Type} {runId : String} {es : List Event} {bs : List (Batch R)}
    (h : es.map Event.timeless = bs.map fun x => (runId, .committed x.number x.size)) :
    commitsOf runId es = bs.map fun x => (x.number, x.size) := by
  induction bs generalizing es with
  | nil => rw [List.map_eq_nil_iff.1 h]; rfl
  | cons x bs ih =>
    obtain ⟨e, fs, rfl, he, hfs⟩ := List.map_eq_cons_iff.1 h
    have hrun : e.runId = runId := congrArg Prod.fst he
    have hcommit : e.happening = .committed x.number x.size := congrArg Prod.snd he
    rw [← List.singleton_append, commitsOf_append, ih hfs]
    simp [commitsOf, Journal.ownEvents, hrun, hcommit, Happening.commit?]

/-- Batches that are recorded one after the other are logged to be committed. -/
theorem Chronicle.commitsOf_eq {R : Type} {b : Logbook} {bs : List (Batch R)} {g : History}
    (h : Chronicle (some b) bs g) (hanswers : JournalAnswers g) :
    commitsOf b.runId (loggedEvents g) = bs.map fun x => (x.number, x.size) :=
  commitsOf_of_timeless (h.logged hanswers)

/-! ## Between two commits -/

/-- The last that the journal was asked about batches was not to log one: its checkpoint has been put, too. -/
def BetweenCommits (t : History) : Prop := ∀ e ∈ (recordings t).getLast?, logged? e = none

/-- Before the last exchange of recording a batch nothing is logged, unless this was logged last. -/
theorem loggedEvents_eq_nil_of_recorded {b : Logbook} {number records : Nat} {entry g : History}
    (h : Recorded (some b) number records entry) (hg : g <+: entry.dropLast)
    (hlast : ∀ e ∈ g.getLast?, logged? e = none) : loggedEvents g = [] := by
  have hnothing {l : History} (hl : loggedEvents l = []) (hgl : g <+: l) : loggedEvents g = [] := by
    have hsublist : (loggedEvents g).Sublist (loggedEvents l) := hgl.sublist.filterMap logged?
    rw [hl] at hsublist
    exact List.sublist_nil.1 hsublist
  cases h with
  | unread b number records e => exact hnothing rfl hg
  | unlogged b number records c moment e => exact hnothing rfl hg
  | logged b number records c moment later answer =>
    have hcut : g <+: [⟨.loadCheckpoint b.runId, .ok c⟩] ++
      [⟨.append ⟨b.runId, .committed number records, moment⟩, .ok ()⟩] := hg
    rcases List.prefix_concat_iff.1 hcut with rfl | hbefore
    · cases hlast _ rfl
    · exact hnothing rfl hbefore

theorem Begun.loggedEvents_eq_nil {b : Logbook} {g : History} (h : Begun (some b) g)
    (hlast : ∀ e ∈ g.getLast?, logged? e = none) : loggedEvents g = [] := by
  rcases h with rfl | ⟨number, records, v, hv, hentry⟩
  · rfl
  · refine loggedEvents_eq_nil_of_recorded hentry ?_ hlast
    rw [List.dropLast_append_of_ne_nil hv]
    exact List.prefix_append g _

/-- When batches have been recorded as wholes, none is logged last. -/
theorem Chronicle.logged_getLast? {R : Type} {b : Logbook} {bs : List (Batch R)} {g : History}
    (h : Chronicle (some b) bs g) : ∀ e ∈ g.getLast?, logged? e = none := by
  cases h with
  | nil =>
    intro e he
    cases he
  | @concat bs x g entry hbefore hentry =>
    have hlast : entry ≠ [] ∧ ∀ e ∈ entry.getLast?, logged? e = none := by
      cases hentry <;> exact ⟨List.cons_ne_nil _ _, fun e he => by cases he; rfl⟩
    rw [List.getLast?_append_of_ne_nil g hlast.1]
    exact hlast.2

/-- An import that came to its end is between two commits. -/
theorem betweenCommits_of_yields {R : Type} [CatalogRecord R] {config : Config} {b : Logbook} {k : Nat}
    {t : History} {outcome : Outcome} (h : (importRun config (some b) R k).Yields t outcome) :
    BetweenCommits t := by
  obtain ⟨l, -, hsorts⟩ := exists_sorted_ledger (R := R) h
  exact hsorts.chronicle.logged_getLast?

/-- The points that are reached from a journal by imports under the id of a run, one after the other: each of
any document and in whatever way, taken up at the batch that the checkpoint says, and come to its end or to
a point between two commits.  The journal did all that it was asked to do.  Before and after, the journal may
have been closed and opened again, and anything may have happened that logs nothing under the id of the run
and writes no checkpoint of it. -/
inductive Reaches (runId : String) (j : Journal) : Journal → Prop
  | here : Reaches runId j j
  | reopened {j' : Journal} (hbefore : Reaches runId j j') : Reaches runId j j'.reopen
  | meanwhile {j₁ j' : Journal} {t : History} (hbefore : Reaches runId j j₁) (hafter : Journal.After j₁ t j')
      (hevents : ∀ e ∈ loggedEvents t, e.runId ≠ runId)
      (hcheckpoints : ∀ c ∈ writtenCheckpoints t, c.runId ≠ runId) : Reaches runId j j'
  | invoked {R : Type} [CatalogRecord R] {j₁ j' : Journal} {document : Reading} {b : Logbook}
      {config : Config} {k : Nat} {t : History} {p : Task Outcome} (hbefore : Reaches runId j j₁)
      (hrun : b.runId = runId) (himport : ImportsBy R document b config j₁ k t p j')
      (hanswers : JournalAnswers t) (hpoint : (∃ outcome, p = .done outcome) ∨ BetweenCommits t) :
      Reaches runId j j'

/-- The batches that were committed under the id of a run go up to the one before that at which the run would
be taken up, and their records are those that the checkpoint counts. -/
structure Tallies (c : Option Checkpoint) (commits : List (Nat × Nat)) : Prop where
  numbers : commits.map (·.1) = List.range (Logbook.batchAfter c)
  records : (commits.map (·.2)).sum = recordsCounted c

/-- An import that is taken up keeps the tally up to every point between two commits. -/
theorem Tallies.append {R : Type} [CatalogRecord R] {config : Config} {b : Logbook} {k : Nat} {t : History}
    {p : Task Outcome} {document : Reading} {c c' : Option Checkpoint} {commits : List (Nat × Nat)}
    (h : Tallies c commits) (htold : (importRun config (some b) R k).Told t p)
    (hdocuments : ∀ d ∈ documents t, d = document) (hanswers : JournalAnswers t)
    (hpoint : BetweenCommits t) (hfollows : Follows b.runId c t c') (hk : Logbook.batchAfter c = k) :
    Tallies c' (commits ++ commitsOf b.runId (loggedEvents t)) := by
  obtain ⟨ds, g₁, g₂, -, -, hnumber, hcut, hrecorded, hbegun⟩ := exists_chronicle_of_told htold hdocuments
  have hanswers' := hanswers.recordings
  have hfollows' := hfollows.recordings
  unfold BetweenCommits at hpoint
  rw [hcut] at hanswers' hfollows' hpoint
  obtain ⟨c₁, hfirst, hrest⟩ := hfollows'.split
  obtain rfl := hrest.eq_of_saves hbegun.saves_eq_nil
  obtain ⟨hcounted, hlast⟩ := hfirst.chronicle hrecorded hanswers'.left hnumber (Nat.le_of_eq hk)
  have hcommits : commitsOf b.runId (loggedEvents t) = ds.map fun x => (x.number, x.size) := by
    have hquiet : loggedEvents g₂ = [] := by
      refine hbegun.loggedEvents_eq_nil fun e he => hpoint e ?_
      rw [List.getLast?_append, he]
      rfl
    rw [← commitsOf_recordings, hcut, loggedEvents_append, hquiet, List.append_nil,
      hrecorded.commitsOf_eq hanswers'.left]
  have hnumbers : ds.map (·.number) = (List.range ds.length).map (k + ·) := by
    refine List.ext_getElem (by simp) fun j hj _ => ?_
    have hlt : j < ds.length := by simpa using hj
    rw [List.getElem_map, List.getElem_map, List.getElem_range]
    exact hnumber j _ (List.getElem?_eq_getElem hlt)
  have hnext : Logbook.batchAfter c' = k + ds.length := by
    rcases hlast with ⟨rfl, rfl⟩ | ⟨-, d, rfl, hd⟩
    · exact hk
    · exact hd
  constructor
  · rw [hcommits, List.map_append, List.map_map, h.numbers, hnext, hk, List.range_add, ← hnumbers]
    rfl
  · rw [hcommits, List.map_append, List.map_map, List.sum_append, h.records, hcounted, List.length_flatMap]
    rfl

theorem ImportsBy.tallies {R : Type} [CatalogRecord R] {config : Config} {b : Logbook} {k : Nat}
    {t : History} {p : Task Outcome} {document : Reading} {j j' : Journal} {es : List Event}
    {c : Option Checkpoint} (h : ImportsBy R document b config j k t p j') (hanswers : JournalAnswers t)
    (hpoint : BetweenCommits t) (hes : Journal.Logged es j) (hc : j.loadCheckpoint b.runId = .ok c)
    (htallies : Tallies c (commitsOf b.runId es)) :
    ∃ es' c', Journal.Logged es' j' ∧ j'.loadCheckpoint b.runId = .ok c' ∧
      Tallies c' (commitsOf b.runId es') := by
  have hk := h.batchAfter_eq hc
  obtain ⟨j₁, u, hresume, hasked, htold, hdocuments, hafter⟩ := h
  obtain ⟨rfl, -⟩ := hasked.resumesAt_of_yields hresume
  obtain ⟨c', hc', hfollows⟩ := hafter.follows hc
  refine ⟨es ++ loggedEvents t, c', hafter.logged hes, hc', ?_⟩
  rw [commitsOf_append]
  exact htallies.append htold hdocuments hanswers hpoint hfollows hk

/-- The tally is kept at all points that are reached. -/
theorem Reaches.tallies {runId : String} {j j' : Journal} {es : List Event} {c : Option Checkpoint}
    (h : Reaches runId j j') (hes : Journal.Logged es j) (hc : j.loadCheckpoint runId = .ok c)
    (htallies : Tallies c (commitsOf runId es)) :
    ∃ es' c', Journal.Logged es' j' ∧ j'.loadCheckpoint runId = .ok c' ∧
      Tallies c' (commitsOf runId es') := by
  induction h with
  | here => exact ⟨es, c, hes, hc, htallies⟩
  | reopened _ ih =>
    obtain ⟨es₁, c₁, hes₁, hc₁, htallies₁⟩ := ih
    exact ⟨es₁, c₁, hes₁.reopen, hc₁, htallies₁⟩
  | @meanwhile j₁ j' t _ hafter hevents hcheckpoints ih =>
    obtain ⟨es₁, c₁, hes₁, hc₁, htallies₁⟩ := ih
    obtain ⟨c', hc', hfollows⟩ := hafter.follows hc₁
    obtain rfl := hfollows.eq_of_written hcheckpoints
    refine ⟨es₁ ++ loggedEvents t, c', hafter.logged hes₁, hc', ?_⟩
    rw [commitsOf_append, commitsOf_of_ne hevents, List.append_nil]
    exact htallies₁
  | @invoked R _ j₁ j' document b config k t p _ hrun himport hanswers hpoint ih =>
    subst hrun
    obtain ⟨es₁, c₁, hes₁, hc₁, htallies₁⟩ := ih
    have hbetween : BetweenCommits t := by
      rcases hpoint with ⟨outcome, rfl⟩ | hpoint
      · obtain ⟨j₂, u, -, -, hyields, -⟩ := himport
        exact betweenCommits_of_yields hyields
      · exact hpoint
    exact himport.tallies hanswers hbetween hes₁ hc₁ htallies₁

/-- A checkpoint says what the committed batches of its run add up to: it is at the latest of them, which has
also the greatest number, they have all numbers from the first one to that once and in order, and the records
that it counts are all of theirs. -/
structure Checkpoint.SumsUp (c : Checkpoint) (commits : List (Nat × Nat)) : Prop where
  latest : commits.getLast?.map (·.1) = some c.lastBatch
  greatest : ∀ x ∈ commits, x.1 ≤ c.lastBatch
  numbers : commits.map (·.1) = List.range (c.lastBatch + 1)
  records : c.recordsDone = (commits.map (·.2)).sum

theorem Tallies.sumsUp {c : Checkpoint} {commits : List (Nat × Nat)} (h : Tallies (some c) commits) :
    c.SumsUp commits := by
  have hnumbers : commits.map (·.1) = List.range (c.lastBatch + 1) := h.numbers
  refine ⟨?_, fun x hx => ?_, hnumbers, h.records.symm⟩
  · rw [← List.getLast?_map, hnumbers, List.getLast?_range]
    rfl
  · have hmem := List.mem_map_of_mem (f := Prod.fst) hx
    rw [hnumbers] at hmem
    exact Nat.le_of_lt_succ (List.mem_range.1 hmem)

/-- There is no checkpoint exactly if nothing has been committed. -/
theorem Tallies.eq_none_iff {c : Option Checkpoint} {commits : List (Nat × Nat)} (h : Tallies c commits) :
    c = none ↔ commits = [] := by
  cases c with
  | none => exact ⟨fun _ => List.map_eq_nil_iff.1 h.numbers, fun _ => rfl⟩
  | some c =>
    refine ⟨fun hc => absurd hc (Option.some_ne_none c), fun hnone => ?_⟩
    have hlatest := h.sumsUp.latest
    rw [hnone] at hlatest
    cases hlatest

/-- From a journal in which a run has no checkpoint and has committed nothing, whatever it holds of others and
whatever stores there are, imports are done under the id of the run, each taken up where the checkpoint says, and the journal
does all that it is asked to do.  Then at every point between two commits the checkpoint and the log of the
run can be read, and agree.  Numbers of events have 64 bits. -/
theorem checkpoint_agrees_with_log {runId : String} {j j' : Journal} {es : List Event}
    (hes : Journal.Logged es j) (hfresh : j.loadCheckpoint runId = .ok none)
    (hnone : commitsOf runId es = []) (h : Reaches runId j j') (hnext : j'.next ≤ 2 ^ 64) :
    ∃ c evs, j'.loadCheckpoint runId = .ok c ∧ j'.events runId = .ok evs ∧
      (c = none ↔ commitsOf runId evs = []) ∧ ∀ d, c = some d → d.SumsUp (commitsOf runId evs) := by
  have htallies : Tallies none (commitsOf runId es) := by
    rw [hnone]
    exact ⟨rfl, rfl⟩
  obtain ⟨es', c, hes', hc, htallies'⟩ := h.tallies hes hfresh htallies
  have hread : commitsOf runId (j'.allEvents.filter fun e => Journal.Shows runId e.runId) =
      commitsOf runId es' := by
    unfold commitsOf
    rw [Journal.ownEvents_filter_shows, (hes'.allEvents_perm hnext).2]
  refine ⟨c, _, hc, hes'.keyed.events_eq runId, ?_⟩
  rw [hread]
  refine ⟨htallies'.eq_none_iff, ?_⟩
  rintro d rfl
  exact htallies'.sumsUp

namespace Sample

/-- The scene after the import that was interrupted has been taken up and done. -/
def resumed : Scene := (run 1 1 (interrupted.reopened, 9)).2.1

theorem run_resumed : (run 1 1 (interrupted.reopened, 9)).1 =
    .finished (.ok ⟨2, 2, 0, 2, 1, 0, .epoch, some .epoch⟩) := by decide +kernel

/-- The store refuses the second batch, the journal is opened again, and the import is taken up. -/
theorem reaches_resumed : Reaches "sets" scene.journal resumed.journal := by
  have hanswers : JournalAnswers (history 1 0 (scene, 1)) := by decide +kernel
  have hanswers' : JournalAnswers (history 1 1 (interrupted.reopened, 9)) := by decide +kernel
  have hfirst : Reaches "sets" scene.journal interrupted.journal :=
    Reaches.here.invoked rfl (importsBy_of_run (k := 0) (n := 1) rfl run_refused) hanswers (.inl ⟨_, rfl⟩)
  have hopened : Reaches "sets" scene.journal interrupted.reopened.journal := hfirst.reopened
  have hresume : (logbook.resumePoint.run (Scene.surroundings document) (interrupted.reopened, 9)).1 =
      .finished (.ok 1) := by decide +kernel
  exact hopened.invoked rfl (importsBy_of_run hresume run_resumed) hanswers' (.inl ⟨_, rfl⟩)

end Sample

theorem checkpoint_agrees_with_log_after_resumption :
    ∃ evs, Sample.resumed.journal.events "sets" = .ok evs ∧
      Checkpoint.SumsUp ⟨"sets", "sets", "sets.json", 2, 3, .epoch⟩ (commitsOf "sets" evs) := by
  have hcheckpoint : Sample.resumed.journal.loadCheckpoint "sets" =
      .ok (some ⟨"sets", "sets", "sets.json", 2, 3, .epoch⟩) := by decide +kernel
  have hnext : Sample.resumed.journal.next ≤ 2 ^ 64 := by decide +kernel
  obtain ⟨c, evs, hc, hevs, -, hsums⟩ :=
    checkpoint_agrees_with_log .empty rfl rfl Sample.reaches_resumed hnext
  rw [hcheckpoint] at hc
  exact ⟨evs, hevs, hsums _ (Except.ok.inj hc).symm⟩

end CatalogImport
