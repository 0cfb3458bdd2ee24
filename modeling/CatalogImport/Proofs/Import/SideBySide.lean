import CatalogImport.Proofs.Import.FloorFiles
import CatalogImport.Proofs.Import.InTurn
import Mathlib.Data.List.Pairwise

/-!
# Jobs side by side

Of jobs that are run at the same time each comes to what it comes to by itself, in whatever order the desks
move: it ends if it does so by itself, with the same outcome, store, checkpoint and log but for the time, and
it does not matter what becomes of the others.  The only other way is that it breaks down because there is no
number left for a file (`Desk.BreaksDown`).  The reports come in the order of the jobs.  Main statement:
`jobs_end_as_alone`.
-/

namespace CatalogImport

variable {σ : Type}

/-! ## Two ends -/

theorem Party.Apart.symmetric : Std.Symm (@Party.Apart σ) := ⟨fun _ _ h => h.symm⟩

/-- Of jobs that are apart, the log of one shows no events of another. -/
theorem Party.runId_eq_of_shows {parties : List (Party σ)} (hapart : parties.Pairwise Party.Apart)
    {p p' : Party σ} (hp : p ∈ parties) (hp' : p' ∈ parties) {runId runId' : String}
    (hrun : p.runId = some runId) (hrun' : p'.runId = some runId') (hshows : Journal.Shows runId runId') :
    runId' = runId := by
  have := @Party.Apart.symmetric σ
  by_cases heq : p = p'
  · subst heq
    exact Option.some.inj (hrun'.symm.trans hrun)
  · exact absurd hshows (hapart.forall hp hp' heq runId runId' hrun hrun').1

namespace Floor

/-- A log that shows only the run's own events at first does so however the desks move. -/
theorem Sound.events_eq {parties : List (Party σ)} {j₀ : Journal} {f : Floor σ} (h : Sound parties j₀ f)
    (hapart : parties.Pairwise Party.Apart) {p : Party σ} (hp : p ∈ parties) {runId : String}
    (hrun : p.runId = some runId)
    (hown : ∀ e ∈ j₀.allEvents, Journal.Shows runId e.runId → e.runId = runId) :
    f.common.journal.events runId = .ok (Journal.ownEvents runId f.common.journal.allEvents) := by
  rw [h.keyed.events_eq, Journal.filter_shows_eq_ownEvents fun e he hshows => ?_]
  rcases h.events e he with hfirst | ⟨p', hp', hrun'⟩
  · exact hown e hfirst hshows
  · exact Party.runId_eq_of_shows hapart hp hp' hrun hrun' hshows

end Floor

/-- A job has ended at two desks, with the same outcome and the same in its store, but for the time, and has
left the same in two journals that were as one at first. -/
structure Desk.EndsAs (j₀ j j' : Journal) (d d' : Desk σ) : Prop where
  outcome : ∃ outcome outcome', d.doing = .free (.done outcome) ∧ d'.doing = .free (.done outcome') ∧
    outcome.timeless = outcome'.timeless
  store : d.store = d'.store
  checkpoint : ∀ runId, d.party.runId = some runId →
    (j.loadCheckpoint runId).map (Option.map (·.timeless)) =
      (j'.loadCheckpoint runId).map (Option.map (·.timeless))
  /-- The run's own events in its log. -/
  own : ∀ runId, d.party.runId = some runId → j.next ≤ 2 ^ 64 →
    (j.events runId).map (fun es => (Journal.ownEvents runId es).map (·.timeless)) =
      (j'.events runId).map fun es => (Journal.ownEvents runId es).map (·.timeless)
  /-- All of the log, if it showed only the run's own events at first. -/
  log : ∀ runId, d.party.runId = some runId → j.next ≤ 2 ^ 64 →
    (∀ e ∈ j₀.allEvents, Journal.Shows runId e.runId → e.runId = runId) →
    (j.events runId).map (List.map (·.timeless)) = (j'.events runId).map (List.map (·.timeless))

/-- There is no number left for the file that is being written at a desk, and there are at least as many files and
directories as numbers. -/
def Desk.BreaksDown (c : Common) (d : Desk σ) : Prop := d.OutOfNumbers ∧ 2 ^ 32 ≤ c.files.entries.length

/-- A job that has ended does nothing any more. -/
theorem Desk.not_canMove_of_done {c : Common} {d : Desk σ} {outcome : Outcome}
    (h : d.doing = .free (.done outcome)) : ¬ d.CanMove c := by
  obtain ⟨p, s, doing⟩ := d
  obtain rfl : doing = .free (.done outcome) := h
  rintro ⟨c', d', hstep⟩
  cases hstep with
  | @keep _ _ _ _ k moment h => cases k <;> cases h

/-- The floor on which a job is alone. -/
def Party.alone (p : Party σ) (c : Common) : Floor σ := .start [p] c

namespace Floor

variable {parties : List (Party σ)} {j₀ : Journal} {f g : Floor σ} {d d' : Desk σ} {b b' : Belongings σ}
  {others : Nat} {outcome outcome' : Outcome}

/-- A job that has ended on a floor and by itself, with the same belongings but for the time. -/
theorem Sound.endsAs (hf : Sound parties j₀ f) (hg : Sound [d.party] j₀ g)
    (hapart : parties.Pairwise Party.Apart) (hmem : d.party ∈ parties) (hparty : d'.party = d.party)
    (hd : d.Accounted j₀ f.common.journal b others) (hd' : d'.Accounted j₀ g.common.journal b' 0)
    (hdoing : d.doing = .free (.done outcome)) (hdoing' : d'.doing = .free (.done outcome'))
    (houtcome : outcome.timeless = outcome'.timeless) (hb : b.Alike b') :
    d.EndsAs j₀ f.common.journal g.common.journal d' := by
  have hlog (runId : String) (hrun : d.party.runId = some runId) (hnext : f.common.journal.next ≤ 2 ^ 64) :
      (Journal.ownEvents runId f.common.journal.allEvents).map (·.timeless) =
        (Journal.ownEvents runId g.common.journal.allEvents).map (·.timeless) := by
    have hlength := congrArg List.length hb.log
    have hnumbers := hd.numbers
    have hnumbers' := hd'.numbers
    rw [List.length_map, List.length_map] at hlength
    rw [hdoing'] at hnumbers'
    change _ = _ + _ + 0 + 0 at hnumbers'
    -- by itself the job has got no more numbers than it has beside others
    have hnext' : g.common.journal.next ≤ 2 ^ 64 := by omega
    rw [hd.log runId hrun hnext, hd'.log runId (hparty ▸ hrun) hnext', List.map_append, List.map_append,
      hb.log]
  refine ⟨⟨outcome, outcome', hdoing, hdoing', houtcome⟩, ?_, fun runId hrun => ?_,
    fun runId hrun hnext => ?_, fun runId hrun hnext hown => ?_⟩
  · rw [hd.store, hd'.store, hb.store]
  · rw [hd.checkpoint runId hrun, hd'.checkpoint runId (hparty ▸ hrun)]
    exact congrArg Except.ok hb.checkpoint
  · have hown (j : Journal) := Journal.ownEvents_filter_shows runId j.allEvents
    rw [hf.keyed.events_eq, hg.keyed.events_eq]
    refine congrArg Except.ok ?_
    dsimp only
    rw [hown, hown]
    exact hlog runId hrun hnext
  · rw [hf.events_eq hapart hmem hrun hown,
      hg.events_eq (List.pairwise_singleton _ _) (List.mem_singleton_self _) hrun hown]
    exact congrArg Except.ok (hlog runId hrun hnext)

/-- A desk on the floor of a job that is alone. -/
theorem Sound.alone {p : Party σ} (hg : Sound [p] j₀ g) :
    ∃ d' b', g.desks = [d'] ∧ d'.party = p ∧ d'.Accounted j₀ g.common.journal b' 0 := by
  obtain ⟨d', hdesks⟩ := List.length_eq_one_iff.1 ((List.length_map _).symm.trans (congrArg List.length hg.order))
  have horder := hg.order
  rw [hdesks] at horder
  obtain ⟨b', others, hd', halone⟩ := hg.accounted d' (by simp [hdesks])
  obtain rfl : others = 0 := halone (Nat.le_refl 1)
  exact ⟨d', b', hdesks, List.singleton_inj.1 horder, hd'⟩

/-- Of two desks of one job, of which one has ended, the other goes on until it has ended alike, or there is no
number left. -/
theorem canMove_or_alike (hsteady : d.party.IsSteady) {j j' : Journal} {others' : Nat} {c : Common}
    (hparty : d'.party = d.party) (hd : d.Accounted j₀ j b others) (hd' : d'.Accounted j₀ j' b' others')
    (hdoing : d.doing = .free (.done outcome)) :
    d'.CanMove c ∨ d'.OutOfNumbers ∨
      ∃ outcome', d'.doing = .free (.done outcome') ∧ outcome.timeless = outcome'.timeless ∧ b.Alike b' := by
  have hleads := hd.leads
  rw [hdoing] at hleads
  have hend : d.party.Ends d.party.task (d.party.belongings j₀) outcome b := hleads.ends (.done outcome b)
  have hsure := Party.sure_of_ends hsteady hend .rfl
  have hleads' := hd'.leads
  rw [← hparty] at hsure
  exact Desk.canMove_or_of_sure (hleads'.sure hsure) hd'.store

/-- Jobs are run at the same time, with stores of their own and ids of which none is another and none goes on
behind another with a colon, and the desks move in any order.  They do not move for ever.  A job ends exactly
if it does so by itself, and then as it does by itself: with the same outcome, the same in its store, the same
checkpoint and the same log, but for the time.  So long as by itself it would end, it goes on, whatever becomes
of the others.  It breaks down only where there is no number left for a file, and then there are as many files.
When all have ended, whichever was the first, there are reports, and there is one for each job, in the order of
the jobs. -/
theorem jobs_end_as_alone {r : Registry} {c : Common} (hregistry : r.RunsImports)
    (htasks : r.tasks (parties.map (·.job)) = .ok (parties.map (·.task)))
    (hapart : parties.Pairwise Party.Apart) (hkeyed : c.journal.Keyed)
    (hrun : (Floor.start parties c).Runs f) :
    Acc (fun g f => Moves f g) f ∧ f.desks.map (·.party) = parties ∧
      (∀ d ∈ f.desks,
        (∀ outcome, d.doing = .free (.done outcome) →
          ∃ g d', (d.party.alone c).Runs g ∧ g.desks = [d'] ∧
            (d.EndsAs c.journal f.common.journal g.common.journal d' ∨ d'.BreaksDown g.common)) ∧
        ∀ g d', (d.party.alone c).Runs g → g.desks = [d'] →
          (∀ outcome, d.doing = .free (.done outcome) → d'.CanMove g.common ∨
            d.EndsAs c.journal f.common.journal g.common.journal d' ∨ d'.BreaksDown g.common) ∧
          ∀ outcome', d'.doing = .free (.done outcome') → d.CanMove f.common ∨
            d.EndsAs c.journal f.common.journal g.common.journal d' ∨ d.BreaksDown f.common) ∧
      ((∀ d ∈ f.desks, ∃ outcome, d.doing = .free (.done outcome)) →
        ∃ reports, (conclude false f.endings).2 = some (.ok reports)) ∧
      ∀ reports, (conclude false f.endings).2 = some (.ok reports) →
        f.desks.map Desk.ending = reports.map reported ∧
          reports.map (·.1) = parties.map (·.job.kind.key) := by
  have hsteady := hregistry.isSteady htasks
  have hf := sound_of_runs hkeyed hapart hsteady hrun
  refine ⟨acc_moves f, hf.order, fun d hd => ?_, fun hended => ?_, fun reports hconclude => ?_⟩
  · have hmem : d.party ∈ parties := hf.order ▸ List.mem_map_of_mem hd
    obtain ⟨b, others, haccounted, -⟩ := hf.accounted d hd
    have halone {g : Floor σ} (hrun' : (d.party.alone c).Runs g) : Sound [d.party] c.journal g :=
      sound_of_runs hkeyed (List.pairwise_singleton _ _)
        (fun p hp => List.mem_singleton.1 hp ▸ hsteady _ hmem) hrun'
    have hends : ∀ g d', (d.party.alone c).Runs g → g.desks = [d'] →
        ∀ outcome, d.doing = .free (.done outcome) → d'.CanMove g.common ∨
          d.EndsAs c.journal f.common.journal g.common.journal d' ∨ d'.BreaksDown g.common := by
      intro g d' hrun' hdesks outcome hdoing
      have hg := halone hrun'
      obtain ⟨d₁, b', hdesks₁, hparty, haccounted'⟩ := hg.alone
      obtain rfl : d₁ = d' := List.singleton_inj.1 (hdesks₁.symm.trans hdesks)
      rcases canMove_or_alike (hsteady _ hmem) hparty haccounted haccounted' hdoing with
        hmove | hout | ⟨outcome', hdoing', houtcome, hb⟩
      · exact .inl hmove
      · exact .inr (.inr ⟨hout, le_length_of_outOfNumbers hrun' (by simp [hdesks]) hout⟩)
      · exact .inr (.inl
          (hf.endsAs hg hapart hmem hparty haccounted haccounted' hdoing hdoing' houtcome hb))
    refine ⟨fun outcome hdoing => ?_, fun g d' hrun' hdesks => ⟨hends g d' hrun' hdesks, ?_⟩⟩
    · obtain ⟨g, hrun', hrest⟩ := exists_rest (d.party.alone c)
      obtain ⟨d', b', hdesks, -, -⟩ := (halone hrun').alone
      refine ⟨g, d', hrun', hdesks, (hends g d' hrun' hdesks outcome hdoing).resolve_left ?_⟩
      exact hrest d' (by simp [hdesks])
    · intro outcome' hdoing'
      have hg := halone hrun'
      obtain ⟨d₁, b', hdesks₁, hparty, haccounted'⟩ := hg.alone
      obtain rfl : d₁ = d' := List.singleton_inj.1 (hdesks₁.symm.trans hdesks)
      rcases canMove_or_alike (c := f.common) (hparty ▸ hsteady _ hmem) hparty.symm haccounted' haccounted
        hdoing' with hmove | hout | ⟨outcome, hdoing, houtcome, hb⟩
      · exact .inl hmove
      · exact .inr (.inr ⟨hout, le_length_of_outOfNumbers hrun hd hout⟩)
      · exact .inr (.inl (hf.endsAs hg hapart hmem hparty haccounted haccounted' hdoing hdoing' houtcome.symm
          hb.symm))
  · obtain ⟨reports, hreports⟩ := Desk.exists_reports hended
    exact ⟨reports, conclude_eq_reports_iff.2 hreports⟩
  · have hreports := conclude_eq_reports_iff.1 hconclude
    exact ⟨hreports, hf.order ▸ Desk.keys_of_reports hreports⟩

namespace Sample

/-- A store that takes what it gets. -/
def take : Serving MemoryStore := fun records s =>
  (.reply (.ok (s.addMany records).2), false, (s.addMany records).1)

/-- A job of a kind, which the journal knows under the key of the kind. -/
def job (kind : RecordKind) : Job :=
  ⟨kind, kind, .standard, 0, some ⟨kind.key, kind, kind.key ++ ".json"⟩⟩

/-- A document with one set. -/
def text : String :=
  "\x7b\"data\":[\x7b\"id\":\"a\",\"name\":\"First\",\"code\":\"x\",\"set_type\":\"core\"\x7d]\x7d"

/-- The document of the sets is there, and that of the cards is not. -/
def place : RecordKind → Place
  | .sets => .file (text.toList.flatMap String.utf8EncodeChar)
  | .cards => .absent .notFound

/-- A job whose tasks and store are those of its kind. -/
def party (kind : RecordKind) (importer : Importer) : Party MemoryStore :=
  ⟨job kind, importer (job kind), openSource dataField (kind.key ++ ".json") (place kind), .empty kind, take.answer?⟩

/-- Sets are imported. -/
def sets : Party MemoryStore := party .sets (importerOf CardSet)

/-- There is no document to import cards from. -/
def cards : Party MemoryStore := party .cards (importerOf Card)

/-- Nothing has been written yet. -/
def common : Common := ⟨.empty, .empty⟩

/-- The world in which a job of the kind is rehearsed. -/
def world (kind : RecordKind) : World MemoryStore :=
  { World.idle (.empty kind) ⟨.empty, [], .answering⟩ .epoch "" with
    place := place kind
    path := kind.key ++ ".json"
    artifactDir := (job kind).config.artifactDir }

/-- Each job, with its world. -/
def rows : List (Party MemoryStore × World MemoryStore) := [(sets, world .sets), (cards, world .cards)]

theorem apart : [sets, cards].Pairwise Party.Apart := by
  refine List.pairwise_pair.2 fun runId runId' hrun hrun' => ?_
  cases hrun
  cases hrun'
  decide

/-- The jobs find in their worlds what they need. -/
theorem finds : ∀ row ∈ rows, row.1.FindsIn take row.2 ∧ row.1.store = row.2.store := by
  intro row hrow
  rcases List.mem_pair.1 hrow with rfl | rfl
  · exact ⟨⟨⟨rfl, rfl, rfl, rfl⟩, rfl, rfl, rfl⟩, rfl⟩
  · exact ⟨⟨⟨rfl, rfl, rfl, rfl⟩, rfl, rfl, rfl⟩, rfl⟩

/-- How each of them ends, beside the other and by itself. -/
def ended : RecordKind → Outcome
  | .sets => .ok ⟨1, 1, 0, 1, 0, 0, .epoch, some .epoch⟩
  | .cards => .error ⟨.fileUnusable "cards.json" "cannot stat file: No such file or directory (os error 2)",
      ⟨0, 0, 0, 0, 0, 0, .epoch, some .epoch⟩⟩

theorem rehearse_rows :
    (rehearse take (fun _ own => own) .standard (rows.map fun row => ⟨row.1.job, row.2⟩)).result =
      some (.ok [("sets", ended .sets), ("cards", ended .cards)]) := by decide +kernel

/-- By itself each of them ends so. -/
theorem run_alone : ∀ row ∈ rows, (row.2.run take row.1.task).1 = .finished (ended row.1.job.kind) := by
  decide +kernel

theorem exists_end_alone {p : Party MemoryStore} (hp : p ∈ [sets, cards]) :
    ∃ g d', (p.alone common).Runs g ∧ g.desks = [d'] ∧ d'.doing = .free (.done (ended p.job.kind)) := by
  obtain ⟨row, hrow, rfl⟩ : ∃ row ∈ rows, row.1 = p := List.mem_map.1 hp
  obtain ⟨hfinds, hstore⟩ := finds row hrow
  have hcommon : row.2.common = common := by
    rcases List.mem_pair.1 hrow with rfl | rfl <;> rfl
  have hended := run_alone row hrow
  rcases hrun : row.2.run take row.1.task with ⟨ending, w'⟩
  rw [hrun] at hended
  obtain rfl : ending = .finished (ended row.1.job.kind) := hended
  have hruns := (World.runs_of_run (fun _ _ => rfl) hfinds hrun [] []).2
  rw [← hstore, hcommon] at hruns
  exact ⟨_, _, hruns, rfl, rfl⟩

end Sample

/-- Sets are imported beside cards that cannot be, and each job ends as it does by itself. -/
theorem two_jobs_end_as_alone :
    ∃ f, (Floor.start [Sample.sets, Sample.cards] Sample.common).Runs f ∧
      (conclude false f.endings).2 =
        some (.ok [("sets", Sample.ended .sets), ("cards", Sample.ended .cards)]) ∧
      ∀ d ∈ f.desks, ∃ g d', (d.party.alone Sample.common).Runs g ∧ g.desks = [d'] ∧
        d.EndsAs Sample.common.journal f.common.journal g.common.journal d' := by
  have hcommon : ∀ row ∈ Sample.rows, row.2.common = Sample.common := by
    intro row hrow
    rcases List.mem_pair.1 hrow with rfl | rfl <;> rfl
  have htasks : Registry.standard.tasks ([Sample.sets, Sample.cards].map (·.job)) =
      .ok ([Sample.sets, Sample.cards].map (·.task)) := rfl
  obtain ⟨f, hrun, hconclude⟩ := exists_runs_of_rehearse (fun _ _ => rfl) Sample.finds hcommon htasks
    Sample.rehearse_rows
  obtain ⟨-, horder, hdesks, -, hreports⟩ := jobs_end_as_alone Registry.runsImports_standard htasks Sample.apart
    Journal.Logged.empty.keyed hrun
  refine ⟨f, hrun, hconclude, fun d hd => ?_⟩
  obtain ⟨g, d', hrun', hdesks', hdoing'⟩ := Sample.exists_end_alone (horder ▸ List.mem_map_of_mem hd)
  refine ⟨g, d', hrun', hdesks', ?_⟩
  -- the desk has ended, so it neither moves nor breaks down
  obtain ⟨outcome, hdoing⟩ := Desk.exists_done_of_reports (hreports _ hconclude).1 hd
  rcases ((hdesks d hd).2 g d' hrun' hdesks').2 _ hdoing' with hmove | hends | ⟨⟨k, next, hkeeping⟩, -⟩
  · exact absurd hmove (Desk.not_canMove_of_done hdoing)
  · exact hends
  · rw [hdoing] at hkeeping
    cases hkeeping

end Floor

end CatalogImport
