import CatalogImport.Proofs.Import.Jobs
import CatalogImport.Rehearsal.Hall

/-!
# Jobs in turn

Running jobs one after the other, each until it has ended, is one of the ways in which the desks on a floor
may move.  A world in which an import is rehearsed answers it in moves at its desk (`World.runs_of_answer`), so
a whole import makes such moves (`World.runs_of_run`), and so do all jobs of a rehearsal.  Main statement: what
a rehearsal comes to is what the jobs come to on a floor (`exists_runs_of_rehearse`).
-/

namespace CatalogImport

variable {σ : Type}

namespace Floor

variable {f g h : Floor σ}

theorem Runs.trans (hfg : f.Runs g) (hgh : g.Runs h) : f.Runs h := by
  induction hgh with
  | refl => exact hfg
  | tail _ hmove ih => exact .tail ih hmove

theorem Runs.step {c c' : Common} {before after : List (Desk σ)} {d d' : Desk σ} (h : Desk.Step c d c' d') :
    Runs ⟨c, before ++ d :: after⟩ ⟨c', before ++ d' :: after⟩ := .tail .refl (.step h)

end Floor

/-! ## Files -/

section

variable {p : Party σ} {s : σ} {j : Journal} {k : Keeping} {before after : List (Desk σ)}

/-- A program that asks the files is run in moves at a desk. -/
theorem FileTree.runs_of_run {file : FileTask (Except FileError String)} {t t' : FileTree}
    {result : Except FileError String} (h : file.run FileTree.handler t = (.finished result, t')) :
    Floor.Runs ⟨⟨j, t⟩, before ++ ⟨p, s, .keeping k file⟩ :: after⟩
      ⟨⟨j, t'⟩, before ++ ⟨p, s, .free (k.resume result)⟩ :: after⟩ := by
  induction file generalizing t with
  | done result =>
    cases h
    exact .step .kept
  | ask q next ih =>
    rcases FileTree.exists_handler q t with rfl | ⟨x, t₁, hx⟩
    · cases h
    · rw [Program.run, hx] at h
      exact (Floor.Runs.step (.file hx)).trans (ih x h)

/-- An artifact is written in moves at a desk. -/
theorem FileTree.runs_of_writeArtifact (k : Keeping) (moment : Calendar.Instant) {t t' : FileTree}
    {result : Except FileError String}
    (h : t.writeArtifact p.job.config.artifactDir (k.stem moment) k.text = (.finished result, t')) :
    Floor.Runs ⟨⟨j, t⟩, before ++ ⟨p, s, .free k.task⟩ :: after⟩
      ⟨⟨j, t'⟩, before ++ ⟨p, s, .free (k.resume result)⟩ :: after⟩ :=
  (Floor.Runs.step (.keep moment rfl)).trans (FileTree.runs_of_run h)

end

/-! ## Worlds -/

/-- What a store answers, if it answers. -/
def Serving.answer? (serve : Serving σ) (records : List Stored) (s : σ) :
    Option (Except StoreError BatchResult × σ) :=
  match serve records s with
  | (.reply answer, _, s') => some (answer, s')
  | _ => none

/-- Nothing is amiss in a world: nobody cancels the import, and the journal does what it is asked to do. -/
structure World.IsPlain (w : World σ) : Prop where
  notCancelled : w.cancelled = false
  notCancelling : w.cancelAfter = none
  failing : w.journal.failing = []
  manner : w.journal.manner = .answering

/-- What a job needs for itself is what it finds in a world. -/
structure Party.FindsIn (p : Party σ) (serve : Serving σ) (w : World σ) : Prop where
  plain : w.IsPlain
  opening : p.opening = openSource dataField w.path w.place
  serve : p.serve = serve.answer?
  artifactDir : p.job.config.artifactDir = w.artifactDir

/-- What a world has in common with others. -/
def World.common (w : World σ) : Common := ⟨w.journal.journal, w.files⟩

namespace World

variable {p : Party σ} {serve : Serving σ} {w w' : World σ} {before after : List (Desk σ)}

/-- A world writes an artifact in moves at a desk, and is else as before. -/
theorem runs_of_keep (k : Keeping) (moment : Calendar.Instant) {result : Except FileError String}
    (hp : p.FindsIn serve w) (h : w.keep (k.stem moment) k.text = (.answer result, w')) :
    p.FindsIn serve w' ∧
      Floor.Runs ⟨w.common, before ++ ⟨p, w.store, .free k.task⟩ :: after⟩
        ⟨w'.common, before ++ ⟨p, w'.store, .free (k.resume result)⟩ :: after⟩ := by
  obtain ⟨⟨hcancelled, hcancelling, hfailing, hmanner⟩, hopening, hserves, hdir⟩ := hp
  rcases hwritten : w.files.writeArtifact w.artifactDir (k.stem moment) k.text with ⟨ending, files⟩
  unfold World.keep at h
  rw [hwritten] at h
  cases ending with
  | finished result' =>
    cases h
    rw [← hdir] at hwritten
    exact ⟨⟨⟨hcancelled, hcancelling, hfailing, hmanner⟩, hopening, hserves, hdir⟩,
      FileTree.runs_of_writeArtifact k moment hwritten⟩
  | stalled => cases h
  | collapsed => cases h

/-- What a world answers is answered in moves at a desk. -/
theorem runs_of_answer (hserve : ∀ records s, (serve records s).2.1 = false) (hp : p.FindsIn serve w)
    {q : Request} {x : q.Answer} (h : surroundings serve q w = (.answer x, w'))
    (next : q.Answer → Task Outcome) :
    p.FindsIn serve w' ∧
      Floor.Runs ⟨w.common, before ++ ⟨p, w.store, .free (.ask q next)⟩ :: after⟩
        ⟨w'.common, before ++ ⟨p, w'.store, .free (next x)⟩ :: after⟩ := by
  have hfound := hp
  obtain ⟨⟨hcancelled, hcancelling, hfailing, hmanner⟩, hopening, hserves, hdir⟩ := hp
  cases q with
  | now =>
    cases h
    exact ⟨hfound, .step (.answer (.now _))⟩
  | freshId =>
    cases h
    exact ⟨hfound, .step (.answer (.freshId _))⟩
  | enter phase =>
    cases h
    unfold World.enter
    split
    · exact ⟨hfound, .step (.answer (.enter phase))⟩
    · exact ⟨⟨⟨hcancelled, hcancelling, hfailing, hmanner⟩, hopening, hserves, hdir⟩,
        .step (.answer (.enter phase))⟩
  | notice n =>
    rw [surroundings] at h
    split at h
    · cases h
    · cases h
      exact ⟨⟨⟨hcancelled, hcancelling, hfailing, hmanner⟩, hopening, hserves, hdir⟩,
        .step (.answer (.notice n))⟩
  | isCancelled =>
    rw [surroundings, hcancelled] at h
    cases h
    exact ⟨hfound, .step (.answer .isCancelled)⟩
  | openDocument =>
    rw [surroundings, ← hopening] at h
    cases h
    exact ⟨hfound, .step (.answer .openDocument)⟩
  | addMany records =>
    have hquiet := hserve records w.store
    rw [surroundings, World.addMany] at h
    rcases hserved : serve records w.store with ⟨response, cancels, store⟩
    rw [hserved] at hquiet h
    obtain rfl : cancels = false := hquiet
    dsimp only at h
    rw [hcancelled] at h
    cases response with
    | reply answer =>
      cases h
      have hanswer : p.serve records w.store = some (answer, store) := by
        rw [hserves, Serving.answer?, hserved]
      exact ⟨⟨⟨rfl, hcancelling, hfailing, hmanner⟩, hopening, hserves, hdir⟩,
        .step (.answer (.addMany hanswer))⟩
    | never => cases h
    | breakdown => cases h
  | pause millis =>
    rw [surroundings, hcancelled] at h
    cases h
    exact ⟨hfound, .step (.answer (.pause millis))⟩
  | keepBatch kind batch =>
    rw [surroundings, hcancelled] at h
    rcases hkept : w.keep (batch.fileStem kind) batch.fileText with ⟨reply, w₁⟩
    rw [hkept] at h
    cases reply with
    | answer result =>
      cases h
      exact runs_of_keep (.batch kind batch next) w.clock hfound hkept
    | silence => cases h
    | collapse => cases h
  | keepRecords kind entries => exact runs_of_keep (.records kind entries next) w.clock hfound h
  | progress statistics =>
    rw [surroundings, World.listen, hcancelled, hcancelling] at h
    cases h
    exact ⟨⟨⟨rfl, rfl, hfailing, hmanner⟩, hopening, hserves, hdir⟩, .step (.answer (.progress statistics))⟩
  | append e =>
    rw [surroundings, JournalDesk.append, hfailing] at h
    dsimp only [List.contains_nil] at h
    rw [journalReply, withJournal, hmanner] at h
    cases h
    exact ⟨⟨⟨hcancelled, hcancelling, rfl, rfl⟩, hopening, hserves, hdir⟩,
      (Floor.Runs.step .number).trans (.step .log)⟩
  | loadCheckpoint runId =>
    rw [surroundings, JournalDesk.load, hfailing, journalReply, hmanner] at h
    cases h
    exact ⟨hfound, .step .load⟩
  | saveCheckpoint c =>
    rw [surroundings, JournalDesk.save, hfailing] at h
    cases hsaved : w.journal.journal.saveCheckpoint c with
    | ok j =>
      rw [hsaved] at h
      dsimp only at h
      rw [journalReply, withJournal, hmanner] at h
      cases h
      exact ⟨⟨⟨hcancelled, hcancelling, rfl, rfl⟩, hopening, hserves, hdir⟩, .step (.save hsaved)⟩
    | error e =>
      rw [hsaved] at h
      dsimp only at h
      rw [journalReply, withJournal, hmanner] at h
      cases h
      exact ⟨⟨⟨hcancelled, hcancelling, hfailing, hmanner⟩, hopening, hserves, hdir⟩,
        .step (.refuse hsaved)⟩

/-- A task that comes to its end in a world comes to it in moves at a desk. -/
theorem runs_of_run (hserve : ∀ records s, (serve records s).2.1 = false) (hp : p.FindsIn serve w)
    {task : Task Outcome} {outcome : Outcome} (h : w.run serve task = (.finished outcome, w'))
    (before after : List (Desk σ)) :
    p.FindsIn serve w' ∧
      Floor.Runs ⟨w.common, before ++ ⟨p, w.store, .free task⟩ :: after⟩
        ⟨w'.common, before ++ ⟨p, w'.store, .free (.done outcome)⟩ :: after⟩ := by
  unfold World.run at h
  induction task generalizing w with
  | done outcome =>
    cases h
    exact ⟨hp, .refl⟩
  | ask q next ih =>
    rw [Program.run] at h
    rcases hanswer : surroundings serve q w with ⟨reply, w₁⟩
    rw [hanswer] at h
    cases reply with
    | answer x =>
      obtain ⟨hp₁, hfirst⟩ := runs_of_answer hserve hp hanswer next
      obtain ⟨hp', hrest⟩ := ih x hp₁ h
      exact ⟨hp', hfirst.trans hrest⟩
    | silence => cases h
    | collapse => cases h

/-- A world that follows another one has what a job needs for itself, and the rest from the other. -/
theorem findsIn_follow {before : World σ} (hbefore : before.cancelled = false) (hp : p.FindsIn serve w) :
    p.FindsIn serve (World.follow (fun _ own => own) before w) := by
  obtain ⟨⟨hcancelled, hcancelling, hfailing, hmanner⟩, hopening, hserves, hdir⟩ := hp
  have hfollowed : (before.cancelled || w.cancelled) = false := by rw [hbefore, hcancelled]; rfl
  exact ⟨⟨hfollowed, hcancelling, hfailing, hmanner⟩, hopening, hserves, hdir⟩

end World

/-! ## Rehearsals -/

section

variable {serve : Serving σ} {rows : List (Party σ × World σ)} {c : Common}

/-- A job and the task and the world in which it is rehearsed. -/
abbrev rehearsed (row : Party σ × World σ) : String × Task Outcome × World σ :=
  (row.1.job.kind.key, row.1.task, row.2)

/-- Tasks that are run one after the other, and all come to their ends, come to them in moves at their desks,
behind desks at which all is done already. -/
theorem exists_runs_of_runTasks (hserve : ∀ records s, (serve records s).2.1 = false)
    (hrows : ∀ row ∈ rows, row.1.FindsIn serve row.2 ∧ row.1.store = row.2.store)
    {before : Option (World σ)} (hbefore : ∀ w, before = some w → w.cancelled = false ∧ w.common = c)
    (hfirst : before = none → ∀ row ∈ rows, row.2.common = c)
    (hended : ∀ x ∈ runTasks serve (fun _ own => own) before (rows.map rehearsed),
      ∃ outcome, x.2.1 = .finished outcome) (done : List (Desk σ)) :
    ∃ c' desks, Floor.Runs ⟨c, done ++ rows.map fun row => ⟨row.1, row.1.store, .free row.1.task⟩⟩
        ⟨c', done ++ desks⟩ ∧
      desks.map Desk.ending =
        (runTasks serve (fun _ own => own) before (rows.map rehearsed)).map fun x => (x.1, x.2.1) := by
  induction rows generalizing before c done with
  | nil => exact ⟨c, [], .refl, rfl⟩
  | cons row rows ih =>
    obtain ⟨p, w⟩ := row
    obtain ⟨hp, hstore⟩ := hrows _ List.mem_cons_self
    generalize hworld : (before.map (World.follow (fun _ own => own) · w)).getD w = world
    have hfound : p.FindsIn serve world ∧ world.store = p.store ∧ world.common = c := by
      subst hworld
      cases before with
      | none => exact ⟨hp, hstore.symm, hfirst rfl _ List.mem_cons_self⟩
      | some w₀ =>
        obtain ⟨hcancelled, hcommon⟩ := hbefore w₀ rfl
        exact ⟨World.findsIn_follow hcancelled hp, hstore.symm, hcommon⟩
    obtain ⟨hfound, hstore', rfl⟩ := hfound
    simp only [List.map_cons, rehearsed, runTasks, hworld] at hended ⊢
    rcases hrun : world.run serve p.task with ⟨ending, world'⟩
    rw [hrun] at hended
    obtain ⟨outcome, houtcome⟩ := hended _ List.mem_cons_self
    obtain rfl : ending = .finished outcome := houtcome
    obtain ⟨hfound', hmoves⟩ := World.runs_of_run hserve hfound hrun done
      (rows.map fun row => ⟨row.1, row.1.store, .free row.1.task⟩)
    obtain ⟨c', desks, hrest, hendings⟩ := ih (fun row hrow => hrows row (List.mem_cons_of_mem _ hrow))
      (fun w (hw : some world' = some w) => by cases hw; exact ⟨hfound'.plain.notCancelled, rfl⟩)
      (fun hnone => by cases hnone) (fun x hx => hended x (List.mem_cons_of_mem _ hx))
      (done ++ [⟨p, world'.store, .free (.done outcome)⟩])
    rw [List.append_assoc, List.append_assoc] at hrest
    rw [hstore'] at hmoves
    refine ⟨c', ⟨p, world'.store, .free (.done outcome)⟩ :: desks, hmoves.trans hrest, ?_⟩
    rw [List.map_cons, hendings]
    rfl

/-- When a rehearsal of jobs with stores of their own comes to reports, so do the jobs on a floor: it is one of
the ways in which the desks may move. -/
theorem exists_runs_of_rehearse {r : Registry} {reports : List JobReport}
    (hserve : ∀ records s, (serve records s).2.1 = false)
    (hrows : ∀ row ∈ rows, row.1.FindsIn serve row.2 ∧ row.1.store = row.2.store)
    (hcommon : ∀ row ∈ rows, row.2.common = c)
    (htasks : r.tasks (rows.map (·.1.job)) = .ok (rows.map (·.1.task)))
    (h : (rehearse serve (fun _ own => own) r (rows.map fun row => ⟨row.1.job, row.2⟩)).result =
      some (.ok reports)) :
    ∃ f, (Floor.start (rows.map (·.1)) c).Runs f ∧ (conclude false f.endings).2 = some (.ok reports) := by
  generalize hjobs : (rows.map fun row => (⟨row.1.job, row.2⟩ : Rehearsal σ)) = jobs at h
  have hfound : r.tasks (jobs.map (·.job)) = .ok (rows.map (·.1.task)) := by
    rw [← hjobs, List.map_map]
    exact htasks
  have hstarted : (jobs.zip (rows.map (·.1.task))).map (fun x => (x.1.job.kind.key, x.2, x.1.world)) =
      rows.map rehearsed := by
    rw [← hjobs, List.zip_map', List.map_map]
    rfl
  generalize htold : runTasks serve (fun _ own => own) none (rows.map rehearsed) = told
  have hresult : (rehearse serve (fun _ own => own) r jobs).result =
      (conclude (told.any fun x => x.2.2.cancelled) (told.map fun x => (x.1, x.2.1))).2 := by
    rw [← htold, ← hstarted]
    unfold rehearse
    rw [hfound]
  rw [hresult] at h
  cases hcancelled : told.any fun x => x.2.2.cancelled with
  | true =>
    rw [hcancelled] at h
    cases h
  | false =>
    rw [hcancelled] at h
    have hended := conclude_eq_reports_iff.1 h
    have hall : ∀ x ∈ told, ∃ outcome, x.2.1 = .finished outcome := by
      intro x hx
      have hmem : (x.1, x.2.1) ∈ reports.map reported := hended ▸ List.mem_map_of_mem hx
      obtain ⟨report, -, heq⟩ := List.mem_map.1 hmem
      exact ⟨report.2, (Prod.mk.inj heq).2.symm⟩
    rw [← htold] at hall
    obtain ⟨c', desks, hruns, hendings⟩ := exists_runs_of_runTasks hserve hrows
      (fun w (hw : none = some w) => by cases hw) (fun _ => hcommon) hall []
    refine ⟨⟨c', desks⟩, ?_, conclude_eq_reports_iff.2 ?_⟩
    · unfold Floor.start
      rw [List.map_map]
      exact hruns
    · rw [← hended, ← htold]
      exact hendings

end

end CatalogImport
