import CatalogImport.Proofs.Import.Floor
import CatalogImport.Proofs.Json.Words

/-!
# Jobs and their reports

What a registry runs for jobs are imports of records, each steady (`Registry.RunsImports.isSteady`).  Waiting for
them comes to reports exactly if all have ended, and then to one for each in its place
(`conclude_eq_reports_iff`).
-/

namespace CatalogImport

variable {σ : Type}

/-! ## Jobs from a registry -/

/-- Everything in the registry imports records of some type. -/
def Registry.RunsImports (r : Registry) : Prop :=
  ∀ key importer, r.importer? key = some importer →
    ∃ (R : Type) (_ : CatalogRecord R), importer = importerOf R

theorem Registry.runsImports_register {r : Registry} (h : r.RunsImports) (key : String) (R : Type)
    [CatalogRecord R] : (r.register key (importerOf R)).RunsImports := by
  intro other importer hfind
  rw [importer?_register] at hfind
  split at hfind
  · cases hfind
    exact ⟨R, inferInstance, rfl⟩
  · exact h other importer hfind

theorem Registry.runsImports_standard : Registry.standard.RunsImports := by
  have hempty : Registry.empty.RunsImports := fun key importer hfind => by cases hfind
  exact runsImports_register (runsImports_register hempty "sets" CardSet) "cards" Card

/-- The tasks of jobs are what is found for each of them. -/
theorem Registry.exists_importer_of_tasks {r : Registry} {job : Job} {jobs : List Job}
    {tasks : List (Task Outcome)} (h : r.tasks (job :: jobs) = .ok tasks) :
    ∃ importer rest, r.importer? job.kind.key = some importer ∧ r.tasks jobs = .ok rest ∧
      tasks = importer job :: rest := by
  unfold Registry.tasks at h
  rw [List.mapM_cons] at h
  obtain ⟨task, htask, h⟩ := Json.exists_of_bind_eq_ok h
  obtain ⟨rest, hrest, h⟩ := Json.exists_of_bind_eq_ok h
  unfold lookup at htask
  cases hfound : r.importer? job.kind.key with
  | none =>
    rw [hfound] at htask
    cases htask
  | some importer =>
    rw [hfound] at htask
    cases htask
    cases h
    exact ⟨importer, rest, rfl, hrest, rfl⟩

/-- What a registry runs for jobs is the same whenever it is run, but for the time. -/
theorem Registry.RunsImports.isSteady {r : Registry} (h : r.RunsImports) {parties : List (Party σ)}
    (htasks : r.tasks (parties.map (·.job)) = .ok (parties.map (·.task))) :
    ∀ p ∈ parties, p.IsSteady := by
  induction parties with
  | nil => exact fun p hp => absurd hp List.not_mem_nil
  | cons p parties ih =>
    obtain ⟨importer, rest, hfound, hrest, heq⟩ := exists_importer_of_tasks htasks
    obtain ⟨htask, rfl⟩ := List.cons.inj heq
    obtain ⟨R, hR, rfl⟩ := h _ _ hfound
    intro q hq
    rcases List.mem_cons.1 hq with rfl | hq
    · have hown : q.task = importerOf R q.job := htask
      unfold Party.IsSteady
      rw [hown]
      exact inStep_importerOf R q.job
    · exact ih hrest q hq

/-! ## The reports -/

/-- How a job ended of which there is a report. -/
def reported (report : JobReport) : String × Program.Ending Outcome := (report.1, .finished report.2)

theorem gather_reported (reports : List JobReport) : (gather (reports.map reported)).2 = .reports reports := by
  induction reports with
  | nil => rfl
  | cons report reports ih =>
    change (gather (reports.map reported)).2.cons report = _
    rw [ih]
    rfl

/-- Waiting for tasks comes to reports exactly if all have ended, and there is one for each in its place. -/
theorem gather_eq_reports_iff {endings : List (String × Program.Ending Outcome)} {reports : List JobReport} :
    (gather endings).2 = .reports reports ↔ endings = reports.map reported := by
  constructor
  · intro h
    induction endings generalizing reports with
    | nil =>
      cases h
      rfl
    | cons ending endings ih =>
      obtain ⟨key, ending⟩ := ending
      cases ending with
      | finished outcome =>
        change (gather endings).2.cons (key, outcome) = _ at h
        cases hrest : (gather endings).2 with
        | reports rest =>
          rw [hrest] at h
          cases h
          rw [ih hrest]
          rfl
        | broken reason =>
          rw [hrest] at h
          cases h
        | waiting =>
          rw [hrest] at h
          cases h
      | stalled => cases h
      | collapsed => cases h
  · rintro rfl
    exact gather_reported reports

theorem conclude_eq_reports_iff {endings : List (String × Program.Ending Outcome)}
    {reports : List JobReport} :
    (conclude false endings).2 = some (.ok reports) ↔ endings = reports.map reported := by
  rw [← gather_eq_reports_iff]
  unfold conclude
  rcases gather endings with ⟨notices, gathered⟩
  cases gathered <;> simp

/-- Where all jobs have ended, there is a report of each. -/
theorem Desk.exists_reports {desks : List (Desk σ)}
    (h : ∀ d ∈ desks, ∃ outcome, d.doing = .free (.done outcome)) :
    ∃ reports : List JobReport, desks.map Desk.ending = reports.map reported := by
  induction desks with
  | nil => exact ⟨[], rfl⟩
  | cons d desks ih =>
    obtain ⟨reports, hreports⟩ := ih fun x hx => h x (List.mem_cons_of_mem _ hx)
    obtain ⟨outcome, hdoing⟩ := h d List.mem_cons_self
    refine ⟨(d.party.job.kind.key, outcome) :: reports, ?_⟩
    rw [List.map_cons, List.map_cons, hreports, ending, hdoing]
    rfl

/-- Where there is a report of each, all jobs have ended. -/
theorem Desk.exists_done_of_reports {desks : List (Desk σ)} {reports : List JobReport}
    (h : desks.map Desk.ending = reports.map reported) {d : Desk σ} (hd : d ∈ desks) :
    ∃ outcome, d.doing = .free (.done outcome) := by
  obtain ⟨report, -, hreport⟩ := List.mem_map.1 (h ▸ List.mem_map_of_mem hd : d.ending ∈ reports.map reported)
  obtain ⟨p, s, doing⟩ := d
  have hended := congrArg Prod.snd hreport
  unfold reported ending at hended
  split at hended
  · next outcome hdoing => exact ⟨outcome, hdoing⟩
  · cases hended
  · cases hended

/-- The reports of jobs have the keys of their kinds. -/
theorem Desk.keys_of_reports {desks : List (Desk σ)} {reports : List JobReport}
    (h : desks.map Desk.ending = reports.map reported) :
    reports.map (·.1) = (desks.map (·.party)).map (·.job.kind.key) := by
  have hkeys := congrArg (List.map (·.1)) h
  rw [List.map_map, List.map_map] at hkeys
  rw [List.map_map]
  exact hkeys.symm

end CatalogImport
