import CatalogImport.Import.Launch
import CatalogImport.Proofs.Import.SideBySide
import CatalogImport.Rehearsal.Hall
import Mathlib.Data.List.Induction

/-!
# Launched jobs

Of the imports that have been put into a registry under a key the last one counts (`Registry.importer?_filled`).
When there is one for each job, every task stands where it has come by what it has been told (`Launch.Sound`), in
whatever order the tasks take turns, and has come to what is reported of it (`Launch.Sound.of_reports`).  When
there is none for some job, nothing is launched (`Registry.runAll_of_find?`).  Main statement:
`jobs_run_by_last_imports`.
-/

namespace CatalogImport

variable {σ : Type}

/-! ## Registries -/

namespace Registry

variable {entries : List (String × Importer)} {key : String} {importer : Importer} {r : Registry}
  {jobs : List Job}

/-- Of the imports under a key this is the one that was put in last. -/
def IsLast (entries : List (String × Importer)) (key : String) (importer : Importer) : Prop :=
  ∃ before after, entries = before ++ (key, importer) :: after ∧ ∀ entry ∈ after, entry.1 ≠ key

theorem isLast_append_singleton {entry : String × Importer} : IsLast (entries ++ [entry]) key importer ↔
    entry = (key, importer) ∨ entry.1 ≠ key ∧ IsLast entries key importer := by
  constructor
  · rintro ⟨before, after, heq, hafter⟩
    rcases List.eq_nil_or_concat after with rfl | ⟨rest, last, rfl⟩
    · exact .inl (List.singleton_inj.1 (List.append_inj' heq rfl).2)
    · rw [List.concat_eq_append, ← List.cons_append, ← List.append_assoc] at heq
      obtain ⟨rfl, hlast⟩ := List.append_inj' heq rfl
      obtain rfl := List.singleton_inj.1 hlast
      rw [List.concat_eq_append] at hafter
      exact .inr ⟨hafter entry (by simp), before, rest, rfl, fun e he => hafter e (by simp [he])⟩
  · rintro (rfl | ⟨hne, before, after, rfl, hafter⟩)
    · exact ⟨entries, [], rfl, fun _ h => absurd h List.not_mem_nil⟩
    · refine ⟨before, after ++ [entry], by rw [List.append_assoc, List.cons_append], ?_⟩
      exact List.forall_mem_append.2 ⟨hafter, by simpa using hne⟩

theorem importer?_filled_append_singleton (entries : List (String × Importer)) (entry : String × Importer) :
    (filled (entries ++ [entry])).importer? key =
      if key = entry.1 then some entry.2 else (filled entries).importer? key := by
  rw [filled, List.foldl_append, List.foldl_cons, List.foldl_nil, importer?_register]
  rfl

/-- What is found in a registry has been put in last under the key. -/
theorem importer?_filled : (filled entries).importer? key = some importer ↔ IsLast entries key importer := by
  induction entries using List.reverseRecOn with
  | nil =>
    refine ⟨fun h => absurd h (by nofun), ?_⟩
    rintro ⟨before, after, heq, -⟩
    simp at heq
  | append_singleton entries entry ih =>
    rw [importer?_filled_append_singleton, isLast_append_singleton]
    by_cases hkey : key = entry.1
    · rw [if_pos hkey, Option.some.injEq, Prod.ext_iff]
      exact ⟨fun h => .inl ⟨hkey.symm, h⟩, fun h => h.elim (·.2) fun hne => absurd hkey.symm hne.1⟩
    · rw [if_neg hkey, ih]
      exact ⟨fun h => .inr ⟨Ne.symm hkey, h⟩, fun h => h.elim (fun heq => absurd (heq ▸ rfl) hkey) (·.2)⟩

/-- Nothing is found under a key if nothing has been put in under it. -/
theorem importer?_filled_eq_none :
    (filled entries).importer? key = none ↔ ∀ entry ∈ entries, entry.1 ≠ key := by
  induction entries using List.reverseRecOn with
  | nil => exact ⟨fun _ entry h => absurd h List.not_mem_nil, fun _ => rfl⟩
  | append_singleton entries entry ih =>
    rw [importer?_filled_append_singleton, List.forall_mem_append, ← ih]
    by_cases hkey : key = entry.1
    · simp [hkey]
    · simp [hkey, Ne.symm hkey]

/-- There is no import for the job. -/
def Misses (r : Registry) (job : Job) : Bool := (r.importer? job.kind.key).isNone

/-- When there is no import for some of the jobs, the first of these is complained about. -/
theorem tasks_of_find? {job : Job} (h : jobs.find? r.Misses = some job) :
    r.tasks jobs = .error (.unknownKind job.kind.key) := by
  induction jobs with
  | nil => cases h
  | cons first jobs ih =>
    rw [tasks, List.mapM_cons]
    cases hfirst : r.importer? first.kind.key with
    | none =>
      rw [List.find?_cons_of_pos (by rw [Misses, hfirst]; rfl)] at h
      obtain rfl := Option.some.inj h
      rw [lookup, hfirst]
      rfl
    | some importer =>
      rw [List.find?_cons_of_neg (by rw [Misses, hfirst]; exact Bool.false_ne_true)] at h
      have hrest := ih h
      rw [tasks] at hrest
      rw [lookup, hfirst, hrest]
      rfl

/-- When there is an import for each job, the job is run by it. -/
theorem exists_tasks (h : ∀ job ∈ jobs, r.importer? job.kind.key ≠ none) :
    ∃ tasks, r.tasks jobs = .ok tasks ∧ tasks.length = jobs.length ∧
      ∀ (i : Nat) (job : Job) (importer : Importer), jobs[i]? = some job →
        r.importer? job.kind.key = some importer → tasks[i]? = some (importer job) := by
  induction jobs with
  | nil => exact ⟨[], rfl, rfl, fun i job importer hi => by cases hi⟩
  | cons first jobs ih =>
    obtain ⟨hfirst, hrest⟩ := List.forall_mem_cons.1 h
    obtain ⟨importer, himporter⟩ := Option.ne_none_iff_exists'.1 hfirst
    obtain ⟨tasks, htasks, hlength, hall⟩ := ih hrest
    refine ⟨importer first :: tasks, ?_, by rw [List.length_cons, List.length_cons, hlength], ?_⟩
    · rw [Registry.tasks] at htasks
      rw [Registry.tasks, List.mapM_cons, lookup, himporter, htasks]
      rfl
    · intro i job importer' hi himporter'
      cases i with
      | zero =>
        obtain rfl := Option.some.inj hi
        obtain rfl := Option.some.inj (himporter.symm.trans himporter')
        rfl
      | succ i => exact hall i job importer' hi himporter'

end Registry

/-! ## Tasks that take turns -/

namespace Launch

/-- What one of the tasks has been told. -/
def toldTo (l : Launch σ) (i : Nat) : History :=
  l.told.filterMap fun x => if x.1 = i then some x.2 else none

/-- Each task is what it has become by what it has been told, and nobody else has been told anything. -/
structure Sound (tasks : List (String × Task Outcome)) (l : Launch σ) : Prop where
  length : l.tasks.length = tasks.length
  told : ∀ (i : Nat) (key : String) (task : Task Outcome), tasks[i]? = some (key, task) →
    ∃ x : Launched, l.tasks[i]? = some x ∧ x.key = key ∧ task.Told (l.toldTo i) x.task
  nobody : ∀ x ∈ l.told, x.1 < tasks.length

variable {tasks : List (String × Task Outcome)} {l : Launch σ} {answers : Nat → Surroundings σ}

theorem sound_start (tasks : List (String × Task Outcome)) (w : σ) : Sound tasks (start tasks w) where
  length := List.length_map ..
  told := fun i key task h => ⟨⟨key, task, .working⟩, by simp [start, h], rfl, .here _⟩
  nobody := fun x hx => absurd hx List.not_mem_nil

/-- What a turn does: the task gets its answer, or it does not go on, or there was nothing to do. -/
theorem turn_cases (answers : Nat → Surroundings σ) (l : Launch σ) (i : Nat) :
    (∃ key q next x w, l.tasks[i]? = some ⟨key, .ask q next, .working⟩ ∧
      l.turn answers i = ⟨l.tasks.set i ⟨key, next x, .working⟩, w, l.told ++ [(i, ⟨q, x⟩)]⟩) ∨
    (∃ key q next condition w, l.tasks[i]? = some ⟨key, .ask q next, .working⟩ ∧
      (∀ x w', answers i q l.surroundings ≠ (.answer x, w')) ∧
      l.turn answers i = ⟨l.tasks.set i ⟨key, .ask q next, condition⟩, w, l.told⟩) ∨
    l.turn answers i = l := by
  cases hi : l.tasks[i]? with
  | none => exact .inr (.inr (by rw [turn, hi]))
  | some x =>
    obtain ⟨key, task, condition⟩ := x
    cases condition with
    | working =>
      cases task with
      | done outcome => exact .inr (.inr (by rw [turn, hi]))
      | ask q next =>
        rcases hanswer : answers i q l.surroundings with ⟨reply, w⟩
        cases reply with
        | answer x =>
          refine .inl ⟨key, q, next, x, w, rfl, ?_⟩
          rw [turn, hi]
          simp only [hanswer]
        | silence =>
          refine .inr (.inl ⟨key, q, next, .waiting, w, rfl, by simp [hanswer], ?_⟩)
          rw [turn, hi]
          simp only [hanswer]
        | collapse =>
          refine .inr (.inl ⟨key, q, next, .broken, w, rfl, by simp [hanswer], ?_⟩)
          rw [turn, hi]
          simp only [hanswer]
    | waiting => exact .inr (.inr (by rw [turn, hi]; cases task <;> rfl))
    | broken => exact .inr (.inr (by rw [turn, hi]; cases task <;> rfl))

/-- What one task has been told is told to no other. -/
theorem filterMap_news {news : List (Nat × Exchange)} {i : Nat} (hnews : ∀ x ∈ news, x.1 = i) (j : Nat) :
    (news.filterMap fun x => if x.1 = j then some x.2 else none) = if i = j then news.map (·.2) else [] := by
  induction news with
  | nil => rw [List.filterMap_nil, List.map_nil, ite_self]
  | cons x news ih =>
    obtain ⟨hx, hrest⟩ := List.forall_mem_cons.1 hnews
    rw [List.filterMap_cons, ih hrest, hx]
    by_cases hij : i = j
    · simp only [if_pos hij, List.map_cons]
    · simp only [if_neg hij]

/-- A task that is put in place of another, with the same key. -/
theorem Sound.set {i : Nat} {key : String} {task task' : Task Outcome} {condition condition' : Condition} {w : σ}
    {news : List (Nat × Exchange)} (h : Sound tasks l) (hi : l.tasks[i]? = some ⟨key, task, condition⟩)
    (hnews : ∀ x ∈ news, x.1 = i) (htold : task.Told (news.map (·.2)) task') :
    Sound tasks ⟨l.tasks.set i ⟨key, task', condition'⟩, w, l.told ++ news⟩ where
  length := by
    rw [List.length_set]
    exact h.length
  told := fun j key' first hj => by
    obtain ⟨x, hx, rfl, hbefore⟩ := h.told j key' first hj
    have hsplit : ∀ j, toldTo ⟨l.tasks.set i ⟨key, task', condition'⟩, w, l.told ++ news⟩ j =
        l.toldTo j ++ if i = j then news.map (·.2) else [] := fun j => by
      rw [toldTo, toldTo, List.filterMap_append, filterMap_news hnews]
    by_cases hij : i = j
    · subst hij
      obtain rfl := Option.some.inj (hi.symm.trans hx)
      refine ⟨⟨key, task', condition'⟩, ?_, rfl, ?_⟩
      · rw [List.getElem?_set_self', hi]
        rfl
      · rw [hsplit, if_pos rfl]
        exact hbefore.trans htold
    · refine ⟨x, by rw [List.getElem?_set_ne hij, hx], rfl, ?_⟩
      rw [hsplit, if_neg hij, List.append_nil]
      exact hbefore
  nobody := List.forall_mem_append.2 ⟨h.nobody, fun x hx => by
    rw [hnews x hx, ← h.length]
    exact (List.getElem?_eq_some_iff.1 hi).1⟩

theorem Sound.turn (h : Sound tasks l) (answers : Nat → Surroundings σ) (i : Nat) :
    Sound tasks (l.turn answers i) := by
  rcases turn_cases answers l i with
    ⟨key, q, next, x, w, hi, hturn⟩ | ⟨key, q, next, condition, w, hi, -, hturn⟩ | hturn
  · rw [hturn]
    exact h.set hi (by simp) (.answered (.here _))
  · rw [hturn, ← List.append_nil l.told]
    exact h.set hi (by simp) (.here _)
  · rw [hturn]
    exact h

theorem Sound.run (h : Sound tasks l) (answers : Nat → Surroundings σ) (turns : List Nat) :
    Sound tasks (l.run answers turns) := by
  induction turns generalizing l with
  | nil => exact h
  | cons i turns ih => exact ih (h.turn answers i)

/-! ## Tasks that come to their ends -/

/-- All tasks go on. -/
def AllWorking (l : Launch σ) : Prop := ∀ x ∈ l.tasks, x.condition = .working

/-- Every question is answered. -/
def AllAnswered (answers : Nat → Surroundings σ) : Prop := ∀ i q w, ∃ x w', answers i q w = (.answer x, w')

/-- A task comes to its end when it gets turn after turn, and the others stay where they are. -/
theorem exists_run_replicate (hanswers : AllAnswered answers) {i : Nat} {key : String} {task : Task Outcome}
    (hi : l.tasks[i]? = some ⟨key, task, .working⟩) :
    ∃ k outcome, (l.run answers (List.replicate k i)).tasks = l.tasks.set i ⟨key, .done outcome, .working⟩ := by
  induction task generalizing l with
  | done outcome =>
    refine ⟨0, outcome, ?_⟩
    obtain ⟨hlt, hget⟩ := List.getElem?_eq_some_iff.1 hi
    rw [← hget, List.set_getElem_self]
    rfl
  | ask q next ih =>
    obtain ⟨x, w, hx⟩ := hanswers i q l.surroundings
    have hturn : l.turn answers i = ⟨l.tasks.set i ⟨key, next x, .working⟩, w, l.told ++ [(i, ⟨q, x⟩)]⟩ := by
      rw [turn, hi]
      simp only [hx]
    have hnext : (l.turn answers i).tasks[i]? = some ⟨key, next x, .working⟩ := by
      rw [hturn, List.getElem?_set_self', hi]
      rfl
    obtain ⟨k, outcome, hrun⟩ := ih x hnext
    refine ⟨k + 1, outcome, ?_⟩
    rw [List.replicate_succ, run, List.foldl_cons]
    rw [run] at hrun
    rw [hrun, hturn, List.set_set]

theorem AllWorking.set (h : AllWorking l) {i : Nat} {key : String} {task : Task Outcome} :
    ∀ x ∈ l.tasks.set i ⟨key, task, .working⟩, x.condition = .working := fun x hx =>
  (List.mem_or_eq_of_mem_set hx).elim (h x) fun heq => heq ▸ rfl

theorem AllWorking.turn (h : AllWorking l) (hanswers : AllAnswered answers) (i : Nat) :
    AllWorking (l.turn answers i) := by
  rcases turn_cases answers l i with
    ⟨key, q, next, x, w, hi, hturn⟩ | ⟨key, q, next, condition, w, hi, hnone, hturn⟩ | hturn
  · rw [hturn]
    exact h.set
  · obtain ⟨x, w', hx⟩ := hanswers i q l.surroundings
    exact absurd hx (hnone x w')
  · rw [hturn]
    exact h

theorem AllWorking.run (h : AllWorking l) (hanswers : AllAnswered answers) (turns : List Nat) :
    AllWorking (l.run answers turns) := by
  induction turns generalizing l with
  | nil => exact h
  | cons i turns ih => exact ih (h.turn hanswers i)

theorem run_append (answers : Nat → Surroundings σ) (l : Launch σ) (turns more : List Nat) :
    l.run answers (turns ++ more) = (l.run answers turns).run answers more := List.foldl_append

/-- One task after the other comes to its end. -/
theorem exists_run_ended (hanswers : AllAnswered answers) (h : AllWorking l) {n : Nat} (hn : n ≤ l.tasks.length) :
    ∃ turns, AllWorking (l.run answers turns) ∧ (l.run answers turns).tasks.length = l.tasks.length ∧
      ∀ i < n, ∃ key outcome, (l.run answers turns).tasks[i]? = some ⟨key, .done outcome, .working⟩ := by
  induction n with
  | zero => exact ⟨[], h, rfl, fun i hi => absurd hi (Nat.not_lt_zero i)⟩
  | succ n ih =>
    obtain ⟨turns, hworking, hlength, hended⟩ := ih (Nat.le_of_succ_le hn)
    have hlt : n < (l.run answers turns).tasks.length := by omega
    obtain ⟨⟨key, task, condition⟩, hx⟩ : ∃ x, (l.run answers turns).tasks[n]? = some x :=
      ⟨_, List.getElem?_eq_getElem hlt⟩
    obtain rfl : condition = .working := hworking _ (List.mem_of_getElem? hx)
    obtain ⟨k, outcome, hrun⟩ := exists_run_replicate hanswers hx
    refine ⟨turns ++ List.replicate k n, ?_, ?_, fun i hi => ?_⟩
    · rw [run_append, AllWorking, hrun]
      exact hworking.set
    · rw [run_append, hrun, List.length_set, hlength]
    · rw [run_append, hrun]
      by_cases hin : n = i
      · subst hin
        exact ⟨key, outcome, by rw [List.getElem?_set_self', hx]; rfl⟩
      · rw [List.getElem?_set_ne hin]
        exact hended i (by omega)

/-- When all tasks have come to their ends there are reports. -/
theorem exists_reports {tasks : List Launched}
    (h : ∀ x ∈ tasks, ∃ key outcome, x = ⟨key, .done outcome, .working⟩) :
    ∃ reports : List JobReport, tasks.map Launched.ending = reports.map reported := by
  induction tasks with
  | nil => exact ⟨[], rfl⟩
  | cons x tasks ih =>
    obtain ⟨⟨key, outcome, rfl⟩, hrest⟩ := List.forall_mem_cons.1 h
    obtain ⟨reports, hreports⟩ := ih hrest
    exact ⟨(key, outcome) :: reports, by rw [List.map_cons, hreports]; rfl⟩

/-- Whatever turns the tasks have had, with others they all come to their ends. -/
theorem exists_run_reports (hanswers : AllAnswered answers) (h : AllWorking l) :
    ∃ turns reports, (conclude false (l.run answers turns).endings).2 = some (.ok reports) := by
  obtain ⟨turns, -, hlength, hended⟩ := exists_run_ended hanswers h (Nat.le_refl _)
  have hall : ∀ x ∈ (l.run answers turns).tasks, ∃ key outcome, x = ⟨key, .done outcome, .working⟩ := by
    intro x hx
    obtain ⟨i, hlt, rfl⟩ := List.mem_iff_getElem.1 hx
    obtain ⟨key, outcome, hi⟩ := hended i (hlength ▸ hlt)
    exact ⟨key, outcome, (List.getElem?_eq_some_iff.1 hi).2⟩
  obtain ⟨reports, hreports⟩ := exists_reports hall
  exact ⟨turns, reports, conclude_eq_reports_iff.2 hreports⟩

end Launch

/-! ## Running jobs -/

section

variable {entries : List (String × Importer)} {jobs : List Job} {job : Job}

theorem Registry.misses_filled_iff :
    (filled entries).Misses job = true ↔ ∀ entry ∈ entries, entry.1 ≠ job.kind.key := by
  rw [Misses, Option.isNone_iff_eq_none, importer?_filled_eq_none]

/-- One of the jobs for which there is no import is the first. -/
theorem exists_first_missing (h : ∃ job ∈ jobs, ∀ entry ∈ entries, entry.1 ≠ job.kind.key) :
    ∃ before job after, jobs = before ++ job :: after ∧
      (∀ j ∈ before, ∃ entry ∈ entries, entry.1 = j.kind.key) ∧
      (∀ entry ∈ entries, entry.1 ≠ job.kind.key) ∧
      jobs.find? (Registry.filled entries).Misses = some job := by
  obtain ⟨job, hjob, hmissing⟩ := h
  have hsome : (jobs.find? (Registry.filled entries).Misses).isSome :=
    List.find?_isSome.2 ⟨job, hjob, Registry.misses_filled_iff.2 hmissing⟩
  obtain ⟨first, hfirst⟩ := Option.isSome_iff_exists.1 hsome
  obtain ⟨hmisses, before, after, hjobs, hbefore⟩ := List.find?_eq_some_iff_append.1 hfirst
  refine ⟨before, first, after, hjobs, fun j hj => ?_, Registry.misses_filled_iff.1 hmisses, hfirst⟩
  refine Classical.byContradiction fun hnone => ?_
  have hmisses : (Registry.filled entries).Misses j = true :=
    Registry.misses_filled_iff.2 fun entry hentry heq => hnone ⟨entry, hentry, heq⟩
  have hfound := hbefore j hj
  rw [hmisses] at hfound
  cases hfound

/-- When there is no import for one of the jobs nothing is launched, and the surroundings are as before. -/
theorem Registry.runAll_of_find? {r : Registry} (h : jobs.find? r.Misses = some job)
    (answers : Nat → Surroundings σ) (w : σ) (turns : List Nat) (cancelled : Bool) :
    r.runAll answers jobs w turns cancelled = ⟨⟨[], w, []⟩, [], some (.error (.unknownKind job.kind.key))⟩ := by
  rw [runAll, tasks_of_find? h]
  rfl

/-- When there is an import for each job, all are launched, and how they end is concluded from where they stand. -/
theorem Registry.runAll_of_tasks {r : Registry} {tasks : List (Task Outcome)} (h : r.tasks jobs = .ok tasks)
    (answers : Nat → Surroundings σ) (w : σ) (turns : List Nat) (cancelled : Bool) :
    (r.runAll answers jobs w turns cancelled).launch =
        (Launch.start ((jobs.map (·.kind.key)).zip tasks) w).run answers turns ∧
      (r.runAll answers jobs w turns cancelled).result = (conclude cancelled
        ((Launch.start ((jobs.map (·.kind.key)).zip tasks) w).run answers turns).endings).2 := by
  rw [runAll, h]
  exact ⟨rfl, rfl⟩

theorem Launched.eq_of_ending {x : Launched} {report : JobReport} (h : x.ending = reported report) :
    x.key = report.1 ∧ x.task = .done report.2 := by
  obtain ⟨key, task, condition⟩ := x
  obtain ⟨hkey, hending⟩ := Prod.mk.inj h
  cases condition with
  | broken => cases hending
  | _ =>
    cases task with
    | done outcome =>
      obtain rfl := Program.Ending.finished.inj hending
      exact ⟨hkey, rfl⟩
    | ask q next => cases hending

/-- What is reported of a task is what it has come to. -/
theorem Launch.Sound.of_reports {tasks : List (String × Task Outcome)} {l : Launch σ} (h : Launch.Sound tasks l)
    {reports : List JobReport} (hreports : l.endings = reports.map reported) :
    reports.length = tasks.length ∧ ∀ (i : Nat) (key : String) (task : Task Outcome),
      tasks[i]? = some (key, task) →
      ∃ outcome, reports[i]? = some (key, outcome) ∧ task.Yields (l.toldTo i) outcome := by
  refine ⟨?_, fun i key task hi => ?_⟩
  · have hlength := congrArg List.length hreports
    rw [Launch.endings, List.length_map, List.length_map, h.length] at hlength
    exact hlength.symm
  · obtain ⟨x, hx, rfl, htold⟩ := h.told i key task hi
    have hending := congrArg (·[i]?) hreports
    simp only [Launch.endings, List.getElem?_map, hx, Option.map_some] at hending
    obtain ⟨report, hreport, hsame⟩ := Option.map_eq_some_iff.1 hending.symm
    obtain ⟨hkey, hdone⟩ := Launched.eq_of_ending hsame.symm
    rw [hdone] at htold
    exact ⟨report.2, by rw [hreport, hkey], htold⟩

/-- When there is no import for some of the jobs, running them comes to the complaint about the first of these,
and nobody has been asked anything, so the surroundings are as before.  When there is one for each, every job is
a task of its own, that of the import that was put in last under its key, from the beginning to where it has come
by what it has been told.  The reports, if there are any, say what each of these tasks has come to at its end, and
when all questions are answered the tasks may be given turns until there are reports. -/
theorem jobs_run_by_last_imports (entries : List (String × Importer)) (answers : Nat → Surroundings σ)
    (jobs : List Job) (w : σ) (turns : List Nat) :
    ((∃ job ∈ jobs, ∀ entry ∈ entries, entry.1 ≠ job.kind.key) → ∃ before job after,
      jobs = before ++ job :: after ∧ (∀ j ∈ before, ∃ entry ∈ entries, entry.1 = j.kind.key) ∧
      (∀ entry ∈ entries, entry.1 ≠ job.kind.key) ∧
      ∀ cancelled, (Registry.filled entries).runAll answers jobs w turns cancelled =
        ⟨⟨[], w, []⟩, [], some (.error (.unknownKind job.kind.key))⟩) ∧
    ((∀ job ∈ jobs, ∃ entry ∈ entries, entry.1 = job.kind.key) →
      ((Registry.filled entries).runAll answers jobs w turns false).launch.tasks.length = jobs.length ∧
      (∀ x ∈ ((Registry.filled entries).runAll answers jobs w turns false).launch.told, x.1 < jobs.length) ∧
      (∀ i job importer, jobs[i]? = some job → Registry.IsLast entries job.kind.key importer →
        ∃ x : Launched, ((Registry.filled entries).runAll answers jobs w turns false).launch.tasks[i]? = some x ∧
          x.key = job.kind.key ∧ (importer job).Told
            (((Registry.filled entries).runAll answers jobs w turns false).launch.toldTo i) x.task) ∧
      (∀ reports, ((Registry.filled entries).runAll answers jobs w turns false).result = some (.ok reports) →
        reports.length = jobs.length ∧
        ∀ i job importer, jobs[i]? = some job → Registry.IsLast entries job.kind.key importer →
          ∃ outcome, reports[i]? = some (job.kind.key, outcome) ∧ (importer job).Yields
            (((Registry.filled entries).runAll answers jobs w turns false).launch.toldTo i) outcome) ∧
      (Launch.AllAnswered answers → ∃ more reports,
        ((Registry.filled entries).runAll answers jobs w (turns ++ more) false).result = some (.ok reports))) := by
  refine ⟨fun h => ?_, fun h => ?_⟩
  · obtain ⟨before, job, after, hjobs, hbefore, hmissing, hfirst⟩ := exists_first_missing h
    exact ⟨before, job, after, hjobs, hbefore, hmissing, Registry.runAll_of_find? hfirst answers w turns⟩
  · have hfound : ∀ job ∈ jobs, (Registry.filled entries).importer? job.kind.key ≠ none := by
      intro job hjob hnone
      obtain ⟨entry, hentry, hkey⟩ := h job hjob
      exact Registry.importer?_filled_eq_none.1 hnone entry hentry hkey
    obtain ⟨tasks, htasks, hlength, hall⟩ := Registry.exists_tasks hfound
    have hzip : ∀ (i : Nat) (job : Job) (importer : Importer), jobs[i]? = some job →
        Registry.IsLast entries job.kind.key importer →
        ((jobs.map (·.kind.key)).zip tasks)[i]? = some (job.kind.key, importer job) := by
      intro i job importer hi hlast
      refine List.getElem?_zip_eq_some.2 ⟨by rw [List.getElem?_map, hi]; rfl, ?_⟩
      exact hall i job importer hi (Registry.importer?_filled.2 hlast)
    have hsize : ((jobs.map (·.kind.key)).zip tasks).length = jobs.length := by
      rw [List.length_zip, List.length_map, hlength, Nat.min_self]
    obtain ⟨hlaunch, hresult⟩ := Registry.runAll_of_tasks htasks answers w turns false
    have hsound := (Launch.sound_start ((jobs.map (·.kind.key)).zip tasks) w).run answers turns
    rw [hlaunch, hresult]
    refine ⟨hsound.length.trans hsize, fun x hx => hsize ▸ hsound.nobody x hx,
      fun i job importer hi hlast => hsound.told i _ _ (hzip i job importer hi hlast), fun reports h => ?_,
      fun hanswers => ?_⟩
    · obtain ⟨hreports, hended⟩ := hsound.of_reports (conclude_eq_reports_iff.1 h)
      exact ⟨hreports.trans hsize, fun i job importer hi hlast => hended i _ _ (hzip i job importer hi hlast)⟩
    · have hstart : Launch.AllWorking (Launch.start ((jobs.map (·.kind.key)).zip tasks) w) := by
        intro x hx
        obtain ⟨y, -, rfl⟩ := List.mem_map.1 hx
        rfl
      obtain ⟨more, reports, hreports⟩ := Launch.exists_run_reports hanswers (hstart.run hanswers turns)
      refine ⟨more, reports, ?_⟩
      rw [(Registry.runAll_of_tasks htasks answers w (turns ++ more) false).2, Launch.run_append]
      exact hreports

end

namespace Sample

/-- An import for sets that was put in place of one for cards. -/
def entries : List (String × Importer) := [("sets", importerOf Card), ("sets", importerOf CardSet)]

/-- All jobs import the document, and the store takes what it gets. -/
def attended : Nat → Surroundings (Scene × Nat) := fun _ => Scene.surroundings document

/-- Turns of the first job. -/
def firstTurns : List Nat := List.replicate 60 0

/-- Three elements of the document are sets. -/
def setsCounted : Statistics := ⟨3, 3, 0, 1, 1, 0, .epoch, some .epoch⟩

/-- None of the four is a card. -/
def cardsCounted : Statistics := ⟨0, 0, 0, 0, 4, 0, .epoch, some .epoch⟩

theorem result_entries : ((Registry.filled entries).runAll attended [Floor.Sample.job .sets] (scene, 9)
    firstTurns false).result = some (.ok [("sets", .ok setsCounted)]) := by decide +kernel

theorem run_cards : ((importerOf Card (Floor.Sample.job .sets)).run (Scene.surroundings document) (scene, 9)).1 =
    .finished (.ok cardsCounted) := by decide +kernel

end Sample

/-- Of two jobs there is no import for the second.  The first alone is run by the import that was put in last and
not by the one before it, which would have found no card. -/
theorem sets_run_by_last_import :
    (Registry.filled Sample.entries).runAll Sample.attended [Floor.Sample.job .sets, Floor.Sample.job .cards]
        (Sample.scene, 9) [0, 1] false =
      ⟨⟨[], (Sample.scene, 9), []⟩, [], some (.error (.unknownKind "cards"))⟩ ∧
    ((Registry.filled Sample.entries).runAll Sample.attended [Floor.Sample.job .sets] (Sample.scene, 9)
      Sample.firstTurns false).result = some (.ok [("sets", .ok Sample.setsCounted)]) ∧
    (importerOf CardSet (Floor.Sample.job .sets)).Yields (((Registry.filled Sample.entries).runAll Sample.attended
      [Floor.Sample.job .sets] (Sample.scene, 9) Sample.firstTurns false).launch.toldTo 0)
        (.ok Sample.setsCounted) ∧
    ((importerOf Card (Floor.Sample.job .sets)).run (Scene.surroundings Sample.document) (Sample.scene, 9)).1 =
      .finished (.ok Sample.cardsCounted) ∧
    ∃ more reports, ((Registry.filled Sample.entries).runAll Sample.attended [Floor.Sample.job .sets]
      (Sample.scene, 9) ([] ++ more) false).result = some (.ok reports) := by
  have hsets : ∀ job ∈ [Floor.Sample.job .sets], ∃ entry ∈ Sample.entries, entry.1 = job.kind.key := by
    intro job hjob
    obtain rfl := List.mem_singleton.1 hjob
    exact ⟨_, List.mem_cons_self, rfl⟩
  have hcards : ∀ entry ∈ Sample.entries, entry.1 ≠ (Floor.Sample.job .cards).kind.key := by
    simp [Sample.entries, Floor.Sample.job, RecordKind.key]
  have hlast : Registry.IsLast Sample.entries (Floor.Sample.job .sets).kind.key (importerOf CardSet) :=
    ⟨[("sets", importerOf Card)], [], rfl, fun _ hentry => absurd hentry List.not_mem_nil⟩
  have hattends : Scene.Attends Sample.document (Scene.surroundings Sample.document) Prod.fst :=
    Scene.attends_surroundings
  obtain ⟨hunknown, -⟩ := jobs_run_by_last_imports Sample.entries Sample.attended
    [Floor.Sample.job .sets, Floor.Sample.job .cards] (Sample.scene, 9) [0, 1]
  obtain ⟨before, job, after, hjobs, -, hmissing, hrefused⟩ := hunknown ⟨Floor.Sample.job .cards, by simp, hcards⟩
  have hjob : job ∈ [Floor.Sample.job .sets, Floor.Sample.job .cards] := by
    rw [hjobs]
    exact List.mem_append_right _ List.mem_cons_self
  obtain rfl : job = Floor.Sample.job .cards := by
    rcases List.mem_cons.1 hjob with rfl | hjob
    · exact absurd rfl (hmissing _ List.mem_cons_self)
    · exact List.mem_singleton.1 hjob
  obtain ⟨-, hknown⟩ := jobs_run_by_last_imports Sample.entries Sample.attended [Floor.Sample.job .sets]
    (Sample.scene, 9) Sample.firstTurns
  obtain ⟨-, -, -, hreports, -⟩ := hknown hsets
  obtain ⟨-, hended⟩ := hreports _ Sample.result_entries
  obtain ⟨outcome, hreported, hyields⟩ := hended 0 _ _ rfl hlast
  obtain rfl : Except.ok Sample.setsCounted = outcome := congrArg Prod.snd (Option.some.inj hreported)
  obtain ⟨-, hbegun⟩ := jobs_run_by_last_imports Sample.entries Sample.attended [Floor.Sample.job .sets]
    (Sample.scene, 9) []
  obtain ⟨-, -, -, -, hends⟩ := hbegun hsets
  exact ⟨hrefused false, Sample.result_entries, hyields, Sample.run_cards, hends fun _ => hattends.answers⟩

end CatalogImport
