import CatalogImport.Import.Jobs

/-!
# Launching jobs

When there is an import for each of them, all jobs are launched, each as a task of its own.  The tasks take turns
in any order, and in a turn a task gets the answer to one question.
-/

namespace CatalogImport

variable {σ : Type}

/-- How a launched task is. -/
inductive Condition where
  | working
  /-- The answer to its question never comes. -/
  | waiting
  | broken
  deriving DecidableEq

/-- A task that has been launched, as far as it has been answered. -/
structure Launched where
  key : String
  task : Task Outcome
  condition : Condition

/-- How a task ends when it gets no more turns. -/
def Launched.ending (x : Launched) : String × Program.Ending Outcome :=
  (x.key, match x.condition, x.task with
    | .broken, _ => .collapsed
    | _, .done outcome => .finished outcome
    | _, .ask _ _ => .stalled)

/-- Tasks that have been launched, their common surroundings, and what each of them has been told. -/
structure Launch (σ : Type) where
  tasks : List Launched
  surroundings : σ
  told : List (Nat × (q : Request) × q.Answer)

namespace Launch

/-- All tasks are to begin. -/
def start (tasks : List (String × Task Outcome)) (w : σ) : Launch σ :=
  ⟨tasks.map fun (key, task) => ⟨key, task, .working⟩, w, []⟩

/-- The turn of one of the tasks, of which each has its own way to ask. -/
def turn (answers : Nat → Surroundings σ) (l : Launch σ) (i : Nat) : Launch σ :=
  match l.tasks[i]? with
  | some ⟨key, .ask q next, .working⟩ =>
    match answers i q l.surroundings with
    | (.answer x, w) => ⟨l.tasks.set i ⟨key, next x, .working⟩, w, l.told ++ [(i, ⟨q, x⟩)]⟩
    | (.silence, w) => ⟨l.tasks.set i ⟨key, .ask q next, .waiting⟩, w, l.told⟩
    | (.collapse, w) => ⟨l.tasks.set i ⟨key, .ask q next, .broken⟩, w, l.told⟩
  | _ => l

/-- The turns of tasks, one after the other. -/
def run (answers : Nat → Surroundings σ) (l : Launch σ) (turns : List Nat) : Launch σ :=
  turns.foldl (turn answers) l

/-- How the tasks end when none of them gets more turns. -/
def endings (l : Launch σ) : List (String × Program.Ending Outcome) := l.tasks.map Launched.ending

end Launch

/-- What comes of running jobs. -/
structure Ran (σ : Type) where
  launch : Launch σ
  notices : List Notice
  result : Option (Except JobsError (List JobReport))

/-- Runs jobs whose imports a registry knows, in the turns that their tasks get, and with or without a
cancellation. -/
def Registry.runAll (r : Registry) (answers : Nat → Surroundings σ) (jobs : List Job) (w : σ) (turns : List Nat)
    (cancelled : Bool) : Ran σ :=
  match r.tasks jobs with
  | .error e => ⟨.start [] w, [], some (.error e)⟩
  | .ok tasks =>
    let launch := (Launch.start ((jobs.map (·.kind.key)).zip tasks) w).run answers turns
    let (notices, result) := conclude cancelled launch.endings
    ⟨launch, notices, result⟩

end CatalogImport
