import CatalogImport.Import.Jobs
import CatalogImport.Rehearsal.World

/-!
# Rehearsing several jobs

Jobs are rehearsed one after the other, each in a world of its own.  The journal and the files are the
same for all of them, and once one of them has been cancelled so are those that follow.
-/

namespace CatalogImport

/-- A job and the world in which it is rehearsed. -/
structure Rehearsal (σ : Type) where
  job : Job
  world : World σ

/-- The world of a job after the world of the job before it. -/
def World.follow {σ : Type} (share : σ → σ → σ) (before after : World σ) : World σ :=
  { after with
    store := share before.store after.store
    journal := { after.journal with journal := before.journal.journal }
    files := before.files
    cancelled := before.cancelled || after.cancelled }

/-- Runs tasks one after the other; `before` is the world of the last task that has been run. -/
def runTasks {σ : Type} (serve : Serving σ) (share : σ → σ → σ) :
    Option (World σ) → List (String × Task Outcome × World σ) →
    List (String × Program.Ending Outcome × World σ)
  | _, [] => []
  | before, (key, task, world) :: rest =>
    let world := (before.map (World.follow share · world)).getD world
    let (ending, world) := world.run serve task
    (key, ending, world) :: runTasks serve share (some world) rest

/-- What comes of rehearsing jobs: how running them ends, the notices of waiting for them, and their
worlds. -/
structure Rehearsed (σ : Type) where
  result : Option (Except JobsError (List JobReport))
  notices : List Notice
  worlds : List (World σ)

/-- Rehearses jobs whose imports a registry knows. -/
def rehearse {σ : Type} (serve : Serving σ) (share : σ → σ → σ) (r : Registry)
    (jobs : List (Rehearsal σ)) : Rehearsed σ :=
  match r.tasks (jobs.map (·.job)) with
  | .error e => ⟨some (.error e), [], jobs.map (·.world)⟩
  | .ok tasks =>
    let started := (jobs.zip tasks).map fun (j, task) => (j.job.kind.key, task, j.world)
    let ended := runTasks serve share none started
    let cancelled := ended.any fun (_, _, w) => w.cancelled
    let (notices, result) := conclude cancelled (ended.map fun (key, ending, _) => (key, ending))
    ⟨result, notices, ended.map fun (_, _, w) => w⟩

end CatalogImport
