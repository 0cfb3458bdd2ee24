import CatalogImport.Import.Registry

/-!
# Running several jobs

All jobs are looked up before any of them is started.  Their ends are then waited for in the order of
the jobs, and a job that ended early does not hinder the others.  When the imports have been cancelled
there are no reports: the jobs get some time to end by themselves, and those that have not ended by
then are stopped.
-/

namespace CatalogImport

/-- Why jobs have not been run to their ends. -/
inductive JobsError where
  /-- No import is registered under the key. -/
  | unknownKind (key : String)
  /-- The user has no home directory to keep the journal in. -/
  | homeless
  | journal (error : JournalError)
  /-- A task broke down. -/
  | brokenTask (reason : String)
  | cancelled
  deriving DecidableEq

/-- The error in words. -/
def JobsError.message : JobsError → String
  | .unknownKind key => "Unknown import kind '" ++ key ++ "'"
  | .homeless => "Initialization error: Could not determine home directory"
  | .journal error => "State store error: " ++ error.message
  | .brokenTask reason => "Task join error: " ++ reason
  | .cancelled => "Shutdown requested, running imports were cancelled"

/-- The key of a job's kind, and how the job ended. -/
abbrev JobReport := String × Outcome

/-- The import under a key, or the complaint that there is none. -/
def Registry.lookup (r : Registry) (key : String) : Except JobsError Importer :=
  match r.importer? key with
  | some importer => .ok importer
  | none => .error (.unknownKind key)

/-- The tasks of jobs, if there is an import for each of them. -/
def Registry.tasks (r : Registry) (jobs : List Job) : Except JobsError (List (Task Outcome)) :=
  jobs.mapM fun job => (r.lookup job.kind.key).map fun importer => importer job

/-- What comes of waiting for tasks one after the other. -/
inductive Gathered where
  | reports (reports : List JobReport)
  /-- A task broke down; the ones after it have not been waited for. -/
  | broken (reason : String)
  /-- A task does not end. -/
  | waiting

/-- Adds a report in front. -/
def Gathered.cons (r : JobReport) : Gathered → Gathered
  | .reports rs => .reports (r :: rs)
  | g => g

/-- Waits for tasks one after the other, and notes those that ended early. -/
def gather : List (String × Program.Ending Outcome) → List Notice × Gathered
  | [] => ([], .reports [])
  | (key, .finished outcome) :: rest =>
    let (notices, gathered) := gather rest
    let said : List Notice := match outcome with
      | .ok _ => []
      | .error _ => [.importFailed]
    (said ++ notices, gathered.cons (key, outcome))
  | (_, .collapsed) :: _ => ([], .broken "")
  | (_, .stalled) :: _ => ([], .waiting)

/-- What is noted about tasks that had to stop, by what came of waiting for them. -/
def Gathered.stopNotices : Gathered → List Notice
  | .reports _ => []
  | .broken _ => [.taskFailed]
  | .waiting => [.tasksStopped]

/-- How running jobs ends, given how their tasks do and whether they have been cancelled.  There is no
end when a task never ends and nobody cancels it. -/
def conclude (cancelled : Bool) (endings : List (String × Program.Ending Outcome)) :
    List Notice × Option (Except JobsError (List JobReport)) :=
  let (notices, gathered) := gather endings
  if cancelled then
    (.stopping :: notices ++ gathered.stopNotices, some (.error .cancelled))
  else
    match gathered with
    | .reports reports => (notices, some (.ok reports))
    | .broken reason => (notices, some (.error (.brokenTask reason)))
    | .waiting => (notices, none)

/-! ## Where the journal is kept -/

/-- The directory of the journal when nothing is said about it; a home without a name is none. -/
def defaultJournalDir (home : Option String) : Except JobsError String :=
  match home with
  | none | some "" => .error .homeless
  | some home => .ok (joinPath home ".catalog/state")

end CatalogImport
