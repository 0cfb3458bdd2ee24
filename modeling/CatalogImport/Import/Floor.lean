import CatalogImport.Artifact.Writer
import CatalogImport.Import.Jobs

/-!
# Jobs at the same time

Several jobs are worked on at once, each at a desk of its own, with a document and a store that nobody else
has.  The journal and the files are common to all.  What a job asks of its own surroundings is answered in one
move.  What it asks of the journal and of the files takes as many moves as these take by themselves: an event
gets its number in one and is written in another, and of a file that is kept first the directory is made, and
then one name is tried after the other.  Between any two moves the other desks may move.  Nothing is
cancelled, and a job breaks down only if there is no number left for its file.
-/

namespace CatalogImport

open CatalogImport.Calendar

/-- A job, and what nobody else has of what it needs. -/
structure Party (σ : Type) where
  job : Job
  /-- The program that runs the job. -/
  task : Task Outcome
  /-- What opening the document comes to. -/
  opening : Except Cause Reading
  /-- What is in the store at first. -/
  store : σ
  /-- What the store answers, if it ever does, and what is in it then. -/
  serve : List Stored → σ → Option (Except StoreError BatchResult × σ)

variable {σ : Type}

namespace Party

/-- Under which id the journal knows the job, if it does. -/
def runId (p : Party σ) : Option String := p.job.logbook.map (·.runId)

/-- What may be answered without the journal and the files, and what is in the store then. -/
inductive Answers (p : Party σ) (s : σ) : (q : Request) → q.Answer → σ → Prop
  | now (moment : Instant) : Answers p s .now moment s
  | freshId (id : String) : Answers p s .freshId id s
  | enter (phase : Phase) : Answers p s (.enter phase) () s
  | notice (n : Notice) : Answers p s (.notice n) () s
  | isCancelled : Answers p s .isCancelled false s
  | openDocument : Answers p s .openDocument p.opening s
  | addMany {records : List Stored} {answer : Except StoreError BatchResult} {s' : σ}
      (h : p.serve records s = some (answer, s')) : Answers p s (.addMany records) (some answer) s'
  | pause (millis : Nat) : Answers p s (.pause millis) (some ()) s
  | progress (statistics : Statistics) : Answers p s (.progress statistics) () s

end Party

/-! ## Desks -/

/-- What is to be kept in a file, and how the job goes on then. -/
inductive Keeping where
  | batch (kind : RecordKind) (b : FailedBatch) (next : Option (Except FileError String) → Task Outcome)
  | records (kind : RecordKind) (entries : List FailedEntry)
      (next : Except FileError String → Task Outcome)

namespace Keeping

/-- The job, which asks for the file. -/
def task : Keeping → Task Outcome
  | batch kind b next => .ask (.keepBatch kind b) next
  | records kind entries next => .ask (.keepRecords kind entries) next

/-- The name of the file, without number and ending, when it is written at some moment. -/
def stem (k : Keeping) (moment : Instant) : String :=
  match k with
  | batch kind b _ => b.fileStem kind
  | records kind _ _ => FailedEntry.fileStem kind moment

/-- The text of the file. -/
def text : Keeping → String
  | batch _ b _ => b.fileText
  | records _ entries _ => FailedEntry.fileText entries

/-- The job goes on, whatever became of the file. -/
def resume (k : Keeping) (result : Except FileError String) : Task Outcome :=
  match k with
  | batch _ _ next => next (some result)
  | records _ _ next => next result

end Keeping

/-- What is being done at a desk. -/
inductive Doing where
  /-- The job is to go on. -/
  | free (task : Task Outcome)
  /-- An event is to be written under the number that it got. -/
  | logging (number : Nat) (e : Event) (next : Except JournalError Unit → Task Outcome)
  /-- A file is being written. -/
  | keeping (k : Keeping) (file : FileTask (Except FileError String))

namespace Doing

/-- The job as far as it has been answered. -/
def task : Doing → Task Outcome
  | free task => task
  | logging _ e next => .ask (.append e) next
  | keeping k _ => k.task

/-- How many numbers have been given out for events that are not written yet. -/
def numbers : Doing → Nat
  | logging _ _ _ => 1
  | _ => 0

end Doing

/-- A desk at which a job is worked on. -/
structure Desk (σ : Type) where
  party : Party σ
  store : σ
  doing : Doing

/-- What is common to all jobs. -/
structure Common where
  journal : Journal
  files : FileTree

namespace Desk

/-- What may be done at a desk in one move. -/
inductive Step : Common → Desk σ → Common → Desk σ → Prop
  | answer {c : Common} {p : Party σ} {s s' : σ} {q : Request} {next : q.Answer → Task Outcome}
      {x : q.Answer} (h : p.Answers s q x s') :
      Step c ⟨p, s, .free (.ask q next)⟩ c ⟨p, s', .free (next x)⟩
  | number {j : Journal} {files : FileTree} {p : Party σ} {s : σ} {e : Event}
      {next : Except JournalError Unit → Task Outcome} :
      Step ⟨j, files⟩ ⟨p, s, .free (.ask (.append e) next)⟩ ⟨j.takeNumber, files⟩
        ⟨p, s, .logging j.next e next⟩
  | log {j : Journal} {files : FileTree} {p : Party σ} {s : σ} {n : Nat} {e : Event}
      {next : Except JournalError Unit → Task Outcome} :
      Step ⟨j, files⟩ ⟨p, s, .logging n e next⟩ ⟨j.putEvent n e, files⟩ ⟨p, s, .free (next (.ok ()))⟩
  | load {j : Journal} {files : FileTree} {p : Party σ} {s : σ} {runId : String}
      {next : Except JournalError (Option Checkpoint) → Task Outcome} :
      Step ⟨j, files⟩ ⟨p, s, .free (.ask (.loadCheckpoint runId) next)⟩ ⟨j, files⟩
        ⟨p, s, .free (next (j.loadCheckpoint runId))⟩
  | save {j j' : Journal} {files : FileTree} {p : Party σ} {s : σ} {x : Checkpoint}
      {next : Except JournalError Unit → Task Outcome} (h : j.saveCheckpoint x = .ok j') :
      Step ⟨j, files⟩ ⟨p, s, .free (.ask (.saveCheckpoint x) next)⟩ ⟨j', files⟩
        ⟨p, s, .free (next (.ok ()))⟩
  | refuse {j : Journal} {files : FileTree} {p : Party σ} {s : σ} {x : Checkpoint} {e : JournalError}
      {next : Except JournalError Unit → Task Outcome} (h : j.saveCheckpoint x = .error e) :
      Step ⟨j, files⟩ ⟨p, s, .free (.ask (.saveCheckpoint x) next)⟩ ⟨j, files⟩
        ⟨p, s, .free (next (.error e))⟩
  | keep {c : Common} {p : Party σ} {s : σ} {task : Task Outcome} {k : Keeping} (moment : Instant)
      (h : task = k.task) :
      Step c ⟨p, s, .free task⟩ c
        ⟨p, s, .keeping k (writeFile p.job.config.artifactDir (k.stem moment) k.text)⟩
  | file {j : Journal} {files files' : FileTree} {p : Party σ} {s : σ} {k : Keeping} {q : FileRequest}
      {next : q.Answer → FileTask (Except FileError String)} {x : q.Answer}
      (h : FileTree.handler q files = (.answer x, files')) :
      Step ⟨j, files⟩ ⟨p, s, .keeping k (.ask q next)⟩ ⟨j, files'⟩ ⟨p, s, .keeping k (next x)⟩
  | kept {c : Common} {p : Party σ} {s : σ} {k : Keeping} {result : Except FileError String} :
      Step c ⟨p, s, .keeping k (.done result)⟩ c ⟨p, s, .free (k.resume result)⟩

/-- Something can be done at a desk. -/
def CanMove (c : Common) (d : Desk σ) : Prop := ∃ c' d', Step c d c' d'

/-- There is no number left for the file that is being written at a desk. -/
def OutOfNumbers (d : Desk σ) : Prop := ∃ k next, d.doing = .keeping k (.ask .numberOverflow next)

/-- A job that has not ended or broken down does not end as long as nothing is done at its desk. -/
def ending (d : Desk σ) : String × Program.Ending Outcome :=
  (d.party.job.kind.key, match d.doing with
    | .free (.done outcome) => .finished outcome
    | .keeping _ (.ask .numberOverflow _) => .collapsed
    | _ => .stalled)

end Desk

/-! ## The floor -/

/-- All desks, in the order of the jobs, and what is common to them. -/
structure Floor (σ : Type) where
  common : Common
  desks : List (Desk σ)

namespace Floor

/-- All jobs are to begin. -/
def start (parties : List (Party σ)) (c : Common) : Floor σ :=
  ⟨c, parties.map fun p => ⟨p, p.store, .free p.task⟩⟩

/-- One of the desks moves. -/
inductive Moves : Floor σ → Floor σ → Prop
  | step {c c' : Common} {before after : List (Desk σ)} {d d' : Desk σ} (h : Desk.Step c d c' d') :
      Moves ⟨c, before ++ d :: after⟩ ⟨c', before ++ d' :: after⟩

/-- The desks move one after the other, in any order. -/
inductive Runs (f : Floor σ) : Floor σ → Prop
  | refl : Runs f f
  | tail {g g' : Floor σ} (h : Runs f g) (hmove : Moves g g') : Runs f g'

/-- How the jobs end when nothing is done any more. -/
def endings (f : Floor σ) : List (String × Program.Ending Outcome) := f.desks.map Desk.ending

end Floor

end CatalogImport
