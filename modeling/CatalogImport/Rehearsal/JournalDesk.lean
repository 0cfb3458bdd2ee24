import CatalogImport.Journal.Progress

/-!
# A journal that fails when told to

For rehearsing imports whose journal fails: every call of certain kinds fails, or every call gets no
answer, or brings its caller down.
-/

namespace CatalogImport

/-- A kind of call of the journal. -/
inductive JournalCall where
  | save
  | load
  | append
  | scan
  deriving DecidableEq

/-- How the journal answers calls. -/
inductive Manner where
  | answering
  | silent
  | breaking
  deriving DecidableEq

/-- A journal, and the kinds of calls that fail. -/
structure JournalDesk where
  journal : Journal
  failing : List JournalCall
  manner : Manner

namespace JournalDesk

/-- A new journal whose calls do not fail. -/
def new : JournalDesk := ⟨.empty, [], .answering⟩

/-- The reason of failures that have been asked for. -/
def forced : String := "forced"

/-- Moves a checkpoint. -/
def save (d : JournalDesk) (c : Checkpoint) : Except JournalError Unit × JournalDesk :=
  if d.failing.contains .save then (.error (.save forced), d)
  else
    match d.journal.saveCheckpoint c with
    | .ok journal => (.ok (), { d with journal })
    | .error e => (.error e, d)

/-- The checkpoint of a run. -/
def load (d : JournalDesk) (runId : String) : Except JournalError (Option Checkpoint) :=
  if d.failing.contains .load then .error (.load forced) else d.journal.loadCheckpoint runId

/-- Logs an event. -/
def append (d : JournalDesk) (e : Event) : Except JournalError Unit × JournalDesk :=
  if d.failing.contains .append then (.error (.append forced), d)
  else (.ok (), { d with journal := d.journal.append e })

/-- The events of a run. -/
def events (d : JournalDesk) (runId : String) : Except JournalError (List Event) :=
  if d.failing.contains .scan then .error (.scan forced) else d.journal.events runId

/-- What is known about a run. -/
def progress (d : JournalDesk) (runId : String) : Except ProgressError Progress :=
  progressFrom (d.events runId) (d.load runId)

/-- Closes and opens the journal again; calls then do not fail. -/
def reopen (d : JournalDesk) : JournalDesk := ⟨d.journal.reopen, [], .answering⟩

/-- Puts an unreadable leaf under a key and opens the journal again. -/
def damage (d : JournalDesk) (key : String) : JournalDesk :=
  { d with journal := (d.journal.damage key).reopen }

end JournalDesk

end CatalogImport
