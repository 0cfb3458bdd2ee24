import CatalogImport.Decimal.Digits
import CatalogImport.Index
import CatalogImport.Journal.Event

/-!
# The journal

Events and checkpoints of all runs lie in one index under text keys.  A checkpoint has a key made of
the run's id; an event has one made of the run's id and a number that grows over the whole journal,
and the events of a run are those whose keys begin with its id and a colon.
-/

namespace CatalogImport

open CatalogImport.Decimal

/-- What lies under a key. -/
inductive Leaf where
  | checkpoint (c : Checkpoint)
  | event (e : Event)
  /-- Nothing that can be read. -/
  | damaged
  deriving DecidableEq

/-- Why the journal did not do what it was asked to. -/
inductive JournalError where
  | save (reason : String)
  | load (reason : String)
  | append (reason : String)
  | scan (reason : String)
  | unavailable (reason : String)
  deriving DecidableEq

/-- The error in words. -/
def JournalError.message : JournalError → String
  | .save reason => "Failed to save checkpoint: " ++ reason
  | .load reason => "Failed to load checkpoint: " ++ reason
  | .append reason => "Failed to append WAL entry: " ++ reason
  | .scan reason => "Failed to iterate WAL entries: " ++ reason
  | .unavailable reason => "Failed to open state store: " ++ reason

/-- The reason given when a leaf cannot be read. -/
def damagedReason : String := "io error: unexpected end of file"

/-- Checkpoints and events of all runs. -/
structure Journal where
  leaves : Index Leaf
  /-- The number that the next event gets. -/
  next : Nat
  /-- The start of the last block of numbers from which one has been given out. -/
  block : Nat

namespace Journal

/-- The journal in which nothing has been written. -/
def empty : Journal := ⟨.empty, 0, 0⟩

/-- How many numbers there are in a block. -/
def blockSize : Nat := 1000000

/-- The key of a run's checkpoint. -/
def checkpointKey (runId : String) : String := "chk:" ++ runId

/-- What the keys of a run's events begin with. -/
def eventStem (runId : String) : String := "wal:" ++ runId ++ ":"

/-- The key of an event: its number has twenty digits, so that keys order as numbers do. -/
def eventKey (runId : String) (number : Nat) : String := eventStem runId ++ padded 20 number

/-- The checkpoint of a run, if it has one. -/
def loadCheckpoint (j : Journal) (runId : String) : Except JournalError (Option Checkpoint) :=
  match j.leaves.find? (checkpointKey runId) with
  | none => .ok none
  | some (.checkpoint c) => .ok (some c)
  | some _ => .error (.load damagedReason)

/-- Writes a checkpoint, unless the one in its place is at a later batch. -/
def saveCheckpoint (j : Journal) (c : Checkpoint) : Except JournalError Journal :=
  let written : Journal := { j with leaves := j.leaves.insert (checkpointKey c.runId) (.checkpoint c) }
  match j.leaves.find? (checkpointKey c.runId) with
  | none => .ok written
  | some (.checkpoint old) => .ok (if c.lastBatch < old.lastBatch then j else written)
  | some _ => .error (.save damagedReason)

/-- Writes an event under the next number. -/
def append (j : Journal) (e : Event) : Journal :=
  { leaves := j.leaves.insert (eventKey e.runId j.next) (.event e)
    next := j.next + 1
    block := max j.block (j.next / blockSize * blockSize) }

/-- The journal after the next number has been given out. -/
def takeNumber (j : Journal) : Journal :=
  { j with
    next := j.next + 1
    block := max j.block (j.next / blockSize * blockSize) }

/-- Writes an event under a number that has been given out. -/
def putEvent (j : Journal) (number : Nat) (e : Event) : Journal :=
  { j with leaves := j.leaves.insert (eventKey e.runId number) (.event e) }

/-- The leaves whose keys begin with a text, in the order of the keys. -/
def scan (j : Journal) (stem : String) : List Leaf :=
  (j.leaves.rows.filter fun row => stem.toList.isPrefixOf row.1.toList).map (·.2)

/-- The events among leaves, all of which have to be readable events. -/
def eventsOf : List Leaf → Except JournalError (List Event)
  | [] => .ok []
  | .event e :: rest => (eventsOf rest).map (e :: ·)
  | _ :: _ => .error (.scan damagedReason)

/-- The events whose keys begin with a run's id and a colon. -/
def events (j : Journal) (runId : String) : Except JournalError (List Event) :=
  eventsOf (j.scan (eventStem runId))

/-- The journal after it has been closed and opened again: numbers go on two blocks after the start
of the last one used. -/
def reopen (j : Journal) : Journal := { j with next := j.block + 2 * blockSize }

/-- The journal with an unreadable leaf under a key. -/
def damage (j : Journal) (key : String) : Journal :=
  { j with leaves := j.leaves.insert key .damaged }

end Journal

end CatalogImport
