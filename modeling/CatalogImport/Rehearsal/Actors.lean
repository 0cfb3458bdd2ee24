import CatalogImport.Decimal.Digits
import CatalogImport.Store.Memory

/-!
# Stores that act

Stores for rehearsing imports.  They keep records in memory, and fail, refuse, misreport, stall or break
down as they have been told to.
-/

namespace CatalogImport

open CatalogImport.Json

/-- What comes of handing records to a store. -/
inductive Response where
  | reply (answer : Except StoreError BatchResult)
  | never
  | breakdown

/-- A store of some type, by what it does when records are handed to it: what comes of it, whether it
cancels the import, and the store afterwards. -/
abbrev Serving (σ : Type) := List Stored → σ → Response × Bool × σ

/-! ## A store with a script -/

/-- What a store does at one call. -/
inductive Act where
  | accept
  | fail (e : StoreError)
  /-- Refuses the records with these ids. -/
  | reject (ids : List String)
  /-- Stores nothing and reports these counts. -/
  | report (total successful failed : Nat)
  | stall
  | breakDown

/-- What a store does at one call, and whether it cancels the import before. -/
structure Cue where
  act : Act
  cancels : Bool

/-- A store that does at each call what its script says, and accepts when the script is used up, or does
what it has been told to do then. -/
structure ScriptedStore where
  memory : MemoryStore
  script : List Cue
  afterwards : Cue
  /-- The ids handed over at each call, the last call first. -/
  calls : List (List String)

namespace ScriptedStore

/-- Stores the records that are not refused. -/
def addExcept (m : MemoryStore) (refused : List String) (records : List Stored) :
    MemoryStore × BatchResult :=
  records.foldl (fun (m, r) s =>
    if refused.contains s.id then (m, r.recordFailure (s.id ++ ": rejected"))
    else MemoryStore.addOne (m, r) s) (m, .empty)

/-- Does what the script says. -/
def serve : Serving ScriptedStore := fun records s =>
  let (cue, script) := match s.script with
    | cue :: rest => (cue, rest)
    | [] => (s.afterwards, [])
  let s := { s with script, calls := records.map (·.id) :: s.calls }
  match cue.act with
  | .accept =>
    let (memory, result) := s.memory.addMany records
    (.reply (.ok result), cue.cancels, { s with memory })
  | .fail e => (.reply (.error e), cue.cancels, s)
  | .reject ids =>
    let (memory, result) := addExcept s.memory ids records
    (.reply (.ok result), cue.cancels, { s with memory })
  | .report total successful failed =>
    (.reply (.ok ⟨total, successful, failed, [], []⟩), cue.cancels, s)
  | .stall => (.never, cue.cancels, s)
  | .breakDown => (.breakdown, cue.cancels, s)

end ScriptedStore

/-! ## A store that fails at times, and one that refuses records -/

/-- A store that fails at its first calls and from a later call on, and remembers what it accepted. -/
structure RecordingStore where
  memory : MemoryStore
  /-- Calls numbered below this one fail. -/
  failFirst : Nat
  /-- Calls numbered from this one on fail. -/
  failFrom : Option Nat
  /-- How many calls there have been. -/
  calls : Nat
  /-- The ids of each call that was accepted. -/
  accepted : List (List String)

namespace RecordingStore

/-- Fails or accepts, by the number of the call. -/
def serve : Serving RecordingStore := fun records s =>
  let call := s.calls
  let s := { s with calls := call + 1 }
  if call < s.failFirst ∨ s.failFrom.any (· ≤ call) then
    (.reply (.error (.transport ("connection reset on call " ++ Decimal.numeral (call + 1)))), false, s)
  else
    let (memory, result) := s.memory.addMany records
    (.reply (.ok result), false, { s with memory, accepted := s.accepted ++ [records.map (·.id)] })

end RecordingStore

/-- A store that stores nothing, refuses the records with certain ids, and reports more successes than
there were. -/
structure PickyStore where
  rejectedIds : List String
  overReport : Nat

namespace PickyStore

/-- Refuses some records and reports too much. -/
def serve : Serving PickyStore := fun records s =>
  let result := records.foldl (fun r rec_ =>
    if s.rejectedIds.contains rec_.id then r.recordFailure (rec_.id ++ ": duplicate code")
    else r.recordSuccess rec_.id) BatchResult.empty
  (.reply (.ok { result with successful := result.successful + s.overReport }), false, s)

end PickyStore

end CatalogImport
