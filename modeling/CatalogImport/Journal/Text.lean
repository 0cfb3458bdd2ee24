import CatalogImport.Journal.Store
import CatalogImport.Json.Access
import CatalogImport.Json.Printer
import CatalogImport.Json.Reader

/-!
# Journals as text

A journal is written with one JSON object on each line: the numbers that it has come to on the first
line, and on each of the others a leaf and its key.
-/

namespace CatalogImport

open CatalogImport.Calendar CatalogImport.Json

/-- The checkpoint that an object describes. -/
def Checkpoint.ofValue? (v : Value) : Option Checkpoint := do
  return {
    runId := ← v.textAt? "run_id"
    kind := ← v.textAt? "kind"
    source := ← v.textAt? "source"
    lastBatch := ← v.natAt? "last_batch"
    recordsDone := ← v.natAt? "records_done"
    updatedAt := ← (v.textAt? "updated_at").bind Instant.ofText? }

/-- What happened, by the key of an event and its details. -/
def Happening.ofDetails? (key : String) (v : Value) : Option Happening := do
  match key with
  | "RunStart" =>
    return .started (← v.textAt? "kind") (← v.textAt? "source") (← v.natAt? "resume_from_batch")
  | "BatchCommit" => return .committed (← v.natAt? "batch_number") (← v.natAt? "records")
  | "RunDone" => return .completed (← v.natAt? "total_records")
  | "RunAborted" => return .aborted (← v.textAt? "error")
  | _ => none

/-- The event that an object with one member describes. -/
def Event.ofValue? (v : Value) : Option Event := do
  match v.members with
  | [(key, details)] =>
    return ⟨← details.textAt? "run_id", ← Happening.ofDetails? key details,
      ← (details.textAt? "at").bind Instant.ofText?⟩
  | _ => none

/-- What is written about a leaf. -/
def Leaf.members : Leaf → List (String × Value)
  | .checkpoint c => [("checkpoint", .object c.members)]
  | .event e => [("event", .object e.members)]
  | .damaged => []

/-- The leaf that an object describes; what cannot be read is damaged. -/
def Leaf.ofValue (v : Value) : Leaf :=
  match (v.at? "checkpoint").bind Checkpoint.ofValue?, (v.at? "event").bind Event.ofValue? with
  | some c, _ => .checkpoint c
  | none, some e => .event e
  | none, none => .damaged

namespace Journal

/-- The lines of a journal. -/
def lines (j : Journal) : List String :=
  (Value.object [("next", .nat j.next), ("block", .nat j.block)]).compact ::
    j.leaves.rows.map fun (key, leaf) => (Value.object (("key", .text key) :: leaf.members)).compact

/-- The key and the leaf on a line. -/
def leafOfLine? (line : String) : Option (String × Leaf) := do
  let v ← (Value.parse line).toOption
  return (← v.textAt? "key", Leaf.ofValue v)

/-- The journal with these lines. -/
def ofLines? : List String → Option Journal
  | [] => none
  | first :: rest => do
    let v ← (Value.parse first).toOption
    return ⟨.ofList (← rest.mapM leafOfLine?), ← v.natAt? "next", ← v.natAt? "block"⟩

end Journal

end CatalogImport
