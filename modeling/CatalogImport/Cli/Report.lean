import CatalogImport.Import.Cause
import CatalogImport.Index
import CatalogImport.Json.Printer

/-!
# Reports

What is said about imports when they have been run: for each kind whether the import was completed, and
its summary.
-/

namespace CatalogImport

open CatalogImport.Calendar CatalogImport.Json

/-- The report about one import. -/
structure Report where
  /-- What ended the import early, if anything did. -/
  error : Option String
  summary : List (String × Value)

namespace Report

/-- The report about an import by its outcome. -/
def ofOutcome (now : Instant) : Outcome → Report
  | .ok statistics => ⟨none, statistics.summary now⟩
  | .error aborted => ⟨some aborted.message, aborted.statistics.summary now⟩

/-- The import ended early. -/
def isAborted (r : Report) : Bool := r.error.isSome

/-- The report as members of an object. -/
def members (r : Report) : List (String × Value) :=
  match r.error with
  | none => [("status", .text "completed"), ("summary", .object r.summary)]
  | some e =>
    [("status", .text "aborted"), ("error", .text e), ("summary", .object r.summary)]

end Report

/-- Reports by keys, of which the last with a key counts. -/
def reportsOf (now : Instant) (outcomes : List (String × Outcome)) : Index Report :=
  .ofList (outcomes.map fun (key, outcome) => (key, .ofOutcome now outcome))

/-- Reports as one text, in the order of their keys. -/
def reportsText (reports : Index Report) : String :=
  (Value.object (reports.rows.map fun (key, r) => (key, .object r.members))).pretty

/-- How many of the imports ended early. -/
def abortedCount (reports : Index Report) : Nat := (reports.values.filter (·.isAborted)).length

end CatalogImport
