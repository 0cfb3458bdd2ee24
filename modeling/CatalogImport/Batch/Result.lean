import CatalogImport.Json.Value
import CatalogImport.Word

/-!
# Batch results

What a store reports about a batch that it took: how many records it looked at, inserted and refused,
the ids of the inserted ones, and a line for each refused one.
-/

namespace CatalogImport

open CatalogImport.Json

/-- The report of a store about one batch.  The counts are the store's own and need not agree. -/
structure BatchResult where
  total : Nat
  successful : Nat
  failed : Nat
  insertedIds : List String
  errorDetails : List String
  deriving DecidableEq

namespace BatchResult

/-- The report about no record at all. -/
def empty : BatchResult := ⟨0, 0, 0, [], []⟩

/-- The records of which the store says what became of them. -/
def accounted (r : BatchResult) : Nat := r.successful + r.failed

/-- The store does not account for more records than it looked at. -/
def isConsistent (r : BatchResult) : Bool := r.accounted ≤ r.total

/-- What a run finds out about that: it adds up the counts in 64 bits, which fails when these do not hold the
sum. -/
def isConsistent? (r : BatchResult) : Option Bool :=
  (Word.add? r.successful r.failed).map (· ≤ r.total)

/-- Adds an inserted record. -/
def recordSuccess (r : BatchResult) (id : String) : BatchResult :=
  { r with
    total := r.total + 1
    successful := r.successful + 1
    insertedIds := r.insertedIds ++ [id] }

/-- Adds a refused record. -/
def recordFailure (r : BatchResult) (detail : String) : BatchResult :=
  { r with
    total := r.total + 1
    failed := r.failed + 1
    errorDetails := r.errorDetails ++ [detail] }

/-- The fields of a report as members of an object. -/
def members (r : BatchResult) : List (String × Value) :=
  [("total_processed", .nat r.total),
   ("successful_inserts", .nat r.successful),
   ("failed_inserts", .nat r.failed),
   ("inserted_ids", .array (r.insertedIds.map .text)),
   ("error_details", .array (r.errorDetails.map .text))]

end BatchResult

end CatalogImport
