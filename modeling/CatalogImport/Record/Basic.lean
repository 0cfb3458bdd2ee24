import CatalogImport.Json.Value
import CatalogImport.Record.Kind
import CatalogImport.Record.Violation

/-!
# Catalog records

What all kinds of record have in common: an element of a document is turned into a record or found to
break a rule, and a record has an id and a form in which it is handed to a store.
-/

namespace CatalogImport

/-- The form in which a record is handed to a store: its id and its JSON payload. -/
structure Stored where
  id : String
  payload : Json.Value

/-- A type of records. -/
class CatalogRecord (R : Type) where
  /-- The kind of the records. -/
  kind : RecordKind
  /-- The key under which a store keeps the record. -/
  id : R → String
  /-- The record that an element of a document describes. -/
  validate : Json.Value → Except Violation R
  /-- The JSON form of a record, or why it has none. -/
  payload : R → Except String Json.Value

/-- The form in which a record is handed to a store, or why there is none. -/
def CatalogRecord.stored {R : Type} [CatalogRecord R] (r : R) : Except String Stored :=
  (payload r).map fun v => ⟨id r, v⟩

end CatalogImport
