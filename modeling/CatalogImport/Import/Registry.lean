import CatalogImport.Import.Run
import CatalogImport.Index
import CatalogImport.Record.Card
import CatalogImport.Record.CardSet

/-!
# The registry of imports

For each key of a record kind the registry knows how such records are imported.  Main statement:
registering an import changes what is found under its key and nothing else (`importer?_register`).
-/

namespace CatalogImport

/-- One import to be run. -/
structure Job where
  kind : RecordKind
  /-- The kind of records that the store is for. -/
  storeKind : RecordKind
  config : Config
  /-- The batch at which the import starts. -/
  resumeFrom : Nat
  logbook : Option Logbook

/-- How a job is run. -/
abbrev Importer := Job → Task Outcome

/-- Imports records of a type. -/
def importerOf (R : Type) [CatalogRecord R] : Importer := fun job => do
  checkKind R job.storeKind
  importRun job.config job.logbook R job.resumeFrom

/-- How records of a kind are imported. -/
def RecordKind.importer : RecordKind → Importer
  | .sets => importerOf CardSet
  | .cards => importerOf Card

/-- Imports by the keys of what they import. -/
structure Registry where
  importers : Index Importer

namespace Registry

/-- The registry without imports. -/
def empty : Registry := ⟨.empty⟩

/-- Puts an import under a key, in place of the one that was there. -/
def register (r : Registry) (key : String) (importer : Importer) : Registry :=
  ⟨r.importers.insert key importer⟩

/-- The registry into which imports have been put one after the other. -/
def filled (entries : List (String × Importer)) : Registry :=
  entries.foldl (fun r entry => r.register entry.1 entry.2) empty

/-- The registry with an import for every kind. -/
def standard : Registry := RecordKind.all.foldl (fun r k => r.register k.key k.importer) empty

/-- The import under a key. -/
def importer? (r : Registry) (key : String) : Option Importer := r.importers.find? key

/-- There is an import under the key. -/
def contains (r : Registry) (key : String) : Bool := r.importers.contains key

/-- The keys in order. -/
def keys (r : Registry) : List String := r.importers.keys

/-- What is found after an import has been registered. -/
theorem importer?_register (r : Registry) (key other : String) (importer : Importer) :
    (r.register key importer).importer? other =
      if other = key then some importer else r.importer? other :=
  r.importers.find?_insert key other importer

end Registry

end CatalogImport
