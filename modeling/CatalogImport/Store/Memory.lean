import CatalogImport.Batch.Result
import CatalogImport.Record.Basic
import CatalogImport.Store.Error

/-!
# Stores in memory

A store that keeps its records in an index by id.  Writing a record replaces the one with the same id,
so writing a batch again changes nothing.
-/

namespace CatalogImport

open CatalogImport.Json

/-- Records of one kind, by their ids. -/
structure MemoryStore where
  kind : RecordKind
  records : Index Value

namespace MemoryStore

/-- The store without records. -/
def empty (kind : RecordKind) : MemoryStore := ⟨kind, .empty⟩

/-- Writes one record and reports it; a record without an id is refused. -/
def addOne (s : MemoryStore × BatchResult) (r : Stored) : MemoryStore × BatchResult :=
  if r.id = "" then (s.1, s.2.recordFailure "record without id")
  else ({ s.1 with records := s.1.records.insert r.id r.payload }, s.2.recordSuccess r.id)

/-- Writes records one after the other. -/
def addMany (s : MemoryStore) (records : List Stored) : MemoryStore × BatchResult :=
  records.foldl addOne (s, .empty)

/-- The payload of the record with an id. -/
def get (s : MemoryStore) (id : String) : Except StoreError Value :=
  match s.records.find? id with
  | some v => .ok v
  | none => .error (.notFound id)

/-- The payloads of a page of records, in the order of their ids. -/
def list (s : MemoryStore) (limit offset : Nat) : List Value :=
  (s.records.values.drop offset).take limit

/-- The ids in order. -/
def ids (s : MemoryStore) : List String := s.records.keys

/-- How many records there are. -/
def size (s : MemoryStore) : Nat := s.records.size

/-- There are no records. -/
def isEmpty (s : MemoryStore) : Bool := s.size = 0

end MemoryStore

end CatalogImport
