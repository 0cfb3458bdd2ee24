import CatalogImport.Batch.Result
import CatalogImport.Json.Reader
import CatalogImport.Postgres.Wire
import CatalogImport.Record.Basic

/-!
# Stores on a server

A store that keeps the records of a kind in a table.  A batch is written in one transaction, and within
it each record from a mark of its own: a record that the server refuses is taken back alone, and anything
else that goes wrong takes back the batch.
-/

namespace CatalogImport.Postgres

open CatalogImport.Decimal CatalogImport.Json

/-- A talk that may end with an error of the store. -/
abbrev Call (α : Type) : Type := ExceptT StoreError (Program Wire Wire.Answer) α

/-- Sends a command of a transaction. -/
def command (c : Command) : Call Unit := do
  match ← wire (.query c) with
  | .ok () => return ()
  | .error t => throw t.asTransport

/-- Prepares a statement. -/
def prepare (s : Statement) : Call Unit := do
  match ← wire (.prepare s) with
  | .ok () => return ()
  | .error t => throw t.asStoreError

/-- Prepares and executes a statement. -/
def fetch (e : Execution) : Call (List Row) := do
  prepare e.statement
  match ← wire (.execute e) with
  | .ok rows => return rows
  | .error t => throw t.asStoreError

/-- The JSON value that a row holds. -/
def Row.value (r : Row) : Except StoreError Value :=
  let unreadable : StoreError := .transport "error deserializing column 0"
  if r.isJson then (Value.parse r.text).mapError fun _ => unreadable else .error unreadable

/-- Makes the table of a kind, if it is not there yet. -/
def ensureTable (table : String) : Call Unit := do
  match ← wire (.query (.createTable table)) with
  | .ok () => return ()
  | .error t => throw t.asStoreError

/-- Writes a record, and reports whether the server took it. -/
def writeRecord (table : String) (result : BatchResult) (r : Stored) : Call BatchResult := do
  command .savepoint
  match ← wire (.execute (.upsert table r.id r.payload.compact)) with
  | .ok _ =>
    command .release
    return result.recordSuccess r.id
  | .error t =>
    command .rollbackToSavepoint
    let _ ← wire (.notice .recordRefusedByServer)
    return result.recordFailure (r.id ++ ": " ++ t.message)

/-- Writes records in a transaction that is left open. -/
def writeRecords (table : String) (records : List Stored) : Call BatchResult := do
  command .startTransaction
  prepare (.upsert table)
  records.foldlM (writeRecord table) .empty

/-- Writes records in a transaction, or not at all. -/
def addMany (table : String) (records : List Stored) : Call BatchResult := do
  if ← wire .isGone then throw (.transport "connection to Postgres is closed")
  let result ← tryCatch (writeRecords table records) fun e => do
    -- Whether the server hears of it makes no difference to the answer.
    let _ ← wire (.query .rollback)
    throw e
  command .commit
  return result

/-- The payload of the record with an id. -/
def get (table id : String) : Call Value := do
  match ← fetch (.selectOne table id) with
  | [] => throw (.notFound id)
  | row :: _ =>
    match row.value with
    | .ok v => return v
    | .error e => throw e

/-- A number that has to fit 63 bits. -/
def bounded (what : String) (n : Nat) : Except StoreError Unit :=
  if n < Nat.pow 2 63 then .ok ()
  else .error (.rejected (what ++ " " ++ numeral n ++ " out of range"))

/-- The payloads of a page of records, in the order of their ids. -/
def list (table : String) (limit offset : Nat) : Call (List Value) := do
  match bounded "limit" limit, bounded "offset" offset with
  | .error e, _ => throw e
  | .ok (), .error e => throw e
  | .ok (), .ok () =>
    let rows ← fetch (.selectPage table limit offset)
    match rows.mapM Row.value with
    | .ok vs => return vs
    | .error e => throw e

end CatalogImport.Postgres
