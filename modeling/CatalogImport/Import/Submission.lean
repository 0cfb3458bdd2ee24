import CatalogImport.Batch.Basic
import CatalogImport.Import.Request
import CatalogImport.Retry

/-!
# Submitting a batch

A batch is handed to the store until the store takes it or has failed too often.  A batch that the store
never takes is kept in a file.  A cancellation may come during every call, pause and writing of a file;
the submission is then dropped where it stands.
-/

namespace CatalogImport

/-- A program that a cancellation may end with no result. -/
abbrev Cancellable (α : Type) : Type := OptionT (Program Request Request.Answer) α

/-- A batch that the store took, after so many repetitions. -/
structure Submitted where
  result : BatchResult
  retries : Nat

/-- A batch that the store never took: after how many repetitions, why, and what was handed over. -/
structure Unsubmitted where
  retries : Nat
  cause : Cause
  records : List Stored

/-- The records of a batch as the store gets them, or why one of them has no such form. -/
def Batch.stored {R : Type} [CatalogRecord R] (b : Batch R) : Except String (List Stored) :=
  b.entries.mapM fun e => CatalogRecord.stored e.record

/-- What an answer of the store means for further attempts: every error may pass. -/
def attemptOf (answer : Except StoreError BatchResult) : Attempt StoreError BatchResult :=
  match answer with
  | .ok r => .ok r
  | .error e => .again e

/-- Asks a question during which a cancellation may come. -/
def cancellable {α : Type} (p : Task (Option α)) : Cancellable α := OptionT.mk p

/-- A submission counts the repetitions as it goes. -/
abbrev Counting (α : Type) : Type := StateT Nat (OptionT (Program Request Request.Answer)) α

/-- Hands records to the store, again and again if need be, and counts the repetitions. -/
def attempts (policy : RetryPolicy) (records : List Stored) :
    Counting (Attempted StoreError BatchResult) :=
  policy.run
    (do
      let answer ← cancellable (ask (.addMany records))
      return attemptOf answer)
    (fun _ _ _ => do
      modify (· + 1)
      ask (.notice .retrying))
    (fun millis => cancellable (ask (.pause millis)))

/-- Keeps a batch that the store never took, if such batches are kept.  The file has 32 bits for the number
of attempts. -/
def keepUnsubmitted (kind : RecordKind) (persist : Bool) (number attempts : Nat) (e : StoreError)
    (records : List Stored) : Cancellable Unit := do
  if persist then
    let moment ← ask .now
    match ← cancellable (ask (.keepBatch kind
        ⟨number, e.message, attempts % Nat.pow 2 32, records.map (·.payload), moment⟩)) with
    | .ok _ => return ()
    | .error _ => ask (.notice .batchArtifactUnwritten)

/-- Submits a batch. -/
def submit {R : Type} [CatalogRecord R] (policy : RetryPolicy) (persist : Bool) (b : Batch R) :
    Cancellable (Except Unsubmitted Submitted) := do
  match b.stored with
  | .error reason => return .error ⟨0, .batchUnwritable b.number reason, []⟩
  | .ok records =>
    let (end_, retries) ← (attempts policy records).run 0
    match end_ with
    | .ok result => return .ok ⟨result, retries⟩
    | .fatal e | .exhausted e =>
      ask (.notice .retriesExhausted)
      keepUnsubmitted (CatalogRecord.kind R) persist b.number (retries + 1) e records
      return .error ⟨retries, .batchFailed b.number (retries + 1) e, records⟩

end CatalogImport
