import CatalogImport.Record.Violation
import CatalogImport.Statistics
import CatalogImport.Store.Error

/-!
# Why an import ends early

The causes that end an import run before its document is done, and what is left of such a run.
-/

namespace CatalogImport

open CatalogImport.Decimal

/-- Why the document was not read to its end. -/
inductive SourceError where
  | io (reason : String)
  /-- The document is not JSON of the right shape. -/
  | malformed (reason : String)
  /-- Nobody wanted the rest. -/
  | closed
  | task (reason : String)
  deriving DecidableEq

/-- The error in words. -/
def SourceError.message : SourceError → String
  | .io reason => "I/O error while reading source: " ++ reason
  | .malformed reason => "Malformed JSON document: " ++ reason
  | .closed => "The record consumer stopped before the document was fully read"
  | .task reason => "Reader task failed: " ++ reason

/-- The words of the error and of what lies behind it, outermost first. -/
def SourceError.chain (e : SourceError) : List String :=
  match e with
  | .io reason => [e.message, reason]
  | .malformed reason => [e.message, reason]
  | .closed => [e.message]
  | .task _ => [e.message]

/-- Why a run ends early. -/
inductive Cause where
  | fileUnusable (path reason : String)
  | invalidRecord (position : Nat) (violation : Violation)
  /-- The store took a batch at none of the attempts. -/
  | batchFailed (number attempts : Nat) (error : StoreError)
  /-- A record of a batch has no JSON form. -/
  | batchUnwritable (number : Nat) (reason : String)
  | source (error : SourceError)
  | cancelled
  deriving DecidableEq

namespace Cause

/-- The cause in words. -/
def message : Cause → String
  | .fileUnusable path reason => "Source file '" ++ path ++ "' cannot be used: " ++ reason
  | .invalidRecord position violation =>
    "Record at position " ++ numeral position ++ " failed validation: " ++ violation.message
  | .batchFailed number attempts error =>
    "Batch " ++ numeral number ++ " failed after " ++ numeral attempts ++ " attempts: "
      ++ error.message
  | .batchUnwritable number reason =>
    "Failed to serialize batch " ++ numeral number ++ ": " ++ reason
  | .source error => "Failed to read source document: " ++ error.message
  | .cancelled => "Import cancelled before the document was fully processed"

/-- The words of the cause and of what lies behind it, outermost first. -/
def chain (c : Cause) : List String :=
  match c with
  | .fileUnusable _ _ => [c.message]
  | .invalidRecord _ violation => [c.message, violation.message]
  | .batchFailed _ _ error => [c.message, error.message]
  | .batchUnwritable _ reason => [c.message, reason]
  | .source error => c.message :: error.chain
  | .cancelled => [c.message]

/-- The batch that the cause is about. -/
def batchNumber? : Cause → Option Nat
  | .batchFailed number _ _ => some number
  | .batchUnwritable number _ => some number
  | _ => none

end Cause

/-- A run that ended early: why, and what it had done by then. -/
structure Aborted where
  cause : Cause
  statistics : Statistics
  deriving DecidableEq

/-- What is said about a run that ended early. -/
def Aborted.message (a : Aborted) : String := "Import run aborted: " ++ a.cause.message

/-- How a run ends: with its statistics, or early. -/
abbrev Outcome := Except Aborted Statistics

end CatalogImport
