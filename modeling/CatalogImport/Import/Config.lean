import CatalogImport.Decimal.Digits
import CatalogImport.Retry
import CatalogImport.Text.Quoted

/-!
# Configuration of an import

How large batches are, how often and after what pauses they are submitted again, and what becomes of
records that are rejected.
-/

namespace CatalogImport

open CatalogImport.Calendar CatalogImport.Decimal

/-- The configuration of one run. -/
structure Config where
  batchSize : Nat
  maxRetries : Nat
  /-- The pause before the first repetition; later pauses grow by as much. -/
  retryDelay : Span
  /-- The run goes on after an element that is no record. -/
  skipValidationErrors : Bool
  /-- What is rejected is kept in files. -/
  persistFailures : Bool
  artifactDir : String
  /-- Somebody listens to the progress of the run. -/
  progress : Bool
  deriving DecidableEq

namespace Config

/-- What holds when nothing is said. -/
def standard : Config := ⟨500, 3, ⟨1, 0⟩, true, true, ".", false⟩

/-- Sets the size of batches; zero counts as one. -/
def withBatchSize (c : Config) (size : Nat) : Config := { c with batchSize := max size 1 }

/-- How submissions are repeated. -/
def retryPolicy (c : Config) : RetryPolicy := .linear c.maxRetries c.retryDelay

/-- The configuration as a line of text. -/
def text (c : Config) : String :=
  let truth (b : Bool) : String := if b then "true" else "false"
  "ProcessingConfig \x7b batch_size: " ++ numeral c.batchSize
    ++ ", max_retries: " ++ numeral c.maxRetries
    ++ ", retry_delay: " ++ c.retryDelay.text
    ++ ", skip_validation_errors: " ++ truth c.skipValidationErrors
    ++ ", persist_failures: " ++ truth c.persistFailures
    ++ ", artifact_dir: " ++ Text.quoted c.artifactDir
    ++ ", progress: " ++ truth c.progress ++ " \x7d"

end Config

end CatalogImport
