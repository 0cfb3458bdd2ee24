import CatalogImport.Calendar.Span

/-!
# Trying again

A call that fails may be repeated up to a number of attempts, with a pause before each repetition that
grows by the same amount each time.
-/

namespace CatalogImport

open CatalogImport.Calendar

/-- How often a call is attempted, and the unit of the pauses. -/
structure RetryPolicy where
  maxAttempts : Nat
  baseDelay : Span

/-- What an attempt came to. -/
inductive Attempt (ε α : Type) where
  | ok (a : α)
  /-- It failed in a way that another attempt may mend. -/
  | again (e : ε)
  /-- It failed for good. -/
  | stop (e : ε)

/-- What a call came to in the end. -/
inductive Attempted (ε α : Type) where
  | ok (a : α)
  | fatal (e : ε)
  /-- Every attempt failed, the last one with this error. -/
  | exhausted (e : ε)

namespace RetryPolicy

/-- One attempt and so many repetitions. -/
def linear (maxRetries : Nat) (delay : Span) : RetryPolicy := ⟨maxRetries + 1, delay⟩

/-- The pause after a number of failures: the unit times that number, in whole milliseconds of 64
bits. -/
def backoffMillis (p : RetryPolicy) (attempt : Nat) : Nat :=
  min (p.baseDelay.wholeMillis * max attempt 1) (Nat.pow 2 64 - 1)

variable {m : Type → Type} [Monad m] {ε α : Type}

/-- Attempts a call of which `attempt - 1` attempts have failed and `left` may follow this one. -/
def attemptFrom (p : RetryPolicy) (call : m (Attempt ε α)) (onRetry : Nat → ε → Nat → m Unit)
    (pause : Nat → m Unit) (left attempt : Nat) : m (Attempted ε α) := do
  match ← call with
  | .ok a => return .ok a
  | .stop e => return .fatal e
  | .again e =>
    match left with
    | 0 => return .exhausted e
    | left + 1 =>
      onRetry attempt e (p.backoffMillis attempt)
      pause (p.backoffMillis attempt)
      attemptFrom p call onRetry pause left (attempt + 1)

/-- Attempts a call at least once and until an attempt succeeds, fails for good, or is the last one.
Before each pause `onRetry` learns which attempt failed, how, and how long the pause is. -/
def run (p : RetryPolicy) (call : m (Attempt ε α)) (onRetry : Nat → ε → Nat → m Unit)
    (pause : Nat → m Unit) : m (Attempted ε α) :=
  attemptFrom p call onRetry pause (p.maxAttempts - 1) 1

end RetryPolicy

end CatalogImport
