import CatalogImport.Proofs.Transcript
import CatalogImport.Retry
import Mathlib.Order.Bounds.Defs

/-!
# What attempts come to

Attempts at a call do three things: they call, they tell of a failure before a pause, and they pause.
`RetryPolicy.trying` is the program that asks for these, and repeated calls in any monad are this program
with its questions answered there (`run_eq_interpret`).  Main statement: from what the calls come to, one
after the other, it follows how many there are, what is told and paused between them, and what comes of it
all (`attempts_of_outcomes`).
-/

namespace CatalogImport

open CatalogImport.Calendar

/-- What attempts at a call ask for. -/
inductive Trying (ε : Type) where
  /-- Make the call. -/
  | call
  /-- Learn that an attempt failed, how, and how long the pause after it is. -/
  | note (attempt : Nat) (e : ε) (millis : Nat)
  /-- Wait for some milliseconds. -/
  | pause (millis : Nat)

/-- The answer to a call is what the attempt came to. -/
abbrev Trying.Answer (ε α : Type) : Trying ε → Type
  | .call => Attempt ε α
  | .note _ _ _ => Unit
  | .pause _ => Unit

/-- A program that asks for these. -/
abbrev Tries (ε α β : Type) : Type := Program (Trying ε) (Trying.Answer ε α) β

variable {ε α : Type}

namespace Attempt

/-- No other attempt follows, however many are allowed. -/
def Settles : Attempt ε α → Prop
  | .again _ => False
  | _ => True

/-- What does not settle the matter is a failure that another attempt may mend. -/
theorem exists_again {x : Attempt ε α} (h : ¬ x.Settles) : ∃ e, x = .again e := by
  cases x with
  | again e => exact ⟨e, rfl⟩
  | _ => exact absurd trivial h

/-- What a call has come to when this was its last attempt. -/
def last : Attempt ε α → Attempted ε α
  | .ok a => .ok a
  | .stop e => .fatal e
  | .again e => .exhausted e

end Attempt

namespace Trying

/-- Answers in a monad in which there are a call, notes and pauses. -/
def answer {m : Type → Type} (call : m (Attempt ε α)) (onRetry : Nat → ε → Nat → m Unit)
    (pause : Nat → m Unit) : (q : Trying ε) → m (q.Answer ε α)
  | .call => call
  | .note attempt e millis => onRetry attempt e millis
  | .pause millis => pause millis

/-- Answers calls with outcomes, from the one on whose number is the state. -/
def answering (outcome : Nat → Attempt ε α) : Program.Handler (Trying ε) (Trying.Answer ε α) Nat
  | .call, i => (.answer (outcome i), i + 1)
  | .note _ _ _, i => (.answer (), i)
  | .pause _, i => (.answer (), i)

end Trying

namespace RetryPolicy

variable (p : RetryPolicy)

/-- The attempts from one with a number on, of which so many may follow that one. -/
def tryingFrom (ε α : Type) (left attempt : Nat) : Tries ε α (Attempted ε α) :=
  p.attemptFrom (Program.question Trying.call : Tries ε α (Attempt ε α))
    (fun i e millis => (Program.question (Trying.note i e millis) : Tries ε α Unit))
    (fun millis => (Program.question (Trying.pause millis) : Tries ε α Unit)) left attempt

/-- The attempts at a call, as a program that asks for calls, notes and pauses. -/
def trying (ε α : Type) : Tries ε α (Attempted ε α) :=
  p.tryingFrom ε α (p.maxAttempts - 1) 1

theorem tryingFrom_zero (attempt : Nat) :
    p.tryingFrom ε α 0 attempt = .ask .call fun x => .done x.last := by
  unfold tryingFrom attemptFrom
  apply congrArg (Program.ask Trying.call)
  funext x
  cases x <;> rfl

theorem tryingFrom_succ (left attempt : Nat) :
    p.tryingFrom ε α (left + 1) attempt = .ask .call fun
      | .ok a => .done (.ok a)
      | .stop e => .done (.fatal e)
      | .again e => .ask (.note attempt e (p.backoffMillis attempt)) fun _ =>
          .ask (.pause (p.backoffMillis attempt)) fun _ => p.tryingFrom ε α left (attempt + 1) := by
  conv =>
    lhs
    unfold tryingFrom attemptFrom
  apply congrArg (Program.ask Trying.call)
  funext x
  cases x <;> rfl

/-- Attempts in a monad are the program with its questions answered there. -/
theorem run_eq_interpret {m : Type → Type} [Monad m] (call : m (Attempt ε α))
    (onRetry : Nat → ε → Nat → m Unit) (pause : Nat → m Unit) :
    p.run call onRetry pause = (p.trying ε α).interpret (Trying.answer call onRetry pause) := by
  unfold run trying
  generalize p.maxAttempts - 1 = left
  generalize 1 = attempt
  induction left generalizing attempt with
  | zero =>
    rw [tryingFrom_zero, attemptFrom]
    show call >>= _ = call >>= _
    congr 1
    funext x
    cases x <;> rfl
  | succ left ih =>
    rw [tryingFrom_succ, attemptFrom]
    show call >>= _ = call >>= _
    congr 1
    funext x
    cases x with
    | ok a => rfl
    | stop e => rfl
    | again e =>
      show (onRetry attempt e (p.backoffMillis attempt) >>= fun _ =>
          pause (p.backoffMillis attempt) >>= fun _ =>
            p.attemptFrom call onRetry pause left (attempt + 1)) = _
      rw [ih (attempt + 1)]
      rfl

/-- An attempt that failed with an error, what is told of it, and the pause after it. -/
def repetition (α : Type) (failed : ε × Nat) : Program.Transcript (Trying ε) (Trying.Answer ε α) :=
  [⟨.call, .again failed.1⟩, ⟨.note failed.2 failed.1 (p.backoffMillis failed.2), ()⟩,
    ⟨.pause (p.backoffMillis failed.2), ()⟩]

/-- The attempts from one on, of which so many may follow that one, end with the `n`-th: it is the first
that settles the matter, or the last that is allowed.  Those before it failed with some errors. -/
structure EndsAt (outcome : Nat → Attempt ε α) (left attempt n : Nat) (errors : List ε) : Prop where
  isLeast : IsLeast {i | attempt ≤ i ∧ ((outcome i).Settles ∨ i = attempt + left)} n
  length : attempt + errors.length = n
  again : ∀ i e, errors[i]? = some e → outcome (attempt + i) = .again e
  run : (p.tryingFrom ε α left attempt).run (Trying.answering outcome) attempt =
    (.finished (outcome n).last, n + 1)
  transcript : (p.tryingFrom ε α left attempt).transcript (Trying.answering outcome) attempt =
    (errors.zipIdx attempt).flatMap (p.repetition α) ++ [⟨.call, outcome n⟩]

variable {p} {outcome : Nat → Attempt ε α} {left attempt : Nat}

theorem isLeast_of_last (h : (outcome attempt).Settles ∨ left = 0) :
    IsLeast {i | attempt ≤ i ∧ ((outcome i).Settles ∨ i = attempt + left)} attempt := by
  refine ⟨⟨Nat.le_refl _, h.imp_right ?_⟩, fun i hi => hi.1⟩
  rintro rfl
  rfl

theorem isLeast_of_again {n : Nat} {e : ε} (hagain : outcome attempt = .again e)
    (h : IsLeast {i | attempt + 1 ≤ i ∧ ((outcome i).Settles ∨ i = attempt + 1 + left)} n) :
    IsLeast {i | attempt ≤ i ∧ ((outcome i).Settles ∨ i = attempt + (left + 1))} n := by
  have hsum : attempt + (left + 1) = attempt + 1 + left := by omega
  rw [hsum]
  refine ⟨⟨by have := h.1.1; omega, h.1.2⟩, ?_⟩
  rintro i ⟨hle, hi⟩
  apply h.2
  refine ⟨?_, hi⟩
  -- the attempt that failed is none of those that end it
  have hne : i ≠ attempt := by
    rintro rfl
    rcases hi with hsettles | hlast
    · rw [hagain] at hsettles
      exact hsettles
    · omega
  omega

/-- The attempts end with this one if it settles the matter or no other may follow. -/
theorem endsAt_of_last (h : (outcome attempt).Settles ∨ left = 0) :
    p.EndsAt outcome left attempt attempt [] := by
  have hnext : ∃ next, p.tryingFrom ε α left attempt = .ask .call next ∧
      next (outcome attempt) = .done (outcome attempt).last := by
    cases left with
    | zero => exact ⟨_, p.tryingFrom_zero attempt, rfl⟩
    | succ left =>
      refine ⟨_, p.tryingFrom_succ left attempt, ?_⟩
      have hsettles : (outcome attempt).Settles := h.resolve_right (Nat.succ_ne_zero left)
      generalize outcome attempt = x at hsettles
      cases x with
      | again e => exact hsettles.elim
      | _ => rfl
  obtain ⟨next, hprogram, hdone⟩ := hnext
  refine ⟨isLeast_of_last h, rfl, by simp, ?_, ?_⟩
  · rw [hprogram]
    show (next (outcome attempt)).run _ _ = _
    rw [hdone]
    rfl
  · rw [hprogram]
    show ⟨Trying.call, outcome attempt⟩ :: (next (outcome attempt)).transcript _ _ = _
    rw [hdone]
    rfl

/-- An attempt that failed for the time being comes before the others. -/
theorem EndsAt.cons {n : Nat} {errors : List ε} {e : ε} (hagain : outcome attempt = .again e)
    (h : p.EndsAt outcome left (attempt + 1) n errors) :
    p.EndsAt outcome (left + 1) attempt n (e :: errors) := by
  refine ⟨isLeast_of_again hagain h.isLeast, ?_, ?_, ?_, ?_⟩
  · rw [← h.length, List.length_cons]
    omega
  · intro i e' he'
    cases i with
    | zero =>
      obtain rfl : e = e' := by simpa using he'
      exact hagain
    | succ i =>
      have hrest := h.again i e' (by simpa using he')
      rwa [Nat.add_right_comm] at hrest
  · rw [tryingFrom_succ, ← h.run]
    simp [Program.run, Trying.answering, hagain]
  · rw [tryingFrom_succ, List.zipIdx_cons, List.flatMap_cons, List.append_assoc, ← h.transcript]
    simp [Program.transcript, Trying.answering, hagain, repetition]

theorem exists_endsAt (p : RetryPolicy) (outcome : Nat → Attempt ε α) (left attempt : Nat) :
    ∃ n errors, p.EndsAt outcome left attempt n errors := by
  induction left generalizing attempt with
  | zero => exact ⟨attempt, [], endsAt_of_last (.inr rfl)⟩
  | succ left ih =>
    by_cases hsettles : (outcome attempt).Settles
    · exact ⟨attempt, [], endsAt_of_last (.inl hsettles)⟩
    · obtain ⟨e, hagain⟩ := Attempt.exists_again hsettles
      obtain ⟨n, errors, h⟩ := ih (attempt + 1)
      exact ⟨n, e :: errors, h.cons hagain⟩

/-- However the calls come out, one after the other, and however many attempts are allowed.  Let `n` be the
number of the first call that settles the matter, or that of the last attempt if there is none up to it; one
attempt is always made.  Then there are `n` calls, and what comes of them all is what the last of them
settles, or that the attempts are exhausted, with the error of the last one.  After each call but the last
there is one note, with the number of the attempt, its error and the length of the pause, and then the pause;
the next call follows, and nothing follows the last one.  In every monad in which calls, notes and pauses are
made, the attempts are these. -/
theorem attempts_of_outcomes (p : RetryPolicy) (outcome : Nat → Attempt ε α) :
    (∃ n, IsLeast {i | 1 ≤ i ∧ ((outcome i).Settles ∨ i = max p.maxAttempts 1)} n ∧
      (p.trying ε α).run (Trying.answering outcome) 1 = (.finished (outcome n).last, n + 1) ∧
      ∃ errors : List ε, errors.length = n - 1 ∧
        (∀ i e, errors[i]? = some e → outcome (i + 1) = .again e) ∧
        (p.trying ε α).transcript (Trying.answering outcome) 1 =
          (errors.zipIdx 1).flatMap (p.repetition α) ++ [⟨.call, outcome n⟩]) ∧
    ∀ (m : Type → Type) [Monad m] (call : m (Attempt ε α)) (onRetry : Nat → ε → Nat → m Unit)
      (pause : Nat → m Unit),
      p.run call onRetry pause = (p.trying ε α).interpret (Trying.answer call onRetry pause) := by
  refine ⟨?_, fun m _ => p.run_eq_interpret⟩
  obtain ⟨n, errors, h⟩ := p.exists_endsAt outcome (p.maxAttempts - 1) 1
  have hbound : 1 + (p.maxAttempts - 1) = max p.maxAttempts 1 := by omega
  refine ⟨n, hbound ▸ h.isLeast, h.run, errors, ?_, ?_, h.transcript⟩
  · have hlength := h.length
    omega
  · intro i e he
    rw [Nat.add_comm]
    exact h.again i e he

end RetryPolicy

end CatalogImport
