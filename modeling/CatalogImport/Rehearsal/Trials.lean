import CatalogImport.Retry

/-!
# Calls whose attempts are arranged

For rehearsing repeated calls: each attempt comes to what has been arranged for it, and the last
arrangement holds for all attempts that follow.
-/

namespace CatalogImport

/-- What attempts come to, how many there have been, and what was learned before the pauses. -/
structure Trials (ε α : Type) where
  arranged : List (Attempt ε α)
  count : Nat
  /-- Attempts that failed, how they did, and the lengths of the pauses, the last one first. -/
  notices : List (Nat × ε × Nat)

namespace Trials

variable {ε α : Type}

/-- Trials of which none has been made yet. -/
def arrange (outcomes : List (Attempt ε α)) : Trials ε α := ⟨outcomes, 0, []⟩

/-- One attempt.  When nothing has been arranged it comes to `unarranged`. -/
def attempt (unarranged : Attempt ε α) : StateM (Trials ε α) (Attempt ε α) := do
  let t ← StateT.get
  let rest := match t.arranged with
    | _ :: next :: rest => next :: rest
    | outcomes => outcomes
  set { t with arranged := rest, count := t.count + 1 }
  return t.arranged.head?.getD unarranged

/-- Remembers an attempt that is to be repeated after a pause. -/
def note (attempt : Nat) (e : ε) (millis : Nat) : StateM (Trials ε α) Unit :=
  modify fun t => { t with notices := (attempt, e, millis) :: t.notices }

end Trials

end CatalogImport
