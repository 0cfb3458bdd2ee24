import CatalogImport.Index
import CatalogImport.Postgres.Wire

/-!
# Sessions with a server

What a relational store promises about transactions, as far as it bears on the rows of its tables: what a
session is like before and after a statement that went through, that was refused, or on which the connection
was lost.  Nothing is said about when a statement goes through, so whatever pattern of answers a server gives,
a session goes by these rules (`Session.Goes`).  They leave open what a statement does where it has no place,
and what a mark is after the latest one has been released.  Main statement: trouble changes nothing of what
has been committed (`Session.Goes.committed_eq_of_trouble`).
-/

namespace CatalogImport.Postgres

/-- The rows of tables by their names; a table that does not exist has none. -/
abbrev Rows : Type := String → Index String

/-- The rows after a payload has been written under an id of a table. -/
def Rows.write (rows : Rows) (table id payload : String) : Rows := fun name =>
  if name = table then (rows name).insert id payload else rows name

/-- A transaction that has not ended. -/
structure Pending where
  /-- The rows at its start. -/
  start : Rows
  /-- The rows at the latest mark, if there is one. -/
  mark : Option Rows
  /-- A statement was refused, and until a way back is taken so are all others. -/
  isAborted : Bool

/-- How things stand between a server and the one who talks to it. -/
structure Session where
  isOpen : Bool
  /-- The rows as they are seen from within. -/
  rows : Rows
  pending : Option Pending

/-- A question with its answer. -/
abbrev Wire.Exchange : Type := (q : Wire) × q.Answer

/-- What was the trouble with a statement, if it did not go through. -/
def trouble? : Wire.Exchange → Option Trouble
  | ⟨.query _, .error t⟩ => some t
  | ⟨.prepare _, .error t⟩ => some t
  | ⟨.execute _, .error t⟩ => some t
  | _ => none

/-- Is it a statement that a server has to hear? -/
def Wire.isStatement : Wire → Bool
  | .query _ => true
  | .prepare _ => true
  | .execute _ => true
  | _ => false

namespace Session

variable (s : Session)

/-- The rows that stay when the session ends here. -/
def committed : Rows :=
  match s.pending with
  | none => s.rows
  | some p => p.start

/-- After the transaction has been taken back; without one, all is as it was. -/
def rolledBack : Session := { s with rows := s.committed, pending := none }

/-- After the connection has been lost. -/
def closed : Session := { s.rolledBack with isOpen := false }

/-- After a statement in the transaction has been refused. -/
def aborted : Session := { s with pending := s.pending.map ({ · with isAborted := true }) }

/-- In a transaction in which statements can be carried out. -/
def Within (p : Pending) : Prop := s.pending = some p ∧ p.isAborted = false

/-- What a question leads to whose statement, if it is one, went through.  Opening a connection begins another
session, of which nothing is said here. -/
def Performs : Wire → Session → Prop
  | .query (.createTable _), s' => s' = s
  | .query .startTransaction, s' =>
    s.pending = none → s' = { s with pending := some ⟨s.rows, none, false⟩ }
  | .query .commit, s' => ∀ p, s.Within p → s' = { s with pending := none }
  | .query .rollback, s' => s' = s.rolledBack
  | .query .savepoint, s' =>
    ∀ p, s.Within p → s' = { s with pending := some { p with mark := some s.rows } }
  | .query .release, s' =>
    ∀ p, s.Within p → p.mark.isSome → ∃ mark, s' = { s with pending := some { p with mark } }
  | .query .rollbackToSavepoint, s' =>
    ∀ p m, s.pending = some p → p.mark = some m →
      s' = { s with rows := m, pending := some { p with isAborted := false } }
  | .prepare _, s' => s' = s
  | .execute (.upsert table id payload), s' =>
    (∀ p, s.pending = some p → p.isAborted = false) →
      s' = { s with rows := s.rows.write table id payload }
  | .execute (.selectOne _ _), s' => s' = s
  | .execute (.selectPage _ _ _), s' => s' = s
  | .isGone, s' => s' = s
  | .notice _, s' => s' = s
  | .dial _ _, _ => True
  | .askEncryption, _ => True
  | .greet, _ => True

/-- What a statement leads to that was refused.  A transaction whose end was refused has been taken back;
that of another statement may have been aborted. -/
def Refuses : Wire → Session → Prop
  | .query .commit, s' => s' = s.rolledBack
  | .query .rollback, s' => s' = s.rolledBack
  | _, s' => s' = s ∨ s' = s.aborted

/-- What a question leads to that was answered so. -/
def Goes (e : Wire.Exchange) (s' : Session) : Prop :=
  match trouble? e with
  | none => (e.1.isStatement → s.isOpen) ∧ s.Performs e.1 s'
  | some .refused => s.Refuses e.1 s'
  | some .lost => s' = s.closed

variable {s} {s' : Session}

theorem committed_of_pending_eq_none (h : s.pending = none) : s.committed = s.rows := by
  rw [committed, h]

theorem Within.committed_eq {p : Pending} (h : s.Within p) : s.committed = p.start := by
  rw [committed, h.1]

@[simp] theorem committed_rolledBack : s.rolledBack.committed = s.committed := rfl

@[simp] theorem committed_closed : s.closed.committed = s.committed := rfl

@[simp] theorem committed_aborted : s.aborted.committed = s.committed := by
  unfold committed aborted
  cases s.pending with
  | none => rfl
  | some p => rfl

theorem Refuses.committed_eq {q : Wire} (h : s.Refuses q s') : s'.committed = s.committed := by
  unfold Refuses at h
  split at h
  · rw [h, committed_rolledBack]
  · rw [h, committed_rolledBack]
  · rcases h with rfl | rfl
    · rfl
    · exact committed_aborted

/-- What a server does not have to hear goes as it always does. -/
theorem goes_of_performs {q : Wire} {x : q.Answer} (hq : q.isStatement = false) (h : s.Performs q s') :
    s.Goes ⟨q, x⟩ s' := by
  have hquiet : q.isStatement → s.isOpen := fun hstatement => absurd (hq.symm.trans hstatement) (by decide)
  cases q with
  | query c => cases hq
  | prepare x => cases hq
  | execute x => cases hq
  | _ => exact ⟨hquiet, h⟩

/-- Trouble changes nothing of what has been committed. -/
theorem Goes.committed_eq_of_trouble {e : Wire.Exchange} {t : Trouble} (h : s.Goes e s')
    (ht : trouble? e = some t) : s'.committed = s.committed := by
  rw [Goes, ht] at h
  cases t with
  | refused => exact Refuses.committed_eq h
  | lost => rw [h, committed_closed]

/-- A transaction that is to end with trouble is over. -/
theorem Goes.pending_eq_none_of_trouble {c : Command} {t : Trouble}
    (h : s.Goes ⟨.query c, .error t⟩ s') (hc : c = .commit ∨ c = .rollback) : s'.pending = none := by
  cases t with
  | refused =>
    have hrefused : s.Refuses (.query c) s' := h
    rcases hc with rfl | rfl
    · exact hrefused ▸ rfl
    · exact hrefused ▸ rfl
  | lost =>
    have hlost : s' = s.closed := h
    exact hlost ▸ rfl

/-- After trouble with an execution the transaction can still be gone back in, unless the connection is
lost. -/
theorem Goes.pending_of_execution_trouble {x : Execution} {t : Trouble} {p : Pending}
    (h : s.Goes ⟨.execute x, .error t⟩ s') (hp : s.pending = some p) (hopen : s'.isOpen) :
    ∃ isAborted, s'.pending = some { p with isAborted } := by
  cases t with
  | refused =>
    have hrefused : s' = s ∨ s' = s.aborted := h
    rcases hrefused with rfl | rfl
    · exact ⟨p.isAborted, hp⟩
    · exact ⟨true, by rw [aborted, hp]; rfl⟩
  | lost =>
    obtain rfl : s' = s.closed := h
    cases hopen

end Session

end CatalogImport.Postgres
