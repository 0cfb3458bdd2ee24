import CatalogImport.Postgres.Store
import CatalogImport.Proofs.Postgres.Session
import CatalogImport.Proofs.Transcript

/-!
# Transactions

A call ventures in a transaction (`Ventures`) when nothing that it is answered makes it change what has been
committed, and it fails exactly if it was told what no call survives.  This is put together from its parts
(`Ventures.bind`); there is one lemma for each statement.  Main statement: a call that ventures, run in a
transaction that is committed in the end and taken back on failure, is all or nothing
(`ensures_transaction`).
-/

namespace CatalogImport.Postgres

open CatalogImport.Program

/-! ## Calls in a transaction -/

/-- An exchange that a call does not survive: the connection is known to be gone, or a statement other than
an execution did not go through. -/
def breaks : Wire.Exchange → Bool
  | ⟨.isGone, gone⟩ => gone
  | ⟨.query _, .error _⟩ => true
  | ⟨.prepare _, .error _⟩ => true
  | _ => false

/-- Whatever the answers, a call changes nothing of what has been committed.  It fails exactly if something
happened that it does not survive, and otherwise ends as said. -/
def Ventures {α : Type} (c : Call α) (s : Session)
    (post : List Wire.Exchange → α → Session → Prop) : Prop :=
  c.run.Ensures Session.Goes s fun t outcome s' =>
    s'.committed = s.committed ∧
      match outcome with
      | .error _ => t.any breaks = true
      | .ok a => t.any breaks = false ∧ post t a s'

section

variable {α β : Type} {s : Session} {p : Pending}

theorem ventures_pure {a : α} {post : List Wire.Exchange → α → Session → Prop} (h : post [] a s) :
    Ventures (pure a) s post := ⟨rfl, rfl, h⟩

theorem Ventures.bind {c : Call α} {f : α → Call β} {mid : List Wire.Exchange → α → Session → Prop}
    {post : List Wire.Exchange → β → Session → Prop} (hc : Ventures c s mid)
    (hf : ∀ t a s', mid t a s' → Ventures (f a) s' fun u => post (t ++ u)) :
    Ventures (c >>= f) s post := by
  refine ensures_run_bind_iff.2 (Ensures.mono hc fun t outcome s' ⟨hkept, h⟩ => ?_)
  cases outcome with
  | error e => exact ⟨hkept, h⟩
  | ok a =>
    obtain ⟨hunbroken, hmid⟩ := h
    refine Ensures.mono (hf t a s' hmid) fun u outcome s'' ⟨hkept', h⟩ => ?_
    refine ⟨hkept'.trans hkept, ?_⟩
    rw [List.any_append, hunbroken, Bool.false_or]
    exact h

theorem Ventures.mono {c : Call α} {post post' : List Wire.Exchange → α → Session → Prop}
    (hc : Ventures c s post) (hpost : ∀ t a s', post t a s' → post' t a s') : Ventures c s post' := by
  refine Ensures.mono hc fun t outcome s' ⟨hkept, h⟩ => ⟨hkept, ?_⟩
  cases outcome with
  | error e => exact h
  | ok a => exact ⟨h.1, hpost t a s' h.2⟩

/-! ## Statements in a transaction -/

/-- A command of a transaction that would change nothing of what has been committed. -/
theorem ventures_command {c : Command}
    (hkeeps : ∀ s', s.isOpen → s.Performs (.query c) s' → s'.committed = s.committed) :
    Ventures (command c) s fun t _ s' =>
      t = [⟨.query c, .ok ()⟩] ∧ s.isOpen ∧ s.Performs (.query c) s' := by
  intro x s' hgoes
  cases x with
  | error t => exact ⟨hgoes.committed_eq_of_trouble rfl, rfl⟩
  | ok u =>
    obtain ⟨hopen, hperforms⟩ := hgoes
    exact ⟨hkeeps s' (hopen rfl) hperforms, rfl, rfl, hopen rfl, hperforms⟩

theorem ventures_prepare (x : Statement) :
    Ventures (prepare x) s fun t _ s' => t = [⟨.prepare x, .ok ()⟩] ∧ s' = s := by
  intro answer s' hgoes
  cases answer with
  | error t => exact ⟨hgoes.committed_eq_of_trouble rfl, rfl⟩
  | ok u =>
    obtain rfl := hgoes.2
    exact ⟨rfl, rfl, rfl, rfl⟩

/-- A question that no call is given up for. -/
theorem ventures_wire {q : Wire} (hunbroken : ∀ x, breaks ⟨q, x⟩ = false)
    (hkeeps : ∀ x s', s.Goes ⟨q, x⟩ s' → s'.committed = s.committed) :
    Ventures (ExceptT.lift (wire q)) s fun t x s' => t = [⟨q, x⟩] ∧ s.Goes ⟨q, x⟩ s' := by
  intro x s' hgoes
  refine ⟨hkeeps x s' hgoes, ?_, rfl, hgoes⟩
  rw [List.any_cons, hunbroken, List.any_nil, Bool.or_self]

theorem ventures_notice (n : Notice) :
    Ventures (ExceptT.lift (wire (.notice n))) s fun t _ s' => t = [⟨.notice n, ()⟩] ∧ s' = s := by
  have hstays : ∀ x s', s.Goes ⟨.notice n, x⟩ s' → s' = s := fun _ _ hgoes => hgoes.2
  refine (ventures_wire (fun _ => rfl) fun x s' hgoes => ?_).mono fun t x s' ⟨ht, hgoes⟩ => ?_
  · rw [hstays x s' hgoes]
  · exact ⟨ht, hstays x s' hgoes⟩

theorem ventures_startTransaction (hidle : s.pending = none) :
    Ventures (command .startTransaction) s fun t _ s' =>
      t = [⟨.query .startTransaction, .ok ()⟩] ∧ s'.rows = s.rows ∧ ∃ p, s'.Within p := by
  refine (ventures_command fun s' _ hs' => ?_).mono fun t _ s' ⟨ht, _, hs'⟩ => ?_
  · rw [hs' hidle, Session.committed_of_pending_eq_none hidle]
    rfl
  · rw [hs' hidle]
    exact ⟨ht, rfl, _, rfl, rfl⟩

theorem ventures_savepoint (h : s.Within p) :
    Ventures (command .savepoint) s fun t _ s' =>
      t = [⟨.query .savepoint, .ok ()⟩] ∧ s'.rows = s.rows ∧
        s'.Within { p with mark := some s.rows } := by
  refine (ventures_command fun s' _ hs' => ?_).mono fun t _ s' ⟨ht, _, hs'⟩ => ?_
  · rw [hs' p h, h.committed_eq]
    rfl
  · rw [hs' p h]
    exact ⟨ht, rfl, rfl, h.2⟩

theorem ventures_release (h : s.Within p) (hmark : p.mark.isSome) :
    Ventures (command .release) s fun t _ s' =>
      t = [⟨.query .release, .ok ()⟩] ∧ s'.rows = s.rows ∧ ∃ p', s'.Within p' := by
  refine (ventures_command fun s' _ hs' => ?_).mono fun t _ s' ⟨ht, _, hs'⟩ => ?_
  · obtain ⟨mark, rfl⟩ := hs' p h hmark
    exact h.committed_eq.symm
  · obtain ⟨mark, rfl⟩ := hs' p h hmark
    exact ⟨ht, rfl, { p with mark }, rfl, h.2⟩

/-- The way back to a mark is open as long as the connection is. -/
theorem ventures_rollbackToSavepoint {m : Rows}
    (h : s.isOpen → ∃ p, s.pending = some p ∧ p.mark = some m) :
    Ventures (command .rollbackToSavepoint) s fun t _ s' =>
      t = [⟨.query .rollbackToSavepoint, .ok ()⟩] ∧ s'.rows = m ∧ ∃ p', s'.Within p' := by
  refine (ventures_command fun s' hopen hs' => ?_).mono fun t _ s' ⟨ht, hopen, hs'⟩ => ?_
  · obtain ⟨p, hp, hm⟩ := h hopen
    rw [hs' p m hp hm, Session.committed, Session.committed, hp]
  · obtain ⟨p, hp, hm⟩ := h hopen
    rw [hs' p m hp hm]
    exact ⟨ht, rfl, { p with isAborted := false }, rfl, rfl⟩

theorem ventures_upsert (h : s.Within p) (table id payload : String) :
    Ventures (ExceptT.lift (wire (.execute (.upsert table id payload)))) s fun t answer s' =>
      t = [⟨.execute (.upsert table id payload), answer⟩] ∧
        match answer with
        | .ok _ => s'.rows = s.rows.write table id payload ∧ s'.Within p
        | .error _ => s'.isOpen → ∃ isAborted, s'.pending = some { p with isAborted } := by
  have hwritten : ∀ rows s', s.Goes ⟨.execute (.upsert table id payload), .ok rows⟩ s' →
      s' = { s with rows := s.rows.write table id payload } := by
    intro rows s' hgoes
    refine hgoes.2 fun p' hp' => ?_
    obtain rfl := Option.some.inj (h.1.symm.trans hp')
    exact h.2
  refine (ventures_wire (fun _ => rfl) ?_).mono ?_
  · rintro (t | rows) s' hgoes
    · exact hgoes.committed_eq_of_trouble rfl
    · rw [hwritten rows s' hgoes, h.committed_eq, Session.committed, h.1]
  · rintro t (e | rows) s' ⟨ht, hgoes⟩
    · exact ⟨ht, hgoes.pending_of_execution_trouble h.1⟩
    · rw [hwritten rows s' hgoes]
      exact ⟨ht, rfl, h⟩

/-! ## The end of a transaction -/

/-- Committing a transaction keeps all that has been written in it, or leaves what was committed before. -/
theorem ensures_commit (h : s.Within p) :
    (command .commit).run.Ensures Session.Goes s fun t outcome s' =>
      s'.pending = none ∧
        match outcome with
        | .error _ => t.any breaks = true ∧ s'.rows = s.committed
        | .ok _ => t = [⟨.query .commit, .ok ()⟩] ∧ s'.rows = s.rows := by
  intro answer s' hgoes
  cases answer with
  | error t =>
    have hpending := hgoes.pending_eq_none_of_trouble (.inl rfl)
    refine ⟨hpending, rfl, ?_⟩
    rw [← hgoes.committed_eq_of_trouble rfl, Session.committed_of_pending_eq_none hpending]
  | ok u =>
    have hperforms : s.Performs (.query .commit) s' := hgoes.2
    rw [hperforms p h]
    exact ⟨rfl, rfl, rfl⟩

/-- Takes a transaction back and fails. -/
def giveUp {α : Type} (e : StoreError) : Call α := do
  let _ ← wire (.query .rollback)
  throw e

/-- A call whose transaction is committed in the end, and taken back if it fails. -/
def transaction {α : Type} (c : Call α) : Call α := do
  let a ← tryCatch c giveUp
  command .commit
  return a

variable {c : Call α}

/-- What has been committed is left, whether or not the server hears of it. -/
theorem ensures_giveUp (e : StoreError) :
    (giveUp e : Call α).run.Ensures Session.Goes s fun _ outcome s' =>
      outcome = .error e ∧ s'.pending = none ∧ s'.rows = s.committed := by
  intro answer s' hgoes
  cases answer with
  | error t =>
    have hpending := hgoes.pending_eq_none_of_trouble (.inr rfl)
    refine ⟨rfl, hpending, ?_⟩
    rw [← hgoes.committed_eq_of_trouble rfl, Session.committed_of_pending_eq_none hpending]
  | ok u =>
    obtain rfl : s' = s.rolledBack := hgoes.2
    exact ⟨rfl, rfl, rfl⟩

/-- A call that ventures in a transaction leaves nothing behind or, once that has been committed, all that it
has done. -/
theorem ensures_transaction (post : List Wire.Exchange → α → Rows → Prop)
    (hc : Ventures c s fun t a s' => (∃ p, s'.Within p) ∧ post t a s'.rows) :
    (transaction c).run.Ensures Session.Goes s fun t outcome s' =>
      s'.pending = none ∧
        match outcome with
        | .error _ => t.any breaks = true ∧ s'.rows = s.committed
        | .ok a => t.any breaks = false ∧
            ∃ u, t = u ++ [⟨.query .commit, .ok ()⟩] ∧ post u a s'.rows := by
  refine ensures_run_bind_iff.2 (ensures_run_tryCatch_iff.2 (Ensures.mono hc ?_))
  rintro t (e | a) s₁ ⟨hkept, h₁⟩
  · refine (ensures_giveUp e).mono ?_
    rintro u _ s₂ ⟨rfl, hpending, hrows⟩
    refine ⟨hpending, ?_, hrows.trans hkept⟩
    rw [List.any_append, h₁, Bool.true_or]
  · obtain ⟨hunbroken, ⟨p, hp⟩, hpost⟩ := h₁
    refine ensures_run_bind_iff.2 ((ensures_commit hp).mono ?_)
    rintro u (e | _) s₂ ⟨hpending, h₂⟩
    · obtain ⟨hbroken, hrows⟩ := h₂
      refine ⟨hpending, ?_, hrows.trans hkept⟩
      rw [List.any_append, hbroken, Bool.or_true]
    · obtain ⟨rfl, hrows⟩ := h₂
      refine ⟨hpending, ?_, t, ?_, hrows ▸ hpost⟩
      · rw [List.append_nil, List.any_append, hunbroken]
        rfl
      · rw [List.append_nil]

end

end CatalogImport.Postgres
