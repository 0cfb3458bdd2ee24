/-!
# Programs that ask

A program is what is done between questions to its surroundings: it is done, or it asks a question and
goes on according to the answer.  A handler answers questions from a state of its own; it may also
stay silent for ever, or bring the program down.  Main statements: programs obey the monad laws, and
running one program after another is running the first and then the second (`run_bind`).
-/

namespace CatalogImport

/-- A program with questions `Q`, of which `q` has answers `A q`. -/
inductive Program (Q : Type) (A : Q → Type) (α : Type) : Type where
  | done (a : α)
  | ask (q : Q) (next : A q → Program Q A α)

namespace Program

variable {Q : Type} {A : Q → Type} {α β σ : Type}

/-- Goes on with the result of a program. -/
def bind (p : Program Q A α) (f : α → Program Q A β) : Program Q A β :=
  match p with
  | .done a => f a
  | .ask q next => .ask q fun x => (next x).bind f

instance : Monad (Program Q A) where
  pure := .done
  bind := bind

/-- Asks one question. -/
def question (q : Q) : Program Q A (A q) := .ask q .done

@[simp] theorem pure_eq (a : α) : (pure a : Program Q A α) = .done a := rfl

@[simp] theorem done_bind (a : α) (f : α → Program Q A β) : (Program.done a >>= f) = f a := rfl

@[simp] theorem ask_bind (q : Q) (next : A q → Program Q A α) (f : α → Program Q A β) :
    (Program.ask q next >>= f) = .ask q fun x => next x >>= f := rfl

theorem bind_done (p : Program Q A α) : (p >>= Program.done) = p := by
  induction p with
  | done a => rfl
  | ask q next ih => rw [ask_bind]; congr 1; funext x; exact ih x

theorem bind_assoc {γ : Type} (p : Program Q A α) (f : α → Program Q A β) (g : β → Program Q A γ) :
    (p >>= f >>= g) = p >>= fun a => f a >>= g := by
  induction p with
  | done a => rfl
  | ask q next ih => simp only [ask_bind]; congr 1; funext x; exact ih x

instance : LawfulMonad (Program Q A) :=
  LawfulMonad.mk' (Program Q A) bind_done (fun _ _ => rfl) bind_assoc

/-- Runs a program in a monad that answers its questions. -/
def interpret {m : Type → Type} [Monad m] (answer : (q : Q) → m (A q)) : Program Q A α → m α
  | .done a => pure a
  | .ask q next => answer q >>= fun x => (next x).interpret answer

/-! ## Handlers -/

/-- What becomes of a question. -/
inductive Reply (α : Type) where
  | answer (a : α)
  /-- The answer never comes. -/
  | silence
  /-- The program breaks down. -/
  | collapse

/-- The answer that comes, if one does, as something else. -/
def Reply.map {α β : Type} (f : α → β) : Reply α → Reply β
  | .answer a => .answer (f a)
  | .silence => .silence
  | .collapse => .collapse

/-- Answers questions from a state. -/
abbrev Handler (Q : Type) (A : Q → Type) (σ : Type) := (q : Q) → σ → Reply (A q) × σ

/-- How a program came to its end. -/
inductive Ending (α : Type) where
  | finished (a : α)
  | stalled
  | collapsed
  deriving DecidableEq

/-- What becomes of a question that a program is to answer. -/
def Ending.reply {α : Type} : Ending α → Reply α
  | .finished a => .answer a
  | .stalled => .silence
  | .collapsed => .collapse

/-- Runs a program under a handler from a state. -/
def run (h : Handler Q A σ) (p : Program Q A α) (s : σ) : Ending α × σ :=
  match p with
  | .done a => (.finished a, s)
  | .ask q next =>
    match h q s with
    | (.answer x, s) => (next x).run h s
    | (.silence, s) => (.stalled, s)
    | (.collapse, s) => (.collapsed, s)

@[simp] theorem run_done (h : Handler Q A σ) (a : α) (s : σ) :
    (Program.done a : Program Q A α).run h s = (.finished a, s) := rfl

/-- A program in two parts runs as its first part and then its second. -/
theorem run_bind (h : Handler Q A σ) (p : Program Q A α) (f : α → Program Q A β) (s : σ) :
    (p >>= f).run h s =
      match p.run h s with
      | (.finished a, s) => (f a).run h s
      | (.stalled, s) => (.stalled, s)
      | (.collapsed, s) => (.collapsed, s) := by
  induction p generalizing s with
  | done a => rfl
  | ask q next ih =>
    rw [ask_bind, run, run]
    cases hq : h q s with
    | mk reply s' =>
      cases reply with
      | answer x => exact ih x s'
      | silence => rfl
      | collapse => rfl

end Program

end CatalogImport
