import CatalogImport.Import.Run

/-!
# Controllers

A controller runs one import after the other, all with one configuration and one logbook.  It keeps the phase
that it is in, from one import to the next.
-/

namespace CatalogImport

/-- A controller, and the phases that it has entered since it was called last. -/
structure Controller where
  config : Config
  logbook : Option Logbook
  phase : Phase
  entered : List Phase

/-- A call of a controller, with the surroundings in which it runs.  Some of these are only there for this call. -/
structure Call (κ σ : Type) where
  resumeFrom : Nat
  /-- What is only there for this call, when it begins. -/
  own : κ
  surroundings : Surroundings (σ × κ)

namespace Controller

variable {κ σ : Type}

/-- A controller that has not been called. -/
def new (config : Config) (logbook : Option Logbook) : Controller := ⟨config, logbook, .notStarted, []⟩

/-- The controller after it has entered a phase. -/
def enter (c : Controller) (p : Phase) : Controller := { c with phase := p, entered := c.entered ++ [p] }

/-- The controller keeps account of its phase, and has all else answered by its surroundings. -/
def answers (s : Surroundings σ) : Surroundings (Controller × σ)
  | .enter p, (c, w) => (.answer (), c.enter p, w)
  | q, (c, w) => ((s q w).1, c, (s q w).2)

/-- A call: how it ends, and what it leaves of the controller and of what stays behind. -/
def call (R : Type) [CatalogRecord R] (c : Controller) (k : Call κ σ) (w : σ) :
    Program.Ending Outcome × Controller × σ :=
  match (importRun c.config c.logbook R k.resumeFrom).run (answers k.surroundings)
    ({ c with entered := [] }, w, k.own) with
  | (ending, c, w, _) => (ending, c, w)

/-- What calls leave that are made one after the other. -/
def calls (R : Type) [CatalogRecord R] (c : Controller) (w : σ) (ks : List (Call κ σ)) : Controller × σ :=
  ks.foldl (fun s k => (s.1.call R k s.2).2) (c, w)

end Controller

end CatalogImport
