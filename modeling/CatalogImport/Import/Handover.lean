import CatalogImport.Import.Request

/-!
# Handing elements over

A reader decodes the elements of a document and hands them to a taker.  Between the two a number of
elements can wait; when there is no room the reader stands still.  Both move by themselves and in any
order.  The taker may close the handover: what is waiting is dropped, and the reader, if it still has
an element, ends when it tries to hand that over.
-/

namespace CatalogImport

open CatalogImport.Json

/-- Elements on their way from a reader to a taker. -/
structure Handover where
  /-- What the reader has not handed over. -/
  unread : List Value
  /-- How the reading ends after the last element. -/
  ending : Except SourceError ReadSummary
  /-- What has been handed over and not been taken. -/
  waiting : List Value
  taken : List Value
  isClosed : Bool
  /-- How the reader ended, once it has. -/
  verdict : Option (Except SourceError ReadSummary)

namespace Handover

/-- Nothing has been handed over. -/
def start (r : Reading) : Handover := ⟨r.elements, r.ending, [], [], false, none⟩

/-- What the reader or the taker may do. -/
inductive Move where
  /-- The reader hands an element over. -/
  | send
  /-- The reader finds the handover closed and ends. -/
  | refuse
  /-- The reader comes to the end of the document. -/
  | conclude
  | take
  | close
  deriving DecidableEq

/-- The reader has not ended. -/
def isReading (h : Handover) : Bool := h.verdict.isNone

/-- What a move leads to if it is possible, when `room` elements can wait. -/
def move? (room : Nat) (h : Handover) : Move → Option Handover
  | .send =>
    match h.unread with
    | v :: rest =>
      if h.isReading ∧ ¬ h.isClosed ∧ h.waiting.length < room then
        some { h with unread := rest, waiting := h.waiting ++ [v] }
      else none
    | [] => none
  | .refuse =>
    match h.unread with
    | _ :: _ =>
      if h.isReading ∧ h.isClosed then some { h with verdict := some (.error .closed) } else none
    | [] => none
  | .conclude =>
    match h.unread with
    | [] => if h.isReading then some { h with verdict := some h.ending } else none
    | _ :: _ => none
  | .take =>
    match h.waiting with
    | v :: rest => if h.isClosed then none else some { h with waiting := rest, taken := h.taken ++ [v] }
    | [] => none
  | .close => if h.isClosed then none else some { h with isClosed := true, waiting := [] }

/-- What several moves lead to, each of which has to be possible. -/
def moves? (room : Nat) (h : Handover) (ms : List Move) : Option Handover := ms.foldlM (move? room) h

/-! ## A reader that runs ahead -/

/-- A move is made if it is possible. -/
def tryMove (room : Nat) (m : Move) (h : Handover) : Handover := (h.move? room m).getD h

/-- The reader hands over as much as there is room for. -/
def readAhead (room : Nat) (h : Handover) : Handover := Nat.repeat (tryMove room .send) room h

/-- One element is taken as soon as there is one. -/
def takeNext (room : Nat) (h : Handover) : Handover := (h.readAhead room).tryMove room .take

/-- The handover is closed while the reader is as far ahead as it can be, and the reader then ends. -/
def closeAhead (room : Nat) (h : Handover) : Handover :=
  (((h.readAhead room).tryMove room .close).tryMove room .refuse).tryMove room .conclude

end Handover

/-- Takes some elements and closes the handover: what was taken, and how the reader ended.  The reader is
always as far ahead as it can be, and there is room for one element at least. -/
def Reading.takeSome (r : Reading) (count room : Nat) :
    List Value × Except SourceError ReadSummary :=
  let room := max room 1
  let h := (Nat.repeat (Handover.takeNext room) count (.start r)).closeAhead room
  (h.taken, h.verdict.getD r.ending)

end CatalogImport
