import CatalogImport.Proofs.Import.Course

/-!
# What histories tell

What can be read off the history of an import: the elements of the document, how many of them were
received, what was offered to the store, the statistics that were told, the attempts at keeping rejected
records, and what the journal was asked about batches.  All of it stands in the gist already.  `Tells`
says all of it at once about a part of a run and is put together from parts.
-/

namespace CatalogImport

open CatalogImport.Json

/-! ## What a history tells -/

/-- The document that was opened. -/
def document? : Exchange → Option Reading
  | ⟨.openDocument, .ok document⟩ => some document
  | _ => none

/-- An element was received. -/
def receipt? : Exchange → Option Unit
  | ⟨.enter .validating, _⟩ => some ()
  | _ => none

/-- The records handed to a store that did not refuse them, and its report; there is none when the call
was cancelled and nobody knows whether the store took them. -/
def offer? : Exchange → Option (List Stored × Option BatchResult)
  | ⟨.addMany records, some (.ok report)⟩ => some (records, some report)
  | ⟨.addMany records, none⟩ => some (records, none)
  | _ => none

/-- The statistics told to whoever listens to the progress. -/
def snapshot? : Exchange → Option Statistics
  | ⟨.progress s, _⟩ => some s
  | _ => none

/-- The rejected records that were to be kept, written or not. -/
def keeping? : Exchange → Option (RecordKind × List FailedEntry)
  | ⟨.keepRecords kind entries, _⟩ => some (kind, entries)
  | _ => none

/-- A checkpoint that was moved, as far as one can tell. -/
def save? : Exchange → Option Checkpoint
  | ⟨.saveCheckpoint c, _⟩ => some c
  | _ => none

/-- The exchange is part of recording a batch in the journal. -/
def isRecording : Exchange → Bool
  | ⟨.loadCheckpoint _, _⟩ => true
  | ⟨.append ⟨_, .committed _ _, _⟩, _⟩ => true
  | ⟨.saveCheckpoint _, _⟩ => true
  | _ => false

/-- The documents that were opened. -/
def documents (t : History) : List Reading := t.filterMap document?

/-- The elements of the document that was opened, with their positions. -/
def openedElements (t : History) : List (Value × Nat) :=
  (documents t).flatMap fun document => document.elements.zipIdx

/-- How many elements were received. -/
def received (t : History) : Nat := (t.filterMap receipt?).length

/-- What was handed to the store and not refused, in order. -/
def offers (t : History) : List (List Stored × Option BatchResult) := t.filterMap offer?

/-- What whoever listens to the progress was told, in order. -/
def snapshots (t : History) : List Statistics := t.filterMap snapshot?

/-- Every attempt at keeping rejected records. -/
def keepings (t : History) : List (RecordKind × List FailedEntry) := t.filterMap keeping?

/-- The checkpoints that were to be written. -/
def saves (t : History) : List Checkpoint := t.filterMap save?

/-- What the journal was asked about batches, with its answers. -/
def recordings (t : History) : History := t.filter isRecording

/-- What is told by exchanges that are kept can be read off those. -/
theorem filterMap_filter_of_none {α : Type} {f : Exchange → Option α} {p : Exchange → Bool}
    (hf : ∀ e : Exchange, p e = false → f e = none) (t : History) :
    (t.filter p).filterMap f = t.filterMap f := by
  induction t with
  | nil => rfl
  | cons e t ih =>
    cases he : p e with
    | true => rw [List.filter_cons_of_pos he, List.filterMap_cons, List.filterMap_cons, ih]
    | false =>
      rw [List.filter_cons_of_neg (by simp [he]), List.filterMap_cons_none (hf e he), ih]

/-- What is told by exchanges that matter can be read off the gist. -/
theorem filterMap_gist {α : Type} {f : Exchange → Option α}
    (hf : ∀ e : Exchange, matters e = false → f e = none) (t : History) :
    (gist t).filterMap f = t.filterMap f := filterMap_filter_of_none hf t

/-- Exchanges that do not matter tell nothing. -/
theorem tells_nothing {e : Exchange} (h : matters e = false) :
    document? e = none ∧ receipt? e = none ∧ offer? e = none ∧ snapshot? e = none ∧
      keeping? e = none := by
  obtain ⟨h, -⟩ := Bool.or_eq_false_iff.1 h
  obtain ⟨q, x⟩ := e
  cases q with
  | enter p => cases p <;> first | exact ⟨rfl, rfl, rfl, rfl, rfl⟩ | cases h
  | _ => first | exact ⟨rfl, rfl, rfl, rfl, rfl⟩ | cases h

/-- What is part of recording a batch matters. -/
theorem matters_of_isRecording {e : Exchange} (h : isRecording e = true) : matters e = true := by
  obtain ⟨q, x⟩ := e
  cases q with
  | append event =>
    obtain ⟨runId, happening, moment⟩ := event
    cases happening with
    | committed number records => rfl
    | _ => cases h
  | loadCheckpoint runId => rfl
  | saveCheckpoint c => rfl
  | _ => cases h

@[simp] theorem documents_gist (t : History) : documents (gist t) = documents t :=
  filterMap_gist (fun _ h => (tells_nothing h).1) t

@[simp] theorem received_gist (t : History) : received (gist t) = received t := by
  unfold received
  rw [filterMap_gist fun e h => (tells_nothing h).2.1]

@[simp] theorem offers_gist (t : History) : offers (gist t) = offers t :=
  filterMap_gist (fun _ h => (tells_nothing h).2.2.1) t

@[simp] theorem snapshots_gist (t : History) : snapshots (gist t) = snapshots t :=
  filterMap_gist (fun _ h => (tells_nothing h).2.2.2.1) t

@[simp] theorem keepings_gist (t : History) : keepings (gist t) = keepings t :=
  filterMap_gist (fun _ h => (tells_nothing h).2.2.2.2) t

@[simp] theorem recordings_gist (t : History) : recordings (gist t) = recordings t := by
  unfold recordings gist
  rw [List.filter_filter]
  refine List.filter_congr fun e _ => ?_
  cases he : isRecording e with
  | false => rfl
  | true => rw [matters_of_isRecording he, Bool.and_self]

/-- The checkpoints that were to be written were to be so when batches were recorded. -/
@[simp] theorem saves_recordings (t : History) : saves (recordings t) = saves t := by
  refine filterMap_filter_of_none (fun e he => ?_) t
  obtain ⟨q, x⟩ := e
  cases q with
  | saveCheckpoint c => cases he
  | _ => rfl

@[simp] theorem documents_append (t u : History) : documents (t ++ u) = documents t ++ documents u :=
  List.filterMap_append

@[simp] theorem received_append (t u : History) : received (t ++ u) = received t + received u := by
  simp [received]

@[simp] theorem offers_append (t u : History) : offers (t ++ u) = offers t ++ offers u :=
  List.filterMap_append

@[simp] theorem snapshots_append (t u : History) : snapshots (t ++ u) = snapshots t ++ snapshots u :=
  List.filterMap_append

@[simp] theorem keepings_append (t u : History) : keepings (t ++ u) = keepings t ++ keepings u :=
  List.filterMap_append

@[simp] theorem saves_append (t u : History) : saves (t ++ u) = saves t ++ saves u :=
  List.filterMap_append

@[simp] theorem recordings_append (t u : History) :
    recordings (t ++ u) = recordings t ++ recordings u := List.filter_append ..

theorem mem_documents_iff {d : Reading} {t : History} :
    d ∈ documents t ↔ (⟨.openDocument, .ok d⟩ : Exchange) ∈ t := by
  unfold documents
  rw [List.mem_filterMap]
  constructor
  · rintro ⟨⟨q, x⟩, he, hd⟩
    cases q with
    | openDocument =>
      cases x with
      | error cause => cases hd
      | ok d' =>
        cases hd
        exact he
    | _ => cases hd
  · intro h
    exact ⟨_, h, rfl⟩

/-! ## What parts of a run tell -/

/-- What a part of a run tells: how many elements were received, what was offered to the store, what
statistics were told, and what the journal was asked about batches.  No part but the end of a run keeps
rejected records. -/
structure Tells (g : History) (receipts : Nat) (offered : List (List Stored × Option BatchResult))
    (told : List Statistics) (recorded : History) : Prop where
  documents : documents g = []
  received : received g = receipts
  offers : offers g = offered
  snapshots : snapshots g = told
  keepings : keepings g = []
  recordings : recordings g = recorded

namespace Tells

theorem nil : Tells [] 0 [] [] [] := ⟨rfl, rfl, rfl, rfl, rfl, rfl⟩

theorem append {g g' recorded recorded' : History} {n n' : Nat}
    {offered offered' : List (List Stored × Option BatchResult)} {told told' : List Statistics}
    (h : Tells g n offered told recorded) (h' : Tells g' n' offered' told' recorded') :
    Tells (g ++ g') (n + n') (offered ++ offered') (told ++ told') (recorded ++ recorded') where
  documents := by rw [documents_append, h.documents, h'.documents, List.append_nil]
  received := by rw [received_append, h.received, h'.received]
  offers := by rw [offers_append, h.offers, h'.offers]
  snapshots := by rw [snapshots_append, h.snapshots, h'.snapshots]
  keepings := by rw [keepings_append, h.keepings, h'.keepings, List.append_nil]
  recordings := by rw [recordings_append, h.recordings, h'.recordings]

theorem receipt : Tells [⟨.enter .validating, ()⟩] 1 [] [] [] := ⟨rfl, rfl, rfl, rfl, rfl, rfl⟩

theorem taken (records : List Stored) (r : BatchResult) :
    Tells [⟨.addMany records, some (.ok r)⟩] 0 [(records, some r)] [] [] :=
  ⟨rfl, rfl, rfl, rfl, rfl, rfl⟩

theorem refused (records : List Stored) (e : StoreError) :
    Tells [⟨.addMany records, some (.error e)⟩] 0 [] [] [] := ⟨rfl, rfl, rfl, rfl, rfl, rfl⟩

theorem interrupted (records : List Stored) :
    Tells [⟨.addMany records, none⟩] 0 [(records, none)] [] [] := ⟨rfl, rfl, rfl, rfl, rfl, rfl⟩

theorem cancelled : Tells [⟨.isCancelled, true⟩] 0 [] [] [] := ⟨rfl, rfl, rfl, rfl, rfl, rfl⟩

theorem progress (s : Statistics) : Tells [⟨.progress s, ()⟩] 0 [] [s] [] :=
  ⟨rfl, rfl, rfl, rfl, rfl, rfl⟩

theorem failedCalls (records : List Stored) (errors : List StoreError) :
    Tells (failedCalls records errors) 0 [] [] [] := by
  induction errors with
  | nil => exact nil
  | cons e errors ih => exact (refused records e).append ih

/-- What interrupts a submission is a call that was not answered, or tells nothing. -/
theorem interrupts {records : List Stored} {e : Exchange} (h : Interrupts records e) :
    Tells [e] 0 [] [] [] ∨ Tells [e] 0 [(records, none)] [] [] := by
  cases h with
  | call => exact .inr (interrupted records)
  | pause millis => exact .inl ⟨rfl, rfl, rfl, rfl, rfl, rfl⟩
  | keeping kind batch => exact .inl ⟨rfl, rfl, rfl, rfl, rfl, rfl⟩

/-- Recording a batch tells nothing else. -/
theorem recorded {logbook : Option Logbook} {number records : Nat} {g : History}
    (h : Recorded logbook number records g) : Tells g 0 [] [] g := by
  cases h <;> exact ⟨rfl, rfl, rfl, rfl, rfl, rfl⟩

end Tells

/-- The attempts at keeping rejected records, of which there are some or none. -/
def keepingsOf (config : Config) (kind : RecordKind) (failed : List FailedEntry) :
    List (RecordKind × List FailedEntry) :=
  if failed = [] ∨ config.persistFailures = false then [] else [(kind, failed)]

theorem keepings_of_keeps {config : Config} {kind : RecordKind} {failed : List FailedEntry}
    {g : History} (h : Keeps config kind failed g) :
    received g = 0 ∧ documents g = [] ∧ offers g = [] ∧ snapshots g = [] ∧ recordings g = [] ∧
      keepings g = keepingsOf config kind failed := by
  unfold Keeps at h
  unfold keepingsOf
  split at h
  · next hnone =>
    rw [if_pos hnone, h]
    exact ⟨rfl, rfl, rfl, rfl, rfl, rfl⟩
  · next hsome =>
    obtain ⟨answer, rfl⟩ := h
    rw [if_neg hsome]
    exact ⟨rfl, rfl, rfl, rfl, rfl, rfl⟩

end CatalogImport
