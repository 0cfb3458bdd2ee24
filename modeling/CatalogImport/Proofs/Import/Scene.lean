import CatalogImport.Proofs.Import.JournalHistory
import CatalogImport.Proofs.Store.Memory
import CatalogImport.Record.CardSet

/-!
# Imports that share a store and a journal

A scene is the store and the journal between which imports are run.  `Scene.After` says what a history
leads to in a scene where store and journal do what they say they do, and where any call may fail or be
cancelled.  Main statements: the store has become what writing the offered records makes of it
(`After.store`), and the journal what the history makes of a journal (`After.journal`).
-/

namespace CatalogImport

open CatalogImport.Json

/-- A store and a journal. -/
structure Scene where
  store : MemoryStore
  journal : Journal

namespace Scene

/-- The scene after the journal has been closed and opened again. -/
def reopened (s : Scene) : Scene := { s with journal := s.journal.reopen }

variable {document : Reading}

/-- What an exchange may make of a scene in which a document is imported.  A call that fails does
nothing; of a call of the store that is cancelled nobody knows whether it did anything. -/
def Admits (document : Reading) (s s' : Scene) : Exchange → Prop
  | ⟨.openDocument, .ok document'⟩ => document' = document ∧ s' = s
  | ⟨.addMany records, some (.ok report)⟩ =>
    s.store.addMany records = (s'.store, report) ∧ s'.journal = s.journal
  | ⟨.addMany records, none⟩ => s' = s ∨ s' = { s with store := (s.store.addMany records).1 }
  | ⟨.append e, .ok _⟩ => s' = { s with journal := s.journal.append e }
  | ⟨.loadCheckpoint runId, .ok c⟩ => s.journal.loadCheckpoint runId = .ok c ∧ s' = s
  | ⟨.saveCheckpoint c, .ok _⟩ => ∃ j, s.journal.saveCheckpoint c = .ok j ∧ s' = { s with journal := j }
  | _ => s' = s

/-- What a history may make of a scene. -/
inductive After (document : Reading) : Scene → History → Scene → Prop
  | nil (s : Scene) : After document s [] s
  | cons {s s₁ s' : Scene} {e : Exchange} {t : History} (hfirst : Admits document s s₁ e)
      (hrest : After document s₁ t s') : After document s (e :: t) s'

theorem After.append {s s₁ s' : Scene} {t u : History} (h : After document s t s₁)
    (h' : After document s₁ u s') : After document s (t ++ u) s' := by
  induction h with
  | nil s => exact h'
  | cons hfirst _ ih => exact .cons hfirst (ih h')

/-- Only one document is ever opened. -/
theorem After.documents {s s' : Scene} {t : History} (h : After document s t s') :
    ∀ d ∈ documents t, d = document := by
  induction h with
  | nil s =>
    intro d hd
    cases hd
  | @cons s s₁ s' e t hfirst hrest ih =>
    intro d hd
    obtain ⟨q, x⟩ := e
    cases q with
    | openDocument =>
      cases x with
      | error cause => exact ih d hd
      | ok document' =>
        rcases List.mem_cons.1 hd with rfl | hd
        · exact hfirst.1
        · exact ih d hd
    | _ => exact ih d hd

/-! ## Imports that are cut short -/

/-- Answers with which nothing is done any more. -/
def refusal : (q : Request) → q.Answer
  | .now => .epoch
  | .freshId => ""
  | .enter _ => ()
  | .notice _ => ()
  | .isCancelled => true
  | .openDocument => .error .cancelled
  | .addMany _ => none
  | .pause _ => none
  | .keepBatch _ _ => none
  | .keepRecords _ _ => .error (.other "")
  | .progress _ => ()
  | .append _ => .error (.append "")
  | .loadCheckpoint _ => .error (.load "")
  | .saveCheckpoint _ => .error (.save "")

theorem admits_refusal (s : Scene) (q : Request) : Admits document s s ⟨q, refusal q⟩ := by
  cases q with
  | addMany records => exact .inl rfl
  | _ => rfl

/-- What was told to a program that was cut short can be completed so that it is done, and nothing else
happens in the scene. -/
theorem exists_completion {α : Type} {p p' : Task α} {s s' : Scene} {t : History} (h : p.Told t p')
    (hs : After document s t s') :
    ∃ u a, p.Yields (t ++ u) a ∧ After document s (t ++ u) s' := by
  obtain ⟨u, a, hu, hrefused⟩ := Program.exists_yields refusal p'
  refine ⟨u, a, h.trans hu, hs.append ?_⟩
  clear hu
  induction u with
  | nil => exact .nil s'
  | cons e u ih =>
    have hfirst : e = ⟨e.1, refusal e.1⟩ := hrefused e List.mem_cons_self
    rw [hfirst]
    exact .cons (admits_refusal s' e.1) (ih fun e' he' => hrefused e' (List.mem_cons_of_mem _ he'))

/-! ## The store -/

/-- The records that were written of what was offered: what the store took, and possibly what it was
interrupted at. -/
inductive Written : List (List Stored × Option BatchResult) → List Stored → Prop
  | nil : Written [] []
  | taken {offers : List (List Stored × Option BatchResult)} {written : List Stored}
      (records : List Stored) (report : BatchResult) (h : Written offers written) :
      Written ((records, some report) :: offers) (records ++ written)
  | done {offers : List (List Stored × Option BatchResult)} {written : List Stored}
      (records : List Stored) (h : Written offers written) :
      Written ((records, none) :: offers) (records ++ written)
  | undone {offers : List (List Stored × Option BatchResult)} {written : List Stored}
      (records : List Stored) (h : Written offers written) : Written ((records, none) :: offers) written

theorem Written.append {offers more : List (List Stored × Option BatchResult)}
    {written written' : List Stored} (h : Written offers written) (h' : Written more written') :
    Written (offers ++ more) (written ++ written') := by
  induction h with
  | nil => exact h'
  | taken records report _ ih =>
    rw [List.append_assoc]
    exact ih.taken records report
  | done records _ ih =>
    rw [List.append_assoc]
    exact ih.done records
  | undone records _ ih => exact ih.undone records

/-- An exchange in which the store is not offered anything, or refuses it, leaves the store alone. -/
theorem Admits.store_eq {s s' : Scene} {e : Exchange} (h : Admits document s s' e)
    (he : offer? e = none) : s'.store = s.store := by
  obtain ⟨q, x⟩ := e
  cases q with
  | addMany records =>
    rcases x with _ | _ | report
    · cases he
    · exact congrArg Scene.store h
    · cases he
  | openDocument =>
    cases x with
    | error cause => exact congrArg Scene.store h
    | ok document' => exact congrArg Scene.store h.2
  | append event =>
    cases x with
    | error reason => exact congrArg Scene.store h
    | ok _ => rw [show s' = { s with journal := s.journal.append event } from h]
  | loadCheckpoint runId =>
    cases x with
    | error reason => exact congrArg Scene.store h
    | ok c => exact congrArg Scene.store h.2
  | saveCheckpoint c =>
    cases x with
    | error reason => exact congrArg Scene.store h
    | ok _ =>
      obtain ⟨j, -, rfl⟩ := h
      rfl
  | _ => exact congrArg Scene.store h

/-- What one exchange writes. -/
theorem Admits.store {s s' : Scene} {e : Exchange} (h : Admits document s s' e) :
    ∃ written, Written (offers [e]) written ∧ s'.store = (s.store.addMany written).1 := by
  cases he : offer? e with
  | none =>
    refine ⟨[], ?_, h.store_eq he⟩
    rw [offers, List.filterMap_cons_none he]
    exact .nil
  | some offer =>
    rw [offers, List.filterMap_cons_some he]
    obtain ⟨q, x⟩ := e
    cases q with
    | addMany records =>
      rcases x with _ | _ | report
      · cases he
        rcases h with hs | hs
        · exact ⟨[], .undone records .nil, congrArg Scene.store hs⟩
        · refine ⟨records ++ [], .done records .nil, ?_⟩
          rw [List.append_nil]
          exact congrArg Scene.store hs
      · cases he
      · cases he
        refine ⟨records ++ [], .taken records report .nil, ?_⟩
        rw [List.append_nil, h.1]
    | _ => cases he

/-- The store has become what writing records makes of it, which were offered. -/
theorem After.store {s s' : Scene} {t : History} (h : After document s t s') :
    ∃ written, Written (offers t) written ∧ s'.store = (s.store.addMany written).1 := by
  induction h with
  | nil s => exact ⟨[], .nil, rfl⟩
  | @cons s s₁ s' e t hfirst hrest ih =>
    obtain ⟨first, hwritten, hstore⟩ := hfirst.store
    obtain ⟨rest, hwritten', hstore'⟩ := ih
    refine ⟨first ++ rest, ?_, ?_⟩
    · rw [← List.singleton_append, offers_append]
      exact hwritten.append hwritten'
    · rw [hstore', hstore, MemoryStore.addMany_append]

/-! ## The journal -/

/-- What an exchange makes of the journal of a scene. -/
theorem Admits.journal {s s' : Scene} {e : Exchange} (h : Admits document s s' e) :
    Journal.Admits s.journal s'.journal e := by
  obtain ⟨q, x⟩ := e
  cases q with
  | addMany records =>
    rcases x with _ | _ | report
    · rcases h with rfl | rfl <;> rfl
    · exact congrArg Scene.journal h
    · exact h.2
  | openDocument =>
    cases x with
    | error cause => exact congrArg Scene.journal h
    | ok document' => exact congrArg Scene.journal h.2
  | append event => cases x <;> exact congrArg Scene.journal h
  | loadCheckpoint runId =>
    cases x with
    | error reason => exact congrArg Scene.journal h
    | ok c => exact ⟨h.1, congrArg Scene.journal h.2⟩
  | saveCheckpoint c =>
    cases x with
    | error reason => exact congrArg Scene.journal h
    | ok _ =>
      obtain ⟨j, hj, rfl⟩ := h
      exact hj
  | _ => exact congrArg Scene.journal h

/-- What a history makes of the journal of a scene. -/
theorem After.journal {s s' : Scene} {t : History} (h : After document s t s') :
    Journal.After s.journal t s'.journal := by
  induction h with
  | nil s => exact .nil s.journal
  | cons hfirst _ ih => exact .cons hfirst.journal ih

/-! ## Running in a scene -/

/-- Answers from a scene whose store takes so many batches and refuses all others. -/
def surroundings (document : Reading) : Surroundings (Scene × Nat)
  | .now, w => (.answer .epoch, w)
  | .freshId, w => (.answer "", w)
  | .enter _, w => (.answer (), w)
  | .notice _, w => (.answer (), w)
  | .isCancelled, w => (.answer false, w)
  | .openDocument, w => (.answer (.ok document), w)
  | .addMany _, (s, 0) => (.answer (some (.error (.transport "refused"))), (s, 0))
  | .addMany records, (s, n + 1) =>
    (.answer (some (.ok (s.store.addMany records).2)),
      ({ s with store := (s.store.addMany records).1 }, n))
  | .pause _, w => (.answer (some ()), w)
  | .keepBatch _ _, w => (.answer (some (.ok "")), w)
  | .keepRecords _ _, w => (.answer (.ok ""), w)
  | .progress _, w => (.answer (), w)
  | .append e, (s, n) => (.answer (.ok ()), ({ s with journal := s.journal.append e }, n))
  | .loadCheckpoint runId, (s, n) => (.answer (s.journal.loadCheckpoint runId), (s, n))
  | .saveCheckpoint c, (s, n) =>
    match s.journal.saveCheckpoint c with
    | .ok j => (.answer (.ok ()), ({ s with journal := j }, n))
    | .error e => (.answer (.error e), (s, n))

theorem surroundings_loadCheckpoint (document : Reading) (runId : String) (s : Scene) (n : Nat) :
    surroundings document (.loadCheckpoint runId) (s, n) =
      (.answer (s.journal.loadCheckpoint runId), (s, n)) := rfl

/-- The scene admits every answer that is given from it. -/
theorem admits_surroundings {q : Request} {x : q.Answer} {w w' : Scene × Nat}
    (h : surroundings document q w = (.answer x, w')) : Admits document w.1 w'.1 ⟨q, x⟩ := by
  obtain ⟨s, n⟩ := w
  cases q with
  | addMany records =>
    cases n with
    | zero =>
      cases h
      rfl
    | succ n =>
      cases h
      exact ⟨rfl, rfl⟩
  | openDocument =>
    cases h
    exact ⟨rfl, rfl⟩
  | loadCheckpoint runId =>
    cases h
    cases hload : s.journal.loadCheckpoint runId with
    | error e => rfl
    | ok c => exact ⟨hload, rfl⟩
  | saveCheckpoint c =>
    unfold surroundings at h
    dsimp only at h
    cases hsave : s.journal.saveCheckpoint c with
    | error e =>
      rw [hsave] at h
      cases h
      rfl
    | ok j =>
      rw [hsave] at h
      cases h
      exact ⟨j, hsave, rfl⟩
  | _ =>
    cases h
    rfl

/-- Surroundings that answer every question, in a way that the scene in which they are admits. -/
structure Attends {σ : Type} (document : Reading) (h : Surroundings σ) (scene : σ → Scene) : Prop where
  answers : ∀ q w, ∃ x w', h q w = (.answer x, w')
  admits : ∀ {q : Request} {x : q.Answer} {w w' : σ}, h q w = (.answer x, w') →
    Admits document (scene w) (scene w') ⟨q, x⟩

/-- A run to the end leads to the scene that is left. -/
theorem Attends.after_of_run {α σ : Type} {h : Surroundings σ} {scene : σ → Scene}
    (hattends : Attends document h scene) {p : Task α} {w : σ} {a : α}
    (hrun : (p.run h w).1 = .finished a) :
    After document (scene w) (p.transcript h w) (scene (p.run h w).2) := by
  induction p generalizing w with
  | done b => exact .nil (scene w)
  | ask q next ih =>
    rw [Program.run] at hrun ⊢
    rw [Program.transcript]
    cases hq : h q w with
    | mk reply w₁ =>
      rw [hq] at hrun
      cases reply with
      | answer x => exact .cons (hattends.admits hq) (ih x hrun)
      | silence => cases hrun
      | collapse => cases hrun

theorem attends_surroundings : Attends document (surroundings document) Prod.fst where
  answers := by
    rintro q ⟨s, n⟩
    cases q with
    | addMany records => cases n <;> exact ⟨_, _, rfl⟩
    | saveCheckpoint c =>
      unfold surroundings
      dsimp only
      cases s.journal.saveCheckpoint c <;> exact ⟨_, _, rfl⟩
    | _ => exact ⟨_, _, rfl⟩
  admits := admits_surroundings

theorem after_of_run {α : Type} {p : Task α} {w : Scene × Nat} {a : α}
    (hrun : (p.run (surroundings document) w).1 = .finished a) :
    After document w.1 (p.transcript (surroundings document) w)
      (p.run (surroundings document) w).2.1 := attends_surroundings.after_of_run hrun

/-- Nothing is cancelled in the scene, and the document is there. -/
theorem answer_of_surroundings {q : Request} {x : q.Answer} {w w' : Scene × Nat}
    (h : surroundings document q w = (.answer x, w')) :
    isCancellation ⟨q, x⟩ = false ∧
      ∀ y, (⟨q, x⟩ : Exchange) = ⟨.openDocument, y⟩ → y = .ok document := by
  obtain ⟨s, n⟩ := w
  cases q with
  | addMany records =>
    cases n with
    | zero =>
      cases h
      exact ⟨rfl, fun _ heq => by cases heq⟩
    | succ n =>
      cases h
      exact ⟨rfl, fun _ heq => by cases heq⟩
  | isCancelled =>
    cases h
    exact ⟨rfl, fun _ heq => by cases heq⟩
  | pause millis =>
    cases h
    exact ⟨rfl, fun _ heq => by cases heq⟩
  | keepBatch kind batch =>
    cases h
    exact ⟨rfl, fun _ heq => by cases heq⟩
  | openDocument =>
    cases h
    exact ⟨rfl, fun _ heq => by cases heq; rfl⟩
  | _ => exact ⟨rfl, fun _ heq => by cases heq⟩

end Scene

/-! ## An import of four elements -/

namespace Sample

/-- An element that is a card set. -/
def element (id name : String) : Value :=
  .object [("id", .text id), ("name", .text name), ("code", .text "x"), ("set_type", .text "core")]

/-- A document with an element that is no record and an id that comes twice. -/
def document : Reading :=
  ⟨[element "a" "First", .null, element "b" "Second", element "a" "Third"], .ok ⟨true, 4⟩⟩

/-- The store gets each batch once. -/
def config (batchSize : Nat) : Config := { Config.standard with batchSize, maxRetries := 0 }

def logbook : Logbook := ⟨"sets", .sets, "sets.json"⟩

/-- Nothing has been written. -/
def scene : Scene := ⟨.empty .sets, .empty⟩

/-- The import from a batch on. -/
def task (batchSize resumeFrom : Nat) : Task Outcome :=
  importRun (config batchSize) (some logbook) CardSet resumeFrom

/-- The import from a batch on, in a scene whose store takes so many batches. -/
def run (batchSize resumeFrom : Nat) (w : Scene × Nat) : Program.Ending Outcome × Scene × Nat :=
  (task batchSize resumeFrom).run (Scene.surroundings document) w

/-- What is asked and answered in the course of it. -/
def history (batchSize resumeFrom : Nat) (w : Scene × Nat) : History :=
  (task batchSize resumeFrom).transcript (Scene.surroundings document) w

theorem yields_of_run {batchSize resumeFrom : Nat} {w : Scene × Nat} {outcome : Outcome}
    (hrun : (run batchSize resumeFrom w).1 = .finished outcome) :
    (importRun (config batchSize) (some logbook) CardSet resumeFrom).Yields
      (history batchSize resumeFrom w) outcome := Program.run_yields hrun

theorem answer_of_mem_history {batchSize resumeFrom : Nat} {w : Scene × Nat} {e : Exchange}
    (he : e ∈ history batchSize resumeFrom w) :
    isCancellation e = false ∧ ∀ x, e = ⟨.openDocument, x⟩ → x = .ok document := by
  obtain ⟨_, _, hanswer⟩ := Program.exists_answer_of_mem_transcript he
  exact Scene.answer_of_surroundings hanswer

theorem documents_history {batchSize resumeFrom : Nat} {w : Scene × Nat}
    (h : (documents (history batchSize resumeFrom w)).length = 1) :
    documents (history batchSize resumeFrom w) = [document] := by
  obtain ⟨d, hd⟩ := List.length_eq_one_iff.1 h
  have hmem := mem_documents_iff.1 (hd ▸ List.mem_cons_self)
  cases (answer_of_mem_history hmem).2 _ rfl
  exact hd

/-- The scene after the store has taken a batch of one record and refused the next. -/
def interrupted : Scene := (run 1 0 (scene, 1)).2.1

/-- What the import came to that led there. -/
def refused : Aborted :=
  ⟨.batchFailed 1 1 (.transport "refused"), ⟨2, 1, 1, 1, 1, 0, .epoch, some .epoch⟩⟩

theorem run_refused : (run 1 0 (scene, 1)).1 = .finished (.error refused) := by decide +kernel

theorem resumePoint_interrupted :
    (logbook.resumePoint.run (Scene.surroundings document) (interrupted, 9)).1 =
      .finished (.ok 1) := by decide +kernel

end Sample

end CatalogImport
