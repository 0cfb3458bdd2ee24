import CatalogImport.Artifact.Writer
import CatalogImport.Import.Run
import CatalogImport.Import.Source
import CatalogImport.Rehearsal.Actors
import CatalogImport.Rehearsal.JournalDesk

/-!
# A world for imports

A world in memory that answers what imports ask: a document, a store, a journal and a file tree, a clock
that stands, and a cancellation that comes when it has been arranged.  It remembers what the imports
did.
-/

namespace CatalogImport

open CatalogImport.Calendar CatalogImport.Json

/-- A world with a store of some type. -/
structure World (σ : Type) where
  store : σ
  journal : JournalDesk
  place : Place
  path : String
  files : FileTree
  artifactDir : String
  cancelled : Bool
  /-- The import is cancelled once so many batches have been counted. -/
  cancelAfter : Option Nat
  clock : Instant
  freshId : String
  phase : Phase
  /-- The phases entered, the last one first. -/
  phases : List Phase
  /-- The statistics at each batch, the last one first. -/
  progress : List Statistics
  /-- The notices, the last one first. -/
  notices : List Notice

namespace World

variable {σ : Type}

/-- A world with nothing but a store, a journal, a clock and an id, in which nothing has been done. -/
def idle (store : σ) (journal : JournalDesk) (clock : Instant) (freshId : String) : World σ where
  store := store
  journal := journal
  place := .absent .notFound
  path := ""
  files := .empty
  artifactDir := ""
  cancelled := false
  cancelAfter := none
  clock := clock
  freshId := freshId
  phase := .notStarted
  phases := []
  progress := []
  notices := []

/-- The world in which nothing is remembered of what was done, with other files. -/
def anew (w : World σ) (store : σ) (files : FileTree) : World σ :=
  { w with store, files, phases := [], progress := [], notices := [] }

/-- The world after a phase has been entered. -/
def enter (w : World σ) (p : Phase) : World σ :=
  if p = w.phase then w else { w with phase := p, phases := p :: w.phases }

/-- Writes an artifact. -/
def keep (w : World σ) (stem text : String) : Program.Reply (Except FileError String) × World σ :=
  let (ending, files) := w.files.writeArtifact w.artifactDir stem text
  (ending.reply, { w with files })

/-- Hands records to the store.  A cancellation interrupts a call that never ends. -/
def addMany (serve : Serving σ) (w : World σ) (records : List Stored) :
    Program.Reply (Option (Except StoreError BatchResult)) × World σ :=
  let (response, cancels, store) := serve records w.store
  let w := { w with store, cancelled := w.cancelled || cancels }
  match response with
  | .reply answer => (.answer (some answer), w)
  | .never => (if w.cancelled then .answer none else .silence, w)
  | .breakdown => (.collapse, w)

/-- The world after a batch has been counted. -/
def listen (w : World σ) (s : Statistics) : World σ :=
  { w with
    progress := s :: w.progress
    cancelled := w.cancelled || w.cancelAfter == some s.batchesProcessed }

/-- An answer of the journal, if it answers at all. -/
def journalReply {α : Type} (w : World σ) (a : α) : Program.Reply α :=
  match w.journal.manner with
  | .answering => .answer a
  | .silent => .silence
  | .breaking => .collapse

/-- The journal after a call, which does nothing unless the journal answers. -/
def withJournal (w : World σ) (journal : JournalDesk) : World σ :=
  match w.journal.manner with
  | .answering => { w with journal }
  | _ => w

/-- Answers the questions of an import. -/
def surroundings (serve : Serving σ) : Surroundings (World σ)
  | .now, w => (.answer w.clock, w)
  | .freshId, w => (.answer w.freshId, w)
  | .enter p, w => (.answer (), w.enter p)
  | .notice n, w =>
    if n.isBreakdown then (.collapse, w) else (.answer (), { w with notices := n :: w.notices })
  | .isCancelled, w => (.answer w.cancelled, w)
  | .openDocument, w => (.answer (openSource dataField w.path w.place), w)
  | .addMany records, w => w.addMany serve records
  | .pause _, w => (.answer (if w.cancelled then none else some ()), w)
  | .keepBatch kind b, w =>
    if w.cancelled then (.answer none, w)
    else
      let (reply, w) := w.keep (b.fileStem kind) b.fileText
      (reply.map some, w)
  | .keepRecords kind es, w => w.keep (FailedEntry.fileStem kind w.clock) (FailedEntry.fileText es)
  | .progress s, w => (.answer (), w.listen s)
  | .append e, w =>
    let (result, journal) := w.journal.append e
    (w.journalReply result, w.withJournal journal)
  | .loadCheckpoint runId, w => (w.journalReply (w.journal.load runId), w)
  | .saveCheckpoint c, w =>
    let (result, journal) := w.journal.save c
    (w.journalReply result, w.withJournal journal)

/-- Runs an import in a world. -/
def run {α : Type} (serve : Serving σ) (task : Task α) (w : World σ) : Program.Ending α × World σ :=
  Program.run (surroundings serve) task w

end World

end CatalogImport
