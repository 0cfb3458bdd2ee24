import CatalogImport.Cli.Session
import CatalogImport.Rehearsal.Hall
import CatalogImport.Rehearsal.Server

/-!
# A machine to rehearse sessions on

A machine in memory with files, journals, variables and perhaps a server.  It answers what sessions ask,
and keeps what they print.
-/

namespace CatalogImport

open CatalogImport.Calendar CatalogImport.Json

/-- A store that a session has opened. -/
inductive Backend where
  | memory (store : MemoryStore)
  /-- The table of a kind, over a connection. -/
  | onServer (kind : RecordKind) (connection : Nat)

/-- A store, and the server that all sessions share. -/
structure SharedBackend where
  backend : Backend
  desk : Postgres.Server.Desk

namespace SharedBackend

/-- The desk at which a connection is the one that is talked over. -/
def deskAt (b : SharedBackend) (connection : Nat) : Postgres.Server.Desk :=
  { b.desk with server := { b.desk.server with active := connection } }

/-- What comes of handing records to the store.  Whoever waits for a server that never answers has been
told to stop. -/
def addMany : Serving SharedBackend := fun records b =>
  match b.backend with
  | .memory store =>
    let (store, result) := store.addMany records
    (.reply (.ok result), false, { b with backend := .memory store })
  | .onServer kind connection =>
    match Postgres.Server.talk (b.deskAt connection) (Postgres.addMany kind.table records).run with
    | (.finished answer, desk) => (.reply answer, false, { b with desk })
    | (_, desk) => (.never, desk.server.hasInterrupted, { b with desk })

/-- The payload of the record with an id. -/
def get (b : SharedBackend) (id : String) :
    Program.Reply (Except StoreError Value) × SharedBackend :=
  match b.backend with
  | .memory store => (.answer (store.get id), b)
  | .onServer kind connection =>
    match Postgres.Server.talk (b.deskAt connection) (Postgres.get kind.table id).run with
    | (.finished answer, desk) => (.answer answer, { b with desk })
    | (_, desk) => (.silence, { b with desk })

end SharedBackend

/-- A machine on which sessions are rehearsed. -/
structure Machine where
  files : FileTree
  /-- The journals by their directories. -/
  journals : Index Journal
  /-- The directory of the journal that is open. -/
  journalDir : String
  desk : Postgres.Server.Desk
  stores : List Backend
  env : Env
  home : Option String
  clock : Instant
  freshId : String
  interrupted : Bool
  output : String
  errors : String

namespace Machine

/-- A machine with nothing but a home, a clock and an id, where no server listens. -/
def bare (home : Option String) (clock : Instant) (freshId : String) : Machine where
  files := .empty
  journals := .empty
  journalDir := ""
  desk := ⟨Postgres.Server.absent, []⟩
  stores := []
  env := .empty
  home := home
  clock := clock
  freshId := freshId
  interrupted := false
  output := ""
  errors := ""

/-- The journal that is open. -/
def journal (m : Machine) : Journal := (m.journals.find? m.journalDir).getD .empty

/-- A desk at which the open journal answers. -/
def journalDesk (m : Machine) : JournalDesk := ⟨m.journal, [], .answering⟩

/-- The machine with another state of the journal that is open. -/
def withJournal (m : Machine) (j : Journal) : Machine :=
  { m with journals := m.journals.insert m.journalDir j }

/-- A store, with the server as it stands. -/
def backend (m : Machine) (s : OpenStore) : SharedBackend :=
  ⟨m.stores[s]?.getD (.memory (.empty .sets)), m.desk⟩

/-- The world of an import on the machine. -/
def world (m : Machine) (job : Job) (path : String) (s : OpenStore) : World SharedBackend :=
  { World.idle (m.backend s) m.journalDesk m.clock m.freshId with
    place := m.files.placeAt path
    path := path
    files := m.files
    artifactDir := job.config.artifactDir }

/-- The machine after the import that was run last on it. -/
def afterWorld (m : Machine) (w : World SharedBackend) : Machine :=
  { m.withJournal w.journal.journal with
    files := w.files
    desk := w.store.desk
    interrupted := m.interrupted || w.cancelled }

/-- Opens a journal: makes the directory if need be. -/
def openJournal (m : Machine) (dir : String) : Except JournalError Unit × Machine :=
  match m.files.createFolders dir with
  | .error .nameTooLong =>
    (.error (.unavailable ("IO error: " ++ FileError.nameTooLong.message)), m)
  | .error _ => (.error (.unavailable ("IO error: " ++ FileError.notADirectory.message)), m)
  | .ok files =>
    let m := { m with files, journalDir := plainPath dir }
    (.ok (), m.withJournal m.journal.reopen)

/-- Connects to the server and makes the table of a kind there. -/
def openServer (m : Machine) (kind : RecordKind) (url : String) :
    Program.Reply (Except OpenError OpenStore) × Machine :=
  match Postgres.Server.talk m.desk (Postgres.connect url) with
  | (.finished (.error e), desk) => (.answer (.error (.connection e)), { m with desk })
  | (.finished (.ok ()), desk) =>
    match Postgres.Server.talk desk (Postgres.ensureTable kind.table).run with
    | (.finished (.error e), desk) => (.answer (.error (.table e)), { m with desk })
    | (.finished (.ok ()), desk) =>
      let store : Backend := .onServer kind desk.server.active
      (.answer (.ok m.stores.length), { m with desk, stores := m.stores ++ [store] })
    | (_, desk) => (.silence, { m with desk })
  | (_, desk) => (.silence, { m with desk })

/-- Runs jobs one after the other. -/
def runJobs (m : Machine) (r : Registry) (orders : List Order) :
    Program.Reply (Except JobsError (List JobReport)) × Machine :=
  let share (before after : SharedBackend) : SharedBackend := { after with desk := before.desk }
  let rehearsed := rehearse SharedBackend.addMany share r
    (orders.map fun o => ⟨o.job, m.world o.job o.path o.store⟩)
  let m := match rehearsed.worlds.getLast? with
    | some w => m.afterWorld w
    | none => m
  match rehearsed.result with
  | some answer => (.answer answer, m)
  | none => (.silence, m)

/-- Answers what a session asks. -/
def handler : Program.Handler HostRequest HostRequest.Answer Machine
  | .environment, m => (.answer m.env, m)
  | .home, m => (.answer m.home, m)
  | .readText path, m => (.answer ((m.files.read path).mapError (·.message)), m)
  | .writeText path text, m =>
    match m.files.write path text with
    | .ok files => (.answer (.ok ()), { m with files })
    | .error e => (.answer (.error e.message), m)
  | .openJournal dir, m =>
    let (answer, m) := m.openJournal dir
    (.answer answer, m)
  | .resumePoint b, m =>
    let answer := (m.journal.loadCheckpoint b.runId).mapError fun e => .checkpoint e.message
    (.answer (answer.map Logbook.batchAfter), m)
  | .progress runId, m => (.answer (m.journal.progress runId), m)
  | .openMemory kind, m =>
    (.answer m.stores.length, { m with stores := m.stores ++ [.memory (.empty kind)] })
  | .openServer kind url, m => m.openServer kind url
  | .fetch store id, m =>
    let (reply, b) := (m.backend store).get id
    (reply, { m with desk := b.desk })
  | .runJobs r orders, m => m.runJobs r orders
  | .isInterrupted, m => (.answer m.interrupted, m)
  | .now, m => (.answer m.clock, m)
  | .print text, m => (.answer (), { m with output := m.output ++ text })
  | .complain text, m => (.answer (), { m with errors := m.errors ++ text })

/-- Runs the program with a command line, from the state in which the program before it left the
machine: its status, if it ends, and the machine.  Connections and memory stores do not outlive the
program. -/
def runProgram (m : Machine) (r : Registry) (words : List String) : Option Nat × Machine :=
  let fresh := { m with stores := [], interrupted := false, output := "", errors := "" }
  let (ending, m) := Program.run handler (Session.run r words) fresh
  let server := { m.desk.server.closeAll with hasInterrupted := false }
  let m := { m with desk := { m.desk with server } }
  match ending with
  | .finished status => (some status, m)
  | _ => (none, m)

/-- Puts an unreadable leaf into the journal in a directory. -/
def damage (m : Machine) (dir key : String) : Machine :=
  let dir := plainPath dir
  let j := (m.journals.find? dir).getD .empty
  { m with journals := m.journals.insert dir (j.damage key) }

end Machine

end CatalogImport
