import CatalogImport.Cli.Command
import CatalogImport.Cli.Report
import CatalogImport.Import.Jobs
import CatalogImport.Import.RunId
import CatalogImport.Journal.Progress
import CatalogImport.Postgres.Connect

/-!
# Sessions on the command line

What a command does, step by step, and what it prints.  A session asks its host for variables, files,
stores and the journal, and has the host run the imports; in which order it does so, and which of several
errors it ends with, is decided here.
-/

namespace CatalogImport

open CatalogImport.Calendar CatalogImport.Decimal CatalogImport.Json

/-- Why a session ends without having done what was asked for. -/
inductive SessionError where
  | config (e : ConfigError)
  | io (reason : String)
  /-- The word names no kind of record. -/
  | unknownKind (word : String)
  | jobs (e : JobsError)
  | connection (e : Postgres.ConnectError)
  | store (e : StoreError)
  | logbook (e : LogbookError)
  | progress (e : ProgressError)
  /-- So many imports ended early. -/
  | aborted (count : Nat)
  | interrupted
  deriving DecidableEq

namespace SessionError

/-- The error in words. -/
def message : SessionError → String
  | .config e => e.message
  | .io reason => "I/O error: " ++ reason
  | .unknownKind word => RecordKind.unknownMessage word
  | .jobs e => "Failed to run imports: " ++ e.message
  | .connection e => "Failed to connect to the store: " ++ e.message
  | .store e => "Store error: " ++ e.message
  | .logbook e => "Checkpoint error: " ++ e.message
  | .progress e => "Failed to load progress: " ++ e.message
  | .aborted count => numeral count ++ " import(s) aborted"
  | .interrupted => "Shutdown requested"

/-- The session was interrupted from outside. -/
def isInterruption : SessionError → Bool
  | .interrupted | .jobs .cancelled => true
  | _ => false

end SessionError

/-- Why a store on a server has not been opened. -/
inductive OpenError where
  | connection (e : Postgres.ConnectError)
  /-- The table is not there and was not made. -/
  | table (e : StoreError)
  deriving DecidableEq

/-- How a session ends when a store on a server has not been opened. -/
def SessionError.ofOpenError : OpenError → SessionError
  | .connection e => .connection e
  | .table e => .store e

/-- A store that the host has opened, by the number that the host gave it. -/
abbrev OpenStore := Nat

/-- A job, the document it imports, and the store it imports into. -/
structure Order where
  job : Job
  path : String
  store : OpenStore

/-- A question of a session. -/
inductive HostRequest where
  /-- The variables of the process. -/
  | environment
  | home
  /-- The text of a file. -/
  | readText (path : String)
  | writeText (path text : String)
  /-- Open the journal in a directory. -/
  | openJournal (dir : String)
  /-- Where a run is to be taken up again, by the journal. -/
  | resumePoint (b : Logbook)
  /-- What the journal knows about a run. -/
  | progress (runId : String)
  | openMemory (kind : RecordKind)
  /-- Connect to a server and make the table of a kind there. -/
  | openServer (kind : RecordKind) (url : String)
  | fetch (store : OpenStore) (id : String)
  /-- Run jobs. -/
  | runJobs (r : Registry) (orders : List Order)
  | isInterrupted
  | now
  | print (text : String)
  | complain (text : String)

/-- The answers to a question. -/
abbrev HostRequest.Answer : HostRequest → Type
  | .environment => Env
  | .home => Option String
  | .readText _ => Except String String
  | .writeText _ _ => Except String Unit
  | .openJournal _ => Except JournalError Unit
  | .resumePoint _ => Except LogbookError Nat
  | .progress _ => Except ProgressError Progress
  | .openMemory _ => OpenStore
  | .openServer _ _ => Except OpenError OpenStore
  | .fetch _ _ => Except StoreError Value
  | .runJobs _ _ => Except JobsError (List JobReport)
  | .isInterrupted => Bool
  | .now => Instant
  | .print _ => Unit
  | .complain _ => Unit

/-- A program that asks a host. -/
abbrev HostTask (α : Type) : Type := Program HostRequest HostRequest.Answer α

/-- A part of a session, which may end it. -/
abbrev Session (α : Type) : Type := ExceptT SessionError (Program HostRequest HostRequest.Answer) α

namespace Session

/-- Asks the host one question. -/
def host (q : HostRequest) : HostTask q.Answer := Program.question q

/-- Goes on with a result, or ends the session with an error. -/
def need {ε α : Type} (wrap : ε → SessionError) (r : Except ε α) : Session α :=
  match r with
  | .ok a => return a
  | .error e => throw (wrap e)

/-- The kind that a word names. -/
def kindOf (word : String) : Session RecordKind :=
  match RecordKind.ofText? word with
  | some kind => return kind
  | none => throw (.unknownKind word)

/-- The environment: that of the process, with a file laid over it. -/
def environment (file : Option String) : Session Env := do
  let env ← host .environment
  match file with
  | none => return env
  | some path =>
    let text ← need (fun reason => .config (.unreadableFile path reason)) (← host (.readText path))
    need .config (env.withFile text)

/-- Opens the journal, where it was said to be or else below the home directory. -/
def openJournal (dir : Option String) : Session Unit := do
  let dir ← match dir with
    | some dir => pure dir
    | none => need .jobs (defaultJournalDir (← host .home))
  need (fun e => .jobs (.journal e)) (← host (.openJournal dir))

/-- The settings of imports; the journal is open afterwards. -/
def prepare (o : RunOptions) : Session Settings := do
  let env ← environment o.envFile
  let settings ← need .config (Settings.resolve o env)
  openJournal settings.stateDir
  return settings

/-- Opens the store for records of a kind. -/
def openStore (kind : RecordKind) (s : Settings) : Session OpenStore :=
  match s.store with
  | .memory => host (.openMemory kind)
  | .postgres => do
    let url ← need .config (Settings.neededUrl s.databaseUrl)
    need .ofOpenError (← host (.openServer kind url))

/-- The logbook of importing a file. -/
def logbookOf (kind : RecordKind) (file : String) (id : Option String) : Logbook :=
  ⟨id.getD (runId kind file), kind, file⟩

/-- An order to import a file. -/
def order (s : Settings) (b : Logbook) (resumeFrom : Nat) : Session Order := do
  let store ← openStore b.kind s
  return ⟨⟨b.kind, b.kind, s.config, resumeFrom, some b⟩, b.source, store⟩

/-- The batch at which an import starts. -/
def startOf (b : Logbook) (resume : Bool) (from_ : Option Nat) : Session Nat := do
  if resume then need .logbook (← host (.resumePoint b)) else return from_.getD 0

/-- Runs the imports that were ordered, and reports on them. -/
def carryOut (r : Registry) (output : Option String) (orders : List Order) : Session Unit := do
  let outcomes ← need .jobs (← host (.runJobs r orders))
  if ← host .isInterrupted then throw .interrupted
  let reports := reportsOf (← host .now) outcomes
  match output with
  | some path => need .io (← host (.writeText path (reportsText reports)))
  | none => host (.print (reportsText reports ++ "\n"))
  if 0 < abortedCount reports then throw (.aborted (abortedCount reports))

/-- Imports one document. -/
def importOne (r : Registry) (word file : String) (resumeFrom : Option Nat) (resume : Bool)
    (id output : Option String) (o : RunOptions) : Session Unit := do
  let kind ← kindOf word
  let settings ← prepare o
  let b := logbookOf kind file id
  let start ← startOf b resume resumeFrom
  carryOut r output [← order settings b start]

/-- Imports a document of each kind. -/
def importAll (r : Registry) (files : List (RecordKind × String)) (resume : Bool)
    (output : Option String) (o : RunOptions) : Session Unit := do
  let settings ← prepare o
  let orders ← files.mapM fun (kind, file) => do
    let b := logbookOf kind file none
    order settings b (← startOf b resume none)
  carryOut r output orders

/-- A line of the table of progress: the words of the left column take up sixteen places. -/
def tableLine (left right : String) : String :=
  left ++ String.ofList (List.replicate (16 - left.length) ' ') ++ " " ++ right ++ "\n"

/-- What is known about a run, as a table. -/
def progressTable (runId : String) (p : Progress) : String :=
  let orNothing (s : Option String) : String := s.getD "n/a"
  "Progress for run '" ++ runId ++ "':\n"
    ++ "-----------------------------\n"
    ++ tableLine "Stage" p.stage.word
    ++ tableLine "Kind" (orNothing p.kind)
    ++ tableLine "Source" (orNothing p.source)
    ++ tableLine "Last batch" (orNothing (p.lastBatch.map numeral))
    ++ tableLine "Records done" (numeral p.recordsDone)
    ++ tableLine "Resume from" (numeral p.resumeFromBatch)
    ++ tableLine "Last update" (orNothing (p.lastUpdate.map (·.offsetText)))
    ++ (p.lastError.map (tableLine "Last error")).getD ""

/-- Shows how a run stands.  An empty directory counts here if it stands in the variable. -/
def showProgress (runId : String) (json : Bool) (stateDir : Option String) : Session Unit := do
  let dir ← match stateDir with
    | some dir => pure (some dir)
    | none => do pure ((← host .environment).find? Variable.stateDir)
  openJournal dir
  let p ← need .progress (← host (.progress runId))
  host (.print (if json then (Value.object p.members).pretty ++ "\n" else progressTable runId p))

/-- Shows a stored record. -/
def inspect (word id : String) (envFile : Option String) : Session Unit := do
  let kind ← kindOf word
  let env ← environment envFile
  let url ← need .config (Settings.neededUrl (env.get? Variable.databaseUrl))
  let store ← need .ofOpenError (← host (.openServer kind url))
  let record ← need .store (← host (.fetch store id))
  host (.print (record.pretty ++ "\n"))

/-- Does what was asked for. -/
def perform (r : Registry) : Command → Session Unit
  | .importOne kind file resumeFrom resume id output o =>
    importOne r kind file resumeFrom resume id output o
  | .importAll sets cards resume output o =>
    importAll r [(.sets, sets), (.cards, cards)] resume output o
  | .progress id json stateDir => showProgress id json stateDir
  | .inspect kind id envFile => inspect kind id envFile

/-- What the program says about its version. -/
def versionText : String := "catalog 0.1.0\n"

/-- What the program says about itself. -/
def helpText : String :=
  "Card catalog bulk importer\n\nUsage: catalog <COMMAND>\n\nCommands:\n"
    ++ "  import      Import one bulk-data document\n"
    ++ "  import-all  Import a sets document and a cards document concurrently\n"
    ++ "  progress\n"
    ++ "  inspect     Fetch one stored record from Postgres\n"
    ++ "  help        Print this message or the help of the given subcommand(s)\n\n"
    ++ "Options:\n  -h, --help     Print help\n  -V, --version  Print version\n"

/-- Does what was asked for and says with which status the program ends: 0 when it has been done, 130
when it was interrupted, and 1 otherwise. -/
def runCommand (r : Registry) (c : Command) : HostTask Nat := do
  match ← (perform r c).run with
  | .ok () => return 0
  | .error e =>
    if e.isInterruption then return 130
    host (.complain ("Error: " ++ e.message ++ "\n"))
    return 1

/-- Does what a command line says; one that cannot be understood ends the program with status 2. -/
def run (r : Registry) (words : List String) : HostTask Nat :=
  match readCommandLine words with
  | .command c => runCommand r c
  | .version => do
    host (.print versionText)
    return 0
  | .help => do
    host (.print helpText)
    return 0
  | .unclear => do
    host (.complain helpText)
    return 2

end Session

end CatalogImport
