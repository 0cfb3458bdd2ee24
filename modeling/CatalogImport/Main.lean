import CatalogImport.Artifact.Writer
import CatalogImport.Cli.Session
import CatalogImport.Import.Source
import CatalogImport.Journal.Text
import CatalogImport.Store.Memory
import Std.Time.DateTime.Timestamp

/-!
# The program

Answers what a session asks from the system that the program runs on.  What is done and in which order,
and with which status the program ends, is decided by the session.  Jobs run one after the other, and
no server can be reached.
-/

namespace CatalogImport.Main

open CatalogImport.Calendar CatalogImport.Decimal CatalogImport.Json

/-- What the program keeps while it runs. -/
structure Host where
  journal : Journal
  /-- Where the journal is kept. -/
  journalPath : String
  stores : List MemoryStore

/-! ## Files -/

/-- An error of the system as one of a file. -/
def fileError : IO.Error → FileError
  | .noFileOrDirectory _ _ _ => .notFound
  | .alreadyExists _ _ _ => .alreadyThere
  | .inappropriateType _ 20 _ => .notADirectory
  | .inappropriateType _ _ _ => .isADirectory
  | .invalidArgument _ 36 _ => .nameTooLong
  | e => .other (toString e)

/-- Does something with a file. -/
def tryFile {α : Type} (action : IO α) : IO (Except FileError α) := do
  try return .ok (← action)
  catch e => return .error (fileError e)

/-- What lies at a path. -/
def placeAt (path : String) : IO Place := do
  match ← tryFile (IO.FS.readBinFile path) with
  | .ok bytes => return .file bytes.toList
  | .error .isADirectory => return .folder
  | .error e => return .absent e

/-- The text of a file, or why there is none. -/
def readText (path : String) : IO (Except String String) := do
  match ← tryFile (IO.FS.readBinFile path) with
  | .error e => return .error e.message
  | .ok bytes =>
    match String.fromUTF8? bytes with
    | some text => return .ok text
    | none => return .error "stream did not contain valid UTF-8"

/-- Makes a file where there is nothing yet. -/
def createNew (path text : String) : IO Unit := do
  let file ← IO.FS.Handle.mk path .writeNew
  file.putStr text
  file.flush

/-- Answers what a writer of artifacts asks. -/
def answerFile : (q : FileRequest) → IO q.Answer
  | .createFolders path => tryFile (unless path = "" do IO.FS.createDirAll path)
  | .createNew path text => tryFile (createNew path text)
  | .numberOverflow => throw (IO.userError "attempt to add with overflow")

/-- Writes an artifact. -/
def writeArtifact (dir stem text : String) : IO (Except FileError String) :=
  (writeFile dir stem text).interpret answerFile

/-! ## Clock and chance -/

/-- The time. -/
def now : IO Instant := do
  let passed := (← Std.Time.Timestamp.now).val
  let second := (Instant.epoch.addMillis? (passed.second.val * 1000)).getD .epoch
  return { second with nanos := passed.nano.val.toNat }

/-- The group of hexadecimal digits that bytes write. -/
def group (bytes : List UInt8) : String :=
  String.ofList (bytes.flatMap fun b => [Nat.digitChar (b.toNat / 16), Nat.digitChar (b.toNat % 16)])

/-- An id of 122 random bits in five groups of digits. -/
def freshId : IO String := do
  match (← IO.getRandomBytes 16).toList with
  | a :: b :: c :: d :: e :: f :: g :: h :: i :: rest =>
    return "-".intercalate
      [group [a, b, c, d], group [e, f], group [g % 16 + 0x40, h], group [i % 64 + 0x80] ++
        group (rest.take 1), group (rest.drop 1)]
  | _ => return ""

/-! ## Imports -/

/-- Writes a line of the log. -/
def say (n : Notice) : IO Unit := IO.eprintln n.line

/-- Keeps a new state of the journal.  The file is replaced in one step. -/
def keepJournal (host : IO.Ref Host) (journal : Journal) : IO Unit := do
  let path := (← host.get).journalPath
  IO.FS.writeFile (path ++ ".new") ("\n".intercalate journal.lines ++ "\n")
  IO.FS.rename (path ++ ".new") path
  host.modify fun h => { h with journal }

/-- Hands records to a store. -/
def addMany (host : IO.Ref Host) (store : OpenStore) (records : List Stored) : IO BatchResult := do
  let h ← host.get
  let (memory, result) := (h.stores[store]?.getD (.empty .sets)).addMany records
  host.set { h with stores := h.stores.set store memory }
  return result

/-- Answers what the import of an order asks. -/
def answerImport (host : IO.Ref Host) (o : Order) : (q : Request) → IO q.Answer
  | .now => now
  | .freshId => freshId
  | .enter _ => return ()
  | .notice n => say n
  | .isCancelled => return false
  | .openDocument => return openSource dataField o.path (← placeAt o.path)
  | .addMany records => return some (.ok (← addMany host o.store records))
  | .pause millis => return some (← IO.sleep (UInt32.ofNat millis))
  | .keepBatch kind b =>
    return some (← writeArtifact o.job.config.artifactDir (b.fileStem kind) b.fileText)
  | .keepRecords kind es => do
    let stem := FailedEntry.fileStem kind (← now)
    writeArtifact o.job.config.artifactDir stem (FailedEntry.fileText es)
  | .progress _ => return ()
  | .append e => do
    try return .ok (← keepJournal host ((← host.get).journal.append e))
    catch e => return .error (.append (fileError e).message)
  | .loadCheckpoint runId => return (← host.get).journal.loadCheckpoint runId
  | .saveCheckpoint c => do
    match (← host.get).journal.saveCheckpoint c with
    | .error e => return .error e
    | .ok journal =>
      try return .ok (← keepJournal host journal)
      catch e => return .error (.save (fileError e).message)

/-- Runs jobs one after the other. -/
def runJobs (host : IO.Ref Host) (r : Registry) (orders : List Order) :
    IO (Except JobsError (List JobReport)) := do
  match r.tasks (orders.map (·.job)) with
  | .error e => return .error e
  | .ok tasks =>
    let endings ← (orders.zip tasks).mapM fun (o, task) => do
      let outcome ← task.interpret (answerImport host o)
      return (o.job.kind.key, Program.Ending.finished outcome)
    let (notices, result) := conclude false endings
    notices.forM say
    return result.getD (.error .cancelled)

/-! ## Sessions -/

/-- Opens the journal in a directory, which is made if need be. -/
def openJournal (host : IO.Ref Host) (dir : String) : IO (Except JournalError Unit) := do
  let path := joinPath dir "journal.jsonl"
  try
    unless dir = "" do IO.FS.createDirAll dir
    let journal ← match ← tryFile (IO.FS.readFile path) with
      | .ok text =>
        pure ((Journal.ofLines? ((text.splitOn "\n").filter (· ≠ ""))).getD .empty).reopen
      | .error _ => pure .empty
    host.modify fun h => { h with journal, journalPath := path }
    return .ok ()
  catch e =>
    let reason := match fileError e with
      | .alreadyThere => FileError.notADirectory
      | e => e
    return .error (.unavailable ("IO error: " ++ reason.message))

/-- Answers a client of a server when none can be reached. -/
def answerAlone : (q : Postgres.Wire) → IO q.Answer
  | .dial _ _ => return false
  | .askEncryption => return .hungUp
  | .greet => return .error .lost
  | .isGone => return true
  | .query _ => return .error .lost
  | .prepare _ => return .error .lost
  | .execute _ => return .error .lost
  | .notice n => say n

/-- The variables that the program looks at. -/
def environment : IO Env := do
  let known ← Variable.all.mapM fun key => do
    return (← IO.getEnv key).map fun value => (key, value)
  return .ofList (known.filterMap id)

/-- Answers what a session asks. -/
def answer (host : IO.Ref Host) : (q : HostRequest) → IO q.Answer
  | .environment => environment
  | .home => IO.getEnv "HOME"
  | .readText path => readText path
  | .writeText path text => return (← tryFile (IO.FS.writeFile path text)).mapError (·.message)
  | .openJournal dir => openJournal host dir
  | .resumePoint b => do
    let found := (← host.get).journal.loadCheckpoint b.runId
    return (found.mapError fun e => .checkpoint e.message).map Logbook.batchAfter
  | .progress runId => return (← host.get).journal.progress runId
  | .openMemory kind => do
    let h ← host.get
    host.set { h with stores := h.stores ++ [.empty kind] }
    return h.stores.length
  | .openServer _ url => do
    match ← (Postgres.connect url).interpret answerAlone with
    | .error e => return .error (.connection e)
    | .ok () => return .error (.connection .unreachable)
  | .fetch store id => return ((← host.get).stores[store]?.getD (.empty .sets)).get id
  | .runJobs r orders => runJobs host r orders
  | .isInterrupted => return false
  | .now => now
  | .print text => IO.print text
  | .complain text => IO.eprint text

end CatalogImport.Main

open CatalogImport in
/-- Runs the program with a command line. -/
def main (words : List String) : IO UInt32 := do
  let host ← IO.mkRef (⟨.empty, "", []⟩ : Main.Host)
  let status ← (Session.run .standard words).interpret (Main.answer host)
  return UInt32.ofNat status
