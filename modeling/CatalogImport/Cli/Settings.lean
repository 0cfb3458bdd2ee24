import CatalogImport.Cli.Env
import CatalogImport.Import.Config

/-!
# Settings

How an import is to be run, and into which store.  Each setting comes from its option if that is given,
else from its variable if that is set, else it has its standard value.
-/

namespace CatalogImport

open CatalogImport.Calendar CatalogImport.Decimal

/-- Where records are stored. -/
inductive StoreChoice where
  | memory
  | postgres
  deriving DecidableEq

/-- The word for a choice of store. -/
def StoreChoice.word : StoreChoice → String
  | .memory => "Memory"
  | .postgres => "Postgres"

/-- What was said on the command line about how to run an import. -/
structure RunOptions where
  store : Option StoreChoice := none
  batchSize : Option Nat := none
  maxRetries : Option Nat := none
  /-- Seconds. -/
  retryDelay : Option Float := none
  failFast : Bool := false
  noArtifacts : Bool := false
  artifactDir : Option String := none
  stateDir : Option String := none
  envFile : Option String := none

/-! ## Variables -/

namespace Variable

/-- Records in a batch. -/
def batchSize : String := "CATALOG_BATCH_SIZE"

/-- Repetitions of a submission. -/
def maxRetries : String := "CATALOG_MAX_RETRIES"

/-- Seconds before the first repetition. -/
def retryDelay : String := "CATALOG_RETRY_DELAY_SECS"

/-- Whether elements that are no records are passed over. -/
def skipValidationErrors : String := "CATALOG_SKIP_VALIDATION_ERRORS"

/-- Whether what is rejected is kept in files. -/
def persistFailures : String := "CATALOG_PERSIST_FAILURES"

/-- Where those files are. -/
def artifactDir : String := "CATALOG_ARTIFACT_DIR"

/-- Where the journal is. -/
def stateDir : String := "CATALOG_STATE_DIR"

/-- Where the relational store is. -/
def databaseUrl : String := "DATABASE_URL"

/-- All variables that are looked at. -/
def all : List String :=
  [batchSize, maxRetries, retryDelay, skipValidationErrors, persistFailures, artifactDir, stateDir,
    databaseUrl]

end Variable

/-- How imports are to be run. -/
structure Settings where
  config : Config
  store : StoreChoice
  databaseUrl : Option String
  stateDir : Option String

namespace Settings

/-- The option if it is given, else the variable if it is set, else the standard value. -/
def choose {α : Type} (option : Option α) (variable_ : Except ConfigError (Option α)) (standard : α) :
    Except ConfigError α :=
  match option with
  | some a => .ok a
  | none => variable_.map (·.getD standard)

/-- A switch that an option turns off for good. -/
def switch (off : Bool) (variable_ : Except ConfigError (Option Bool)) (standard : Bool) :
    Except ConfigError Bool :=
  choose (if off then some false else none) variable_ standard

/-- The size of batches. -/
def batchSize (o : RunOptions) (e : Env) : Except ConfigError Nat := do
  let size ← choose o.batchSize (e.count (Nat.pow 2 64) Variable.batchSize) Config.standard.batchSize
  if size = 0 then throw .zeroBatchSize
  return size

/-- The span of a number of seconds. -/
def delayOf (seconds : Float) : Except ConfigError Span :=
  match Span.ofSeconds? seconds with
  | some span => .ok span
  | none => .error (.invalidDelay (Layout.everyPlace.text seconds))

/-- The pause before the first repetition. -/
def retryDelay (o : RunOptions) (e : Env) : Except ConfigError Span := do
  let seconds ← choose (o.retryDelay.map some)
    ((e.double Variable.retryDelay).map (·.map some)) none
  match seconds with
  | some seconds => delayOf seconds
  | none => return Config.standard.retryDelay

/-- The store: the one that is asked for, else the relational one if it is known where it is. -/
def storeChoice (o : RunOptions) (e : Env) : StoreChoice :=
  match o.store with
  | some s => s
  | none => if (e.get? Variable.databaseUrl).isSome then .postgres else .memory

/-- The settings that options and an environment amount to. -/
def resolve (o : RunOptions) (e : Env) : Except ConfigError Settings := do
  let batchSize ← batchSize o e
  let maxRetries ← choose o.maxRetries (e.count (Nat.pow 2 32) Variable.maxRetries)
    Config.standard.maxRetries
  let retryDelay ← retryDelay o e
  let skipValidationErrors ← switch o.failFast (e.truth Variable.skipValidationErrors)
    Config.standard.skipValidationErrors
  let persistFailures ← switch o.noArtifacts (e.truth Variable.persistFailures)
    Config.standard.persistFailures
  let artifactDir :=
    (o.artifactDir.or (e.get? Variable.artifactDir)).getD Config.standard.artifactDir
  return {
    config := {
      batchSize, maxRetries, retryDelay, skipValidationErrors, persistFailures, artifactDir
      progress := Config.standard.progress }
    store := storeChoice o e
    databaseUrl := e.get? Variable.databaseUrl
    stateDir := o.stateDir.or (e.get? Variable.stateDir) }

/-- Where the relational store is, or the complaint that nobody said so. -/
def neededUrl (url : Option String) : Except ConfigError String :=
  match url with
  | some url => .ok url
  | none => .error (.unset Variable.databaseUrl)

end Settings

end CatalogImport
