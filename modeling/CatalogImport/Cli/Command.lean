import CatalogImport.Cli.Settings

/-!
# Commands

What can be asked for on the command line, and how it is written there: the name of a command, and then
options in any order, with their values behind them or behind an equals sign.
-/

namespace CatalogImport

open CatalogImport.Decimal

/-- What is asked for. -/
inductive Command where
  /-- Import one document. -/
  | importOne (kind file : String) (resumeFrom : Option Nat) (resume : Bool)
      (runId output : Option String) (options : RunOptions)
  /-- Import a document of sets and one of cards. -/
  | importAll (sets cards : String) (resume : Bool) (output : Option String)
      (options : RunOptions)
  /-- Show how a run stands. -/
  | progress (runId : String) (json : Bool) (stateDir : Option String)
  /-- Show a stored record. -/
  | inspect (kind id : String) (envFile : Option String)

/-- What a command line comes to. -/
inductive CommandLine where
  | command (c : Command)
  | help
  | version
  /-- It cannot be understood. -/
  | unclear

/-! ## Options as they are written -/

/-- An option of a command: a switch, or with a value that obeys a rule. -/
structure OptionRule where
  name : String
  /-- The rule for the value; a switch has none. -/
  rule : Option (String → Bool)

/-- An option that was given, with its value if it has one. -/
structure Given where
  name : String
  value : String

/-- What reading options comes to. -/
inductive OptionsRead where
  | given (options : List Given)
  | help
  | unclear

/-- The name and the value in `name=value`. -/
def splitOption (cs : List Char) : String × Option String :=
  match Env.splitAtEquals? cs with
  | some (name, value) => (String.ofList name, some (String.ofList value))
  | none => (String.ofList cs, none)

/-- The word begins with a dash and is more than that. -/
def isDashed (word : String) : Bool :=
  match word.toList with
  | '-' :: _ :: _ => true
  | _ => false

/-- Reads options.  Each may be given once. -/
def readOptions (rules : List OptionRule) (given : List Given) : List String → OptionsRead
  | [] => .given given.reverse
  | word :: rest =>
    match word.toList with
    | ['-', '-'] => if rest = [] then .given given.reverse else .unclear
    | '-' :: '-' :: cs =>
      let (name, value) := splitOption cs
      if name = "help" ∧ value = none then .help
      else
        match rules.find? (·.name == name) with
        | none => .unclear
        | some rule =>
          if given.any (·.name == name) then .unclear
          else
            match rule.rule, value with
            | none, none => readOptions rules (⟨name, ""⟩ :: given) rest
            | none, some _ => .unclear
            | some ok, some value =>
              if ok value then readOptions rules (⟨name, value⟩ :: given) rest else .unclear
            | some ok, none =>
              match rest with
              | [] => .unclear
              | value :: rest =>
                if !isDashed value && ok value then
                  readOptions rules (⟨name, value⟩ :: given) rest
                else .unclear
    | '-' :: 'h' :: _ => .help
    | _ => .unclear

/-! ## Options of the commands -/

/-- An option without a value. -/
def OptionRule.switch (name : String) : OptionRule := ⟨name, none⟩

/-- An option with any text as its value. -/
def OptionRule.text (name : String) : OptionRule := ⟨name, some fun _ => true⟩

/-- An option with a path as its value. -/
def OptionRule.path (name : String) : OptionRule := ⟨name, some (· ≠ "")⟩

/-- An option with a whole number below a bound as its value. -/
def OptionRule.count (limit : Nat) (name : String) : OptionRule :=
  ⟨name, some fun s => (unsigned? limit s.toList).isSome⟩

/-- The store that a word names. -/
def storeOf? : String → Option StoreChoice
  | "memory" => some .memory
  | "postgres" => some .postgres
  | _ => none

/-- The options that say how an import is to be run. -/
def runRules : List OptionRule :=
  [⟨"store", some fun s => (storeOf? s).isSome⟩,
   .count (Nat.pow 2 64) "batch-size",
   .count (Nat.pow 2 32) "max-retries",
   ⟨"retry-delay", some fun s => (double? s).isSome⟩,
   .switch "fail-fast",
   .switch "no-artifacts",
   .path "artifact-dir",
   .path "state-dir",
   .path "env-file"]

/-- The options of importing one document. -/
def importOneRules : List OptionRule :=
  [.text "kind", .path "file", .count (Nat.pow 2 64) "resume-from", .switch "resume", .text "run-id",
   .path "output"] ++ runRules

/-- The options of importing two documents. -/
def importAllRules : List OptionRule :=
  [.path "sets", .path "cards", .switch "resume", .path "output"] ++ runRules

/-- The options of showing how a run stands. -/
def progressRules : List OptionRule := [.text "run", .switch "json", .path "state-dir"]

/-- The options of showing a record. -/
def inspectRules : List OptionRule := [.text "kind", .text "id", .path "env-file"]

/-- The value of an option. -/
def valueOf? (given : List Given) (name : String) : Option String :=
  (given.find? (·.name == name)).map (·.value)

/-- The option was given. -/
def isGiven (given : List Given) (name : String) : Bool := given.any (·.name == name)

/-- How an import is to be run, by the options that were given. -/
def runOptionsOf (given : List Given) : RunOptions where
  store := (valueOf? given "store").bind storeOf?
  batchSize := (valueOf? given "batch-size").bind fun s => unsigned? (Nat.pow 2 64) s.toList
  maxRetries := (valueOf? given "max-retries").bind fun s => unsigned? (Nat.pow 2 32) s.toList
  retryDelay := (valueOf? given "retry-delay").bind double?
  failFast := isGiven given "fail-fast"
  noArtifacts := isGiven given "no-artifacts"
  artifactDir := valueOf? given "artifact-dir"
  stateDir := valueOf? given "state-dir"
  envFile := valueOf? given "env-file"

/-- Importing one document; where to start can be said in one way only. -/
def importOneOf? (given : List Given) : Option Command := do
  if isGiven given "resume" ∧ isGiven given "resume-from" then none
  return .importOne (← valueOf? given "kind") (← valueOf? given "file")
    ((valueOf? given "resume-from").bind fun s => unsigned? (Nat.pow 2 64) s.toList)
    (isGiven given "resume") (valueOf? given "run-id") (valueOf? given "output")
    (runOptionsOf given)

/-- Importing two documents. -/
def importAllOf? (given : List Given) : Option Command := do
  return .importAll (← valueOf? given "sets") (← valueOf? given "cards")
    (isGiven given "resume") (valueOf? given "output") (runOptionsOf given)

/-- Showing how a run stands. -/
def progressOf? (given : List Given) : Option Command := do
  return .progress (← valueOf? given "run") (isGiven given "json") (valueOf? given "state-dir")

/-- Showing a record. -/
def inspectOf? (given : List Given) : Option Command := do
  return .inspect (← valueOf? given "kind") (← valueOf? given "id") (valueOf? given "env-file")

/-- Reads the options of a command. -/
def readCommand (rules : List OptionRule) (make? : List Given → Option Command)
    (words : List String) : CommandLine :=
  match readOptions rules [] words with
  | .help => .help
  | .unclear => .unclear
  | .given given =>
    match make? given with
    | some c => .command c
    | none => .unclear

/-- The names of the commands. -/
def commandNames : List String := ["import", "import-all", "progress", "inspect"]

/-- Reads a command line, the name of the program already taken. -/
def readCommandLine : List String → CommandLine
  | "import" :: rest => readCommand importOneRules importOneOf? rest
  | "import-all" :: rest => readCommand importAllRules importAllOf? rest
  | "progress" :: rest => readCommand progressRules progressOf? rest
  | "inspect" :: rest => readCommand inspectRules inspectOf? rest
  | ["help"] => .help
  | "help" :: name :: _ =>
    if commandNames.contains name || name == "help" then .help else .unclear
  | "--help" :: _ => .help
  | "--version" :: _ => .version
  | word :: _ =>
    match word.toList with
    | '-' :: 'h' :: _ => .help
    | '-' :: 'V' :: _ => .version
    | _ => .unclear
  | [] => .unclear

end CatalogImport
