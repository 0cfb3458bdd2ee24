import CatalogImport.Cli.Settings
import Mathlib.Data.List.Nodup

/-!
# Where settings come from

Each setting has an option, a variable and a standard value of its own, and the first of these that is given counts
(`settled`).  What there is to complain of does not depend on the order in which the settings are looked at, only
which complaint is raised does (`complaints`).  Main statements: `resolve_eq`, and with it that the variable of an
option that is given bears neither on the settings nor on the complaint (`settings_precedence`).
-/

namespace CatalogImport

open CatalogImport.Calendar CatalogImport.Decimal

variable {α β ε : Type}

/-! ## Values and complaints -/

/-- A value, unless there is something to complain of; then it is the first complaint. -/
def outcome (complaints : List ε) (a : α) : Except ε α :=
  match complaints with
  | [] => .ok a
  | err :: _ => .error err

theorem outcome_bind {f : α → Except ε β} {a : α} {b : β} {later : List ε} (h : f a = outcome later b)
    (complaints : List ε) : (outcome complaints a >>= f) = outcome (complaints ++ later) b := by
  cases complaints with
  | nil => exact h
  | cons err _ => rfl

theorem outcome_map (f : α → β) (complaints : List ε) (a : α) :
    (outcome complaints a).map f = outcome complaints (f a) := by
  cases complaints <;> rfl

theorem outcome_eq_error_iff {complaints : List ε} {a : α} {err : ε} :
    outcome complaints a = .error err ↔ complaints.head? = some err := by
  cases complaints <;> simp [outcome]

theorem outcome_eq_ok_iff {complaints : List ε} {a b : α} :
    outcome complaints a = .ok b ↔ complaints = [] ∧ a = b := by
  cases complaints <;> simp [outcome]

namespace Env

/-- What a variable says, if it is set and a rule can read it. -/
def said? (e : Env) (key : String) (rule : String → Option α) : Option α := (e.get? key).bind rule

/-- The variable is set to this value, and the rule cannot read it. -/
def Misreads (e : Env) (key : String) (rule : String → Option α) (value : String) : Prop :=
  e.get? key = some value ∧ rule value = none

/-- The complaint about a variable that a rule cannot read. -/
def misread (e : Env) (key : String) (complaint : String → String → ConfigError) (rule : String → Option α) :
    List ConfigError :=
  match e.get? key with
  | some value => if (rule value).isNone then [complaint key value] else []
  | none => []

variable {e : Env} {key : String} {complaint : String → String → ConfigError} {rule : String → Option α}

theorem read_eq : e.read key complaint rule = outcome (e.misread key complaint rule) (e.said? key rule) := by
  unfold read misread said?
  cases e.get? key with
  | none => rfl
  | some value => cases hvalue : rule value <;> simp [hvalue, outcome]

theorem mem_misread_iff {err : ConfigError} : err ∈ e.misread key complaint rule ↔
    ∃ value, e.Misreads key rule value ∧ err = complaint key value := by
  unfold misread Misreads
  cases e.get? key with
  | none => simp
  | some value => simp [Option.isNone_iff_eq_none, and_assoc]

section

variable {e' : Env}

/-- A variable is not looked at if the option is given. -/
theorem or_said?_congr {option : Option α} (h : option.isSome = false → e'.get? key = e.get? key) :
    option.or (e'.said? key rule) = option.or (e.said? key rule) := by
  cases option with
  | none => rw [said?, said?, h rfl]
  | some a => rfl

theorem or_get?_congr {option : Option String} (h : option.isSome = false → e'.get? key = e.get? key) :
    option.or (e'.get? key) = option.or (e.get? key) := by
  cases option with
  | none => rw [h rfl]
  | some a => rfl

theorem misread_congr {given : Bool} (h : given = false → e'.get? key = e.get? key) :
    (if given then [] else e'.misread key complaint rule) = if given then [] else e.misread key complaint rule := by
  cases given with
  | false => rw [misread, misread, h rfl]
  | true => rfl

end

theorem get?_assign (e : Env) (key value other : String) :
    (e.assign key value).get? other = if other = key then (some value).filter (· ≠ "") else e.get? other := by
  unfold get?
  rw [find?_assign]
  split <;> rfl

end Env

namespace Settings

/-! ## Where each setting comes from -/

/-- The size of batches that is asked for. -/
def sizeSaid? (o : RunOptions) (e : Env) : Option Nat :=
  o.batchSize.or (e.said? Variable.batchSize fun s => unsigned? (Nat.pow 2 64) s.toList)

/-- The number of seconds to pause that is asked for. -/
def secondsSaid? (o : RunOptions) (e : Env) : Option Float := o.retryDelay.or (e.said? Variable.retryDelay double?)

/-- A switch that is turned off for good, or not. -/
def turnedOff? (off : Bool) : Option Bool := if off then some false else none

/-- The settings, each from its option, else from its variable, else the standard value. -/
def settled (o : RunOptions) (e : Env) : Settings where
  config := {
    batchSize := (sizeSaid? o e).getD Config.standard.batchSize
    maxRetries := (o.maxRetries.or
      (e.said? Variable.maxRetries fun s => unsigned? (Nat.pow 2 32) s.toList)).getD Config.standard.maxRetries
    retryDelay := ((secondsSaid? o e).bind Span.ofSeconds?).getD Config.standard.retryDelay
    skipValidationErrors := ((turnedOff? o.failFast).or
      (e.said? Variable.skipValidationErrors Env.truthOf?)).getD Config.standard.skipValidationErrors
    persistFailures := ((turnedOff? o.noArtifacts).or
      (e.said? Variable.persistFailures Env.truthOf?)).getD Config.standard.persistFailures
    artifactDir := (o.artifactDir.or (e.get? Variable.artifactDir)).getD Config.standard.artifactDir
    progress := Config.standard.progress }
  store := o.store.getD (if (e.get? Variable.databaseUrl).isSome then .postgres else .memory)
  databaseUrl := e.get? Variable.databaseUrl
  stateDir := o.stateDir.or (e.get? Variable.stateDir)

/-! ## What there is to complain of -/

/-- A complaint about the settings: a variable whose option is not given cannot be read, batches are to be empty, or
a number of seconds is no length of time. -/
inductive Complaint (o : RunOptions) (e : Env) : ConfigError → Prop
  | batchSize {value : String} (hoption : o.batchSize = none)
      (hvalue : e.Misreads Variable.batchSize (fun s => unsigned? (Nat.pow 2 64) s.toList) value) :
      Complaint o e (.invalidValue Variable.batchSize value)
  | emptyBatches (hsize : sizeSaid? o e = some 0) : Complaint o e .zeroBatchSize
  | maxRetries {value : String} (hoption : o.maxRetries = none)
      (hvalue : e.Misreads Variable.maxRetries (fun s => unsigned? (Nat.pow 2 32) s.toList) value) :
      Complaint o e (.invalidValue Variable.maxRetries value)
  | retryDelay {value : String} (hoption : o.retryDelay = none)
      (hvalue : e.Misreads Variable.retryDelay double? value) :
      Complaint o e (.invalidValue Variable.retryDelay value)
  | noSpan {seconds : Float} (hseconds : secondsSaid? o e = some seconds) (hspan : Span.ofSeconds? seconds = none) :
      Complaint o e (.invalidDelay (Layout.everyPlace.text seconds))
  | skipValidationErrors {value : String} (hoption : o.failFast = false)
      (hvalue : e.Misreads Variable.skipValidationErrors Env.truthOf? value) :
      Complaint o e (.invalidTruth Variable.skipValidationErrors value)
  | persistFailures {value : String} (hoption : o.noArtifacts = false)
      (hvalue : e.Misreads Variable.persistFailures Env.truthOf? value) :
      Complaint o e (.invalidTruth Variable.persistFailures value)

/-- The complaints about the size of batches. -/
def sizeComplaints (o : RunOptions) (e : Env) : List ConfigError :=
  (if o.batchSize.isSome then []
    else e.misread Variable.batchSize .invalidValue fun s => unsigned? (Nat.pow 2 64) s.toList) ++
  if sizeSaid? o e = some 0 then [.zeroBatchSize] else []

/-- The complaint about a number of seconds. -/
def spanComplaints (seconds : Option Float) : List ConfigError :=
  match seconds with
  | some seconds =>
    if (Span.ofSeconds? seconds).isNone then [.invalidDelay (Layout.everyPlace.text seconds)] else []
  | none => []

/-- The complaints about the pause before the first repetition. -/
def delayComplaints (o : RunOptions) (e : Env) : List ConfigError :=
  (if o.retryDelay.isSome then [] else e.misread Variable.retryDelay .invalidValue double?) ++
  spanComplaints (secondsSaid? o e)

/-- All complaints, in the order in which they are raised. -/
def complaints (o : RunOptions) (e : Env) : List ConfigError :=
  [ sizeComplaints o e,
    if o.maxRetries.isSome then []
    else e.misread Variable.maxRetries .invalidValue fun s => unsigned? (Nat.pow 2 32) s.toList,
    delayComplaints o e,
    if o.failFast then [] else e.misread Variable.skipValidationErrors .invalidTruth Env.truthOf?,
    if o.noArtifacts then [] else e.misread Variable.persistFailures .invalidTruth Env.truthOf? ].flatten

section

variable {o : RunOptions} {e : Env}

theorem mem_spanComplaints_iff {seconds : Option Float} {err : ConfigError} : err ∈ spanComplaints seconds ↔
    ∃ s, seconds = some s ∧ Span.ofSeconds? s = none ∧ err = .invalidDelay (Layout.everyPlace.text s) := by
  cases seconds <;> simp [spanComplaints, Option.isNone_iff_eq_none]

theorem mem_complaints_iff {err : ConfigError} : err ∈ complaints o e ↔ Complaint o e err := by
  have hgiven {given : Bool} {cs : List ConfigError} :
      err ∈ (if given then [] else cs) ↔ given = false ∧ err ∈ cs := by
    cases given <;> simp
  have hempty : err ∈ (if sizeSaid? o e = some 0 then [ConfigError.zeroBatchSize] else [])
      ↔ sizeSaid? o e = some 0 ∧ err = .zeroBatchSize := by
    split <;> simp_all
  simp only [complaints, sizeComplaints, delayComplaints, List.flatten_cons, List.flatten_nil, List.mem_append,
    List.not_mem_nil, or_false, or_assoc, hgiven, hempty, Env.mem_misread_iff, mem_spanComplaints_iff,
    Option.isSome_eq_false_iff, Option.isNone_iff_eq_none]
  constructor
  · rintro (⟨ho, _, hvalue, rfl⟩ | ⟨hsize, rfl⟩ | ⟨ho, _, hvalue, rfl⟩ | ⟨ho, _, hvalue, rfl⟩
      | ⟨_, hseconds, hspan, rfl⟩ | ⟨ho, _, hvalue, rfl⟩ | ⟨ho, _, hvalue, rfl⟩)
    · exact .batchSize ho hvalue
    · exact .emptyBatches hsize
    · exact .maxRetries ho hvalue
    · exact .retryDelay ho hvalue
    · exact .noSpan hseconds hspan
    · exact .skipValidationErrors ho hvalue
    · exact .persistFailures ho hvalue
  · intro hcomplaint
    cases hcomplaint with
    | batchSize ho hvalue => exact .inl ⟨ho, _, hvalue, rfl⟩
    | emptyBatches hsize => exact .inr (.inl ⟨hsize, rfl⟩)
    | maxRetries ho hvalue => exact .inr (.inr (.inl ⟨ho, _, hvalue, rfl⟩))
    | retryDelay ho hvalue => exact .inr (.inr (.inr (.inl ⟨ho, _, hvalue, rfl⟩)))
    | noSpan hseconds hspan => exact .inr (.inr (.inr (.inr (.inl ⟨_, hseconds, hspan, rfl⟩))))
    | skipValidationErrors ho hvalue => exact .inr (.inr (.inr (.inr (.inr (.inl ⟨ho, _, hvalue, rfl⟩)))))
    | persistFailures ho hvalue => exact .inr (.inr (.inr (.inr (.inr (.inr ⟨ho, _, hvalue, rfl⟩)))))

end

/-! ## Settings as a whole -/

theorem choose_outcome (option variable_ : Option α) (complaints : List ConfigError) (standard : α) :
    choose option (outcome complaints variable_) standard
      = outcome (if option.isSome then [] else complaints) ((option.or variable_).getD standard) := by
  cases option with
  | none => exact outcome_map _ _ _
  | some a => rfl

theorem switch_outcome (off : Bool) (variable_ : Option Bool) (complaints : List ConfigError) (standard : Bool) :
    switch off (outcome complaints variable_) standard
      = outcome (if off then [] else complaints) (((turnedOff? off).or variable_).getD standard) := by
  rw [switch, ← turnedOff?, choose_outcome]
  cases off <;> rfl

theorem batchSize_eq (o : RunOptions) (e : Env) :
    batchSize o e = outcome (sizeComplaints o e) ((sizeSaid? o e).getD Config.standard.batchSize) := by
  rw [batchSize, Env.count, Env.read_eq, choose_outcome, ← sizeSaid?]
  apply outcome_bind
  cases hsize : sizeSaid? o e with
  | none => rfl
  | some size =>
    cases size with
    | zero => rfl
    | succ size => rfl

theorem delayOf_eq (seconds : Float) : delayOf seconds
    = outcome (spanComplaints (some seconds)) ((Span.ofSeconds? seconds).getD Config.standard.retryDelay) := by
  unfold delayOf spanComplaints
  cases hspan : Span.ofSeconds? seconds <;> simp [hspan, outcome]

theorem retryDelay_eq (o : RunOptions) (e : Env) : retryDelay o e = outcome (delayComplaints o e)
    (((secondsSaid? o e).bind Span.ofSeconds?).getD Config.standard.retryDelay) := by
  have hseconds : ((o.retryDelay.map some).or ((e.said? Variable.retryDelay double?).map some)).getD none
      = secondsSaid? o e := by
    unfold secondsSaid?
    cases o.retryDelay <;> cases e.said? Variable.retryDelay double? <;> rfl
  rw [retryDelay, Env.double, Env.read_eq, outcome_map, choose_outcome, Option.isSome_map, hseconds]
  apply outcome_bind
  cases secondsSaid? o e with
  | none => rfl
  | some seconds => exact delayOf_eq seconds

theorem storeChoice_eq (o : RunOptions) (e : Env) : storeChoice o e
    = o.store.getD (if (e.get? Variable.databaseUrl).isSome then .postgres else .memory) := by
  unfold storeChoice
  cases o.store <;> rfl

/-- The settings are resolved one by one, and the first complaint ends it. -/
theorem resolve_eq (o : RunOptions) (e : Env) : resolve o e = outcome (complaints o e) (settled o e) := by
  rw [resolve, batchSize_eq, retryDelay_eq, Env.count, Env.read_eq, choose_outcome, Env.truth, Env.read_eq,
    switch_outcome, Env.truth, Env.read_eq, switch_outcome, storeChoice_eq]
  unfold complaints
  iterate 5
    rw [List.flatten_cons]
    refine outcome_bind ?_ _
  rfl

/-! ## Variables that do not count -/

/-- The variable of each setting, and whether its option is given. -/
def given (o : RunOptions) : List (String × Bool) :=
  [ (Variable.batchSize, o.batchSize.isSome), (Variable.maxRetries, o.maxRetries.isSome),
    (Variable.retryDelay, o.retryDelay.isSome), (Variable.skipValidationErrors, o.failFast),
    (Variable.persistFailures, o.noArtifacts), (Variable.artifactDir, o.artifactDir.isSome),
    (Variable.stateDir, o.stateDir.isSome), (Variable.databaseUrl, o.store.isSome) ]

theorem nodup_given (o : RunOptions) : ((given o).map (·.1)).Nodup := by
  show Variable.all.Nodup
  decide

/-- Two environments say the same in every variable whose option is not given. -/
def Agree (o : RunOptions) (e e' : Env) : Prop := ∀ key, (key, false) ∈ given o → e'.get? key = e.get? key

/-- Whatever is assigned to a variable whose option is given. -/
theorem agree_assign {o : RunOptions} {key : String} (h : (key, true) ∈ given o) (e : Env) (value : String) :
    Agree o e (e.assign key value) := by
  intro other hother
  rw [Env.get?_assign, if_neg]
  rintro rfl
  have hsame := List.inj_on_of_nodup_map (nodup_given o) h hother rfl
  cases hsame

theorem isSome_turnedOff? (off : Bool) : (turnedOff? off).isSome = off := by
  cases off <;> rfl

section

variable {o : RunOptions} {e e' : Env} (h : Agree o e e')
include h

theorem get?_congr (key : String) (b : Bool) (hkey : (key, b) ∈ given o) (hb : b = false) :
    e'.get? key = e.get? key := h key (hb ▸ hkey)

theorem sizeSaid?_congr : sizeSaid? o e' = sizeSaid? o e :=
  Env.or_said?_congr (get?_congr h Variable.batchSize _ (by simp [given]))

theorem secondsSaid?_congr : secondsSaid? o e' = secondsSaid? o e :=
  Env.or_said?_congr (get?_congr h Variable.retryDelay _ (by simp [given]))

/-- What there is to complain of is the same. -/
theorem complaints_congr : complaints o e' = complaints o e := by
  have hsize := get?_congr h Variable.batchSize o.batchSize.isSome (by simp [given])
  have hretries := get?_congr h Variable.maxRetries o.maxRetries.isSome (by simp [given])
  have hdelay := get?_congr h Variable.retryDelay o.retryDelay.isSome (by simp [given])
  have hskip := get?_congr h Variable.skipValidationErrors o.failFast (by simp [given])
  have hpersist := get?_congr h Variable.persistFailures o.noArtifacts (by simp [given])
  rw [complaints, sizeComplaints, delayComplaints, sizeSaid?_congr h, secondsSaid?_congr h, Env.misread_congr hsize,
    Env.misread_congr hretries, Env.misread_congr hdelay, Env.misread_congr hskip, Env.misread_congr hpersist]
  rfl

/-- The settings are the same, but for where the relational store is, which is taken down in any case. -/
theorem settled_congr : settled o e' = { settled o e with databaseUrl := e'.get? Variable.databaseUrl } := by
  have hretries := get?_congr h Variable.maxRetries o.maxRetries.isSome (by simp [given])
  have hskip := get?_congr h Variable.skipValidationErrors o.failFast (by simp [given])
  have hpersist := get?_congr h Variable.persistFailures o.noArtifacts (by simp [given])
  have hartifacts := get?_congr h Variable.artifactDir o.artifactDir.isSome (by simp [given])
  have hstate := get?_congr h Variable.stateDir o.stateDir.isSome (by simp [given])
  have hurl := get?_congr h Variable.databaseUrl o.store.isSome (by simp [given])
  rw [← isSome_turnedOff? o.failFast] at hskip
  rw [← isSome_turnedOff? o.noArtifacts] at hpersist
  have hstore : (settled o e').store = (settled o e).store := by
    unfold settled
    cases hchosen : o.store with
    | none => rw [hurl (by rw [hchosen]; rfl)]
    | some _ => rfl
  unfold settled at hstore ⊢
  dsimp only at hstore ⊢
  rw [hstore, sizeSaid?_congr h, secondsSaid?_congr h, Env.or_said?_congr hretries, Env.or_said?_congr hskip,
    Env.or_said?_congr hpersist, Env.or_get?_congr hartifacts, Env.or_get?_congr hstate]

end

/-- Environments that say the same in every variable that counts come to the same, but for where the relational
store is. -/
theorem resolve_congr {o : RunOptions} {e e' : Env} (h : Agree o e e') : resolve o e'
    = (resolve o e).map fun s => { s with databaseUrl := e'.get? Variable.databaseUrl } := by
  rw [resolve_eq, resolve_eq, outcome_map, complaints_congr h, settled_congr h]

/-- Whatever is assigned to a variable whose option is given, only where the relational store is can change. -/
theorem resolve_assign {o : RunOptions} {key : String} (hkey : (key, true) ∈ given o) (e : Env) (value : String) :
    resolve o (e.assign key value) =
      if key = Variable.databaseUrl then
        (resolve o e).map fun s => { s with databaseUrl := (some value).filter (· ≠ "") }
      else resolve o e := by
  have hagree := agree_assign hkey e value
  have hurl := e.get?_assign key value Variable.databaseUrl
  rw [resolve_eq, resolve_eq, complaints_congr hagree, settled_congr hagree, hurl, outcome_map]
  by_cases hstore : key = Variable.databaseUrl
  · rw [if_pos hstore.symm, if_pos hstore]
  · rw [if_neg (Ne.symm hstore), if_neg hstore]
    rfl

theorem resolve_eq_error_iff {o : RunOptions} {e : Env} {err : ConfigError} :
    resolve o e = .error err ↔ (complaints o e).head? = some err := by
  rw [resolve_eq, outcome_eq_error_iff]

/-- Only what was asked for is resolved, and batches are never empty. -/
theorem eq_settled_of_resolve {o : RunOptions} {e : Env} {s : Settings} (h : resolve o e = .ok s) :
    s = settled o e ∧ 1 ≤ s.config.batchSize := by
  rw [resolve_eq, outcome_eq_ok_iff] at h
  obtain ⟨hnone, rfl⟩ := h
  have hsize : sizeSaid? o e ≠ some 0 := by
    intro hzero
    have hmem := mem_complaints_iff.2 (Complaint.emptyBatches hzero)
    rw [hnone] at hmem
    cases hmem
  refine ⟨rfl, ?_⟩
  show 1 ≤ (sizeSaid? o e).getD Config.standard.batchSize
  cases hsaid : sizeSaid? o e with
  | none => decide
  | some size =>
    rw [hsaid] at hsize
    exact Nat.pos_of_ne_zero fun hzero => hsize (congrArg some hzero)

/-- Each setting comes from its option if that is given, else from its variable if that is set, else it has its
standard value, and batches are never empty.  The variable of an option that is given bears neither on the
settings nor on the complaint, but for where the relational store is, which is taken down in any case; any other
variable that cannot be read is complained of.  There is no other complaint but the two about values that are
read, and of several complaints the first in the order of `complaints` is raised. -/
theorem settings_precedence (o : RunOptions) (e : Env) :
    (∀ s, resolve o e = .ok s → s = settled o e ∧ 1 ≤ s.config.batchSize) ∧
    (∀ e', Agree o e e' → resolve o e'
      = (resolve o e).map fun s => { s with databaseUrl := e'.get? Variable.databaseUrl }) ∧
    (∀ key value, (key, true) ∈ given o → resolve o (e.assign key value) =
      if key = Variable.databaseUrl then
        (resolve o e).map fun s => { s with databaseUrl := (some value).filter (· ≠ "") }
      else resolve o e) ∧
    (∀ err, Complaint o e err → ∃ first, resolve o e = .error first) ∧
    (∀ err, resolve o e = .error err → Complaint o e err) ∧
    ∀ err, resolve o e = .error err ↔ (complaints o e).head? = some err := by
  refine ⟨fun s => eq_settled_of_resolve, fun e' => resolve_congr,
    fun key value hkey => resolve_assign hkey e value, ?_, ?_, fun err => resolve_eq_error_iff⟩
  · intro err hcomplaint
    have hmem := mem_complaints_iff.2 hcomplaint
    cases hcomplaints : complaints o e with
    | nil =>
      rw [hcomplaints] at hmem
      cases hmem
    | cons first later => exact ⟨first, resolve_eq_error_iff.2 (by rw [hcomplaints]; rfl)⟩
  · intro err herr
    exact mem_complaints_iff.1 (List.mem_of_head? (resolve_eq_error_iff.1 herr))

/-- The number of records in a batch is given, and nobody looks at its variable; the variable for repetitions that
cannot be read is complained of. -/
theorem settings_precedence_of_sizes :
    let o : RunOptions := { batchSize := some 5 }
    let e := Env.ofList [("CATALOG_MAX_RETRIES", "few")]
    resolve o (e.assign "CATALOG_BATCH_SIZE" "twelve") = resolve o e ∧ ∃ first, resolve o e = .error first := by
  intro o e
  obtain ⟨-, -, hassign, hraised, -⟩ := settings_precedence o e
  have hsize := hassign Variable.batchSize "twelve" (.head _)
  have hfew : Complaint o e (.invalidValue Variable.maxRetries "few") := .maxRetries rfl ⟨rfl, by decide⟩
  exact ⟨hsize, hraised _ hfew⟩

end Settings

end CatalogImport
