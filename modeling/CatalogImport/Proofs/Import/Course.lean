import CatalogImport.Proofs.Import.Step

/-!
# The course of a run

A run takes in the elements that are due, one step after the other, until it has them all or has to
stop.  Every import ends in one of the ways of `ImportRun`, whatever it is answered
(`importRun_of_yields`), and before that it has gone the steps of `Takes`.  What is said about runs is
shown for one step and then for `Takes` by induction.
-/

namespace CatalogImport

open CatalogImport.Calendar CatalogImport.Json

variable {R : Type} [CatalogRecord R]

/-! ## Taking in elements -/

/-- The elements were taken in one after the other, and the run went on after each of them. -/
inductive Takes (config : Config) (logbook : Option Logbook) :
    RunState R → List (Value × Nat) → History → RunState R → Prop
  | nil (run : RunState R) : Takes config logbook run [] [] run
  | cons {run run' run'' : RunState R} {x : Value × Nat} {xs : List (Value × Nat)} {g g' : History}
      (hstep : ElementStep config logbook run x g run' none)
      (hrest : Takes config logbook run' xs g' run'') :
      Takes config logbook run (x :: xs) (g ++ g') run''

/-- How taking in the elements that are due can end, with those that were received: the run was
cancelled between two of them or at the end, had to stop at one of them, or has taken in all. -/
inductive Intake (config : Config) (logbook : Option Logbook) (run : RunState R)
    (due : List (Value × Nat)) : List (Value × Nat) → History → RunState R → Option Cause → Prop
  | cancelled (xs ys : List (Value × Nat)) (g : History) (run' : RunState R) (hdue : due = xs ++ ys)
      (htakes : Takes config logbook run xs g run') :
      Intake config logbook run due xs (g ++ [⟨.isCancelled, true⟩]) run' (some .cancelled)
  | stopped (xs : List (Value × Nat)) (x : Value × Nat) (ys : List (Value × Nat)) (g g' : History)
      (run' run'' : RunState R) (cause : Cause) (hdue : due = xs ++ x :: ys)
      (htakes : Takes config logbook run xs g run')
      (hstep : ElementStep config logbook run' x g' run'' (some cause)) :
      Intake config logbook run due (xs ++ [x]) (g ++ g') run'' (some cause)
  | drained (g : History) (run' : RunState R) (htakes : Takes config logbook run due g run') :
      Intake config logbook run due due g run' none

/-- One step more in front. -/
theorem Intake.cons {config : Config} {logbook : Option Logbook} {run run' run'' : RunState R}
    {x : Value × Nat} {due xs : List (Value × Nat)} {g g' : History} {cause? : Option Cause}
    (hstep : ElementStep config logbook run x g run' none)
    (h : Intake config logbook run' due xs g' run'' cause?) :
    Intake config logbook run (x :: due) (x :: xs) (g ++ g') run'' cause? := by
  cases h with
  | cancelled xs ys g' run'' hdue htakes =>
    rw [← List.append_assoc]
    exact .cancelled (x :: xs) ys _ _ (by rw [hdue, List.cons_append]) (.cons hstep htakes)
  | stopped xs y ys g₁ g₂ run₁ run₂ cause hdue htakes hlast =>
    rw [← List.append_assoc]
    exact .stopped (x :: xs) y ys _ g₂ run₁ run'' cause (by rw [hdue, List.cons_append])
      (.cons hstep htakes) hlast
  | drained g' run'' htakes => exact .drained _ _ (.cons hstep htakes)

/-- A run that need not stop has taken in all. -/
theorem Intake.takes {config : Config} {logbook : Option Logbook} {run run' : RunState R}
    {due xs : List (Value × Nat)} {g : History} (h : Intake config logbook run due xs g run' none) :
    Takes config logbook run due g run' := by
  cases h with
  | drained _ _ htakes => exact htakes

theorem intake_of_yields {config : Config} {logbook : Option Logbook} {skip position : Nat}
    {run : RunState R} {vs : List Value} {t : History} {y : RunState R × Option Cause}
    (h : (takeElements config logbook skip run position vs).Yields t y) :
    ∃ xs, Intake config logbook run ((vs.zipIdx position).drop (skip - position)) xs (gist t) y.1 y.2 := by
  induction vs generalizing run position t with
  | nil =>
    obtain ⟨cancelled, u, rfl, h₁⟩ := yields_ask_bind_iff.1 h
    cases cancelled with
    | true =>
      obtain ⟨rfl, rfl⟩ := Program.yields_pure_iff.1 h₁
      exact ⟨[], .cancelled [] _ [] _ rfl (.nil run)⟩
    | false =>
      obtain ⟨rfl, rfl⟩ := Program.yields_pure_iff.1 h₁
      rw [List.zipIdx_nil, List.drop_nil]
      exact ⟨[], .drained _ _ (.nil run)⟩
  | cons v rest ih =>
    obtain ⟨cancelled, u, rfl, h₁⟩ := yields_ask_bind_iff.1 h
    cases cancelled with
    | true =>
      obtain ⟨rfl, rfl⟩ := Program.yields_pure_iff.1 h₁
      exact ⟨[], .cancelled [] _ [] _ rfl (.nil run)⟩
    | false =>
      rw [gist_cons_of_not_matters rfl, List.zipIdx_cons]
      by_cases hskip : position < skip
      · have hdrop : skip - position = skip - (position + 1) + 1 := by omega
        rw [hdrop, List.drop_succ_cons]
        simp only [Bool.false_eq_true, if_false, if_pos hskip] at h₁
        exact ih h₁
      · have hdrop : skip - position = 0 := by omega
        have hrest : skip - (position + 1) = 0 := by omega
        rw [hdrop, List.drop_zero]
        simp only [Bool.false_eq_true, if_false, if_neg hskip] at h₁
        obtain ⟨⟨run', cause?⟩, v₁, w, rfl, hv₁, hw⟩ := Program.yields_bind_iff.1 h₁
        have hstep := elementStep_of_yields hv₁
        rw [gist_append]
        cases cause? with
        | some cause =>
          obtain ⟨rfl, rfl⟩ := Program.yields_pure_iff.1 hw
          rw [gist_nil]
          simpa using ⟨_, Intake.stopped [] (v, position) _ [] _ run run' cause rfl (.nil run) hstep⟩
        | none =>
          obtain ⟨xs, hxs⟩ := ih hw
          rw [hrest, List.drop_zero] at hxs
          exact ⟨_, hxs.cons hstep⟩

/-! ## Ends -/

/-- How a run over an opened document can end, with the elements that were received, and with the state
and the cause at the end: early while elements are taken in, because the document cannot be read
further, with the last batch, or without one. -/
inductive RunEnd (config : Config) (logbook : Option Logbook) (run : RunState R) (document : Reading)
    (due : List (Value × Nat)) : List (Value × Nat) → History → RunState R → Option Cause → Prop
  | early (xs : List (Value × Nat)) (g : History) (run' : RunState R) (cause : Cause)
      (hintake : Intake config logbook run due xs g run' (some cause)) :
      RunEnd config logbook run document due xs g run' (some cause)
  | unread (g : History) (run' : RunState R) (e : SourceError)
      (htakes : Takes config logbook run due g run') (hending : document.ending = .error e) :
      RunEnd config logbook run document due due g run' (some (.source e))
  | flushed (g g' : History) (run' run'' : RunState R) (b : Batch R) (batcher : Batcher R)
      (summary : ReadSummary) (cause? : Option Cause)
      (htakes : Takes config logbook run due g run') (hending : document.ending = .ok summary)
      (hfinish : run'.batcher.finish = (some b, batcher))
      (hsubmit : SubmitStep config logbook { run' with batcher } b g' run'' cause?) :
      RunEnd config logbook run document due due (g ++ g') run'' cause?
  | drained (g : History) (run' : RunState R) (batcher : Batcher R) (summary : ReadSummary)
      (htakes : Takes config logbook run due g run') (hending : document.ending = .ok summary)
      (hfinish : run'.batcher.finish = (none, batcher)) :
      RunEnd config logbook run document due due g run' none

/-- The rejected records are kept in one go, if there are any and they are kept at all. -/
def Keeps (config : Config) (kind : RecordKind) (failed : List FailedEntry) (g : History) : Prop :=
  if failed = [] ∨ config.persistFailures = false then g = []
  else ∃ answer, g = [⟨.keepRecords kind failed, answer⟩]

/-- What a run that ends is told to have come to. -/
def verdict (statistics : Statistics) : Option Cause → Outcome
  | none => .ok statistics
  | some cause => .error ⟨cause, statistics⟩

/-- The statistics that a run ends with. -/
def Outcome.statistics : Outcome → Statistics
  | .ok s => s
  | .error a => a.statistics

/-- Why a run ends early. -/
def Outcome.cause? : Outcome → Option Cause
  | .ok _ => none
  | .error a => some a.cause

@[simp] theorem statistics_verdict (s : Statistics) (cause? : Option Cause) :
    (verdict s cause?).statistics = s := by
  cases cause? <;> rfl

@[simp] theorem cause?_verdict (s : Statistics) (cause? : Option Cause) :
    (verdict s cause?).cause? = cause? := by
  cases cause? <;> rfl

theorem keeps_of_yields {config : Config} {kind : RecordKind} {failed : List FailedEntry}
    {t : History} {x : Unit} (h : (keepFailed config kind failed).Yields t x) :
    Keeps config kind failed (gist t) := gist_keepFailed h

theorem keeps_of_finalize {config : Config} {logbook : Option Logbook} {run : RunState R}
    {t : History} {outcome : Outcome} (h : (finalize config logbook run).Yields t outcome) :
    Keeps config (CatalogRecord.kind R) run.failed (gist t) ∧
      ∃ moment, outcome = verdict (run.statistics.finish moment) none := by
  obtain ⟨_, t₁, rfl, h₁⟩ := yields_ask_bind_iff.1 h
  obtain ⟨_, u, v, rfl, hu, h₂⟩ := Program.yields_bind_iff.1 h₁
  obtain ⟨moment, t₂, rfl, h₃⟩ := yields_ask_bind_iff.1 h₂
  obtain ⟨_, w, z, rfl, hw, h₄⟩ := Program.yields_bind_iff.1 h₃
  obtain ⟨_, t₃, rfl, h₅⟩ := yields_ask_bind_iff.1 h₄
  obtain ⟨rfl, rfl⟩ := Program.yields_pure_iff.1 h₅
  have hg := gist_record_log hw fun _ => rfl
  refine ⟨?_, moment, rfl⟩
  have hkeeps := keeps_of_yields hu
  simpa [matters, isCancellation, Request.matters, hg] using hkeeps

theorem keeps_of_abort {config : Config} {logbook : Option Logbook} {run : RunState R} {cause : Cause}
    {t : History} {outcome : Outcome} (h : (abort config logbook run cause).Yields t outcome) :
    Keeps config (CatalogRecord.kind R) run.failed (gist t) ∧
      ∃ moment, outcome = verdict (run.statistics.finish moment) (some cause) := by
  obtain ⟨_, t₁, rfl, h₁⟩ := yields_ask_bind_iff.1 h
  obtain ⟨_, u, v, rfl, hu, h₂⟩ := Program.yields_bind_iff.1 h₁
  obtain ⟨moment, t₂, rfl, h₃⟩ := yields_ask_bind_iff.1 h₂
  obtain ⟨_, t₃, rfl, h₄⟩ := yields_ask_bind_iff.1 h₃
  obtain ⟨_, w, z, rfl, hw, h₅⟩ := Program.yields_bind_iff.1 h₄
  obtain ⟨rfl, rfl⟩ := Program.yields_pure_iff.1 h₅
  have hg := gist_record_log hw fun _ => rfl
  refine ⟨?_, moment, rfl⟩
  have hkeeps := keeps_of_yields hu
  simpa [matters, isCancellation, Request.matters, hg] using hkeeps

/-- What an import can come to, with the elements that were received: its document cannot be opened, or
it is run over, what was rejected is kept, and that is all. -/
inductive ImportRun (R : Type) [CatalogRecord R] (config : Config) (logbook : Option Logbook)
    (resumeFrom : Nat) :
    List (Value × Nat) → History → Outcome → Prop
  | unopened (startedAt moment : Instant) (cause : Cause) :
      ImportRun R config logbook resumeFrom [] [⟨.openDocument, .error cause⟩]
        (verdict ((Statistics.start startedAt).finish moment) (some cause))
  | opened (startedAt moment : Instant) (document : Reading) (xs : List (Value × Nat))
      (g keeps : History) (run : RunState R) (cause? : Option Cause)
      (hend : RunEnd config logbook ⟨.start startedAt, .startingAt config.batchSize resumeFrom, []⟩ document
        (document.elements.zipIdx.drop (firstPosition resumeFrom (max config.batchSize 1)))
        xs g run cause?)
      (hkeeps : Keeps config (CatalogRecord.kind R) run.failed keeps) :
      ImportRun R config logbook resumeFrom xs (⟨.openDocument, .ok document⟩ :: g ++ keeps)
        (verdict (run.statistics.finish moment) cause?)

theorem runEnd_of_yields {config : Config} {logbook : Option Logbook} {run : RunState R}
    {resumeFrom : Nat} {document : Reading} {t : History} {outcome : Outcome}
    (h : (runDocument config logbook run resumeFrom document).Yields t outcome) :
    ∃ xs g run' cause? keeps moment,
      RunEnd config logbook run document
        (document.elements.zipIdx.drop (firstPosition resumeFrom run.batcher.batchSize))
        xs g run' cause? ∧
      Keeps config (CatalogRecord.kind R) run'.failed keeps ∧ gist t = g ++ keeps ∧
      outcome = verdict (run'.statistics.finish moment) cause? := by
  obtain ⟨⟨run₁, cause?⟩, u, v, rfl, hu, hv⟩ := Program.yields_bind_iff.1 h
  obtain ⟨xs, hintake⟩ := intake_of_yields hu
  rw [Nat.sub_zero] at hintake
  rw [gist_append]
  cases cause? with
  | some cause =>
    obtain ⟨hkeeps, moment, houtcome⟩ := keeps_of_abort hv
    exact ⟨xs, _, run₁, _, _, moment, .early xs _ run₁ cause hintake, hkeeps, rfl, houtcome⟩
  | none =>
    have htakes := hintake.takes
    cases hending : document.ending with
    | error e =>
      rw [hending] at hv
      obtain ⟨hkeeps, moment, houtcome⟩ := keeps_of_abort hv
      exact ⟨_, _, run₁, _, _, moment, .unread _ run₁ e htakes hending, hkeeps, rfl, houtcome⟩
    | ok summary =>
      rw [hending] at hv
      obtain ⟨v', hv', hg⟩ := gist_ite_ask (fun _ => rfl) hv
      rw [hg]
      obtain ⟨⟨run₂, cause?⟩, w, z, rfl, hw, hz⟩ := Program.yields_bind_iff.1 hv'
      rw [gist_append]
      -- what is left of the run is the same whether a last batch was submitted or not
      have hflush : RunEnd config logbook run document (document.elements.zipIdx.drop
          (firstPosition resumeFrom run.batcher.batchSize)) (document.elements.zipIdx.drop
          (firstPosition resumeFrom run.batcher.batchSize)) (gist u ++ gist w) run₂ cause? := by
        obtain ⟨_, w', rfl, hw'⟩ := yields_ask_bind_iff.1 hw
        rw [gist_cons_of_not_matters rfl]
        rcases hfinish : run₁.batcher.finish with ⟨sealed, batcher⟩
        rw [hfinish] at hw'
        cases sealed with
        | none =>
          obtain ⟨rfl, hrun⟩ := Program.yields_pure_iff.1 hw'
          cases hrun
          rw [gist_nil, List.append_nil]
          exact .drained _ run₁ batcher summary htakes hending hfinish
        | some b =>
          exact .flushed _ _ run₁ run₂ b batcher summary cause? htakes hending hfinish
            (submitStep_of_yields hw')
      cases cause? with
      | some cause =>
        obtain ⟨hkeeps, moment, houtcome⟩ := keeps_of_abort hz
        exact ⟨_, _, run₂, _, _, moment, hflush, hkeeps, (List.append_assoc ..).symm, houtcome⟩
      | none =>
        obtain ⟨hkeeps, moment, houtcome⟩ := keeps_of_finalize hz
        exact ⟨_, _, run₂, _, _, moment, hflush, hkeeps, (List.append_assoc ..).symm, houtcome⟩

theorem importRun_of_yields {config : Config} {logbook : Option Logbook} {resumeFrom : Nat}
    {t : History} {outcome : Outcome}
    (h : (importRun config logbook R resumeFrom).Yields t outcome) :
    ∃ xs, ImportRun R config logbook resumeFrom xs (gist t) outcome := by
  obtain ⟨startedAt, t₁, rfl, h₁⟩ := yields_ask_bind_iff.1 h
  obtain ⟨_, t₂, rfl, h₂⟩ := yields_ask_bind_iff.1 h₁
  obtain ⟨_, u, v, rfl, hu, h₃⟩ := Program.yields_bind_iff.1 h₂
  obtain ⟨answer, t₃, rfl, h₄⟩ := yields_ask_bind_iff.1 h₃
  rw [gist_cons_of_not_matters rfl, gist_cons_of_not_matters rfl, gist_append, gist_record_log hu fun _ => rfl,
    List.nil_append, gist_cons_of_matters rfl]
  cases answer with
  | error cause =>
    obtain ⟨hkeeps, moment, rfl⟩ := keeps_of_abort h₄
    have hg : gist t₃ = [] := by
      unfold Keeps at hkeeps
      rwa [if_pos (.inl rfl)] at hkeeps
    rw [hg]
    exact ⟨[], .unopened startedAt moment cause⟩
  | ok document =>
    obtain ⟨xs, g, run', cause?, keeps, moment, hend, hkeeps, hg, rfl⟩ := runEnd_of_yields h₄
    rw [hg]
    exact ⟨xs, .opened startedAt moment document xs g keeps run' cause? hend hkeeps⟩

end CatalogImport
