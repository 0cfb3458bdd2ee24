import CatalogImport.Proofs.Import.LedgerOfImport
import CatalogImport.Proofs.Import.Scene
import CatalogImport.Proofs.Statistics

/-!
# The counters of a run

Whatever a store reports and wherever a run is cut short, no more records are counted as inserted or
refused than entered a batch, and no counter ever falls.  Main statement: this holds of all statistics
that a run tells of its progress and of those it ends with, and what is missing are the records that were
still held (`counters_of_told`).
-/

namespace CatalogImport

open CatalogImport.Calendar CatalogImport.Json

/-! ## Counters that do not fall -/

/-- No counter falls in a part of a run, from the statistics before it over those that it tells to those
after it. -/
structure Ascends (s : Statistics) (g : History) (s' : Statistics) : Prop where
  whole : s.Precedes s'
  told : ∀ x ∈ snapshots g, s.Precedes x ∧ x.Precedes s'
  pairwise : (snapshots g).Pairwise Statistics.Precedes

namespace Ascends

variable {s s₁ s' : Statistics} {g g' : History}

/-- A part of a run that tells no statistics. -/
theorem quiet (h : s.Precedes s') (hg : snapshots g = []) : Ascends s g s' := by
  refine ⟨h, ?_, ?_⟩
  · rw [hg]
    intro x hx
    cases hx
  · rw [hg]
    exact .nil

/-- A part of a run that tells the statistics after it. -/
theorem telling (h : s.Precedes s') (hg : snapshots g = [s']) : Ascends s g s' := by
  refine ⟨h, ?_, ?_⟩
  · rw [hg]
    intro x hx
    obtain rfl := List.mem_singleton.1 hx
    exact ⟨h, .refl x⟩
  · rw [hg]
    exact List.pairwise_singleton ..

theorem append (h : Ascends s g s₁) (h' : Ascends s₁ g' s') : Ascends s (g ++ g') s' := by
  refine ⟨h.whole.trans h'.whole, ?_, ?_⟩
  · intro x hx
    rw [snapshots_append] at hx
    rcases List.mem_append.1 hx with hx | hx
    · exact ⟨(h.told x hx).1, (h.told x hx).2.trans h'.whole⟩
    · exact ⟨h.whole.trans (h'.told x hx).1, (h'.told x hx).2⟩
  · rw [snapshots_append]
    refine List.pairwise_append.2 ⟨h.pairwise, h'.pairwise, ?_⟩
    intro x hx y hy
    exact (h.told x hx).2.trans (h'.told y hy).1

end Ascends

section

variable {R : Type} [CatalogRecord R] {config : Config} {logbook : Option Logbook}
  {run run' : RunState R} {g : History}

theorem SubmitStep.ascends {b : Batch R} {cause? : Option Cause}
    (h : SubmitStep config logbook run b g run' cause?) :
    Ascends run.statistics g run'.statistics := by
  have hcalls := fun (records : List Stored) (errors : List StoreError) =>
    (Tells.failedCalls records errors).snapshots
  cases h with
  | cancelled => exact .quiet (.refl _) rfl
  | dropped records errors e hstored hinterrupts =>
    refine .quiet (.refl _) ?_
    rw [snapshots_append, hcalls, List.nil_append]
    rcases Tells.interrupts hinterrupts with he | he
    · exact he.snapshots
    · exact he.snapshots
  | counted records errors report entry hstored hlength hentry =>
    refine .telling ((Statistics.Precedes.recordRetries _ _).trans (.recordBatch _ _ _)) ?_
    rw [snapshots_append, hcalls, List.nil_append]
    exact congrArg (_ :: ·) (Tells.recorded hentry).snapshots
  | refused records errors e entries hstored hlength hentries =>
    refine .quiet ((Statistics.Precedes.recordRetries _ _).trans (.recordFailedBatch _ _)) ?_
    rw [snapshots_append, hcalls]
    rfl
  | unwritable reason entries hstored hentries =>
    exact .quiet ((Statistics.Precedes.recordRetries _ _).trans (.recordFailedBatch _ _)) rfl

theorem ElementStep.ascends {x : Value × Nat} {cause? : Option Cause}
    (h : ElementStep config logbook run x g run' cause?) : Ascends run.statistics g run'.statistics := by
  cases h with
  | pending r batcher hvalid hpush => exact .quiet (.recordValid _) rfl
  | sealed r b batcher g _ _ hvalid hpush hsubmit =>
    have hreceipt : Ascends run.statistics [⟨.enter .validating, ()⟩]
      (run.pushed batcher).statistics := .quiet (.recordValid _) rfl
    exact hreceipt.append hsubmit.ascends
  | rejected violation entry hinvalid hentry => exact .quiet (.recordInvalid _) rfl

theorem Takes.ascends {xs : List (Value × Nat)} (h : Takes config logbook run xs g run') :
    Ascends run.statistics g run'.statistics := by
  induction h with
  | nil run => exact .quiet (.refl _) rfl
  | cons hstep _ ih => exact hstep.ascends.append ih

theorem Intake.ascends {due xs : List (Value × Nat)} {cause? : Option Cause}
    (h : Intake config logbook run due xs g run' cause?) : Ascends run.statistics g run'.statistics := by
  cases h with
  | cancelled xs ys g run' hdue htakes => exact htakes.ascends.append (.quiet (.refl _) rfl)
  | stopped xs x ys g g' run₁ run₂ cause hdue htakes hstep =>
    exact htakes.ascends.append hstep.ascends
  | drained g run' htakes => exact htakes.ascends

theorem RunEnd.ascends {document : Reading} {due xs : List (Value × Nat)} {cause? : Option Cause}
    (h : RunEnd config logbook run document due xs g run' cause?) :
    Ascends run.statistics g run'.statistics := by
  cases h with
  | early xs g run' cause hintake => exact hintake.ascends
  | unread g run' e htakes hending => exact htakes.ascends
  | flushed g g' run₁ run₂ b batcher summary cause? htakes hending hfinish hsubmit =>
    exact htakes.ascends.append hsubmit.ascends
  | drained g run' batcher summary htakes hending hfinish => exact htakes.ascends

/-- No counter falls from one telling of an import to the next, nor from there to its end. -/
theorem pairwise_snapshots {resumeFrom : Nat} {t : History}
    {outcome : Outcome} (h : (importRun config logbook R resumeFrom).Yields t outcome) :
    (snapshots t ++ [outcome.statistics]).Pairwise Statistics.Precedes := by
  obtain ⟨xs, hrun⟩ := importRun_of_yields h
  rw [← snapshots_gist]
  generalize gist t = g at hrun
  cases hrun with
  | unopened startedAt moment cause => exact List.pairwise_singleton ..
  | opened startedAt moment document _ g keeps run cause? hend hkeeps =>
    obtain ⟨-, -, -, hquiet, -⟩ := keepings_of_keeps hkeeps
    have hascends := hend.ascends
    have hfinish := Statistics.Precedes.finish run.statistics moment
    rw [snapshots_append, hquiet, List.append_nil, statistics_verdict]
    refine List.pairwise_append.2 ⟨hascends.pairwise, List.pairwise_singleton .., ?_⟩
    intro x hx y hy
    obtain rfl := List.mem_singleton.1 hy
    exact (hascends.told x hx).2.trans hfinish

end

/-! ## Counters that add up -/

section

variable {R : Type}

/-- No more records of counted batches are inserted or refused than there are. -/
theorem successesIn_add_failuresIn_le (cs : List (Counted R)) :
    successesIn cs + failuresIn cs ≤ (recordsIn cs).length := by
  unfold successesIn failuresIn
  induction cs with
  | nil => exact Nat.le_refl 0
  | cons c cs ih =>
    have hsize : c.batch.size = c.batch.entries.length := rfl
    have hcredited := Statistics.credited_le c.batch.size c.report
    rw [addedUp, addedUp, recordsIn_cons, List.length_append]
    omega

/-- The report says of each record of the batch whether it was inserted or refused. -/
def Counted.IsAccurate (c : Counted R) : Prop := c.report.successful + c.report.failed = c.batch.size

theorem successesIn_add_failuresIn_eq {cs : List (Counted R)} (h : ∀ c ∈ cs, c.IsAccurate) :
    successesIn cs + failuresIn cs = (recordsIn cs).length := by
  unfold successesIn failuresIn
  induction cs with
  | nil => rfl
  | cons c cs ih =>
    have hcs := ih fun d hd => h d (List.mem_cons_of_mem c hd)
    have hsize : c.batch.size = c.batch.entries.length := rfl
    have hcredited := Statistics.credited_eq (h c List.mem_cons_self)
    rw [addedUp, addedUp, recordsIn_cons, List.length_append]
    omega

namespace Tally

variable {cs : List (Counted R)} {lost held : Nat} {s : Statistics}

theorem addsUp (h : Tally cs lost held s) : s.AddsUp := by
  have hle := successesIn_add_failuresIn_le cs
  refine Statistics.addsUp_of_inserts_le ?_
  rw [h.successfulInserts, h.failedInserts, h.totalRecords]
  omega

/-- Where all reports are accurate, the records that are neither inserted nor refused are those held. -/
theorem inserts_add_held (h : Tally cs lost held s) (haccurate : ∀ c ∈ cs, c.IsAccurate) :
    s.successfulInserts + s.failedInserts + held = s.totalRecords := by
  have heq := successesIn_add_failuresIn_eq haccurate
  rw [h.successfulInserts, h.failedInserts, h.totalRecords]
  omega

end Tally

end

/-! ## Whole runs -/

/-- The store said of each record that it took whether it was inserted or refused. -/
def ReportsAreAccurate (t : History) : Prop :=
  ∀ x ∈ offers t, ∀ report ∈ x.2, report.successful + report.failed = x.1.length

instance (t : History) : Decidable (ReportsAreAccurate t) :=
  inferInstanceAs (Decidable (∀ x ∈ offers t, ∀ report ∈ x.2, _ = _))

/-- A run that is refused everything from then on gets no report any more. -/
theorem eq_none_of_mem_offers {u : History} (h : ∀ e ∈ u, e = ⟨e.1, Scene.refusal e.1⟩)
    {x : List Stored × Option BatchResult} (hx : x ∈ offers u) : x.2 = none := by
  obtain ⟨e, he, hoffer⟩ := List.mem_filterMap.1 hx
  rw [h e he] at hoffer
  obtain ⟨q, answer⟩ := e
  cases q with
  | addMany records =>
    cases hoffer
    rfl
  | _ => cases hoffer

theorem ReportsAreAccurate.append {t u : History} (h : ReportsAreAccurate t)
    (hu : ∀ e ∈ u, e = ⟨e.1, Scene.refusal e.1⟩) : ReportsAreAccurate (t ++ u) := by
  intro x hx report hreport
  rw [offers_append] at hx
  rcases List.mem_append.1 hx with hx | hx
  · exact h x hx report hreport
  · rw [eq_none_of_mem_offers hu hx] at hreport
    cases hreport

section

variable {R : Type} [CatalogRecord R] {config : Config} {logbook : Option Logbook} {resumeFrom : Nat}
  {t : History} {outcome : Outcome} {l : Ledger R}

theorem isAccurate_of_counted (h : l.Settles config resumeFrom t outcome) (haccurate : ReportsAreAccurate t) :
    ∀ c ∈ l.counted, c.IsAccurate := by
  intro c hc
  have hoffer : (storedForms c.batch.entries, some c.report) ∈ offers t := by
    rw [h.offers]
    exact List.mem_append_left _ (List.mem_map.2 ⟨c, hc, rfl⟩)
  obtain ⟨i, hi⟩ := List.mem_iff_getElem?.1 hc
  have hlength := (forall₂_of_stored (h.batches i c hi).stored).length_eq
  unfold Counted.IsAccurate Batch.size
  rw [hlength]
  exact haccurate _ hoffer c.report rfl

/-- What is told after a batch has been counted are the counters of the batches up to it. -/
theorem tally_of_snapshot (h : l.Settles config resumeFrom t outcome) {i : Nat} {s : Statistics}
    (hs : (snapshots t)[i]? = some s) :
    Tally (l.counted.take (i + 1)) 0 0 s ∧ (l.counted.take (i + 1)).length = i + 1 := by
  rw [h.snapshots, List.getElem?_map] at hs
  obtain ⟨c, hc, rfl⟩ := Option.map_eq_some_iff.1 hs
  have hlt : i < l.counted.length := (List.getElem?_eq_some_iff.1 hc).1
  refine ⟨(h.batches i c hc).tally, ?_⟩
  rw [List.length_take]
  omega

/-- Wherever a run is and whatever it has been answered, the counters that it tells add up, those told
after so many batches count so many, and no counter falls.  When the run is done, this also holds of the
counters that it ends with.  If the store reports on each record, what is missing in what is told is
nothing, and what is missing in the end are the records of the batch that was dropped: none when the run
did all it had to or lost a batch, not a whole batch when it had to stop at an element or at the source,
and at most a batch when it was cancelled. -/
theorem counters_of_told {p : Task Outcome}
    (h : (importRun config logbook R resumeFrom).Told t p) :
    (∀ i s, (snapshots t)[i]? = some s →
      s.AddsUp ∧ s.batchesProcessed = i + 1 ∧ s.finishedAt = none ∧
      (ReportsAreAccurate t → s.successfulInserts + s.failedInserts = s.totalRecords)) ∧
    (snapshots t).Pairwise Statistics.Precedes ∧
    ∀ outcome, p = .done outcome →
      outcome.statistics.AddsUp ∧ (∀ s ∈ snapshots t, s.Precedes outcome.statistics) ∧
      ∃ l : Ledger R, l.Settles config resumeFrom t outcome ∧
        l.HeldAt (max config.batchSize 1) outcome.cause? ∧
        (ReportsAreAccurate t →
          outcome.statistics.successfulInserts + outcome.statistics.failedInserts + l.held.length =
            outcome.statistics.totalRecords) := by
  refine ⟨?_, ?_, ?_⟩
  · -- the run is completed by refusals, which tell nothing about what was told before
    obtain ⟨u, outcome, hu, hrefused⟩ := Program.exists_yields Scene.refusal p
    obtain ⟨l, hl⟩ := exists_ledger (h.trans hu)
    intro i s hs
    have hwhole : (snapshots (t ++ u))[i]? = some s := by
      rw [snapshots_append, List.getElem?_append_left (List.getElem?_eq_some_iff.1 hs).1]
      exact hs
    obtain ⟨htally, hlength⟩ := tally_of_snapshot hl hwhole
    refine ⟨htally.addsUp, htally.batchesProcessed.trans hlength, htally.finishedAt, ?_⟩
    intro haccurate
    refine htally.inserts_add_held fun c hc => ?_
    exact isAccurate_of_counted hl (haccurate.append hrefused) c (List.mem_of_mem_take hc)
  · obtain ⟨u, outcome, hu, -⟩ := Program.exists_yields Scene.refusal p
    have hpairwise := pairwise_snapshots (h.trans hu)
    rw [snapshots_append] at hpairwise
    exact (List.pairwise_append.1 (List.pairwise_append.1 hpairwise).1).1
  · rintro outcome rfl
    obtain ⟨l, hl⟩ := exists_ledger h
    obtain ⟨s, moment, hstatistics, -, htally⟩ := hl.statistics
    have hpairwise := List.pairwise_append.1 (pairwise_snapshots h)
    have hfinished : outcome.statistics.AddsUp := by
      rw [hstatistics]
      exact Statistics.addsUp_of_inserts_le htally.addsUp.inserts_le
    refine ⟨hfinished, ?_, l, hl, hl.heldAt, ?_⟩
    · intro s' hs'
      exact hpairwise.2.2 s' hs' _ List.mem_cons_self
    · intro haccurate
      rw [hstatistics]
      exact htally.inserts_add_held (isAccurate_of_counted hl haccurate)

end

theorem counters_of_refused_run :
    (∀ s ∈ snapshots (Sample.history 1 0 (Sample.scene, 1)), s.Precedes Sample.refused.statistics) ∧
      ∃ l : Ledger CardSet, l.held = [] ∧
        l.Settles (Sample.config 1) 0 (Sample.history 1 0 (Sample.scene, 1)) (.error Sample.refused) ∧
        Sample.refused.statistics.successfulInserts + Sample.refused.statistics.failedInserts +
          l.held.length = Sample.refused.statistics.totalRecords := by
  have haccurate : ReportsAreAccurate (Sample.history 1 0 (Sample.scene, 1)) := by decide +kernel
  obtain ⟨-, -, hend⟩ := counters_of_told (Sample.yields_of_run Sample.run_refused)
  obtain ⟨-, hprecedes, l, hsettles, hheld, hmissing⟩ := hend _ rfl
  exact ⟨hprecedes, l, hheld, hsettles, hmissing haccurate⟩

end CatalogImport
