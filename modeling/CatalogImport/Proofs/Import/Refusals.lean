import CatalogImport.Proofs.Import.RefusalIndependence

/-!
# Refusals that leave no trace

A store may refuse a batch for a while.  As long as it takes each batch at one of the attempts that are
allowed, an import ends as it would if the store never refused anything: it submits the same batches,
leaves the same records and the same checkpoint, logs the same, and counts the same
(`refusals_leave_no_trace`).  Only its counter of repeated submissions shows how often it was refused.
Whether an import does all it has to does not depend on the store alone, though
(`not_done_despite_store`).
-/

namespace CatalogImport

open CatalogImport.Json

/-! ## Imports that may be refused something -/

/-- An import runs in surroundings that attend to it.  The document is there, or cannot be opened for a
certain reason, the journal does all that it is asked to do, no cancellation comes, and the store takes
each batch after so many refusals at most. -/
structure Attended {σ : Type} (document : Reading) (opening : Except Cause Reading) (maxRetries : Nat)
    (h : Surroundings σ) (scene : σ → Scene) (p : Task Outcome) (w : σ) : Prop where
  attends : Scene.Attends document h scene
  opens : ∀ x, (⟨.openDocument, x⟩ : Exchange) ∈ p.transcript h w → x = opening
  answers : JournalAnswers (p.transcript h w)
  unhindered : Unhindered maxRetries (p.transcript h w)

/-- Where nothing is ever refused, nothing is refused too often. -/
theorem Unhindered.of_zero {t : History} (h : Unhindered 0 t) (maxRetries : Nat) :
    Unhindered maxRetries t where
  notCancelled := h.notCancelled
  accepting := by
    intro hrefused
    refine h.accepting (List.IsInfix.trans ?_ hrefused)
    exact ⟨[], List.replicate maxRetries false, rfl⟩

theorem Unhindered.count_eq_zero {t : History} (h : Unhindered 0 t) : (replies t).count false = 0 := by
  refine List.count_eq_zero.2 fun hmem => h.accepting ?_
  obtain ⟨before, after, heq⟩ := List.append_of_mem hmem
  exact ⟨before, after, by rw [heq]; simp⟩

section

variable {σ : Type} {document : Reading} {opening : Except Cause Reading} {maxRetries : Nat}
  {h : Surroundings σ} {scene : σ → Scene} {p : Task Outcome} {w : σ}

/-- An import that is attended comes to an end, and leaves a transcript. -/
theorem Attended.exists_outcome (hp : Attended document opening maxRetries h scene p w) :
    ∃ outcome, (p.run h w).1 = .finished outcome ∧ p.Yields (p.transcript h w) outcome ∧
      Scene.After document (scene w) (p.transcript h w) (scene (p.run h w).2) := by
  obtain ⟨outcome, hrun⟩ := Program.exists_finished hp.attends.answers p w
  exact ⟨outcome, hrun, Program.run_yields hrun, hp.attends.after_of_run hrun⟩

end

section

variable {R : Type} [CatalogRecord R] {config : Config} {logbook : Option Logbook} {resumeFrom : Nat}

/-- Without a logbook the journal is not asked about batches. -/
theorem recordings_eq_nil {t : History} {outcome : Outcome}
    (h : (importRun config none R resumeFrom).Yields t outcome) : recordings t = [] := by
  obtain ⟨l, -, hsorts⟩ := exists_sorted_ledger (R := R) h
  have hchronicle := hsorts.chronicle
  generalize l.counted.map (·.batch) = bs at hchronicle
  generalize recordings t = g at hchronicle
  induction hchronicle with
  | nil => rfl
  | concat hbefore hentry ih =>
    cases hentry
    rw [ih, List.append_nil]

/-- An import that is attended leads from the site in which it begins to another one. -/
theorem Attended.exists_passage {σ : Type} {document : Reading} {opening : Except Cause Reading}
    {maxRetries : Nat} {h : Surroundings σ} {scene : σ → Scene} {w : σ} {runId : String}
    {c : Option Checkpoint}
    (hp : Attended document opening maxRetries h scene (importRun config logbook R resumeFrom) w)
    (hc : ∀ b, logbook = some b → b.runId = runId ∧ (scene w).journal.loadCheckpoint runId = .ok c) :
    ∃ c', (∀ b, logbook = some b →
        (scene ((importRun config logbook R resumeFrom).run h w).2).journal.loadCheckpoint runId = .ok c') ∧
      Passage maxRetries runId ⟨(scene w).store, c⟩ ((importRun config logbook R resumeFrom).transcript h w)
        ⟨(scene ((importRun config logbook R resumeFrom).run h w).2).store, c'⟩ := by
  obtain ⟨outcome, -, hyields, hafter⟩ := hp.exists_outcome
  have htook := took_of_after hafter hp.unhindered.notCancelled
  have hanswers := hp.answers.recordings
  cases logbook with
  | none =>
    have hquiet := recordings_eq_nil hyields
    refine ⟨c, nofun, hp.unhindered, htook, hanswers, ?_⟩
    rw [hquiet]
    exact .nil c
  | some b =>
    obtain ⟨rfl, hc⟩ := hc b rfl
    obtain ⟨c', hc', hfollows⟩ := hafter.journal.follows hc
    exact ⟨c', fun _ _ => hc', hp.unhindered, htook, hanswers, hfollows.recordings⟩

/-- The same import, once with a store that takes each batch at one of the attempts that are allowed, and
once with a store that never refuses anything, begun in the same scene.  Both come to an end, for the same
cause if it is an early one, and what they have done is the same: the store took the same batches in the
same order and reported the same, the same batches were logged as committed, the store holds the same, and
the checkpoint of the run is at the same batch and counts the same.  The statistics count the same, but for
repeated submissions, of which there are as many as there were refusals.  Both do all they have to if the
document can be read, elements that are no records are passed over, and all records have a written form. -/
theorem refusals_leave_no_trace {σ σ₀ : Type} {document : Reading} {opening : Except Cause Reading}
    {h : Surroundings σ} {scene : σ → Scene} {w : σ} {h₀ : Surroundings σ₀} {scene₀ : σ₀ → Scene} {w₀ : σ₀}
    {p : Task Outcome} (hp : p = importRun config logbook R resumeFrom)
    (hrefused : Attended document opening config.maxRetries h scene p w)
    (hnever : Attended document opening 0 h₀ scene₀ p w₀) (hstart : scene w = scene₀ w₀)
    (hreadable : ∀ b, logbook = some b → ∃ c, (scene w).journal.loadCheckpoint b.runId = .ok c) :
    ∃ outcome outcome₀ : Outcome,
      (p.run h w).1 = .finished outcome ∧ (p.run h₀ w₀).1 = .finished outcome₀ ∧
      outcome.cause? = outcome₀.cause? ∧ SameCounts outcome.statistics outcome₀.statistics ∧
      outcome.statistics.retryCount = (replies (p.transcript h w)).count false ∧
      outcome₀.statistics.retryCount = 0 ∧
      offers (p.transcript h w) = offers (p.transcript h₀ w₀) ∧
      loggedBatches (p.transcript h w) = loggedBatches (p.transcript h₀ w₀) ∧
      (scene (p.run h w).2).store = (scene₀ (p.run h₀ w₀).2).store ∧
      (∀ b, logbook = some b → ∃ c c₀,
        (scene (p.run h w).2).journal.loadCheckpoint b.runId = .ok c ∧
        (scene₀ (p.run h₀ w₀).2).journal.loadCheckpoint b.runId = .ok c₀ ∧
        Logbook.batchAfter c = Logbook.batchAfter c₀ ∧ recordsCounted c = recordsCounted c₀) ∧
      ∀ summary, opening = .ok document → document.ending = .ok summary →
        config.skipValidationErrors = true →
        (∀ e ∈ recordsDue R (max config.batchSize 1) resumeFrom document,
          ∃ form, CatalogRecord.stored e.record = .ok form) →
        outcome = .ok outcome.statistics ∧ outcome₀ = .ok outcome₀.statistics := by
  subst hp
  obtain ⟨outcome, hfinished, hyields, -⟩ := hrefused.exists_outcome
  obtain ⟨outcome₀, hfinished₀, hyields₀, -⟩ := hnever.exists_outcome
  have hcheckpoint : ∃ runId c, ∀ b, logbook = some b →
      b.runId = runId ∧ (scene w).journal.loadCheckpoint runId = .ok c := by
    cases logbook with
    | none => exact ⟨"", none, nofun⟩
    | some b =>
      obtain ⟨c, hc⟩ := hreadable b rfl
      exact ⟨b.runId, c, fun _ hb => by cases hb; exact ⟨rfl, hc⟩⟩
  obtain ⟨runId, c, hc⟩ := hcheckpoint
  have hrun : ∀ b, logbook = some b → b.runId = runId := fun b hb => (hc b hb).1
  obtain ⟨c', hc', hpassage⟩ := hrefused.exists_passage hc
  obtain ⟨c₀', hc₀', hpassage₀⟩ := hnever.exists_passage (hstart ▸ hc)
  have hnever' := hnever.unhindered.of_zero config.maxRetries
  have hpassage₀' : Passage config.maxRetries runId _ _ _ := { hpassage₀ with unhindered := hnever' }
  have hsites : Site.Matches ⟨(scene w).store, c⟩ ⟨(scene₀ w₀).store, c⟩ :=
    ⟨congrArg Scene.store hstart, rfl, rfl⟩
  have hsites₀ : Site.Matches ⟨(scene₀ w₀).store, c⟩ ⟨(scene w).store, c⟩ :=
    ⟨congrArg Scene.store hstart.symm, rfl, rfl⟩
  -- the two are compared both ways, since each way tells about the repetitions of the first one only
  obtain ⟨start, hzero, run', run₀', cause?, moment, moment₀, habreast, rfl, rfl⟩ :=
    importRun_abreast hsites hrun hyields hyields₀ hrefused.opens hnever.opens hpassage hpassage₀'
  obtain ⟨start₀, hzero₀, run₁', run₁₀', cause₁?, moment₁, moment₁₀, hback, houtcome, -⟩ :=
    importRun_abreast hsites₀ hrun hyields₀ hyields hnever.opens hrefused.opens hpassage₀' hpassage
  refine ⟨_, _, hfinished, hfinished₀, ?_, ?_, ?_, ?_, habreast.offers, habreast.logged,
    habreast.alike.sites.store, ?_, ?_⟩
  · rw [cause?_verdict, cause?_verdict]
  · rw [statistics_verdict, statistics_verdict]
    exact habreast.alike.counts.finish moment moment₀
  · rw [statistics_verdict]
    have hretries := habreast.retries
    rw [hzero, Nat.zero_add] at hretries
    exact hretries
  · have hretries := hback.retries
    rw [hzero₀, hnever.unhindered.count_eq_zero] at hretries
    have hstatistics := congrArg Outcome.statistics houtcome
    rw [statistics_verdict, statistics_verdict] at hstatistics
    rw [statistics_verdict, hstatistics]
    exact hretries
  · intro b hb
    rw [hrun b hb]
    exact ⟨c', c₀', hc' b hb, hc₀' b hb, habreast.alike.sites.place,
      habreast.alike.sites.counted⟩
  · intro summary hopening hending hskip hwritable
    subst hopening
    have hdone := cause?_eq_none_of_unhindered hyields hrefused.opens hending hskip hrefused.unhindered
      hwritable
    rw [cause?_verdict] at hdone
    subst hdone
    exact ⟨rfl, rfl⟩

end

/-! ## An import that is refused now and then -/

namespace Scene

variable {document : Reading}

/-- Answers from a scene whose store refuses some of the calls: each `true` stands for a call that it
refuses. -/
def patchy (document : Reading) : Surroundings (Scene × List Bool)
  | .addMany _, (s, true :: refusals) => (.answer (some (.error (.transport "busy"))), (s, refusals))
  | .addMany records, (s, refusals) =>
    (.answer (some (.ok (s.store.addMany records).2)),
      ({ s with store := (s.store.addMany records).1 }, refusals.tail))
  | q, (s, refusals) =>
    ((surroundings document q (s, 0)).1, ((surroundings document q (s, 0)).2.1, refusals))

/-- Whatever is not offered to the store is answered from the scene. -/
theorem patchy_eq {q : Request} (hq : ∀ records, q ≠ .addMany records) (s : Scene)
    (refusals : List Bool) : patchy document q (s, refusals) =
      ((surroundings document q (s, 0)).1, ((surroundings document q (s, 0)).2.1, refusals)) := by
  cases q with
  | addMany records => exact absurd rfl (hq records)
  | _ => rfl

theorem attends_patchy : Attends document (patchy document) Prod.fst where
  answers := by
    rintro q ⟨s, refusals⟩
    cases q with
    | addMany records =>
      rcases refusals with _ | ⟨_ | _, refusals⟩ <;> exact ⟨_, _, rfl⟩
    | _ =>
      have hattends : Attends document (surroundings document) Prod.fst := attends_surroundings
      obtain ⟨x, w', hanswer⟩ := hattends.answers _ (s, 0)
      rw [patchy_eq (fun _ => Request.noConfusion), hanswer]
      exact ⟨x, _, rfl⟩
  admits := by
    rintro q x ⟨s, refusals⟩ w' hanswer
    cases q with
    | addMany records =>
      rcases refusals with _ | ⟨_ | _, refusals⟩
      · cases hanswer
        exact ⟨rfl, rfl⟩
      · cases hanswer
        exact ⟨rfl, rfl⟩
      · cases hanswer
        rfl
    | _ =>
      rw [patchy_eq (fun _ => Request.noConfusion), Prod.mk.injEq] at hanswer
      rw [← hanswer.2]
      exact admits_surroundings (Prod.ext hanswer.1 rfl)

/-- Nothing is cancelled in the scene, and the document is there. -/
theorem answer_of_patchy {q : Request} {x : q.Answer} {w w' : Scene × List Bool}
    (h : patchy document q w = (.answer x, w')) :
    isCancellation ⟨q, x⟩ = false ∧
      ∀ y, (⟨q, x⟩ : Exchange) = ⟨.openDocument, y⟩ → y = .ok document := by
  obtain ⟨s, refusals⟩ := w
  cases q with
  | addMany records =>
    rcases refusals with _ | ⟨_ | _, refusals⟩ <;>
      · cases h
        exact ⟨rfl, fun _ heq => by cases heq⟩
  | _ =>
    rw [patchy_eq (fun _ => Request.noConfusion), Prod.mk.injEq] at h
    exact answer_of_surroundings (Prod.ext h.1 rfl)

theorem answer_of_mem_patchy {α : Type} {p : Task α} {w : Scene × List Bool} {e : Exchange}
    (he : e ∈ p.transcript (patchy document) w) :
    isCancellation e = false ∧ ∀ x, e = ⟨.openDocument, x⟩ → x = .ok document := by
  obtain ⟨_, _, hanswer⟩ := Program.exists_answer_of_mem_transcript he
  exact answer_of_patchy hanswer

end Scene

namespace Sample

/-- The import of the sample in batches of one record, with two more attempts at each. -/
def patientTask : Task Outcome :=
  importRun { config 1 with maxRetries := 2 } (some logbook) CardSet 0

/-- The store refuses the first batch twice and the second once. -/
def patches : Scene × List Bool := (scene, [true, true, false, true])

/-- The import is attended if the journal never fails and no batch is refused too often. -/
theorem attended_patchy (maxRetries : Nat) {w : Scene × List Bool}
    (hanswers : JournalAnswers (patientTask.transcript (Scene.patchy document) w))
    (hreplies : ¬ List.replicate (maxRetries + 1) false <:+:
      replies (patientTask.transcript (Scene.patchy document) w)) :
    Attended document (.ok document) maxRetries (Scene.patchy document) Prod.fst patientTask w where
  attends := Scene.attends_patchy
  opens := fun x hx => (Scene.answer_of_mem_patchy hx).2 x rfl
  answers := hanswers
  unhindered := ⟨fun _ he => (Scene.answer_of_mem_patchy he).1, hreplies⟩

theorem replies_patches : replies (patientTask.transcript (Scene.patchy document) patches) =
    [false, false, true, false, true, true] := by decide +kernel

theorem replies_unpatched : replies (patientTask.transcript (Scene.patchy document) (scene, [])) =
    [true, true, true] := by decide +kernel

end Sample

theorem refusals_leave_no_trace_of_sample :
    ∃ s s₀ : Statistics,
      (Sample.patientTask.run (Scene.patchy Sample.document) Sample.patches).1 = .finished (.ok s) ∧
      (Sample.patientTask.run (Scene.patchy Sample.document) (Sample.scene, [])).1 = .finished (.ok s₀) ∧
      SameCounts s s₀ ∧ s.retryCount = 3 ∧ s₀.retryCount = 0 := by
  have hrefused := Sample.attended_patchy 2 (w := Sample.patches) (by decide +kernel)
    (by rw [Sample.replies_patches]; decide)
  have hnever := Sample.attended_patchy 0 (w := (Sample.scene, [])) (by decide +kernel)
    (by rw [Sample.replies_unpatched]; decide)
  have hreadable : ∀ b, some Sample.logbook = some b →
      ∃ c, Sample.patches.1.journal.loadCheckpoint b.runId = .ok c := by
    rintro _ ⟨⟩
    exact ⟨none, rfl⟩
  obtain ⟨outcome, outcome₀, hrun, hrun₀, -, hcounts, hretries, hretries₀, -, -, -, -, hdone⟩ :=
    refusals_leave_no_trace (p := Sample.patientTask) rfl hrefused hnever rfl hreadable
  obtain ⟨houtcome, houtcome₀⟩ := hdone _ rfl rfl rfl fun e _ => ⟨_, rfl⟩
  rw [Sample.replies_patches] at hretries
  exact ⟨outcome.statistics, outcome₀.statistics, houtcome ▸ hrun, houtcome₀ ▸ hrun₀, hcounts, hretries,
    hretries₀⟩

namespace Sample

/-- A document that breaks off behind its first element. -/
def brokenOff : Reading :=
  ⟨[element "a" "First"], .error (.malformed "EOF while parsing a list at line 1 column 63")⟩

/-- The import of the document that breaks off, with a store that refuses nothing. -/
def brokenOffTask : Task Outcome := importRun (config 1) (some logbook) CardSet 0

theorem run_brokenOff : (brokenOffTask.run (Scene.patchy brokenOff) (scene, [])).1 =
    .finished (.error ⟨.source (.malformed "EOF while parsing a list at line 1 column 63"),
      ⟨1, 1, 0, 1, 0, 0, .epoch, some .epoch⟩⟩) := by decide +kernel

end Sample

/-- That the store takes each batch is not enough for an import to do all it has to: the document must be
readable as well. -/
theorem not_done_despite_store :
    ¬ ∀ (document : Reading) (config : Config) (resumeFrom : Nat) (w : Scene × List Bool),
      Unhindered config.maxRetries ((importRun config (some Sample.logbook) CardSet resumeFrom).transcript
        (Scene.patchy document) w) →
      ∃ s : Statistics, ((importRun config (some Sample.logbook) CardSet resumeFrom).run
        (Scene.patchy document) w).1 = .finished (.ok s) := by
  intro hall
  have hreplies : replies (Sample.brokenOffTask.transcript (Scene.patchy Sample.brokenOff)
      (Sample.scene, [])) = [true] := by decide +kernel
  have hunhindered : Unhindered 0 (Sample.brokenOffTask.transcript (Scene.patchy Sample.brokenOff)
      (Sample.scene, [])) :=
    ⟨fun _ he => (Scene.answer_of_mem_patchy he).1, by rw [hreplies]; decide⟩
  obtain ⟨s, hrun⟩ := hall Sample.brokenOff (Sample.config 1) 0 (Sample.scene, []) hunhindered
  cases Sample.run_brokenOff.symm.trans hrun

end CatalogImport
