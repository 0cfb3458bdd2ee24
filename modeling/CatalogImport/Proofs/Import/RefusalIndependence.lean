import CatalogImport.Proofs.Import.Checkpoint
import CatalogImport.Proofs.Import.Completion
import CatalogImport.Proofs.Import.Scene

/-!
# Two imports abreast

Two imports of one document that nothing hinders go the same way, however often the store refused them
something in between: a batch that is submitted again counts once, with its number, and is recorded once.
`Alike` says in what two runs agree, and `Abreast` what two parts of runs have told in common.  Each step
keeps runs alike (`Alike.submit`, `Alike.element`), and so do whole imports (`importRun_abreast`).
-/

namespace CatalogImport

open CatalogImport.Json

/-! ## What a history makes of the store -/

/-- A store took what it was offered, one offer after the other, and reported what it did. -/
def Took : MemoryStore → List (List Stored × Option BatchResult) → MemoryStore → Prop
  | s, [], s' => s' = s
  | s, (records, report) :: offers, s' =>
    report = some (s.addMany records).2 ∧ Took (s.addMany records).1 offers s'

theorem took_append_iff {s s' : MemoryStore} {offers more : List (List Stored × Option BatchResult)} :
    Took s (offers ++ more) s' ↔ ∃ s₁, Took s offers s₁ ∧ Took s₁ more s' := by
  induction offers generalizing s with
  | nil =>
    constructor
    · intro h
      exact ⟨s, rfl, h⟩
    · rintro ⟨_, rfl, h⟩
      exact h
  | cons offer offers ih =>
    constructor
    · rintro ⟨hreport, h⟩
      obtain ⟨s₁, h₁, h₂⟩ := ih.1 h
      exact ⟨s₁, ⟨hreport, h₁⟩, h₂⟩
    · rintro ⟨s₁, ⟨hreport, h₁⟩, h₂⟩
      exact ⟨hreport, ih.2 ⟨s₁, h₁, h₂⟩⟩

/-- A store that does what it says takes what it is offered, unless a cancellation comes. -/
theorem took_of_after {document : Reading} {s s' : Scene} {t : History}
    (h : Scene.After document s t s') (ht : ∀ e ∈ t, isCancellation e = false) :
    Took s.store (offers t) s'.store := by
  induction h with
  | nil s => exact rfl
  | @cons s s₁ s' e t hfirst hrest ih =>
    have hrest := ih fun e he => ht e (List.mem_cons_of_mem _ he)
    have hnot := ht e List.mem_cons_self
    cases he : offer? e with
    | none =>
      rw [offers, List.filterMap_cons_none he, ← hfirst.store_eq he]
      exact hrest
    | some offer =>
      rw [offers, List.filterMap_cons_some he]
      obtain ⟨q, x⟩ := e
      cases q with
      | addMany records =>
        rcases x with _ | _ | report
        · cases hnot
        · cases he
        · cases he
          obtain ⟨hstore, -⟩ := hfirst
          have hpair : s.store.addMany records = (s₁.store, report) := hstore
          refine ⟨?_, ?_⟩
          · rw [hpair]
          · rw [hpair]
            exact hrest
      | _ => cases he

/-! ## Batches that were logged -/

/-- A batch that was logged as committed: for which run, its number, and how many records it has. -/
def loggedBatch? : Exchange → Option (String × Nat × Nat)
  | ⟨.append ⟨runId, .committed number records, _⟩, .ok _⟩ => some (runId, number, records)
  | _ => none

/-- The batches that were logged as committed, in order. -/
def loggedBatches (t : History) : List (String × Nat × Nat) := t.filterMap loggedBatch?

@[simp] theorem loggedBatches_append (t u : History) :
    loggedBatches (t ++ u) = loggedBatches t ++ loggedBatches u := List.filterMap_append

@[simp] theorem loggedBatches_recordings (t : History) :
    loggedBatches (recordings t) = loggedBatches t := by
  refine filterMap_filter_of_none (fun e he => ?_) t
  obtain ⟨q, x⟩ := e
  cases q with
  | append event =>
    obtain ⟨runId, happening, moment⟩ := event
    cases happening with
    | committed number records => cases he
    | _ => rfl
  | _ => rfl

@[simp] theorem loggedBatches_gist (t : History) : loggedBatches (gist t) = loggedBatches t := by
  rw [← loggedBatches_recordings, recordings_gist, loggedBatches_recordings]

/-! ## Passages -/

/-- Nothing is asked of the store, and no batch is recorded. -/
structure Idle (t : History) : Prop where
  offers : offers t = []
  replies : replies t = []
  recordings : recordings t = []

theorem Idle.of_gist {t : History} (h : Idle (gist t)) : Idle t where
  offers := by
    rw [← offers_gist]
    exact h.offers
  replies := by
    rw [← replies_gist]
    exact h.replies
  recordings := by
    rw [← recordings_gist]
    exact h.recordings

theorem idle_nil : Idle [] := ⟨rfl, rfl, rfl⟩

/-- What an import leaves its mark on: the store, and the checkpoint of its run. -/
structure Site where
  store : MemoryStore
  checkpoint : Option Checkpoint

/-- Two sites have the same store, and checkpoints that are at the same batch and count the same. -/
structure Site.Matches (v v₀ : Site) : Prop where
  store : v.store = v₀.store
  place : Logbook.batchAfter v.checkpoint = Logbook.batchAfter v₀.checkpoint
  counted : recordsCounted v.checkpoint = recordsCounted v₀.checkpoint

/-- A history in which nothing is hindered and the journal does all that it is asked to do leads from one
site to another. -/
structure Passage (maxRetries : Nat) (runId : String) (v : Site) (t : History) (v' : Site) : Prop where
  unhindered : Unhindered maxRetries t
  took : Took v.store (offers t) v'.store
  answers : JournalAnswers (recordings t)
  follows : Follows runId v.checkpoint (recordings t) v'.checkpoint

namespace Passage

variable {maxRetries : Nat} {runId : String} {v v' : Site} {t u : History} {e : Exchange}

theorem split (h : Passage maxRetries runId v (t ++ u) v') :
    ∃ v₁, Passage maxRetries runId v t v₁ ∧ Passage maxRetries runId v₁ u v' := by
  have htook := h.took
  have hanswers := h.answers
  have hfollows := h.follows
  rw [offers_append] at htook
  rw [recordings_append] at hanswers hfollows
  obtain ⟨s₁, htook₁, htook₂⟩ := took_append_iff.1 htook
  obtain ⟨c₁, hfollows₁, hfollows₂⟩ := hfollows.split
  exact ⟨⟨s₁, c₁⟩, ⟨h.unhindered.left, htook₁, hanswers.left, hfollows₁⟩,
    ⟨h.unhindered.right, htook₂, hanswers.right, hfollows₂⟩⟩

theorem gist (h : Passage maxRetries runId v t v') : Passage maxRetries runId v (gist t) v' where
  unhindered := h.unhindered.gist
  took := by
    rw [offers_gist]
    exact h.took
  answers := by
    rw [recordings_gist]
    exact h.answers
  follows := by
    rw [recordings_gist]
    exact h.follows

/-- Where nothing is asked of the store and no batch is recorded, nothing changes. -/
theorem eq_of_idle (h : Passage maxRetries runId v t v') (ht : Idle t) : v' = v := by
  obtain ⟨s, c⟩ := v
  obtain ⟨s', c'⟩ := v'
  have htook := h.took
  have hfollows := h.follows
  rw [ht.offers] at htook
  rw [ht.recordings] at hfollows
  obtain rfl : s' = s := htook
  obtain rfl : c' = c := hfollows.eq_of_nil
  rfl

/-- It is enough to look at what matters. -/
theorem of_gist (h : Passage maxRetries runId v (CatalogImport.gist t) v') :
    Passage maxRetries runId v t v' where
  unhindered :=
    { notCancelled := by
        intro e he
        refine Bool.eq_false_iff.2 fun hcancelled => ?_
        have hmem : e ∈ CatalogImport.gist t :=
          mem_gist_iff.2 ⟨he, Bool.or_eq_true_iff.2 (.inr hcancelled)⟩
        rw [h.unhindered.notCancelled e hmem] at hcancelled
        cases hcancelled
      accepting := by
        rw [← replies_gist]
        exact h.unhindered.accepting }
  took := by
    rw [← offers_gist]
    exact h.took
  answers := by
    rw [← recordings_gist]
    exact h.answers
  follows := by
    rw [← recordings_gist]
    exact h.follows

/-- What is idle is passed over. -/
theorem skip (h : Passage maxRetries runId v (t ++ u) v') (ht : Idle t) :
    Passage maxRetries runId v u v' := by
  obtain ⟨v₁, hfirst, hrest⟩ := h.split
  obtain rfl := hfirst.eq_of_idle ht
  exact hrest

theorem skip_head (h : Passage maxRetries runId v (e :: t) v') (he : Idle [e]) :
    Passage maxRetries runId v t v' := skip (t := [e]) h he

/-- No cancellation comes first where none comes at all. -/
theorem not_cancelled {cancelled : Bool}
    (h : Passage maxRetries runId v (⟨.isCancelled, cancelled⟩ :: t) v') :
    cancelled = false ∧ Passage maxRetries runId v t v' := by
  have hfirst := h.unhindered.notCancelled _ List.mem_cons_self
  cases cancelled with
  | true => cases hfirst
  | false => exact ⟨rfl, h.skip_head ⟨rfl, rfl, rfl⟩⟩

end Passage

/-! ## Runs that are alike -/

/-- The counters are the same, but possibly those of repeated submissions. -/
structure SameCounts (s s₀ : Statistics) : Prop where
  totalRecords : s.totalRecords = s₀.totalRecords
  successfulInserts : s.successfulInserts = s₀.successfulInserts
  failedInserts : s.failedInserts = s₀.failedInserts
  batchesProcessed : s.batchesProcessed = s₀.batchesProcessed
  processingErrors : s.processingErrors = s₀.processingErrors

namespace SameCounts

variable {s s₀ : Statistics}

theorem recordValid (h : SameCounts s s₀) : SameCounts s.recordValid s₀.recordValid :=
  { h with totalRecords := congrArg (· + 1) h.totalRecords }

theorem recordInvalid (h : SameCounts s s₀) : SameCounts s.recordInvalid s₀.recordInvalid :=
  { h with processingErrors := congrArg (· + 1) h.processingErrors }

theorem recordRetries (h : SameCounts s s₀) (n n₀ : Nat) :
    SameCounts (s.recordRetries n) (s₀.recordRetries n₀) :=
  ⟨h.totalRecords, h.successfulInserts, h.failedInserts, h.batchesProcessed, h.processingErrors⟩

theorem recordBatch (h : SameCounts s s₀) (size : Nat) (r : BatchResult) :
    SameCounts (s.recordBatch size r) (s₀.recordBatch size r) :=
  { h with
    successfulInserts := congrArg (· + Statistics.creditedSuccesses size r) h.successfulInserts
    failedInserts := congrArg (· + Statistics.creditedFailures size r) h.failedInserts
    batchesProcessed := congrArg (· + 1) h.batchesProcessed }

theorem recordFailedBatch (h : SameCounts s s₀) (size : Nat) :
    SameCounts (s.recordFailedBatch size) (s₀.recordFailedBatch size) :=
  { h with failedInserts := congrArg (· + size) h.failedInserts }

theorem finish (h : SameCounts s s₀) (moment moment₀ : Calendar.Instant) :
    SameCounts (s.finish moment) (s₀.finish moment₀) :=
  ⟨h.totalRecords, h.successfulInserts, h.failedInserts, h.batchesProcessed, h.processingErrors⟩

end SameCounts

variable {R : Type}

/-- Two runs, each at a site, are alike: they hold the same records, have counted the same, and have left
the same mark. -/
structure Alike (run : RunState R) (v : Site) (run₀ : RunState R) (v₀ : Site) : Prop where
  batcher : run.batcher = run₀.batcher
  counts : SameCounts run.statistics run₀.statistics
  sites : v.Matches v₀

/-- Parts of two runs have led to runs that are alike.  The store took the same in both, and the same
batches were logged; what was refused in the first one shows only in its counter of repetitions. -/
structure Abreast (run : RunState R) (t : History) (run' : RunState R) (v' : Site) (t₀ : History)
    (run₀' : RunState R) (v₀' : Site) : Prop where
  alike : Alike run' v' run₀' v₀'
  offers : offers t = offers t₀
  logged : loggedBatches t = loggedBatches t₀
  retries : run'.statistics.retryCount = run.statistics.retryCount + (replies t).count false

section

variable {run run₁ run' run₀ run₁₀ run₀' : RunState R} {v v₁ v' v₀ v₁₀ v₀' : Site}
  {t u t₀ u₀ : History}

/-- Runs stay alike as long as they are idle. -/
theorem Alike.idle {maxRetries : Nat} {runId : String} (h : Alike run v run₀ v₀) (ht : Idle t)
    (ht₀ : Idle t₀) (hp : Passage maxRetries runId v t v') (hp₀ : Passage maxRetries runId v₀ t₀ v₀') :
    Abreast run t run v' t₀ run₀ v₀' := by
  obtain rfl := hp.eq_of_idle ht
  obtain rfl := hp₀.eq_of_idle ht₀
  refine ⟨h, ?_, ?_, ?_⟩
  · rw [ht.offers, ht₀.offers]
  · rw [← loggedBatches_recordings, ht.recordings, ← loggedBatches_recordings t₀, ht₀.recordings]
  · rw [ht.replies]
    rfl

theorem Abreast.trans (h : Abreast run t run₁ v₁ t₀ run₁₀ v₁₀)
    (h' : Abreast run₁ u run' v' u₀ run₀' v₀') :
    Abreast run (t ++ u) run' v' (t₀ ++ u₀) run₀' v₀' where
  alike := h'.alike
  offers := by rw [offers_append, offers_append, h.offers, h'.offers]
  logged := by rw [loggedBatches_append, loggedBatches_append, h.logged, h'.logged]
  retries := by rw [h'.retries, h.retries, replies_append, List.count_append, Nat.add_assoc]

/-- Only what matters counts. -/
theorem abreast_gist_iff :
    Abreast run (gist t) run' v' (gist t₀) run₀' v₀' ↔ Abreast run t run' v' t₀ run₀' v₀' := by
  constructor
  · intro h
    exact ⟨h.alike, by simpa using h.offers, by simpa using h.logged, by simpa using h.retries⟩
  · intro h
    exact ⟨h.alike, by simpa using h.offers, by simpa using h.logged, by simpa using h.retries⟩

/-- Two runs have ended alike: for the same cause, if any, and with counters that are the same. -/
def EndAbreast (run : RunState R) (t : History) (outcome : Outcome) (v' : Site) (t₀ : History)
    (outcome₀ : Outcome) (v₀' : Site) : Prop :=
  ∃ (run' run₀' : RunState R) (cause? : Option Cause) (moment moment₀ : Calendar.Instant),
    Abreast run t run' v' t₀ run₀' v₀' ∧ outcome = verdict (run'.statistics.finish moment) cause? ∧
      outcome₀ = verdict (run₀'.statistics.finish moment₀) cause?

variable {outcome outcome₀ : Outcome}

theorem Abreast.then (h : Abreast run t run₁ v₁ t₀ run₁₀ v₁₀)
    (h' : EndAbreast run₁ u outcome v' u₀ outcome₀ v₀') :
    EndAbreast run (t ++ u) outcome v' (t₀ ++ u₀) outcome₀ v₀' := by
  obtain ⟨run', run₀', cause?, moment, moment₀, habreast, houtcome⟩ := h'
  exact ⟨run', run₀', cause?, moment, moment₀, h.trans habreast, houtcome⟩

theorem EndAbreast.of_gist_eq (ht : gist t = gist u) (ht₀ : gist t₀ = gist u₀)
    (h : EndAbreast run u outcome v' u₀ outcome₀ v₀') : EndAbreast run t outcome v' t₀ outcome₀ v₀' := by
  obtain ⟨run', run₀', cause?, moment, moment₀, habreast, houtcome⟩ := h
  refine ⟨run', run₀', cause?, moment, moment₀, ?_, houtcome⟩
  rw [← abreast_gist_iff, ht, ht₀, abreast_gist_iff]
  exact habreast

end

/-! ## Submitting a batch -/

section

variable {logbook : Option Logbook} {runId : String} {number records : Nat} {g g₀ : History}
  {c c' c₀ c₀' : Option Checkpoint}

/-- Recording a batch asks nothing of the store. -/
theorem replies_of_recorded (h : Recorded logbook number records g) : replies g = [] := by
  cases h <;> rfl

theorem loggedBatches_of_recorded {b : Logbook} (h : Recorded (some b) number records g)
    (hanswers : JournalAnswers g) : loggedBatches g = [(b.runId, number, records)] := by
  cases h with
  | unread b number records e => cases hanswers _ List.mem_cons_self
  | unlogged b number records d moment e =>
    cases hanswers _ (List.mem_cons_of_mem _ List.mem_cons_self)
  | logged b number records d moment later answer => rfl

/-- Recording the same batch moves two checkpoints to the same place, and counts the same. -/
theorem Recorded.abreast (hentry : Recorded logbook number records g)
    (hentry₀ : Recorded logbook number records g₀) (hrun : ∀ b, logbook = some b → b.runId = runId)
    (hanswers : JournalAnswers g) (hanswers₀ : JournalAnswers g₀) (hfollows : Follows runId c g c')
    (hfollows₀ : Follows runId c₀ g₀ c₀') (hplace : Logbook.batchAfter c = Logbook.batchAfter c₀)
    (hcounted : recordsCounted c = recordsCounted c₀) :
    Logbook.batchAfter c' = Logbook.batchAfter c₀' ∧ recordsCounted c' = recordsCounted c₀' ∧
      loggedBatches g = loggedBatches g₀ := by
  cases logbook with
  | none =>
    cases hentry
    cases hentry₀
    rw [hfollows.eq_of_nil, hfollows₀.eq_of_nil]
    exact ⟨hplace, hcounted, rfl⟩
  | some b =>
    obtain rfl := hrun b rfl
    rcases hfollows.recorded hentry with ⟨-, moment, rfl⟩ | ⟨hfailed, -⟩
    · rcases hfollows₀.recorded hentry₀ with ⟨-, moment₀, rfl⟩ | ⟨hfailed, -⟩
      · rw [batchAfter_checkpointAt_over, batchAfter_checkpointAt_over,
          recordsCounted_checkpointAt_over, recordsCounted_checkpointAt_over, hplace, hcounted,
          loggedBatches_of_recorded hentry hanswers, loggedBatches_of_recorded hentry₀ hanswers₀]
        exact ⟨rfl, rfl, rfl⟩
      · exact absurd hanswers₀ hfailed
    · exact absurd hanswers hfailed

end

variable [CatalogRecord R]

/-- What submitting a batch comes to when nothing hinders it: the store has taken it, after it has refused
it some times, and it was recorded; or it has no written form. -/
inductive Delivery (logbook : Option Logbook) (run : RunState R) (b : Batch R) (v : Site) (g : History)
    (run' : RunState R) (v' : Site) : Option Cause → Prop
  | taken (records : List Stored) (retries : Nat) (hstored : b.stored = .ok records)
      (hrun : run' =
        { run with statistics := countedStatistics run b ⟨(v.store.addMany records).2, retries⟩ })
      (hstore : v'.store = (v.store.addMany records).1)
      (hoffers : offers g = [(records, some (v.store.addMany records).2)])
      (hretries : (replies g).count false = retries)
      (hentry : Recorded logbook b.number b.size (recordings g)) :
      Delivery logbook run b v g run' v' none
  | unwritable (reason : String) (entries : List FailedEntry) (hstored : b.stored = .error reason)
      (hrun : run' =
        { run with
          statistics := (run.statistics.recordRetries 0).recordFailedBatch b.size
          failed := run.failed ++ entries }) (hg : g = []) :
      Delivery logbook run b v g run' v' (some (.batchUnwritable b.number reason))

section

variable {config : Config} {logbook : Option Logbook} {runId : String} {b : Batch R}
  {run run' run₀ run₀' : RunState R} {v v' v₀ v₀' : Site} {g g₀ : History} {cause? cause₀? : Option Cause}

theorem SubmitStep.delivery (h : SubmitStep config logbook run b g run' cause?)
    (hp : Passage config.maxRetries runId v g v') : Delivery logbook run b v g run' v' cause? := by
  cases h with
  | cancelled => cases hp.unhindered.notCancelled _ List.mem_cons_self
  | dropped records errors e hstored hinterrupts =>
    have hfalse := hp.unhindered.notCancelled e (List.mem_append_right _ List.mem_cons_self)
    rw [hinterrupts.isCancellation] at hfalse
    cases hfalse
  | counted records errors report entry hstored hlength hentry =>
    have htells := (Tells.failedCalls records errors).append ((Tells.taken records report).append
      ((Tells.progress (countedStatistics run b ⟨report, errors.length⟩)).append (.recorded hentry)))
    simp only [List.singleton_append, List.nil_append] at htells
    have hanswered : replies (⟨.addMany records, some (.ok report)⟩ ::
        ⟨.progress (countedStatistics run b ⟨report, errors.length⟩), ()⟩ :: entry) = [true] :=
      congrArg (true :: ·) (replies_of_recorded hentry : replies entry = [])
    have htook := hp.took
    rw [htells.offers] at htook
    obtain ⟨hreport, hstore⟩ := htook
    obtain rfl := Option.some.inj hreport
    refine .taken records errors.length hstored rfl hstore htells.offers ?_ ?_
    · rw [replies_append, replies_failedCalls, hanswered, List.count_append, List.count_replicate_self]
      rfl
    · rw [htells.recordings]
      exact hentry
  | refused records errors e entries hstored hlength hentries =>
    exact absurd hlength hp.unhindered.length_ne
  | unwritable reason entries hstored hentries => exact .unwritable reason entries hstored rfl rfl

/-- Submitting the same batch keeps runs alike, and has the same result. -/
theorem Alike.submit (h : Alike run v run₀ v₀) (hrun : ∀ b, logbook = some b → b.runId = runId)
    (hstep : SubmitStep config logbook run b g run' cause?)
    (hstep₀ : SubmitStep config logbook run₀ b g₀ run₀' cause₀?)
    (hp : Passage config.maxRetries runId v g v') (hp₀ : Passage config.maxRetries runId v₀ g₀ v₀') :
    cause? = cause₀? ∧ Abreast run g run' v' g₀ run₀' v₀' := by
  have hdelivery := hstep.delivery hp
  have hdelivery₀ := hstep₀.delivery hp₀
  clear hstep hstep₀
  cases hdelivery with
  | taken records retries hstored hrun' hstore hoffers hretries hentry =>
    cases hdelivery₀ with
    | taken records₀ retries₀ hstored₀ hrun₀' hstore₀ hoffers₀ hretries₀ hentry₀ =>
      obtain rfl : records = records₀ := Except.ok.inj (hstored.symm.trans hstored₀)
      obtain ⟨hplace, hcounted, hlogged⟩ := hentry.abreast hentry₀ hrun hp.answers hp₀.answers hp.follows
        hp₀.follows h.sites.place h.sites.counted
      rw [loggedBatches_recordings, loggedBatches_recordings] at hlogged
      subst hrun' hrun₀'
      rw [← h.sites.store] at hoffers₀ hstore₀ ⊢
      refine ⟨rfl, ⟨h.batcher, (h.counts.recordRetries _ _).recordBatch _ _, ⟨?_, hplace, hcounted⟩⟩, ?_,
        hlogged, ?_⟩
      · rw [hstore, hstore₀]
      · rw [hoffers, hoffers₀]
      · rw [hretries]
        rfl
    | unwritable reason entries hstored₀ hrun₀' hg₀ =>
      rw [hstored] at hstored₀
      cases hstored₀
  | unwritable reason entries hstored hrun' hg =>
    cases hdelivery₀ with
    | taken records₀ retries₀ hstored₀ hrun₀' hstore₀ hoffers₀ hretries₀ hentry₀ =>
      rw [hstored] at hstored₀
      cases hstored₀
    | unwritable reason₀ entries₀ hstored₀ hrun₀' hg₀ =>
      obtain rfl : reason = reason₀ := Except.error.inj (hstored.symm.trans hstored₀)
      subst hrun' hrun₀' hg hg₀
      obtain rfl := hp.eq_of_idle ⟨rfl, rfl, rfl⟩
      obtain rfl := hp₀.eq_of_idle ⟨rfl, rfl, rfl⟩
      exact ⟨rfl, ⟨h.batcher, (h.counts.recordRetries 0 0).recordFailedBatch b.size, h.sites⟩, rfl, rfl, rfl⟩

end

/-! ## Taking in elements -/

section

variable {config : Config} {logbook : Option Logbook} {runId : String}
  {run run' run₀ run₀' : RunState R} {v v' v₀ v₀' : Site} {g g₀ : History} {cause? cause₀? : Option Cause}

/-- Taking in the same element keeps runs alike, and has the same result. -/
theorem Alike.element {x : Value × Nat} (h : Alike run v run₀ v₀)
    (hrun : ∀ b, logbook = some b → b.runId = runId)
    (hstep : ElementStep config logbook run x g run' cause?)
    (hstep₀ : ElementStep config logbook run₀ x g₀ run₀' cause₀?)
    (hp : Passage config.maxRetries runId v g v') (hp₀ : Passage config.maxRetries runId v₀ g₀ v₀') :
    cause? = cause₀? ∧ Abreast run g run' v' g₀ run₀' v₀' := by
  cases hstep with
  | pending r batcher hvalid hpush =>
    obtain rfl := hp.eq_of_idle ⟨rfl, rfl, rfl⟩
    rw [h.batcher] at hpush
    cases hstep₀ with
    | pending r₀ batcher₀ hvalid₀ hpush₀ =>
      obtain rfl : r = r₀ := Except.ok.inj (hvalid.symm.trans hvalid₀)
      obtain rfl := hp₀.eq_of_idle ⟨rfl, rfl, rfl⟩
      have hbatcher : batcher = batcher₀ := congrArg Prod.snd (hpush.symm.trans hpush₀)
      exact ⟨rfl, ⟨hbatcher, h.counts.recordValid, h.sites⟩, rfl, rfl, rfl⟩
    | sealed r₀ b batcher₀ g₁ _ _ hvalid₀ hpush₀ hsubmit₀ =>
      obtain rfl : r = r₀ := Except.ok.inj (hvalid.symm.trans hvalid₀)
      cases hpush.symm.trans hpush₀
    | rejected violation entry hinvalid hentry => cases hvalid.symm.trans hinvalid
  | sealed r b batcher g₁ _ _ hvalid hpush hsubmit =>
    rw [h.batcher] at hpush
    cases hstep₀ with
    | pending r₀ batcher₀ hvalid₀ hpush₀ =>
      obtain rfl : r = r₀ := Except.ok.inj (hvalid.symm.trans hvalid₀)
      cases hpush.symm.trans hpush₀
    | sealed r₀ b₀ batcher₀ g₁₀ _ _ hvalid₀ hpush₀ hsubmit₀ =>
      obtain rfl : r = r₀ := Except.ok.inj (hvalid.symm.trans hvalid₀)
      cases hpush.symm.trans hpush₀
      have hpushed : Alike (run.pushed batcher) v (run₀.pushed batcher) v₀ :=
        ⟨rfl, h.counts.recordValid, h.sites⟩
      obtain ⟨hcause, habreast⟩ := hpushed.submit hrun hsubmit hsubmit₀
        (hp.skip_head ⟨rfl, rfl, rfl⟩) (hp₀.skip_head ⟨rfl, rfl, rfl⟩)
      exact ⟨hcause, habreast.alike, habreast.offers, habreast.logged, habreast.retries⟩
    | rejected violation entry hinvalid hentry => cases hvalid.symm.trans hinvalid
  | rejected violation entry hinvalid hentry =>
    obtain rfl := hp.eq_of_idle ⟨rfl, rfl, rfl⟩
    cases hstep₀ with
    | pending r₀ batcher₀ hvalid₀ hpush₀ => cases hvalid₀.symm.trans hinvalid
    | sealed r₀ b batcher₀ g₁ _ _ hvalid₀ hpush₀ hsubmit₀ => cases hvalid₀.symm.trans hinvalid
    | rejected violation₀ entry₀ hinvalid₀ hentry₀ =>
      obtain rfl : violation = violation₀ := Except.error.inj (hinvalid.symm.trans hinvalid₀)
      obtain rfl := hp₀.eq_of_idle ⟨rfl, rfl, rfl⟩
      exact ⟨rfl, ⟨h.batcher, h.counts.recordInvalid, h.sites⟩, rfl, rfl, rfl⟩

end

section

variable {config : Config} {logbook : Option Logbook} {runId : String} {run run₀ : RunState R}
  {v v' v₀ v₀' : Site} {t t₀ : History} {y y₀ : RunState R × Option Cause}

/-- Taking in the same elements keeps runs alike, and has the same result. -/
theorem Alike.elements {skip position : Nat} {vs : List Value} (h : Alike run v run₀ v₀)
    (hrun : ∀ b, logbook = some b → b.runId = runId)
    (hy : (takeElements config logbook skip run position vs).Yields t y)
    (hy₀ : (takeElements config logbook skip run₀ position vs).Yields t₀ y₀)
    (hp : Passage config.maxRetries runId v t v') (hp₀ : Passage config.maxRetries runId v₀ t₀ v₀') :
    y.2 = y₀.2 ∧ Abreast run t y.1 v' t₀ y₀.1 v₀' := by
  induction vs generalizing run run₀ position t t₀ v v₀ with
  | nil =>
    obtain ⟨cancelled, u, rfl, h₁⟩ := yields_ask_bind_iff.1 hy
    obtain ⟨cancelled₀, u₀, rfl, h₁₀⟩ := yields_ask_bind_iff.1 hy₀
    obtain ⟨rfl, hp⟩ := hp.not_cancelled
    obtain ⟨rfl, hp₀⟩ := hp₀.not_cancelled
    obtain ⟨rfl, rfl⟩ := Program.yields_pure_iff.1 h₁
    obtain ⟨rfl, rfl⟩ := Program.yields_pure_iff.1 h₁₀
    obtain rfl := hp.eq_of_idle ⟨rfl, rfl, rfl⟩
    obtain rfl := hp₀.eq_of_idle ⟨rfl, rfl, rfl⟩
    exact ⟨rfl, h, rfl, rfl, rfl⟩
  | cons value rest ih =>
    obtain ⟨cancelled, u, rfl, h₁⟩ := yields_ask_bind_iff.1 hy
    obtain ⟨cancelled₀, u₀, rfl, h₁₀⟩ := yields_ask_bind_iff.1 hy₀
    have hlook : Abreast run [⟨.isCancelled, cancelled⟩] run v [⟨.isCancelled, cancelled₀⟩] run₀ v₀ :=
      ⟨h, rfl, rfl, rfl⟩
    obtain ⟨rfl, hp₁⟩ := hp.not_cancelled
    obtain ⟨rfl, hp₁₀⟩ := hp₀.not_cancelled
    by_cases hskip : position < skip
    · simp only [Bool.false_eq_true, if_false, if_pos hskip] at h₁ h₁₀
      obtain ⟨hcause, habreast⟩ := ih h h₁ h₁₀ hp₁ hp₁₀
      exact ⟨hcause, hlook.trans habreast⟩
    · simp only [Bool.false_eq_true, if_false, if_neg hskip] at h₁ h₁₀
      obtain ⟨⟨run₁, cause?⟩, u₁, u₂, rfl, hu₁, hu₂⟩ := Program.yields_bind_iff.1 h₁
      obtain ⟨⟨run₁₀, cause₀?⟩, w₁, w₂, rfl, hw₁, hw₂⟩ := Program.yields_bind_iff.1 h₁₀
      obtain ⟨v₁, hfirst, hrest⟩ := hp₁.split
      obtain ⟨v₁₀, hfirst₀, hrest₀⟩ := hp₁₀.split
      obtain ⟨hcause, hstep⟩ := h.element hrun (elementStep_of_yields hu₁) (elementStep_of_yields hw₁)
        hfirst.gist hfirst₀.gist
      have hstep := hlook.trans (abreast_gist_iff.1 hstep)
      obtain rfl : cause? = cause₀? := hcause
      cases cause? with
      | some cause =>
        obtain ⟨rfl, rfl⟩ := Program.yields_pure_iff.1 hu₂
        obtain ⟨rfl, rfl⟩ := Program.yields_pure_iff.1 hw₂
        obtain rfl := hrest.eq_of_idle ⟨rfl, rfl, rfl⟩
        obtain rfl := hrest₀.eq_of_idle ⟨rfl, rfl, rfl⟩
        rw [List.append_nil, List.append_nil]
        exact ⟨rfl, hstep⟩
      | none =>
        obtain ⟨hcause, habreast⟩ := ih hstep.alike hu₂ hw₂ hrest hrest₀
        exact ⟨hcause, hstep.trans habreast⟩

/-! ## Whole imports -/

theorem idle_of_keeps {kind : RecordKind} {failed : List FailedEntry}
    (h : Keeps config kind failed (gist t)) : Idle t := by
  refine .of_gist ?_
  unfold Keeps at h
  split at h
  · rw [h]
    exact idle_nil
  · obtain ⟨answer, hg⟩ := h
    rw [hg]
    exact ⟨rfl, rfl, rfl⟩

variable {outcome outcome₀ : Outcome}

theorem Alike.abort {cause : Cause} (h : Alike run v run₀ v₀)
    (hy : (abort config logbook run cause).Yields t outcome)
    (hy₀ : (CatalogImport.abort config logbook run₀ cause).Yields t₀ outcome₀)
    (hp : Passage config.maxRetries runId v t v') (hp₀ : Passage config.maxRetries runId v₀ t₀ v₀') :
    EndAbreast run t outcome v' t₀ outcome₀ v₀' := by
  obtain ⟨hkeeps, moment, rfl⟩ := keeps_of_abort hy
  obtain ⟨hkeeps₀, moment₀, rfl⟩ := keeps_of_abort hy₀
  exact ⟨run, run₀, some cause, moment, moment₀,
    h.idle (idle_of_keeps hkeeps) (idle_of_keeps hkeeps₀) hp hp₀, rfl, rfl⟩

theorem Alike.finalize (h : Alike run v run₀ v₀)
    (hy : (finalize config logbook run).Yields t outcome)
    (hy₀ : (CatalogImport.finalize config logbook run₀).Yields t₀ outcome₀)
    (hp : Passage config.maxRetries runId v t v') (hp₀ : Passage config.maxRetries runId v₀ t₀ v₀') :
    EndAbreast run t outcome v' t₀ outcome₀ v₀' := by
  obtain ⟨hkeeps, moment, rfl⟩ := keeps_of_finalize hy
  obtain ⟨hkeeps₀, moment₀, rfl⟩ := keeps_of_finalize hy₀
  exact ⟨run, run₀, none, moment, moment₀,
    h.idle (idle_of_keeps hkeeps) (idle_of_keeps hkeeps₀) hp hp₀, rfl, rfl⟩

/-- Submitting what is left keeps runs alike, and has the same result. -/
theorem Alike.flush (h : Alike run v run₀ v₀) (hrun : ∀ b, logbook = some b → b.runId = runId)
    (hy : (flush config logbook run).Yields t y)
    (hy₀ : (CatalogImport.flush config logbook run₀).Yields t₀ y₀)
    (hp : Passage config.maxRetries runId v t v') (hp₀ : Passage config.maxRetries runId v₀ t₀ v₀') :
    y.2 = y₀.2 ∧ Abreast run t y.1 v' t₀ y₀.1 v₀' := by
  obtain ⟨_, u, rfl, h₁⟩ := yields_ask_bind_iff.1 hy
  obtain ⟨_, u₀, rfl, h₁₀⟩ := yields_ask_bind_iff.1 hy₀
  rcases hfinish : run₀.batcher.finish with ⟨sealed, batcher⟩
  rw [h.batcher, hfinish] at h₁
  rw [hfinish] at h₁₀
  cases sealed with
  | none =>
    obtain ⟨rfl, rfl⟩ := Program.yields_pure_iff.1 h₁
    obtain ⟨rfl, rfl⟩ := Program.yields_pure_iff.1 h₁₀
    exact ⟨rfl, h.idle ⟨rfl, rfl, rfl⟩ ⟨rfl, rfl, rfl⟩ hp hp₀⟩
  | some b =>
    have hsealed : Alike { run with batcher } v { run₀ with batcher } v₀ :=
      ⟨rfl, h.counts, h.sites⟩
    obtain ⟨hcause, habreast⟩ := hsealed.submit hrun (submitStep_of_yields h₁)
      (submitStep_of_yields h₁₀) (hp.skip_head ⟨rfl, rfl, rfl⟩).gist
      (hp₀.skip_head ⟨rfl, rfl, rfl⟩).gist
    have hrest := abreast_gist_iff.1 habreast
    exact ⟨hcause, hrest.alike, hrest.offers, hrest.logged, hrest.retries⟩

/-- Running over the same document keeps runs alike to their end. -/
theorem Alike.document {resumeFrom : Nat} {document : Reading} (h : Alike run v run₀ v₀)
    (hrun : ∀ b, logbook = some b → b.runId = runId)
    (hy : (runDocument config logbook run resumeFrom document).Yields t outcome)
    (hy₀ : (runDocument config logbook run₀ resumeFrom document).Yields t₀ outcome₀)
    (hp : Passage config.maxRetries runId v t v') (hp₀ : Passage config.maxRetries runId v₀ t₀ v₀') :
    EndAbreast run t outcome v' t₀ outcome₀ v₀' := by
  obtain ⟨⟨run₁, cause?⟩, u, w, rfl, hu, hw⟩ := Program.yields_bind_iff.1 hy
  obtain ⟨⟨run₁₀, cause₀?⟩, u₀, w₀, rfl, hu₀, hw₀⟩ := Program.yields_bind_iff.1 hy₀
  obtain ⟨v₁, hfirst, hrest⟩ := hp.split
  obtain ⟨v₁₀, hfirst₀, hrest₀⟩ := hp₀.split
  rw [h.batcher] at hu
  obtain ⟨hcause, habreast⟩ := h.elements hrun hu hu₀ hfirst hfirst₀
  obtain rfl : cause? = cause₀? := hcause
  refine habreast.then ?_
  have halike := habreast.alike
  cases cause? with
  | some cause => exact halike.abort hw hw₀ hrest hrest₀
  | none =>
    cases hending : document.ending with
    | error e =>
      rw [hending] at hw hw₀
      exact halike.abort hw hw₀ hrest hrest₀
    | ok summary =>
      rw [hending] at hw hw₀
      -- whether it is noted that the array is missing has no bearing on the rest
      obtain ⟨z, hz, hgist⟩ := gist_ite_ask (fun _ => rfl) hw
      obtain ⟨z₀, hz₀, hgist₀⟩ := gist_ite_ask (fun _ => rfl) hw₀
      refine EndAbreast.of_gist_eq hgist hgist₀ ?_
      have hpz := Passage.of_gist (hgist ▸ hrest.gist)
      have hpz₀ := Passage.of_gist (hgist₀ ▸ hrest₀.gist)
      obtain ⟨⟨run₂, cause?⟩, z₁, z₂, rfl, hz₁, hz₂⟩ := Program.yields_bind_iff.1 hz
      obtain ⟨⟨run₂₀, cause₀?⟩, z₁₀, z₂₀, rfl, hz₁₀, hz₂₀⟩ := Program.yields_bind_iff.1 hz₀
      obtain ⟨v₂, hflush, hlast⟩ := hpz.split
      obtain ⟨v₂₀, hflush₀, hlast₀⟩ := hpz₀.split
      obtain ⟨hcause, habreast⟩ := halike.flush hrun hz₁ hz₁₀ hflush hflush₀
      obtain rfl : cause? = cause₀? := hcause
      refine habreast.then ?_
      cases cause? with
      | some cause => exact habreast.alike.abort hz₂ hz₂₀ hlast hlast₀
      | none => exact habreast.alike.finalize hz₂ hz₂₀ hlast hlast₀

/-- What is asked before a document is run over is idle. -/
theorem idle_of_opening {startedAt : Calendar.Instant} {u : History} {x : Except Cause Reading}
    (hu : gist u = []) :
    Idle (⟨.now, startedAt⟩ :: ⟨.enter .notStarted, ()⟩ :: (u ++ [⟨.openDocument, x⟩])) := by
  refine .of_gist ?_
  rw [gist_cons_of_not_matters rfl, gist_cons_of_not_matters rfl, gist_append, hu]
  exact ⟨rfl, rfl, rfl⟩

/-- Two imports of the same document, or of one that cannot be opened for the same reason, end alike if they
begin at sites that match and nothing hinders them. -/
theorem importRun_abreast {resumeFrom : Nat} {opening : Except Cause Reading} (hsites : v.Matches v₀)
    (hrun : ∀ b, logbook = some b → b.runId = runId)
    (hy : (importRun config logbook R resumeFrom).Yields t outcome)
    (hy₀ : (importRun config logbook R resumeFrom).Yields t₀ outcome₀)
    (hopens : ∀ x, (⟨.openDocument, x⟩ : Exchange) ∈ t → x = opening)
    (hopens₀ : ∀ x, (⟨.openDocument, x⟩ : Exchange) ∈ t₀ → x = opening)
    (hp : Passage config.maxRetries runId v t v') (hp₀ : Passage config.maxRetries runId v₀ t₀ v₀') :
    ∃ start : RunState R, start.statistics.retryCount = 0 ∧
      EndAbreast start t outcome v' t₀ outcome₀ v₀' := by
  obtain ⟨startedAt, t₁, rfl, h₁⟩ := yields_ask_bind_iff.1 hy
  obtain ⟨_, t₂, rfl, h₂⟩ := yields_ask_bind_iff.1 h₁
  obtain ⟨_, u, w, rfl, hu, h₃⟩ := Program.yields_bind_iff.1 h₂
  obtain ⟨x, t₃, rfl, h₄⟩ := yields_ask_bind_iff.1 h₃
  obtain ⟨startedAt₀, t₁₀, rfl, h₁₀⟩ := yields_ask_bind_iff.1 hy₀
  obtain ⟨_, t₂₀, rfl, h₂₀⟩ := yields_ask_bind_iff.1 h₁₀
  obtain ⟨_, u₀, w₀, rfl, hu₀, h₃₀⟩ := Program.yields_bind_iff.1 h₂₀
  obtain ⟨x₀, t₃₀, rfl, h₄₀⟩ := yields_ask_bind_iff.1 h₃₀
  obtain rfl := hopens x (by simp)
  obtain rfl := hopens₀ x₀ (by simp)
  -- what comes before the document is opened is cut off both histories
  have hcut (moment : Calendar.Instant) (u t : History) :
      ⟨.now, moment⟩ :: ⟨.enter .notStarted, ()⟩ :: (u ++ ⟨.openDocument, x₀⟩ :: t) =
        (⟨.now, moment⟩ :: ⟨.enter .notStarted, ()⟩ :: (u ++ [⟨.openDocument, x₀⟩])) ++ t := by
    simp
  rw [hcut startedAt u t₃] at hp ⊢
  rw [hcut startedAt₀ u₀ t₃₀] at hp₀ ⊢
  obtain ⟨v₁, hfirst, hrest⟩ := hp.split
  obtain ⟨v₁₀, hfirst₀, hrest₀⟩ := hp₀.split
  have hstart : Alike (R := R) ⟨.start startedAt, .startingAt config.batchSize resumeFrom, []⟩ v
      ⟨.start startedAt₀, .startingAt config.batchSize resumeFrom, []⟩ v₀ :=
    ⟨rfl, ⟨rfl, rfl, rfl, rfl, rfl⟩, hsites⟩
  have hopened := hstart.idle (idle_of_opening (gist_record_log hu fun _ => rfl))
    (idle_of_opening (gist_record_log hu₀ fun _ => rfl)) hfirst hfirst₀
  refine ⟨_, rfl, hopened.then ?_⟩
  cases x₀ with
  | error cause => exact hopened.alike.abort h₄ h₄₀ hrest hrest₀
  | ok document => exact hopened.alike.document hrun h₄ h₄₀ hrest hrest₀

end

end CatalogImport
