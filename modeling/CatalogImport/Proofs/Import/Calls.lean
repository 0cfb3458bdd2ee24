import CatalogImport.Proofs.Import.Refusals

/-!
# The calls of the store

A run that is not cancelled calls the store in rounds.  Each round hands over one batch, again and again
until the store takes it or has refused it as often as it may, and the rounds come in the order in which
the batches were sealed.  Main statement: this is all that the store is ever called with, and only the
last round may end with a refusal (`calls_in_rounds`).
-/

namespace CatalogImport

open CatalogImport.Calendar CatalogImport.Json

/-- What the store was called with, and its answer; there is none when the call was cancelled. -/
def call? : Exchange → Option (List Stored × Option (Except StoreError BatchResult))
  | ⟨.addMany records, answer⟩ => some (records, answer)
  | _ => none

/-- The calls of the store, in order. -/
def calls (t : History) : List (List Stored × Option (Except StoreError BatchResult)) := t.filterMap call?

@[simp] theorem calls_append (t u : History) : calls (t ++ u) = calls t ++ calls u :=
  List.filterMap_append

@[simp] theorem calls_gist (t : History) : calls (gist t) = calls t := by
  refine filterMap_gist (fun e he => ?_) t
  obtain ⟨q, x⟩ := e
  cases q with
  | addMany records => cases he
  | _ => rfl

theorem calls_failedCalls (records : List Stored) (errors : List StoreError) :
    calls (failedCalls records errors) = errors.map fun e => (records, some (.error e)) := by
  induction errors with
  | nil => rfl
  | cons e errors ih => exact congrArg ((records, some (.error e)) :: ·) ih

/-- Recording a batch does not call the store. -/
theorem calls_recorded {logbook : Option Logbook} {number records : Nat} {g : History}
    (h : Recorded logbook number records g) : calls g = [] := by
  cases h <;> rfl

theorem calls_keeps {config : Config} {kind : RecordKind} {failed : List FailedEntry} {g : History}
    (h : Keeps config kind failed g) : calls g = [] := by
  unfold Keeps at h
  split at h
  · rw [h]
    rfl
  · obtain ⟨answer, rfl⟩ := h
    rfl

/-! ## Rounds -/

/-- The calls of the store with one batch: it was refused for some errors, one after the other, and then
got the last answer. -/
structure Round (R : Type) where
  batch : Batch R
  errors : List StoreError
  answer : Except StoreError BatchResult

variable {R : Type} [CatalogRecord R]

namespace Round

/-- What the store was called with in the round, and its answers. -/
def calls (round : Round R) : List (List Stored × Option (Except StoreError BatchResult)) :=
  round.errors.map (fun e => (storedForms round.batch.entries, some (.error e))) ++
    [(storedForms round.batch.entries, some round.answer)]

theorem length_calls (round : Round R) : round.calls.length = round.errors.length + 1 := by
  rw [calls, List.length_append, List.length_map, List.length_singleton]

/-- In every call the batch is handed over as a whole. -/
theorem fst_of_mem_calls {round : Round R}
    {call : List Stored × Option (Except StoreError BatchResult)} (h : call ∈ round.calls) :
    call.1 = storedForms round.batch.entries := by
  rcases List.mem_append.1 h with h | h
  · obtain ⟨e, -, rfl⟩ := List.mem_map.1 h
    rfl
  · obtain rfl := List.mem_singleton.1 h
    rfl

/-- The store took the batch at one of the attempts that are allowed. -/
structure IsTaken (round : Round R) (maxRetries : Nat) : Prop where
  stored : round.batch.stored = .ok (storedForms round.batch.entries)
  length_le : round.errors.length ≤ maxRetries
  answer : ∃ report, round.answer = .ok report

/-- The store refused the batch at every attempt that is allowed. -/
structure IsRefused (round : Round R) (maxRetries : Nat) (e : StoreError) : Prop where
  stored : round.batch.stored = .ok (storedForms round.batch.entries)
  length_eq : round.errors.length = maxRetries
  answer : round.answer = .error e

end Round

/-- How the rounds of a part of a run end, with the batch that could not be written if there is one: all
batches were taken, the last one was refused, or the next one could not be written. -/
inductive RoundsEnd (maxRetries : Nat) : List (Round R) → Option (Batch R) → Option Cause → Prop
  | taken (rounds : List (Round R)) (cause? : Option Cause)
      (htaken : ∀ round ∈ rounds, round.IsTaken maxRetries)
      (hcause : ∀ cause, cause? = some cause → cause.batchNumber? = none) :
      RoundsEnd maxRetries rounds none cause?
  | refused (rounds : List (Round R)) (last : Round R) (e : StoreError)
      (htaken : ∀ round ∈ rounds, round.IsTaken maxRetries) (hlast : last.IsRefused maxRetries e) :
      RoundsEnd maxRetries (rounds ++ [last]) none
        (some (.batchFailed last.batch.number (maxRetries + 1) e))
  | unwritable (rounds : List (Round R)) (b : Batch R) (reason : String)
      (htaken : ∀ round ∈ rounds, round.IsTaken maxRetries) (hb : b.stored = .error reason) :
      RoundsEnd maxRetries rounds (some b) (some (.batchUnwritable b.number reason))

namespace RoundsEnd

variable {maxRetries : Nat} {rounds : List (Round R)} {unwritable : Option (Batch R)}
  {cause? : Option Cause}

theorem nothing : RoundsEnd maxRetries ([] : List (Round R)) none none :=
  .taken [] none (List.forall_mem_nil _) fun cause hcause => by cases hcause

/-- All batches of a part after which the run goes on were taken. -/
theorem of_none (h : RoundsEnd maxRetries rounds unwritable none) :
    unwritable = none ∧ ∀ round ∈ rounds, round.IsTaken maxRetries := by
  cases h with
  | taken _ _ htaken _ => exact ⟨rfl, htaken⟩

/-- Rounds in which batches were taken may come before. -/
theorem append {before : List (Round R)} (hbefore : ∀ round ∈ before, round.IsTaken maxRetries)
    (h : RoundsEnd maxRetries rounds unwritable cause?) :
    RoundsEnd maxRetries (before ++ rounds) unwritable cause? := by
  cases h with
  | taken _ _ htaken hcause =>
    exact .taken _ _ (List.forall_mem_append.2 ⟨hbefore, htaken⟩) hcause
  | refused rounds last e htaken hlast =>
    rw [← List.append_assoc]
    exact .refused _ last e (List.forall_mem_append.2 ⟨hbefore, htaken⟩) hlast
  | unwritable _ b reason htaken hb =>
    exact .unwritable _ b reason (List.forall_mem_append.2 ⟨hbefore, htaken⟩) hb

/-- What holds of each round, by its place. -/
theorem of_getElem? (h : RoundsEnd maxRetries rounds unwritable cause?) {i : Nat} {round : Round R}
    (hround : rounds[i]? = some round) :
    round.batch.stored = .ok (storedForms round.batch.entries) ∧ round.errors.length ≤ maxRetries ∧
      ∀ e, round.answer = .error e → i + 1 = rounds.length ∧ unwritable = none ∧
        round.errors.length = maxRetries ∧
        cause? = some (.batchFailed round.batch.number (maxRetries + 1) e) := by
  have hnever : round.IsTaken maxRetries → ∀ e, round.answer ≠ .error e := by
    rintro ⟨-, -, report, hreport⟩ e herror
    rw [hreport] at herror
    cases herror
  have hmem : round ∈ rounds := List.mem_of_getElem? hround
  cases h with
  | taken _ _ htaken _ =>
    have hround := htaken round hmem
    exact ⟨hround.stored, hround.length_le, fun e he => absurd he (hnever hround e)⟩
  | unwritable _ b reason htaken hb =>
    have hround := htaken round hmem
    exact ⟨hround.stored, hround.length_le, fun e he => absurd he (hnever hround e)⟩
  | refused before last e htaken hlast =>
    by_cases hi : i < before.length
    · rw [List.getElem?_append_left hi] at hround
      have hround := htaken round (List.mem_of_getElem? hround)
      exact ⟨hround.stored, hround.length_le, fun e he => absurd he (hnever hround e)⟩
    · have hlt : i < (before ++ [last]).length := (List.getElem?_eq_some_iff.1 hround).1
      rw [List.length_append, List.length_singleton] at hlt
      obtain rfl : i = before.length := by omega
      rw [List.getElem?_concat_length] at hround
      obtain rfl := Option.some.inj hround
      refine ⟨hlast.stored, Nat.le_of_eq hlast.length_eq, fun e' he' => ?_⟩
      rw [hlast.answer] at he'
      cases he'
      refine ⟨?_, rfl, hlast.length_eq, rfl⟩
      rw [List.length_append, List.length_singleton]

/-- A batch that could not be written is what the run ends for. -/
theorem of_unwritable {b : Batch R} (h : RoundsEnd maxRetries rounds (some b) cause?) :
    ∃ reason, b.stored = .error reason ∧ cause? = some (.batchUnwritable b.number reason) := by
  cases h with
  | unwritable _ _ reason _ hb => exact ⟨reason, hb, rfl⟩

end RoundsEnd

/-! ## The rounds of the steps of a run -/

/-- No exchange of a history is a cancellation. -/
def NotCancelled (t : History) : Prop := ∀ e ∈ t, isCancellation e = false

theorem NotCancelled.left {t u : History} (h : NotCancelled (t ++ u)) : NotCancelled t :=
  fun e he => h e (List.mem_append_left u he)

theorem NotCancelled.right {t u : History} (h : NotCancelled (t ++ u)) : NotCancelled u :=
  fun e he => h e (List.mem_append_right t he)

theorem NotCancelled.gist {t : History} (h : NotCancelled t) : NotCancelled (gist t) :=
  fun e he => h e (mem_gist_iff.1 he).1

section

variable {config : Config} {logbook : Option Logbook} {run run' run'' : RunState R} {g g' : History}
  {cause? : Option Cause}

/-- Submitting a batch makes one round with it, or none if it cannot be written. -/
theorem SubmitStep.exists_rounds {b : Batch R} (h : SubmitStep config logbook run b g run' cause?)
    (hg : NotCancelled g) :
    ∃ (rounds : List (Round R)) (unwritable : Option (Batch R)),
      RoundsEnd config.maxRetries rounds unwritable cause? ∧ calls g = rounds.flatMap (·.calls) ∧
      rounds.map (·.batch) ++ unwritable.toList = [b] ∧ run'.batcher = run.batcher ∧
      ∀ cause, cause? = some cause → cause.batchNumber? = some b.number := by
  cases h with
  | cancelled => cases hg _ List.mem_cons_self
  | dropped records errors e hstored hinterrupts =>
    have hfalse := hg e (List.mem_append_right _ List.mem_cons_self)
    rw [hinterrupts.isCancellation] at hfalse
    cases hfalse
  | counted records errors report entry hstored hlength hentry =>
    have hforms := storedForms_of_stored hstored
    have hround : (⟨b, errors, .ok report⟩ : Round R).IsTaken config.maxRetries :=
      ⟨by rw [hforms]; exact hstored, hlength, report, rfl⟩
    refine ⟨[⟨b, errors, .ok report⟩], none, .taken _ none (by simpa using hround) ?_, ?_, rfl, rfl, ?_⟩
    · intro cause hcause
      cases hcause
    · have hrest : calls (⟨.addMany records, some (.ok report)⟩ ::
          ⟨.progress (countedStatistics run b ⟨report, errors.length⟩), ()⟩ :: entry) =
          (records, some (.ok report)) :: calls entry := rfl
      rw [calls_append, calls_failedCalls, hrest, calls_recorded hentry, List.flatMap_singleton,
        Round.calls, hforms]
    · intro cause hcause
      cases hcause
  | refused records errors e entries hstored hlength hentries =>
    have hforms := storedForms_of_stored hstored
    have hround : (⟨b, errors, .error e⟩ : Round R).IsRefused config.maxRetries e :=
      ⟨by rw [hforms]; exact hstored, hlength, rfl⟩
    refine ⟨[⟨b, errors, .error e⟩], none, ?_, ?_, rfl, rfl, ?_⟩
    · rw [hlength]
      exact .refused [] _ e (List.forall_mem_nil _) hround
    · rw [calls_append, calls_failedCalls, List.flatMap_singleton, Round.calls, hforms]
      rfl
    · intro cause hcause
      cases hcause
      rfl
  | unwritable reason entries hstored hentries =>
    refine ⟨[], some b, .unwritable [] b reason (List.forall_mem_nil _) hstored, rfl, rfl, rfl, ?_⟩
    intro cause hcause
    cases hcause
    rfl

/-- What a part of a run does that gets records: it seals batches of them and goes through a round with
each.  If it has to stop at a batch, none of its records is left. -/
structure GoesThrough (maxRetries : Nat) (b : Batcher R) (es : List (Entry R)) (g : History)
    (rounds : List (Round R)) (unwritable : Option (Batch R)) (cause? : Option Cause)
    (b' : Batcher R) : Prop where
  ends : RoundsEnd maxRetries rounds unwritable cause?
  calls : calls g = rounds.flatMap (·.calls)
  sealed : b.pushAll es = (rounds.map (·.batch) ++ unwritable.toList, b')
  emptied : ∀ cause, cause? = some cause → cause.batchNumber? ≠ none → b'.pending = []

/-- A part goes on where another has ended. -/
theorem GoesThrough.append {maxRetries : Nat} {b b' b'' : Batcher R} {es es' : List (Entry R)}
    {rounds rounds' : List (Round R)} {unwritable unwritable' : Option (Batch R)}
    (h : GoesThrough maxRetries b es g rounds unwritable none b')
    (h' : GoesThrough maxRetries b' es' g' rounds' unwritable' cause? b'') :
    GoesThrough maxRetries b (es ++ es') (g ++ g') (rounds ++ rounds') unwritable' cause? b'' := by
  obtain ⟨rfl, htaken⟩ := h.ends.of_none
  refine ⟨h'.ends.append htaken, ?_, ?_, h'.emptied⟩
  · rw [calls_append, h.calls, h'.calls, List.flatMap_append]
  · rw [Batcher.pushAll_append, h.sealed, h'.sealed, List.map_append]
    simp

theorem ElementStep.goesThrough {x : Value × Nat}
    (h : ElementStep config logbook run x g run' cause?) (hg : NotCancelled g) :
    ∃ rounds unwritable, GoesThrough config.maxRetries run.batcher (entriesOf R [x]) g rounds unwritable
      cause? run'.batcher := by
  cases h with
  | pending r batcher hvalid hpush =>
    refine ⟨[], none, .nothing, rfl, ?_, fun cause hcause => by cases hcause⟩
    rw [entriesOf_record hvalid, Batcher.pushAll_cons_of_pending hpush]
    rfl
  | sealed r b batcher g₁ _ _ hvalid hpush hsubmit =>
    obtain ⟨rounds, unwritable, hends, hcalls, hb, hbatcher, -⟩ :=
      hsubmit.exists_rounds (NotCancelled.right (t := [_]) hg)
    obtain ⟨-, -, hafter⟩ := Batcher.push_sealed hpush
    have hsame : run'.batcher = batcher := hbatcher
    refine ⟨rounds, unwritable, hends, hcalls, ?_, fun _ _ _ => ?_⟩
    · rw [entriesOf_record hvalid, Batcher.pushAll_cons_of_sealed hpush, hb, hsame]
      rfl
    · rw [hsame, hafter]
      rfl
  | rejected violation entry hinvalid hentry =>
    have hcause : ∀ cause, (if config.skipValidationErrors = true then none
        else some (Cause.invalidRecord x.2 violation)) = some cause → cause.batchNumber? = none := by
      intro cause hcause
      split at hcause
      · cases hcause
      · cases hcause
        rfl
    refine ⟨[], none, .taken [] _ (List.forall_mem_nil _) hcause, rfl, ?_,
      fun cause hsome hbatch => absurd (hcause cause hsome) hbatch⟩
    rw [entriesOf_nonRecord hinvalid]
    rfl

/-- The rounds of a run that goes on. -/
theorem Takes.goesThrough {xs : List (Value × Nat)} (h : Takes config logbook run xs g run')
    (hg : NotCancelled g) :
    ∃ rounds, GoesThrough config.maxRetries run.batcher (entriesOf R xs) g rounds none none
      run'.batcher := by
  induction h with
  | nil run =>
    have hends : RoundsEnd config.maxRetries ([] : List (Round R)) none none := .nothing
    exact ⟨[], hends, rfl, rfl, fun cause hcause => by cases hcause⟩
  | @cons run run₁ run₂ x xs g g' hstep _ ih =>
    obtain ⟨rounds, unwritable, hfirst⟩ := hstep.goesThrough hg.left
    obtain ⟨rounds', hrest⟩ := ih hg.right
    refine ⟨rounds ++ rounds', ?_⟩
    rw [← List.singleton_append, entriesOf_append]
    exact hfirst.append hrest

end

/-! ## The rounds of a run -/

section

variable {config : Config} {logbook : Option Logbook} {resumeFrom : Nat} {run' : RunState R}
  {g : History} {cause? : Option Cause}

/-- A run that has to stop while elements are taken in has sealed full batches of what it received. -/
theorem GoesThrough.sealed_eq {es : List (Entry R)} {rounds : List (Round R)}
    {unwritable : Option (Batch R)} {cause : Cause} {b : Batcher R}
    (h : GoesThrough config.maxRetries (.startingAt config.batchSize resumeFrom) es g rounds unwritable
      (some cause) b) :
    rounds.map (·.batch) ++ unwritable.toList =
      sealedBatches (max config.batchSize 1) resumeFrom es (some cause) := by
  have hsealed := congrArg Prod.fst h.sealed
  have hbatcher := congrArg Prod.snd h.sealed
  unfold sealedBatches
  split
  · next hbatch =>
    have hempty : b.pending = [] := by
      refine h.emptied cause rfl fun hnone => ?_
      simp [hnone] at hbatch
    have hall := Batcher.finish_pushAll_startingAt config.batchSize resumeFrom es
    have hfinish : b.finish = (none, b) := by
      unfold Batcher.finish
      rw [if_pos hempty]
    rw [hsealed, hbatcher, hfinish] at hall
    simpa using hall
  · rw [← Batcher.pushAll_startingAt, hsealed]

theorem RunEnd.exists_rounds {startedAt : Instant} {document : Reading} {due xs : List (Value × Nat)}
    (h : RunEnd config logbook ⟨.start startedAt, .startingAt config.batchSize resumeFrom, []⟩ document
      due xs g run' cause?) (hg : NotCancelled g) :
    ∃ (rounds : List (Round R)) (unwritable : Option (Batch R)),
      RoundsEnd config.maxRetries rounds unwritable cause? ∧ calls g = rounds.flatMap (·.calls) ∧
      rounds.map (·.batch) ++ unwritable.toList =
        sealedBatches (max config.batchSize 1) resumeFrom (entriesOf R xs) cause? := by
  cases h with
  | early _ _ _ cause hintake =>
    generalize hsome : some cause = cause? at hintake
    cases hintake with
    | cancelled _ ys _ _ hdue htakes => cases hg _ (List.mem_append_right _ List.mem_cons_self)
    | stopped ys x zs g₁ g₂ run₁ _ cause' hdue htakes hstep =>
      obtain ⟨rounds, htaken⟩ := htakes.goesThrough hg.left
      obtain ⟨rounds', unwritable, hlast⟩ := hstep.goesThrough hg.right
      have hthrough := htaken.append hlast
      rw [← entriesOf_append] at hthrough
      exact ⟨_, unwritable, hthrough.ends, hthrough.calls, hthrough.sealed_eq⟩
    | drained _ _ htakes => cases hsome
  | unread _ _ e htakes hending =>
    obtain ⟨rounds, htaken⟩ := htakes.goesThrough hg
    obtain ⟨-, hall⟩ := htaken.ends.of_none
    refine ⟨rounds, none, .taken rounds _ hall ?_, htaken.calls, ?_⟩
    · intro cause hcause
      cases hcause
      rfl
    · exact (congrArg Prod.fst htaken.sealed).symm.trans
        (Batcher.pushAll_startingAt config.batchSize resumeFrom (entriesOf R due))
  | flushed g₁ g₂ run₁ _ b batcher summary _ htakes hending hfinish hsubmit =>
    obtain ⟨rounds, htaken⟩ := htakes.goesThrough hg.left
    obtain ⟨-, hall⟩ := htaken.ends.of_none
    obtain ⟨last, unwritable, hends, hcalls, hb, -, hcause⟩ := hsubmit.exists_rounds hg.right
    refine ⟨rounds ++ last, unwritable, hends.append hall, ?_, ?_⟩
    · rw [calls_append, htaken.calls, hcalls, List.flatMap_append]
    · have hbatches := Batcher.finish_pushAll_startingAt config.batchSize resumeFrom (entriesOf R due)
      have hsealed := htaken.sealed
      simp only [Option.toList_none, List.append_nil] at hsealed
      have hbatch : cause?.all (·.batchNumber?.isSome) = true := by
        cases cause? with
        | none => rfl
        | some cause => simp [hcause cause rfl]
      rw [hsealed, hfinish] at hbatches
      rw [sealedBatches, if_pos hbatch, ← hbatches, List.map_append, List.append_assoc, hb]
      rfl
  | drained _ _ batcher summary htakes hending hfinish =>
    obtain ⟨rounds, htaken⟩ := htakes.goesThrough hg
    refine ⟨rounds, none, htaken.ends, htaken.calls, ?_⟩
    have hbatches := Batcher.finish_pushAll_startingAt config.batchSize resumeFrom (entriesOf R due)
    have hsealed := htaken.sealed
    simp only [Option.toList_none, List.append_nil] at hsealed
    rw [hsealed, hfinish] at hbatches
    exact hbatches

end

/-- An import that is not cancelled goes through rounds with the batches that it has sealed.  There are none
if its document cannot be opened. -/
theorem exists_rounds {config : Config} {logbook : Option Logbook} {resumeFrom : Nat} {t : History}
    {outcome : Outcome} (h : (importRun config logbook R resumeFrom).Yields t outcome)
    (ht : NotCancelled t) :
    ∃ (rounds : List (Round R)) (unwritable : Option (Batch R)),
      calls t = rounds.flatMap (·.calls) ∧
      rounds.map (·.batch) ++ unwritable.toList =
        sealedBatches (max config.batchSize 1) resumeFrom
          (entriesOf R (receivedElements config resumeFrom t)) outcome.cause? ∧
      (rounds = [] ∧ unwritable = none ∨
        RoundsEnd config.maxRetries rounds unwritable outcome.cause?) := by
  rcases exists_runEnd h with ⟨hnone, startedAt, moment, cause, hg, -⟩ |
    ⟨startedAt, moment, document, g, keeps, run, -, hg, hend, hkeeps, -⟩
  · refine ⟨[], none, ?_, ?_, .inl ⟨rfl, rfl⟩⟩
    · rw [← calls_gist, hg]
      rfl
    · have hreceived : receivedElements config resumeFrom t = [] := by
        rw [receivedElements, dueElements, openedElements, hnone, List.flatMap_nil, List.drop_nil,
          List.take_nil]
      rw [hreceived, entriesOf_nil, sealedBatches_nil]
      rfl
  · have hnever := ht.gist
    rw [hg] at hnever
    obtain ⟨rounds, unwritable, hends, hcalls, hbatches⟩ :=
      hend.exists_rounds (NotCancelled.right (t := [_]) hnever.left)
    refine ⟨rounds, unwritable, ?_, hbatches, .inr hends⟩
    rw [← calls_gist, hg, calls_append, calls_keeps hkeeps, List.append_nil]
    exact hcalls

/-- What an import that is not cancelled calls the store with, whatever it is answered.  It calls the store
in rounds, one for each batch that it has sealed, in the order of their numbers; only the last batch has
none if it cannot be written, and there is no such batch if all records that were received can be written.
In a round the batch is handed over as a whole, at least once and at most once more than the retries that
are allowed.  All calls of a round but the last fail, and the last one does only in the last round of all,
after as many calls as are allowed; the import then ends for that reason, with the number of the batch and
the number of these calls. -/
theorem calls_in_rounds {config : Config} {logbook : Option Logbook} {resumeFrom : Nat} {t : History}
    {outcome : Outcome} (h : (importRun config logbook R resumeFrom).Yields t outcome)
    (ht : NotCancelled t) :
    ∃ (rounds : List (Round R)) (unwritable : Option (Batch R)),
      calls t = rounds.flatMap (·.calls) ∧
      rounds.map (·.batch) ++ unwritable.toList =
        sealedBatches (max config.batchSize 1) resumeFrom
          (entriesOf R (receivedElements config resumeFrom t)) outcome.cause? ∧
      (∀ i round, rounds[i]? = some round → round.batch.number = resumeFrom + i ∧
        round.batch.stored = .ok (storedForms round.batch.entries) ∧
        1 ≤ round.calls.length ∧ round.calls.length ≤ config.maxRetries + 1 ∧
        ∀ e, round.answer = .error e → i + 1 = rounds.length ∧ unwritable = none ∧
          round.calls.length = config.maxRetries + 1 ∧
          outcome = .error ⟨.batchFailed round.batch.number (config.maxRetries + 1) e,
            outcome.statistics⟩) ∧
      (∀ b, unwritable = some b → ∃ reason, b.stored = .error reason ∧
        outcome.cause? = some (.batchUnwritable b.number reason)) ∧
      ((∀ e ∈ entriesOf R (receivedElements config resumeFrom t),
        ∃ form, CatalogRecord.stored e.record = .ok form) → unwritable = none) := by
  obtain ⟨rounds, unwritable, hcalls, hbatches, ⟨rfl, rfl⟩ | hends⟩ := exists_rounds h ht
  · refine ⟨[], none, hcalls, hbatches, ?_, ?_, fun _ => rfl⟩
    · intro i round hround
      cases hround
    · intro b hb
      cases hb
  · refine ⟨rounds, unwritable, hcalls, hbatches, ?_, ?_, ?_⟩
    · intro i round hround
      obtain ⟨hstored, hle, herror⟩ := hends.of_getElem? hround
      have hbatch : (rounds.map (·.batch) ++ unwritable.toList)[i]? = some round.batch := by
        have hlt : i < (rounds.map (·.batch)).length := by
          rw [List.length_map]
          exact (List.getElem?_eq_some_iff.1 hround).1
        rw [List.getElem?_append_left hlt, List.getElem?_map, hround]
        rfl
      rw [hbatches] at hbatch
      rw [Round.length_calls]
      refine ⟨number_sealedBatches hbatch, hstored, by omega, by omega, ?_⟩
      intro e he
      obtain ⟨hlast, hwritable, hlength, hcause⟩ := herror e he
      refine ⟨hlast, hwritable, by omega, ?_⟩
      cases outcome with
      | ok statistics => cases hcause
      | error aborted =>
        obtain ⟨cause, statistics⟩ := aborted
        cases hcause
        rfl
    · rintro b rfl
      exact hends.of_unwritable
    · intro hwritable
      cases unwritable with
      | none => rfl
      | some b =>
        obtain ⟨reason, hb, -⟩ := hends.of_unwritable
        have hmem : b ∈ rounds.map (·.batch) ++ (some b).toList :=
          List.mem_append_right _ List.mem_cons_self
        rw [hbatches] at hmem
        refine absurd hb (stored_ne_error fun e he => hwritable e ?_)
        exact entries_subset_of_mem_sealedBatches hmem he

namespace Sample

/-- The store refuses the first batch once and the second one three times. -/
def stubborn : Scene × List Bool := (scene, [true, false, true, true, true])

theorem run_stubborn : (patientTask.run (Scene.patchy document) stubborn).1 =
    .finished (.error ⟨.batchFailed 1 3 (.transport "busy"), ⟨2, 1, 1, 1, 1, 3, .epoch, some .epoch⟩⟩) := by
  decide +kernel

end Sample

/-- The store refuses the first batch once and takes it then, and refuses the second one three times. -/
theorem calls_in_rounds_of_sample :
    ∃ (rounds : List (Round CardSet)) (unwritable : Option (Batch CardSet)),
      calls (Sample.patientTask.transcript (Scene.patchy Sample.document) Sample.stubborn) =
        rounds.flatMap (·.calls) ∧
      (rounds.flatMap (·.calls)).length = 5 ∧ (rounds.map (·.batch) ++ unwritable.toList).length = 2 ∧
      ∀ i round, rounds[i]? = some round → round.batch.number = 0 + i ∧ round.calls.length ≤ 3 := by
  have hcalls : (calls (Sample.patientTask.transcript (Scene.patchy Sample.document)
      Sample.stubborn)).length = 5 := by decide +kernel
  have hbatches : (sealedBatches 1 0 (entriesOf CardSet (receivedElements (Sample.config 1) 0
      (Sample.patientTask.transcript (Scene.patchy Sample.document) Sample.stubborn)))
      (some (.batchFailed 1 3 (.transport "busy")))).length = 2 := by decide +kernel
  obtain ⟨rounds, unwritable, hrounds, hsealed, hround, -, -⟩ :=
    calls_in_rounds (Program.run_yields Sample.run_stubborn)
      fun e he => (Scene.answer_of_mem_patchy he).1
  refine ⟨rounds, unwritable, hrounds, hrounds ▸ hcalls, ?_, ?_⟩
  · rw [hsealed]
    exact hbatches
  · intro i round hi
    obtain ⟨hnumber, -, -, hlength, -⟩ := hround i round hi
    exact ⟨hnumber, hlength⟩

end CatalogImport
