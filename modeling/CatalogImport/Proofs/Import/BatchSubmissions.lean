import CatalogImport.Proofs.Import.Calls
import CatalogImport.Proofs.Import.Questions
import Mathlib.Algebra.Ring.Nat

/-!
# Efforts

An import makes an effort for each batch that it seals: from where it enters the submission on, it calls the
store, pauses, and calls again.  The effort ends when the store takes the batch or has refused it too often,
or it is given up for a cancellation.  Main statement: an import makes one effort after the other, for the
batches that it seals in the order in which it seals them, and the repetitions in efforts that are not given
up are what its counter counts (`exists_shows`).
-/

namespace CatalogImport

open CatalogImport.Json

/-! ## What histories show of batches -/

/-- A batch was to be submitted. -/
def submission? : Exchange → Option Unit
  | ⟨.enter .submitting, _⟩ => some ()
  | _ => none

/-- How many batches were to be submitted. -/
def submissions (t : History) : Nat := (t.filterMap submission?).length

/-- The last batch was looked for. -/
def isFlush : Exchange → Bool
  | ⟨.enter .flushing, _⟩ => true
  | _ => false

section

variable (R : Type) [CatalogRecord R] (config : Config) (resumeFrom : Nat) (t : History)

/-- What an import asks of its batcher: to take in each record that it receives, and to finish if it gets to
the end of the document. -/
def batcherCalls : List (Batcher.Call R) :=
  Batcher.Call.pushes (entriesOf R (receivedElements config resumeFrom t)) ++ if t.any isFlush then [.finish] else []

/-- The batches that an import seals. -/
def batchesSealed : List (Batch R) :=
  (Batcher.startingAt config.batchSize resumeFrom).sealedOver (batcherCalls R config resumeFrom t)

end

/-! ## One effort after the other -/

/-- What was done for one batch: how the store was called, and whether it was given up for a cancellation. -/
structure Effort where
  calls : List (List Stored × Option (Except StoreError BatchResult))
  isGivenUp : Bool

/-- A cancellation came while a batch was submitted. -/
def isGivingUp : Exchange → Bool
  | ⟨.addMany _, none⟩ => true
  | ⟨.pause _, none⟩ => true
  | ⟨.keepBatch _ _, none⟩ => true
  | _ => false

namespace Effort

/-- Nothing was done. -/
def nothing : Effort := ⟨[], false⟩

/-- The effort with an exchange before what was done. -/
def after (x : Effort) (e : Exchange) : Effort := ⟨(call? e).toList ++ x.calls, isGivingUp e || x.isGivenUp⟩

/-- The calls after the first one. -/
def repetitions (x : Effort) : Nat := x.calls.length - 1

/-- The repetitions that are counted: none when the effort is given up. -/
def counted (x : Effort) : Nat := if x.isGivenUp then 0 else x.repetitions

/-- In every call of the effort the batch was handed over. -/
def IsFor {R : Type} [CatalogRecord R] (x : Effort) (b : Batch R) : Prop :=
  ∀ call ∈ x.calls, b.stored = .ok call.1

end Effort

/-- What was done before the first submission, and what was done from each submission to the next. -/
def cut : History → Effort × List Effort
  | [] => (.nothing, [])
  | e :: t =>
    match submission? e with
    | some _ => (.nothing, (cut t).1 :: (cut t).2)
    | none => ((cut t).1.after e, (cut t).2)

/-- The efforts for batches, in order. -/
def efforts (t : History) : List Effort := (cut t).2

section

variable {e : Exchange} {t u : History}

theorem cut_cons_of_submission {x : Unit} (h : submission? e = some x) :
    cut (e :: t) = (.nothing, (cut t).1 :: (cut t).2) := by
  rw [cut, h]

theorem cut_cons_of_none (h : submission? e = none) : cut (e :: t) = ((cut t).1.after e, (cut t).2) := by
  rw [cut, h]

/-- Where nothing is done before the first submission of the second part, the efforts are those of both. -/
theorem cut_append (hu : (cut u).1 = .nothing) : cut (t ++ u) = ((cut t).1, (cut t).2 ++ (cut u).2) := by
  induction t with
  | nil => exact Prod.ext hu rfl
  | cons e t ih =>
    rw [List.cons_append]
    cases he : submission? e with
    | none => rw [cut_cons_of_none he, cut_cons_of_none he, ih]
    | some _ => rw [cut_cons_of_submission he, cut_cons_of_submission he, ih, List.cons_append]

/-- Within a submission there is no other. -/
theorem cut_of_forall_none (h : ∀ e ∈ t, submission? e = none) :
    cut t = (⟨calls t, t.any isGivingUp⟩, []) := by
  induction t with
  | nil => rfl
  | cons e t ih =>
    obtain ⟨he, ht⟩ := List.forall_mem_cons.1 h
    rw [cut_cons_of_none he, ih ht]
    cases hcall : call? e <;> simp [Effort.after, calls, hcall]

theorem length_efforts (t : History) : (efforts t).length = submissions t := by
  unfold efforts submissions
  induction t with
  | nil => rfl
  | cons e t ih =>
    cases he : submission? e with
    | none => rw [cut_cons_of_none he, List.filterMap_cons_none he, ← ih]
    | some _ =>
      rw [cut_cons_of_submission he, List.filterMap_cons_some he, List.length_cons, List.length_cons, ih]

/-- No call is left out. -/
theorem calls_eq_calls_cut (t : History) : calls t = (cut t).1.calls ++ (efforts t).flatMap (·.calls) := by
  unfold efforts
  induction t with
  | nil => rfl
  | cons e t ih =>
    cases he : submission? e with
    | none =>
      rw [cut_cons_of_none he]
      show calls ([e] ++ t) = ((call? e).toList ++ _) ++ _
      rw [calls_append, ih, List.append_assoc]
      cases hcall : call? e <;> simp [calls, hcall]
    | some _ =>
      have hcall : call? e = none := by
        obtain ⟨q, x⟩ := e
        cases q with
        | enter phase => rfl
        | _ => cases he
      rw [cut_cons_of_submission he]
      show List.filterMap call? (e :: t) = [] ++ ((cut t).1.calls ++ _)
      rw [List.filterMap_cons_none hcall]
      exact ih

end

/-! ## What a part of an import shows -/

/-- What a part of an import shows that seals some batches: how many elements were received, that an effort
was made for each of the batches and nothing was done before the first one, that no others were counted in a
checkpoint, and whether the last batch was looked for. -/
structure Exhibits {R : Type} [CatalogRecord R] (t : History) (opened : List Reading) (receipts : Nat)
    (bs : List (Batch R)) (isFlushed : Bool) : Prop where
  documents : documents t = opened
  received : received t = receipts
  start : (cut t).1 = .nothing
  isFor : List.Forall₂ Effort.IsFor (efforts t) bs
  flushed : t.any isFlush = isFlushed
  saves : ∀ c ∈ saves t, ∃ b ∈ bs, c.lastBatch = b.number

/-- Efforts over which the counter of repetitions goes from one number to another, in a part of an import
after which the import has to end if there is a cause.  Only the last effort may be given up, and only when
the import is cancelled. -/
structure Recounts (xs : List Effort) (before after : Nat) (cause? : Option Cause) : Prop where
  counted : after = before + (xs.map (·.counted)).sum
  cancelled : ∀ x ∈ xs, x.isGivenUp = true → cause? = some .cancelled
  pairwise : xs.Pairwise fun x _ => x.isGivenUp = false

/-- The question is not about elements or batches. -/
def Request.IsQuiet : Request → Prop
  | .openDocument => False
  | .addMany _ => False
  | .pause _ => False
  | .keepBatch _ _ => False
  | .saveCheckpoint _ => False
  | .enter .validating => False
  | .enter .submitting => False
  | .enter .flushing => False
  | _ => True

section

variable {n m k : Nat} {xs ys : List Effort} {cause? : Option Cause}

theorem Recounts.nothing (n : Nat) (cause? : Option Cause) : Recounts [] n n cause? :=
  ⟨rfl, List.forall_mem_nil _, .nil⟩

/-- Where the import goes on no effort was given up. -/
theorem Recounts.kept (h : Recounts xs n m none) : ∀ x ∈ xs, x.isGivenUp = false := by
  intro x hx
  cases hgiven : x.isGivenUp with
  | false => rfl
  | true => cases h.cancelled x hx hgiven

/-- The import may then as well have to end for something else. -/
theorem Recounts.goesOn (h : Recounts xs n m none) : Recounts xs n m cause? := by
  refine ⟨h.counted, fun x hx hgiven => ?_, h.pairwise⟩
  rw [h.kept x hx] at hgiven
  cases hgiven

theorem Recounts.append (h : Recounts xs n m none) (h' : Recounts ys m k cause?) :
    Recounts (xs ++ ys) n k cause? := by
  refine ⟨?_, List.forall_mem_append.2 ⟨h.goesOn.cancelled, h'.cancelled⟩, ?_⟩
  · rw [List.map_append, List.sum_append, h'.counted, h.counted, Nat.add_assoc]
  · exact List.pairwise_append.2 ⟨h.pairwise, h'.pairwise, fun x hx _ _ => h.kept x hx⟩

end

section

variable {R : Type} [CatalogRecord R]

section

variable {t u : History} {ds ds' : List Reading} {n m : Nat} {bs cs : List (Batch R)}
  {isFlushed isFlushed' : Bool}

theorem Exhibits.efforts_append (t : History) (h : Exhibits u ds n bs isFlushed) :
    efforts (t ++ u) = efforts t ++ efforts u := congrArg Prod.snd (cut_append h.start)

theorem Exhibits.append (h : Exhibits t ds n bs isFlushed) (h' : Exhibits u ds' m cs isFlushed') :
    Exhibits (t ++ u) (ds ++ ds') (n + m) (bs ++ cs) (isFlushed || isFlushed') where
  documents := by rw [documents_append, h.documents, h'.documents]
  received := by rw [received_append, h.received, h'.received]
  start := by rw [cut_append h'.start, h.start]
  isFor := by
    rw [h'.efforts_append]
    exact List.rel_append h.isFor h'.isFor
  flushed := by rw [List.any_append, h.flushed, h'.flushed]
  saves := by
    intro c hc
    rw [saves_append] at hc
    rcases List.mem_append.1 hc with hc | hc
    · obtain ⟨b, hb, hlast⟩ := h.saves c hc
      exact ⟨b, List.mem_append_left _ hb, hlast⟩
    · obtain ⟨b, hb, hlast⟩ := h'.saves c hc
      exact ⟨b, List.mem_append_right _ hb, hlast⟩

/-- Parts in which nothing is sealed may come in front. -/
theorem Exhibits.behind (hu : Exhibits u [] 0 ([] : List (Batch R)) false) (h : Exhibits t ds n bs isFlushed) :
    Exhibits (u ++ t) ds n bs isFlushed := by
  have hall := hu.append h
  rwa [List.nil_append, List.nil_append, Nat.zero_add, Bool.false_or] at hall

/-- They may come behind as well. -/
theorem Exhibits.before (h : Exhibits t ds n bs isFlushed) (hu : Exhibits u [] 0 ([] : List (Batch R)) false) :
    Exhibits (t ++ u) ds n bs isFlushed := by
  have hall := h.append hu
  rwa [List.append_nil, List.append_nil, Nat.add_zero, Bool.or_false] at hall

/-- No effort is made where nothing is sealed. -/
theorem Exhibits.efforts_eq_nil (h : Exhibits t ds n ([] : List (Batch R)) isFlushed) : efforts t = [] :=
  List.forall₂_nil_right_iff.1 h.isFor

/-- So no repetition is counted there either. -/
theorem Exhibits.recounts (h : Exhibits t ds n ([] : List (Batch R)) isFlushed) (k : Nat)
    (cause? : Option Cause) : Recounts (efforts t) k k cause? := by
  rw [h.efforts_eq_nil]
  exact .nothing k cause?

theorem Exhibits.recounts_behind {k k' : Nat} {cause? : Option Cause}
    (hu : Exhibits u ds n ([] : List (Batch R)) isFlushed) (h : Exhibits t ds' m bs isFlushed')
    (hrecounts : Recounts (efforts t) k k' cause?) : Recounts (efforts (u ++ t)) k k' cause? := by
  rw [h.efforts_append, hu.efforts_eq_nil]
  exact hrecounts

theorem Exhibits.recounts_before {k k' : Nat} {cause? : Option Cause}
    (hu : Exhibits u ds n ([] : List (Batch R)) isFlushed) (hrecounts : Recounts (efforts t) k k' cause?) :
    Recounts (efforts (t ++ u)) k k' cause? := by
  rw [hu.efforts_append, hu.efforts_eq_nil, List.append_nil]
  exact hrecounts

theorem Exhibits.submissions_eq (h : Exhibits t ds n bs isFlushed) : submissions t = bs.length := by
  rw [← length_efforts, h.isFor.length_eq]

/-- The store is handed no other batches. -/
theorem Exhibits.exists_of_mem_calls (h : Exhibits t ds n bs isFlushed) :
    ∀ call ∈ calls t, ∃ b ∈ bs, b.stored = .ok call.1 := by
  intro call hcall
  rw [calls_eq_calls_cut, h.start] at hcall
  obtain ⟨x, hx, hcall⟩ := List.mem_flatMap.1 hcall
  obtain ⟨b, hb, hisFor⟩ := exists_mem_of_forall₂ h.isFor hx
  exact ⟨b, hb, hisFor call hcall⟩

end

theorem exhibits_nil : Exhibits [] [] 0 ([] : List (Batch R)) false :=
  ⟨rfl, rfl, rfl, .nil, rfl, List.forall_mem_nil _⟩

theorem exhibits_receipt : Exhibits [⟨.enter .validating, ()⟩] [] 1 ([] : List (Batch R)) false :=
  ⟨rfl, rfl, rfl, .nil, rfl, List.forall_mem_nil _⟩

theorem exhibits_flush : Exhibits [⟨.enter .flushing, ()⟩] [] 0 ([] : List (Batch R)) true :=
  ⟨rfl, rfl, rfl, .nil, rfl, List.forall_mem_nil _⟩

theorem exhibits_of_isQuiet {e : Exchange} (h : e.1.IsQuiet) : Exhibits [e] [] 0 ([] : List (Batch R)) false := by
  have hnil : documents [e] = [] ∧ received [e] = 0 ∧ cut [e] = (.nothing, []) ∧ [e].any isFlush = false ∧
      saves [e] = [] := by
    obtain ⟨q, x⟩ := e
    cases q with
    | enter p => cases p <;> first | exact ⟨rfl, rfl, rfl, rfl, rfl⟩ | exact h.elim
    | _ => first | exact ⟨rfl, rfl, rfl, rfl, rfl⟩ | exact h.elim
  obtain ⟨hdocuments, hreceived, hcut, hflushed, hsaves⟩ := hnil
  refine ⟨hdocuments, hreceived, congrArg Prod.fst hcut, ?_, hflushed, ?_⟩
  · rw [efforts, hcut]
    exact .nil
  · rw [hsaves]
    exact List.forall_mem_nil _

theorem exhibits_quiet {t : History} (h : ∀ e ∈ t, e.1.IsQuiet) : Exhibits t [] 0 ([] : List (Batch R)) false := by
  induction t with
  | nil => exact exhibits_nil
  | cons e t ih =>
    obtain ⟨he, ht⟩ := List.forall_mem_cons.1 h
    exact (exhibits_of_isQuiet he).append (ih ht)

/-- A part that asks only quiet questions shows nothing. -/
theorem exhibits_of_asksOnly {α : Type} {p : Task α} {t : History} {a : α} (hp : p.AsksOnly Request.IsQuiet)
    (h : p.Yields t a) : Exhibits t [] 0 ([] : List (Batch R)) false := exhibits_quiet (hp.of_mem h)

/-! ## The parts of an import -/

variable {config : Config} {logbook : Option Logbook} {t : History}

theorem SubmitStep.calls_saves {run run' : RunState R} {b : Batch R} {g : History}
    {cause? : Option Cause} (h : SubmitStep config logbook run b g run' cause?) :
    (∀ call ∈ calls g, b.stored = .ok call.1) ∧ (∀ c ∈ saves g, c.lastBatch = b.number) ∧
      run'.batcher = run.batcher := by
  have hfailed (records : List Stored) (errors : List StoreError) (hstored : b.stored = .ok records) :
      ∀ call ∈ calls (failedCalls records errors), b.stored = .ok call.1 := by
    intro call hcall
    rw [calls_failedCalls] at hcall
    obtain ⟨e, -, rfl⟩ := List.mem_map.1 hcall
    exact hstored
  have hnone (records : List Stored) (errors : List StoreError) (g : History) :
      saves (failedCalls records errors ++ g) = saves g := by
    rw [← saves_recordings, recordings_append, (Tells.failedCalls records errors).recordings,
      List.nil_append, saves_recordings]
  cases h with
  | cancelled => exact ⟨List.forall_mem_nil _, List.forall_mem_nil _, rfl⟩
  | dropped records errors e hstored hinterrupts =>
    refine ⟨?_, ?_, rfl⟩
    · rw [calls_append]
      refine List.forall_mem_append.2 ⟨hfailed records errors hstored, ?_⟩
      cases hinterrupts with
      | call => exact List.forall_mem_singleton.2 hstored
      | _ => exact List.forall_mem_nil _
    · rw [hnone]
      cases hinterrupts <;> exact List.forall_mem_nil _
  | counted records errors report entry hstored hlength hentry =>
    refine ⟨?_, ?_, rfl⟩
    · rw [calls_append]
      refine List.forall_mem_append.2 ⟨hfailed records errors hstored, ?_⟩
      have hentry' : calls entry = [] := calls_recorded hentry
      refine List.forall_mem_cons.2 ⟨hstored, ?_⟩
      change ∀ call ∈ calls entry, _
      rw [hentry']
      exact List.forall_mem_nil _
    · rw [hnone]
      exact lastBatch_of_mem_saves (g := entry) hentry
  | refused records errors e entries hstored hlength hentries =>
    refine ⟨?_, ?_, rfl⟩
    · rw [calls_append]
      exact List.forall_mem_append.2
        ⟨hfailed records errors hstored, List.forall_mem_singleton.2 hstored⟩
    · rw [hnone]
      exact List.forall_mem_nil _
  | unwritable reason entries hstored hentries =>
    exact ⟨List.forall_mem_nil _, List.forall_mem_nil _, rfl⟩

theorem any_isGivingUp_failedCalls (records : List Stored) (errors : List StoreError) (g : History) :
    (failedCalls records errors ++ g).any isGivingUp = g.any isGivingUp := by
  induction errors with
  | nil => rfl
  | cons e errors ih => exact ih

theorem any_isGivingUp_gist (t : History) : (gist t).any isGivingUp = t.any isGivingUp := by
  have hmatters (e : Exchange) : (matters e && isGivingUp e) = isGivingUp e := by
    obtain ⟨q, x⟩ := e
    cases q with
    | addMany records => cases x <;> rfl
    | pause millis => cases x <;> rfl
    | keepBatch kind batch => cases x <;> rfl
    | _ => exact Bool.and_false _
  rw [gist, List.any_filter]
  exact congrArg t.any (funext hmatters)

/-- The repetitions of a submission are counted when the submission is over, which it never is when it is
given up. -/
theorem SubmitStep.recounts {run run' : RunState R} {b : Batch R} {g : History} {cause? : Option Cause}
    (h : SubmitStep config logbook run b g run' cause?) :
    Recounts [⟨calls g, g.any isGivingUp⟩] run.statistics.retryCount run'.statistics.retryCount cause? := by
  have hkept (calls : List (List Stored × Option (Except StoreError BatchResult))) (n : Nat)
      (hlength : calls.length = n + 1) (cause? : Option Cause) :
      Recounts [⟨calls, false⟩] run.statistics.retryCount (run.statistics.retryCount + n) cause? := by
    refine ⟨?_, fun x hx hgiven => ?_, List.pairwise_singleton ..⟩
    · simp [Effort.counted, Effort.repetitions, hlength]
    · obtain rfl := List.mem_singleton.1 hx
      cases hgiven
  cases h with
  | cancelled => exact ⟨rfl, fun _ _ _ => rfl, List.pairwise_singleton ..⟩
  | dropped records errors e hstored hinterrupts =>
    rw [any_isGivingUp_failedCalls]
    have hgiven : [e].any isGivingUp = true := by cases hinterrupts <;> rfl
    rw [hgiven]
    exact ⟨rfl, fun _ _ _ => rfl, List.pairwise_singleton ..⟩
  | counted records errors report entry hstored hlength hentry =>
    rw [any_isGivingUp_failedCalls]
    have hquiet : entry.any isGivingUp = false := by cases hentry <;> rfl
    show Recounts [⟨_, entry.any isGivingUp⟩] _ _ none
    rw [hquiet]
    refine hkept _ errors.length ?_ none
    rw [calls_append, calls_failedCalls, List.length_append, List.length_map]
    exact congrArg (errors.length + ·) (congrArg (List.length · + 1) (calls_recorded hentry))
  | refused records errors e entries hstored hlength hentries =>
    rw [any_isGivingUp_failedCalls]
    refine hkept _ errors.length ?_ _
    rw [calls_append, calls_failedCalls, List.length_append, List.length_map]
    rfl
  | unwritable reason entries hstored hentries =>
    refine ⟨rfl, fun x hx hgiven => ?_, List.pairwise_singleton ..⟩
    obtain rfl := List.mem_singleton.1 hx
    cases hgiven

/-- What comes up while a batch is submitted is neither about elements nor about other batches. -/
theorem exhibits_nothing_of_isOfBatch {t : History} (h : ∀ e ∈ t, e.1.IsOfBatch) :
    documents t = [] ∧ received t = 0 ∧ (∀ e ∈ t, submission? e = none) ∧ t.any isFlush = false := by
  induction t with
  | nil => exact ⟨rfl, rfl, List.forall_mem_nil _, rfl⟩
  | cons e t ih =>
    obtain ⟨he, ht⟩ := List.forall_mem_cons.1 h
    obtain ⟨hdocuments, hreceived, hsubmissions, hflushed⟩ := ih ht
    obtain ⟨q, x⟩ := e
    cases q with
    | enter p => exact he.elim
    | openDocument => exact he.elim
    | keepRecords kind entries => exact he.elim
    | _ => exact ⟨hdocuments, hreceived, List.forall_mem_cons.2 ⟨rfl, hsubmissions⟩, hflushed⟩

theorem exhibits_of_submit {run : RunState R} {b : Batch R} {x : RunState R × Option Cause}
    (h : (submitBatch config logbook run b).Yields t x) :
    Exhibits t [] 0 [b] false ∧ x.1.batcher = run.batcher ∧
      Recounts (efforts t) run.statistics.retryCount x.1.statistics.retryCount x.2 := by
  have hrecounts := (submitStep_of_yields h).recounts
  obtain ⟨hcalls, hsaves, hbatcher⟩ := (submitStep_of_yields h).calls_saves
  rw [calls_gist, any_isGivingUp_gist] at hrecounts
  rw [calls_gist] at hcalls
  rw [← saves_recordings, recordings_gist, saves_recordings] at hsaves
  obtain ⟨p, hp, hsubmit⟩ := exists_batchPart config logbook run b
  rw [hsubmit] at h
  obtain ⟨_, u, rfl, hu⟩ := Program.yields_ask_iff.1 h
  obtain ⟨hdocuments, hreceived, hsubmissions, hflushed⟩ := exhibits_nothing_of_isOfBatch (hp.of_mem hu)
  have hefforts : efforts (⟨.enter .submitting, ()⟩ :: u) = [⟨calls u, u.any isGivingUp⟩] := by
    rw [efforts, cut_cons_of_submission rfl, cut_of_forall_none hsubmissions]
  rw [hefforts]
  refine ⟨⟨hdocuments, hreceived, rfl, ?_, hflushed, ?_⟩, hbatcher, hrecounts⟩
  · rw [hefforts]
    exact .cons hcalls .nil
  · exact fun c hc => ⟨b, List.mem_cons_self, hsaves c hc⟩

theorem exhibits_of_takeElement {run : RunState R} {position : Nat} {v : Value}
    {x : RunState R × Option Cause} (h : (takeElement config logbook run position v).Yields t x) :
    ∃ bs, Exhibits t [] 1 bs false ∧
      run.batcher.pushAll (entriesOf R [(v, position)]) = (bs, x.1.batcher) ∧
      Recounts (efforts t) run.statistics.retryCount x.1.statistics.retryCount x.2 := by
  obtain ⟨_, t₁, rfl, h₁⟩ := yields_ask_bind_iff.1 h
  cases hvalid : CatalogRecord.validate (R := R) v with
  | error violation =>
    rw [hvalid] at h₁
    have hquiet : (takeViolation config run position v violation).AsksOnly Request.IsQuiet :=
      ⟨trivial, fun _ => ⟨trivial, fun _ => ⟨trivial, fun _ => trivial⟩⟩⟩
    have hshows := exhibits_receipt.before (exhibits_of_asksOnly (R := R) hquiet h₁)
    obtain ⟨_, t₂, -, h₂⟩ := yields_ask_bind_iff.1 h₁
    obtain ⟨_, t₃, -, h₃⟩ := yields_ask_bind_iff.1 h₂
    obtain ⟨_, t₄, -, h₄⟩ := yields_ask_bind_iff.1 h₃
    obtain ⟨-, rfl⟩ := Program.yields_pure_iff.1 h₄
    refine ⟨[], hshows, ?_, hshows.recounts _ _⟩
    rw [entriesOf_nonRecord hvalid]
    rfl
  | ok r =>
    rw [hvalid] at h₁
    obtain ⟨_, t₂, rfl, h₂⟩ := yields_ask_bind_iff.1 h₁
    have hbatching : Exhibits [⟨.enter .batching, ()⟩] [] 0 ([] : List (Batch R)) false :=
      exhibits_of_isQuiet trivial
    have hstart := exhibits_receipt.before hbatching
    rw [entriesOf_record hvalid]
    rcases hpush : run.batcher.push position r with ⟨_ | b, batcher⟩
    · rw [hpush] at h₂
      obtain ⟨rfl, rfl⟩ := Program.yields_pure_iff.1 h₂
      exact ⟨[], hstart, Batcher.pushAll_cons_of_pending hpush [], hstart.recounts _ _⟩
    · rw [hpush] at h₂
      obtain ⟨hshows, hbatcher, hrecounts⟩ := exhibits_of_submit h₂
      refine ⟨[b], hstart.append hshows, ?_, hstart.recounts_behind hshows hrecounts⟩
      rw [Batcher.pushAll_cons_of_sealed hpush, hbatcher]
      rfl

/-- Taking in the elements that are due shows the batches that their records fill. -/
theorem exhibits_of_takeElements {run : RunState R} {skip position : Nat} {vs : List Value}
    {x : RunState R × Option Cause} (h : (takeElements config logbook skip run position vs).Yields t x) :
    ∃ n bs, Exhibits t [] n bs false ∧
      run.batcher.pushAll (entriesOf R (((vs.zipIdx position).drop (skip - position)).take n)) =
        (bs, x.1.batcher) ∧
      Recounts (efforts t) run.statistics.retryCount x.1.statistics.retryCount x.2 := by
  induction vs generalizing run position t with
  | nil =>
    obtain ⟨cancelled, u, rfl, h₁⟩ := yields_ask_bind_iff.1 h
    have hquiet : Exhibits [⟨.isCancelled, cancelled⟩] [] 0 ([] : List (Batch R)) false :=
      exhibits_of_isQuiet trivial
    cases cancelled with
    | true =>
      obtain ⟨rfl, rfl⟩ := Program.yields_pure_iff.1 h₁
      exact ⟨0, [], hquiet, rfl, hquiet.recounts _ _⟩
    | false =>
      obtain ⟨rfl, rfl⟩ := Program.yields_pure_iff.1 h₁
      exact ⟨0, [], hquiet, rfl, hquiet.recounts _ _⟩
  | cons v rest ih =>
    obtain ⟨cancelled, u, rfl, h₁⟩ := yields_ask_bind_iff.1 h
    have hquiet : Exhibits [⟨.isCancelled, cancelled⟩] [] 0 ([] : List (Batch R)) false :=
      exhibits_of_isQuiet trivial
    cases cancelled with
    | true =>
      obtain ⟨rfl, rfl⟩ := Program.yields_pure_iff.1 h₁
      exact ⟨0, [], hquiet, rfl, hquiet.recounts _ _⟩
    | false =>
      rw [List.zipIdx_cons]
      by_cases hskip : position < skip
      · have hdrop : skip - position = skip - (position + 1) + 1 := by omega
        rw [hdrop, List.drop_succ_cons]
        simp only [Bool.false_eq_true, if_false, if_pos hskip] at h₁
        obtain ⟨n, bs, hshows, hpushed, hrecounts⟩ := ih h₁
        exact ⟨n, bs, hquiet.behind hshows, hpushed, hquiet.recounts_behind hshows hrecounts⟩
      · have hdrop : skip - position = 0 := by omega
        have hrest : skip - (position + 1) = 0 := by omega
        rw [hdrop, List.drop_zero]
        simp only [Bool.false_eq_true, if_false, if_neg hskip] at h₁
        obtain ⟨⟨run', cause?⟩, v₁, w, rfl, hv₁, hw⟩ := Program.yields_bind_iff.1 h₁
        obtain ⟨bs, hone, hpushed, hrecounts⟩ := exhibits_of_takeElement hv₁
        cases cause? with
        | some cause =>
          obtain ⟨rfl, rfl⟩ := Program.yields_pure_iff.1 hw
          rw [List.append_nil]
          exact ⟨1, bs, hquiet.behind hone, hpushed, hquiet.recounts_behind hone hrecounts⟩
        | none =>
          obtain ⟨n, bs', hshows, hpushed', hrecounts'⟩ := ih hw
          rw [hrest, List.drop_zero] at hpushed'
          have hboth := hone.append hshows
          have hsum := hrecounts.append hrecounts'
          rw [← hshows.efforts_append] at hsum
          refine ⟨n + 1, bs ++ bs', ?_, ?_, hquiet.recounts_behind hboth hsum⟩
          · rw [Nat.add_comm]
            exact hquiet.behind hboth
          · rw [List.take_succ_cons, ← List.singleton_append, entriesOf_append, Batcher.pushAll_append,
              hpushed]
            change (bs ++ (run'.batcher.pushAll _).1, (run'.batcher.pushAll _).2) = _
            rw [hpushed']

theorem exhibits_of_flush {run : RunState R} {x : RunState R × Option Cause}
    (h : (flush config logbook run).Yields t x) :
    Exhibits t [] 0 run.batcher.finish.1.toList true ∧
      Recounts (efforts t) run.statistics.retryCount x.1.statistics.retryCount x.2 := by
  obtain ⟨_, u, rfl, h₁⟩ := yields_ask_bind_iff.1 h
  rcases hfinish : run.batcher.finish with ⟨_ | b, batcher⟩
  · rw [hfinish] at h₁
    obtain ⟨rfl, rfl⟩ := Program.yields_pure_iff.1 h₁
    exact ⟨exhibits_flush, .nothing _ _⟩
  · rw [hfinish] at h₁
    obtain ⟨hshows, -, hrecounts⟩ := exhibits_of_submit h₁
    have hflush : Exhibits [⟨.enter .flushing, ()⟩] [] 0 ([] : List (Batch R)) true := exhibits_flush
    exact ⟨hflush.append hshows, hflush.recounts_behind hshows hrecounts⟩

/-- A run that has done everything ends with what it has counted. -/
theorem exhibits_of_finalize {run : RunState R} {outcome : Outcome}
    (h : (finalize config logbook run).Yields t outcome) :
    Exhibits t [] 0 ([] : List (Batch R)) false ∧
      outcome.statistics.retryCount = run.statistics.retryCount ∧ outcome.cause? = none := by
  obtain ⟨-, moment, rfl⟩ := keeps_of_finalize h
  exact ⟨exhibits_of_asksOnly (asksOnly_finalize trivial trivial trivial (fun _ => trivial) (fun _ _ => trivial)
    fun _ => trivial) h, rfl, rfl⟩

theorem exhibits_of_abort {run : RunState R} {cause : Cause} {outcome : Outcome}
    (h : (abort config logbook run cause).Yields t outcome) :
    Exhibits t [] 0 ([] : List (Batch R)) false ∧
      outcome.statistics.retryCount = run.statistics.retryCount ∧ outcome.cause? = some cause := by
  obtain ⟨-, moment, rfl⟩ := keeps_of_abort h
  exact ⟨exhibits_of_asksOnly
    (asksOnly_abort trivial trivial (fun _ => trivial) (fun _ _ => trivial) fun _ => trivial) h, rfl, rfl⟩

/-- After the last element the last batch is looked for, and nothing more is sealed. -/
theorem exhibits_of_closing {run : RunState R} {outcome : Outcome}
    (h : (flush config logbook run >>= fun x => match x with
      | (run, some cause) => abort config logbook run cause
      | (run, none) => finalize config logbook run).Yields t outcome) :
    Exhibits t [] 0 run.batcher.finish.1.toList true ∧
      Recounts (efforts t) run.statistics.retryCount outcome.statistics.retryCount outcome.cause? := by
  obtain ⟨⟨run₁, cause?⟩, u, v, rfl, hu, hv⟩ := Program.yields_bind_iff.1 h
  obtain ⟨hflush, hrecounts⟩ := exhibits_of_flush hu
  have hrest : Exhibits v [] 0 ([] : List (Batch R)) false ∧
      outcome.statistics.retryCount = run₁.statistics.retryCount ∧ outcome.cause? = cause? := by
    cases cause? with
    | some cause => exact exhibits_of_abort hv
    | none => exact exhibits_of_finalize hv
  obtain ⟨hend, hretries, hcause⟩ := hrest
  rw [hretries, hcause]
  exact ⟨hflush.before hend, hend.recounts_before hrecounts⟩

theorem exhibits_of_runDocument {run : RunState R} {document : Reading} {k : Nat} {outcome : Outcome}
    (h : (runDocument config logbook run k document).Yields t outcome) :
    ∃ n isFlushed, Exhibits t [] n (run.batcher.sealedOver (Batcher.Call.pushes (entriesOf R
        ((document.elements.zipIdx.drop (firstPosition k run.batcher.batchSize)).take n)) ++
          if isFlushed then [.finish] else [])) isFlushed ∧
      Recounts (efforts t) run.statistics.retryCount outcome.statistics.retryCount outcome.cause? := by
  obtain ⟨⟨run', cause?⟩, u, v, rfl, hu, hv⟩ := Program.yields_bind_iff.1 h
  obtain ⟨n, bs, htaken, hpushed, hrecounts⟩ := exhibits_of_takeElements hu
  rw [Nat.sub_zero, Batcher.pushAll_eq] at hpushed
  obtain ⟨hsealed, hafter⟩ := Prod.mk.inj hpushed
  -- nothing is sealed any more when the run has to end
  have hended (cause : Cause) (hrecounts : Recounts (efforts u) run.statistics.retryCount
        run'.statistics.retryCount (some cause)) (hv : (abort config logbook run' cause).Yields v outcome) :
      Exhibits (u ++ v) [] n (run.batcher.sealedOver (Batcher.Call.pushes (entriesOf R
        ((document.elements.zipIdx.drop (firstPosition k run.batcher.batchSize)).take n)) ++
          if false then [.finish] else [])) false ∧
      Recounts (efforts (u ++ v)) run.statistics.retryCount outcome.statistics.retryCount outcome.cause? := by
    obtain ⟨hend, hretries, hcause⟩ := exhibits_of_abort hv
    rw [if_neg Bool.false_ne_true, List.append_nil, hsealed, hretries, hcause]
    exact ⟨htaken.before hend, hend.recounts_before hrecounts⟩
  cases cause? with
  | some cause => exact ⟨n, false, hended cause hrecounts hv⟩
  | none =>
    cases hending : document.ending with
    | error e =>
      rw [hending] at hv
      exact ⟨n, false, hended (.source e) hrecounts.goesOn hv⟩
    | ok summary =>
      rw [hending] at hv
      have hend : Exhibits v [] 0 run'.batcher.finish.1.toList true ∧
          Recounts (efforts v) run'.statistics.retryCount outcome.statistics.retryCount outcome.cause? := by
        change (if _ then _ else _ : Task Outcome).Yields v outcome at hv
        split at hv
        · obtain ⟨_, w, rfl, hw⟩ := yields_ask_bind_iff.1 hv
          have hnotice : Exhibits [⟨.notice .noDataArray, ()⟩] [] 0 ([] : List (Batch R)) false :=
            exhibits_of_isQuiet trivial
          obtain ⟨hclosing, hrecounts⟩ := exhibits_of_closing hw
          exact ⟨hnotice.behind hclosing, hnotice.recounts_behind hclosing hrecounts⟩
        · exact exhibits_of_closing hv
      obtain ⟨hclosing, hrecounts'⟩ := hend
      refine ⟨n, true, ?_, ?_⟩
      · rw [if_pos rfl, Batcher.sealedOver_append, Batcher.sealedOver_finish, hsealed, hafter]
        exact htaken.append hclosing
      · rw [hclosing.efforts_append]
        exact hrecounts.append hrecounts'

/-- The batches that an import seals can be read off what it shows. -/
theorem Exhibits.sealed {ds : List Reading} {n resumeFrom : Nat} {bs : List (Batch R)} {isFlushed : Bool}
    (h : Exhibits t ds n bs isFlushed)
    (hbs : (Batcher.startingAt config.batchSize resumeFrom).sealedOver
      (Batcher.Call.pushes (entriesOf R (((ds.flatMap (·.elements.zipIdx)).drop
        (firstPosition resumeFrom (max config.batchSize 1))).take n)) ++
          if isFlushed then [.finish] else []) = bs) :
    Exhibits t ds n (batchesSealed R config resumeFrom t) isFlushed := by
  have heq : batchesSealed R config resumeFrom t = bs := by
    rw [batchesSealed, batcherCalls, receivedElements, dueElements, openedElements, h.documents, h.received,
      h.flushed, hbs]
  rwa [heq]


/-- An import makes one effort for each batch that it seals, in order, and counts the repetitions of those
that are not given up. -/
theorem exists_shows {resumeFrom : Nat} {outcome : Outcome}
    (h : (importRun config logbook R resumeFrom).Yields t outcome) :
    ∃ (document? : Option Reading) (n : Nat) (isFlushed : Bool),
      Exhibits t document?.toList n (batchesSealed R config resumeFrom t) isFlushed ∧
      Recounts (efforts t) 0 outcome.statistics.retryCount outcome.cause? := by
  obtain ⟨startedAt, t₁, rfl, h₁⟩ := yields_ask_bind_iff.1 h
  obtain ⟨_, t₂, rfl, h₂⟩ := yields_ask_bind_iff.1 h₁
  obtain ⟨_, u, v, rfl, hu, h₃⟩ := Program.yields_bind_iff.1 h₂
  obtain ⟨answer, w, rfl, h₄⟩ := yields_ask_bind_iff.1 h₃
  have hlog : (record logbook .startUnrecorded (·.runStarted resumeFrom)).AsksOnly Request.IsQuiet :=
    asksOnly_record trivial fun b => asksOnly_log trivial (fun _ _ => trivial) b
  have hstart : Exhibits (⟨.now, startedAt⟩ :: ⟨.enter .notStarted, ()⟩ :: u) [] 0 ([] : List (Batch R)) false :=
    exhibits_quiet (List.forall_mem_cons.2
      ⟨trivial, List.forall_mem_cons.2 ⟨trivial, hlog.of_mem hu⟩⟩)
  cases answer with
  | error cause =>
    have hopening : Exhibits [⟨.openDocument, .error cause⟩] [] 0 ([] : List (Batch R)) false :=
      ⟨rfl, rfl, rfl, .nil, rfl, List.forall_mem_nil _⟩
    obtain ⟨hend, hretries, -⟩ := exhibits_of_abort h₄
    have hall := hstart.behind (hopening.before hend)
    refine ⟨none, 0, false, hall.sealed rfl, ?_⟩
    rw [hretries]
    exact hall.recounts _ _
  | ok document =>
    have hopening : Exhibits [⟨.openDocument, .ok document⟩] [document] 0 ([] : List (Batch R)) false :=
      ⟨rfl, rfl, rfl, .nil, rfl, List.forall_mem_nil _⟩
    obtain ⟨n, isFlushed, hrun, hrecounts⟩ := exhibits_of_runDocument h₄
    have hopened := hopening.append hrun
    rw [List.append_nil, List.nil_append, Nat.zero_add, Bool.false_or] at hopened
    refine ⟨some document, n, isFlushed, (hstart.behind hopened).sealed ?_, ?_⟩
    · rw [List.flatMap_singleton]
      rfl
    · exact hstart.recounts_behind hopened (hopening.recounts_behind hrun hrecounts)

end

end CatalogImport
