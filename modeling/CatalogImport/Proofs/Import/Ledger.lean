import CatalogImport.Proofs.Import.HistoryContents

/-!
# The ledger of a run

A ledger says of every element that a run has received what became of it: it is in a batch that was
counted, it was rejected, it is in the batch that was lost, or it is held in the open batch or in the one
on its way.  A ledger accounts for a run when the lists and counters of the run say the same.  Main
statement: whatever comes of submitting the held records, there is a ledger that accounts for it
(`Accounts.submit`).
-/

namespace CatalogImport

open CatalogImport.Json

/-! ## Records among elements -/

section

variable (R : Type) [CatalogRecord R]

/-- The records among elements, with their positions. -/
def entriesOf (xs : List (Value × Nat)) : List (Entry R) :=
  xs.filterMap fun x => (CatalogRecord.validate x.1).toOption.map fun r => ⟨x.2, r⟩

/-- The elements that are no records. -/
def nonRecords (xs : List (Value × Nat)) : List (Value × Nat) :=
  xs.filter fun x => !(CatalogRecord.validate (R := R) x.1).isOk

@[simp] theorem entriesOf_nil : entriesOf R [] = [] := rfl

@[simp] theorem entriesOf_append (xs ys : List (Value × Nat)) :
    entriesOf R (xs ++ ys) = entriesOf R xs ++ entriesOf R ys := List.filterMap_append

@[simp] theorem nonRecords_append (xs ys : List (Value × Nat)) :
    nonRecords R (xs ++ ys) = nonRecords R xs ++ nonRecords R ys := List.filter_append ..

end

section

variable {R : Type} [CatalogRecord R] {x : Value × Nat}

theorem entriesOf_record {r : R} (h : CatalogRecord.validate x.1 = .ok r) :
    entriesOf R [x] = [⟨x.2, r⟩] := by
  simp [entriesOf, h, Except.toOption]

theorem nonRecords_record {r : R} (h : CatalogRecord.validate x.1 = .ok r) : nonRecords R [x] = [] := by
  simp [nonRecords, h, Except.isOk, Except.toBool]

theorem entriesOf_nonRecord {violation : Violation}
    (h : CatalogRecord.validate (R := R) x.1 = .error violation) : entriesOf R [x] = [] := by
  simp [entriesOf, h, Except.toOption]

theorem nonRecords_nonRecord {violation : Violation}
    (h : CatalogRecord.validate (R := R) x.1 = .error violation) : nonRecords R [x] = [x] := by
  simp [nonRecords, h, Except.isOk, Except.toBool]

end

/-! ## Positions -/

/-- The elements of a document come in the order of their positions. -/
theorem pairwise_zipIdx (vs : List Value) (n : Nat) : (vs.zipIdx n).Pairwise (·.2 < ·.2) := by
  have hrange : ((vs.zipIdx n).map (·.2)).Pairwise (· < ·) := by
    rw [List.zipIdx_map_snd]
    exact List.pairwise_lt_range'
  exact List.pairwise_map.1 hrange

section

variable {R : Type}

/-- Behind so many records from a position on, positions have grown by as much. -/
theorem add_length_le_position {es rest : List (Entry R)} {first : Nat}
    (hpairwise : (es ++ rest).Pairwise (·.position < ·.position))
    (hfirst : ∀ e ∈ es ++ rest, first ≤ e.position) :
    ∀ e ∈ rest, first + es.length ≤ e.position := by
  induction es generalizing first with
  | nil =>
    intro e he
    exact hfirst e he
  | cons d es ih =>
    obtain ⟨hd, htail⟩ := List.pairwise_cons.1 hpairwise
    have hd' := hfirst d List.mem_cons_self
    intro e he
    have hnext : ∀ e' ∈ es ++ rest, first + 1 ≤ e'.position := by
      intro e' he'
      have hlt := hd e' he'
      omega
    have hle := ih htail hnext e he
    rw [List.length_cons]
    omega

variable [CatalogRecord R]

theorem mem_entriesOf_iff {e : Entry R} {xs : List (Value × Nat)} :
    e ∈ entriesOf R xs ↔
      ∃ x ∈ xs, CatalogRecord.validate x.1 = .ok e.record ∧ x.2 = e.position := by
  unfold entriesOf
  rw [List.mem_filterMap]
  refine exists_congr fun x => and_congr_right fun _ => ?_
  cases hv : CatalogRecord.validate (R := R) x.1 with
  | error violation => simp [Except.toOption]
  | ok r =>
    obtain ⟨position, record⟩ := e
    simp [Except.toOption, and_comm]

/-- Records come in the order of their elements. -/
theorem pairwise_entriesOf {xs : List (Value × Nat)} (h : xs.Pairwise (·.2 < ·.2)) :
    (entriesOf R xs).Pairwise (·.position < ·.position) := by
  refine List.pairwise_filterMap.2 (h.imp ?_)
  intro x y hlt e he e' he'
  obtain ⟨r, -, rfl⟩ := Option.map_eq_some_iff.1 he
  obtain ⟨r', -, rfl⟩ := Option.map_eq_some_iff.1 he'
  exact hlt

/-- What is left out of a document by a first position are the elements before it. -/
theorem mem_drop_zipIdx_iff {vs : List Value} {x : Value × Nat} {first : Nat} :
    x ∈ vs.zipIdx.drop first ↔ x ∈ vs.zipIdx ∧ first ≤ x.2 := by
  rw [List.mem_iff_getElem?, List.mem_iff_getElem?]
  constructor
  · rintro ⟨i, hi⟩
    rw [List.getElem?_drop] at hi
    have hx : x.2 = first + i := by
      rw [List.getElem?_zipIdx] at hi
      obtain ⟨v, -, rfl⟩ := Option.map_eq_some_iff.1 hi
      exact Nat.zero_add _
    exact ⟨⟨first + i, hi⟩, by omega⟩
  · rintro ⟨⟨i, hi⟩, hfirst⟩
    have hx : x.2 = i := by
      rw [List.getElem?_zipIdx] at hi
      obtain ⟨v, -, rfl⟩ := Option.map_eq_some_iff.1 hi
      exact Nat.zero_add _
    refine ⟨i - first, ?_⟩
    rw [List.getElem?_drop, show first + (i - first) = i by omega]
    exact hi

theorem mem_entriesOf_drop_iff {vs : List Value} {e : Entry R} {first : Nat} :
    e ∈ entriesOf R (vs.zipIdx.drop first) ↔ e ∈ entriesOf R vs.zipIdx ∧ first ≤ e.position := by
  rw [mem_entriesOf_iff, mem_entriesOf_iff]
  constructor
  · rintro ⟨x, hx, hvalid, hposition⟩
    obtain ⟨hmem, hfirst⟩ := mem_drop_zipIdx_iff.1 hx
    exact ⟨⟨x, hmem, hvalid, hposition⟩, hposition ▸ hfirst⟩
  · rintro ⟨⟨x, hmem, hvalid, hposition⟩, hfirst⟩
    exact ⟨x, mem_drop_zipIdx_iff.2 ⟨hmem, hposition ▸ hfirst⟩, hvalid, hposition⟩

end

/-! ## Counted batches -/

/-- A batch that was counted, the report of the store, and the statistics from then on. -/
structure Counted (R : Type) where
  batch : Batch R
  report : BatchResult
  statistics : Statistics

variable {R : Type}

/-- The records of batches that were counted. -/
def recordsIn (cs : List (Counted R)) : List (Entry R) := cs.flatMap (·.batch.entries)

@[simp] theorem recordsIn_nil : recordsIn ([] : List (Counted R)) = [] := rfl

theorem recordsIn_cons (c : Counted R) (cs : List (Counted R)) :
    recordsIn (c :: cs) = c.batch.entries ++ recordsIn cs := List.flatMap_cons

@[simp] theorem recordsIn_append (cs ds : List (Counted R)) :
    recordsIn (cs ++ ds) = recordsIn cs ++ recordsIn ds := List.flatMap_append

@[simp] theorem recordsIn_singleton (c : Counted R) : recordsIn [c] = c.batch.entries := by
  simp [recordsIn]

@[simp] theorem flatMap_map_batch (cs : List (Counted R)) :
    (cs.map (·.batch)).flatMap (·.entries) = recordsIn cs := List.flatMap_map ..

theorem length_recordsIn {cs : List (Counted R)} {size : Nat} (h : ∀ c ∈ cs, c.batch.size = size) :
    (recordsIn cs).length = cs.length * size := by
  induction cs with
  | nil => rw [recordsIn_nil, List.length_nil, List.length_nil, Nat.zero_mul]
  | cons c cs ih =>
    have hc : c.batch.entries.length = size := h c List.mem_cons_self
    have hcs := ih fun d hd => h d (List.mem_cons_of_mem c hd)
    rw [recordsIn_cons, List.length_append, hc, hcs, List.length_cons, Nat.add_mul, Nat.one_mul,
      Nat.add_comm]

/-- A number for each batch, added up. -/
def addedUp (f : Counted R → Nat) : List (Counted R) → Nat
  | [] => 0
  | c :: cs => f c + addedUp f cs

theorem addedUp_concat (f : Counted R → Nat) (cs : List (Counted R)) (c : Counted R) :
    addedUp f (cs ++ [c]) = addedUp f cs + f c := by
  induction cs with
  | nil => exact Nat.add_comm (f c) 0
  | cons d cs ih => rw [List.cons_append, addedUp, addedUp, ih, Nat.add_assoc]

/-- The inserted records of batches, as far as they count. -/
def successesIn : List (Counted R) → Nat :=
  addedUp fun c => Statistics.creditedSuccesses c.batch.size c.report

/-- The refused records of batches, as far as they count. -/
def failuresIn : List (Counted R) → Nat :=
  addedUp fun c => Statistics.creditedFailures c.batch.size c.report

/-- The counters of a run that goes on, when batches were counted, one with so many records was lost, and
so many records are held. -/
structure Tally (cs : List (Counted R)) (lost held : Nat) (s : Statistics) : Prop where
  totalRecords : s.totalRecords = (recordsIn cs).length + lost + held
  successfulInserts : s.successfulInserts = successesIn cs
  failedInserts : s.failedInserts = failuresIn cs + lost
  batchesProcessed : s.batchesProcessed = cs.length
  finishedAt : s.finishedAt = none

namespace Tally

variable {cs : List (Counted R)} {s : Statistics} {lost held : Nat}

/-- A record more is held. -/
theorem push (h : Tally cs lost held s) : Tally cs lost (held + 1) s.recordValid where
  totalRecords := congrArg (· + 1) h.totalRecords
  successfulInserts := h.successfulInserts
  failedInserts := h.failedInserts
  batchesProcessed := h.batchesProcessed
  finishedAt := h.finishedAt

/-- An element that is no record has no bearing on the records. -/
theorem reject (h : Tally cs lost held s) : Tally cs lost held s.recordInvalid :=
  ⟨h.totalRecords, h.successfulInserts, h.failedInserts, h.batchesProcessed, h.finishedAt⟩

/-- The held records have become a batch that was counted. -/
theorem count {c : Counted R} (h : Tally cs lost c.batch.size s) (retries : Nat) :
    Tally (cs ++ [c]) lost 0 ((s.recordRetries retries).recordBatch c.batch.size c.report) where
  totalRecords := by
    have htotal := h.totalRecords
    unfold Batch.size at htotal
    rw [recordsIn_append, recordsIn_singleton, List.length_append]
    change s.totalRecords = _
    omega
  successfulInserts := by
    rw [successesIn, addedUp_concat, ← successesIn, ← h.successfulInserts]
    rfl
  failedInserts := by
    have hfailed := h.failedInserts
    rw [failuresIn, addedUp_concat, ← failuresIn]
    change s.failedInserts + Statistics.creditedFailures c.batch.size c.report = _
    omega
  batchesProcessed := by
    rw [List.length_append, List.length_singleton, ← h.batchesProcessed]
    rfl
  finishedAt := h.finishedAt

/-- The held records have become a batch that was lost. -/
theorem lose (h : Tally cs 0 held s) (retries : Nat) :
    Tally cs held 0 ((s.recordRetries retries).recordFailedBatch held) where
  totalRecords := by
    have htotal := h.totalRecords
    change s.totalRecords = _
    omega
  successfulInserts := h.successfulInserts
  failedInserts := congrArg (· + held) h.failedInserts
  batchesProcessed := h.batchesProcessed
  finishedAt := h.finishedAt

end Tally

/-! ## Recorded batches -/

/-- What the journal was asked about batches is what recording each of them asks, one after the other. -/
inductive Chronicle (logbook : Option Logbook) : List (Batch R) → History → Prop
  | nil : Chronicle logbook [] []
  | concat {bs : List (Batch R)} {b : Batch R} {g entry : History} (hbefore : Chronicle logbook bs g)
      (hentry : Recorded logbook b.number b.size entry) :
      Chronicle logbook (bs ++ [b]) (g ++ entry)

/-- A checkpoint that was to be written when a batch was recorded is at that batch. -/
theorem lastBatch_of_mem_saves {logbook : Option Logbook} {number records : Nat} {g : History}
    (h : Recorded logbook number records g) : ∀ c ∈ saves g, c.lastBatch = number := by
  intro c hc
  cases h with
  | logged b number records before moment later answer =>
    obtain rfl := List.mem_singleton.1 hc
    rfl
  | nowhere => cases hc
  | unread => cases hc
  | unlogged => cases hc

/-- Every checkpoint that was to be written is at one of the batches. -/
theorem Chronicle.exists_lastBatch {logbook : Option Logbook} {bs : List (Batch R)} {g : History}
    (h : Chronicle logbook bs g) : ∀ c ∈ saves g, ∃ b ∈ bs, c.lastBatch = b.number := by
  induction h with
  | nil =>
    intro c hc
    cases hc
  | concat hbefore hentry ih =>
    intro c hc
    rw [saves_append] at hc
    rcases List.mem_append.1 hc with hc | hc
    · obtain ⟨b, hb, hlast⟩ := ih c hc
      exact ⟨b, List.mem_append_left _ hb, hlast⟩
    · exact ⟨_, List.mem_append_right _ List.mem_cons_self, lastBatch_of_mem_saves hentry c hc⟩

/-! ## Ledgers -/

/-- What became of the elements of a run. -/
structure Ledger (R : Type) where
  counted : List (Counted R)
  /-- The entries kept of elements that are no records. -/
  rejected : List FailedEntry
  /-- The batch that could not be submitted, with the entries kept of its records. -/
  lost : Option (Batch R × List FailedEntry)
  /-- The records of the open batch, or of the one on its way to the store. -/
  held : List (Entry R)
  /-- The store got the held records, and was interrupted. -/
  isUnanswered : Bool

namespace Ledger

/-- The ledger of a run that has received nothing. -/
def empty : Ledger R := ⟨[], [], none, [], false⟩

/-- The records of the batch that was lost. -/
def lostRecords (l : Ledger R) : List (Entry R) := l.lost.elim [] (·.1.entries)

/-- The entries kept of the batch that was lost. -/
def lostEntries (l : Ledger R) : List FailedEntry := l.lost.elim [] (·.2)

/-- What was handed to the store and not refused. -/
def offered [CatalogRecord R] (l : Ledger R) : List (List Stored × Option BatchResult) :=
  l.counted.map (fun c => (storedForms c.batch.entries, some c.report)) ++
    if l.isUnanswered then [(storedForms l.held, none)] else []

end Ledger

variable [CatalogRecord R]

/-- A counted batch has the right number and is written as a whole, and the statistics after it are right
when it is the last of those counted. -/
structure Counted.IsLastOf (c : Counted R) (cs : List (Counted R)) (number : Nat) : Prop where
  number : c.batch.number = number
  stored : c.batch.stored = .ok (storedForms c.batch.entries)
  tally : Tally cs 0 0 c.statistics

/-- A ledger accounts for a run that has received elements and asked questions. -/
structure Accounts (config : Config) (logbook : Option Logbook) (resumeFrom : Nat)
    (xs : List (Value × Nat)) (g : History) (l : Ledger R) (run : RunState R) : Prop where
  records : entriesOf R xs = recordsIn l.counted ++ l.lostRecords ++ l.held
  rejected : List.Forall₂ (ValidationFailure R) (nonRecords R xs) l.rejected
  failed : run.failed = l.rejected ++ l.lostEntries
  processingErrors : run.statistics.processingErrors = l.rejected.length
  tally : Tally l.counted l.lostRecords.length l.held.length run.statistics
  batches : ∀ (i : Nat) (c : Counted R), l.counted[i]? = some c →
    c.IsLastOf (l.counted.take (i + 1)) (resumeFrom + i)
  sizes : ∀ c ∈ l.counted, 0 < c.batch.size ∧ c.batch.size ≤ max config.batchSize 1
  tells : Tells g xs.length l.offered (l.counted.map (·.statistics)) (recordings g)
  chronicle : Chronicle logbook (l.counted.map (·.batch)) (recordings g)

/-! ## Submitting the held records -/

/-- What holds of each item and the list up to it holds with one more item if it holds of that. -/
theorem forall_upTo_concat {α : Type} {P : Nat → α → List α → Prop} {as : List α} {a : α}
    (h : ∀ i x, as[i]? = some x → P i x (as.take (i + 1))) (ha : P as.length a (as ++ [a])) :
    ∀ i x, (as ++ [a])[i]? = some x → P i x ((as ++ [a]).take (i + 1)) := by
  intro i x hx
  by_cases hi : i < as.length
  · rw [List.getElem?_append_left hi] at hx
    rw [List.take_append_of_le_length hi]
    exact h i x hx
  · have hlt : i < (as ++ [a]).length := (List.getElem?_eq_some_iff.1 hx).1
    rw [List.length_append, List.length_singleton] at hlt
    obtain rfl : i = as.length := by omega
    rw [List.getElem?_concat_length] at hx
    obtain rfl := Option.some.inj hx
    rw [List.take_of_length_le (by simp)]
    exact ha

/-- What submitting the held records as a batch does to a ledger. -/
inductive Disposal (l : Ledger R) (b : Batch R) : Ledger R → Option Cause → Prop
  | counted (report : BatchResult) (s : Statistics) :
      Disposal l b { l with counted := l.counted ++ [⟨b, report, s⟩], held := [] } none
  | lost (entries : List FailedEntry) (cause : Cause) (hcause : cause.batchNumber? = some b.number)
      (hentries : List.Forall₂ (LoadFailure b cause) b.entries entries) :
      Disposal l b { l with lost := some (b, entries), held := [] } (some cause)
  | dropped (isUnanswered : Bool) : Disposal l b { l with isUnanswered } (some .cancelled)

section

variable {config : Config} {logbook : Option Logbook} {resumeFrom : Nat} {xs : List (Value × Nat)}
  {g g' : History} {l : Ledger R} {run run' : RunState R}

/-- What a part of a run tells when the journal was not asked about a batch in it. -/
theorem Accounts.tells_append {n : Nat} {offered : List (List Stored × Option BatchResult)}
    (h : Accounts config logbook resumeFrom xs g l run) (hg : Tells g' n offered [] []) :
    Tells (g ++ g') (xs.length + n) (l.offered ++ offered) (l.counted.map (·.statistics))
        (recordings (g ++ g')) ∧
      recordings (g ++ g') = recordings g := by
  have htells := h.tells.append hg
  rw [List.append_nil, List.append_nil] at htells
  rw [htells.recordings]
  exact ⟨htells, rfl⟩

/-- The held records are counted as a batch. -/
theorem Accounts.count {c : Counted R} {records : List Stored} {errors : List StoreError}
    {entry : History} {retries : Nat} (h : Accounts config logbook resumeFrom xs g l run)
    (hlost : l.lost = none) (hanswered : l.isUnanswered = false) (hheld : l.held = c.batch.entries)
    (hnumber : c.batch.number = resumeFrom + l.counted.length)
    (hsize : 0 < c.batch.size ∧ c.batch.size ≤ max config.batchSize 1)
    (hstored : c.batch.stored = .ok records)
    (hstatistics : c.statistics =
      (run.statistics.recordRetries retries).recordBatch c.batch.size c.report)
    (hentry : Recorded logbook c.batch.number c.batch.size entry) :
    Accounts config logbook resumeFrom xs
      (g ++ (failedCalls records errors ++ ⟨.addMany records, some (.ok c.report)⟩ ::
        ⟨.progress c.statistics, ()⟩ :: entry))
      { l with counted := l.counted ++ [c], held := [] } { run with statistics := c.statistics } := by
  have hforms : storedForms c.batch.entries = records := storedForms_of_stored hstored
  have htally : Tally (l.counted ++ [c]) 0 0 c.statistics := by
    have htally := h.tally
    rw [Ledger.lostRecords, hlost, hheld] at htally
    rw [hstatistics]
    exact htally.count retries
  have htells := h.tells.append ((Tells.failedCalls records errors).append
    ((Tells.taken records c.report).append ((Tells.progress c.statistics).append (.recorded hentry))))
  simp only [List.singleton_append, List.nil_append] at htells
  have hrecordings := htells.recordings
  refine ⟨?_, h.rejected, h.failed, ?_, ?_, ?_, ?_, ?_, ?_⟩
  · rw [h.records, hheld]
    simp [Ledger.lostRecords, hlost]
  · rw [hstatistics]
    exact h.processingErrors
  · rw [Ledger.lostRecords, hlost]
    exact htally
  · have hlast : c.IsLastOf (l.counted ++ [c]) (resumeFrom + l.counted.length) :=
      ⟨hnumber, by rw [hforms]; exact hstored, htally⟩
    exact forall_upTo_concat (P := fun i (d : Counted R) cs => d.IsLastOf cs (resumeFrom + i))
      h.batches hlast
  · intro d hd
    rcases List.mem_append.1 hd with hd | hd
    · exact h.sizes d hd
    · obtain rfl := List.mem_singleton.1 hd
      exact hsize
  · rw [← hrecordings] at htells
    simpa [Ledger.offered, hanswered, hforms] using htells
  · rw [hrecordings, List.map_append]
    exact h.chronicle.concat hentry

/-- The held records are lost as a batch, after calls that told nothing. -/
theorem Accounts.lose {b : Batch R} {entries : List FailedEntry} {retries : Nat}
    (h : Accounts config logbook resumeFrom xs g l run) (hlost : l.lost = none)
    (hanswered : l.isUnanswered = false) (hheld : l.held = b.entries) (hg : Tells g' 0 [] [] []) :
    Accounts config logbook resumeFrom xs (g ++ g') { l with lost := some (b, entries), held := [] }
      { run with
        statistics := (run.statistics.recordRetries retries).recordFailedBatch b.size
        failed := run.failed ++ entries } := by
  have htally := h.tally
  rw [Ledger.lostRecords, hlost, hheld] at htally
  obtain ⟨htells, hrecordings⟩ := h.tells_append hg
  refine ⟨?_, h.rejected, ?_, h.processingErrors, htally.lose retries, h.batches, h.sizes, ?_, ?_⟩
  · rw [h.records, hheld]
    simp [Ledger.lostRecords, hlost]
  · rw [h.failed]
    simp [Ledger.lostEntries, hlost]
  · simpa [Ledger.offered, hanswered] using htells
  · rw [hrecordings]
    exact h.chronicle

/-- The submission of the held records is dropped, and possibly nobody knows what the store did. -/
theorem Accounts.drop {isUnanswered : Bool} {offered : List (List Stored × Option BatchResult)}
    (h : Accounts config logbook resumeFrom xs g l run) (hg : Tells g' 0 offered [] [])
    (hoffered : l.offered ++ offered = ({ l with isUnanswered } : Ledger R).offered) :
    Accounts config logbook resumeFrom xs (g ++ g') { l with isUnanswered } run := by
  obtain ⟨htells, hrecordings⟩ := h.tells_append hg
  rw [hoffered] at htells
  exact { h with tells := htells, chronicle := hrecordings ▸ h.chronicle }

/-- Whatever comes of submitting the held records, there is a ledger that accounts for it. -/
theorem Accounts.submit {b : Batch R} {cause? : Option Cause}
    (h : Accounts config logbook resumeFrom xs g l run) (hlost : l.lost = none)
    (hanswered : l.isUnanswered = false) (hheld : l.held = b.entries)
    (hnumber : b.number = resumeFrom + l.counted.length)
    (hsize : 0 < b.size ∧ b.size ≤ max config.batchSize 1)
    (hstep : SubmitStep config logbook run b g' run' cause?) :
    ∃ l', Accounts config logbook resumeFrom xs (g ++ g') l' run' ∧ run'.batcher = run.batcher ∧
      Disposal l b l' cause? := by
  cases hstep with
  | cancelled => exact ⟨l, h.drop .cancelled (List.append_nil _), rfl, .dropped l.isUnanswered⟩
  | dropped records errors e hstored hinterrupts =>
    have hforms : storedForms l.held = records := by
      rw [hheld]
      exact storedForms_of_stored hstored
    rcases Tells.interrupts hinterrupts with he | he
    · exact ⟨l, h.drop ((Tells.failedCalls records errors).append he) (List.append_nil _), rfl,
        .dropped l.isUnanswered⟩
    · refine ⟨{ l with isUnanswered := true },
        h.drop ((Tells.failedCalls records errors).append he) ?_, rfl, .dropped true⟩
      simp [Ledger.offered, hanswered, hforms]
  | counted records errors report entry hstored hlength hentry =>
    exact ⟨_, h.count (c := ⟨b, report, countedStatistics run b ⟨report, errors.length⟩⟩) hlost
      hanswered hheld hnumber hsize hstored rfl hentry, rfl, .counted report _⟩
  | refused records errors e entries hstored hlength hentries =>
    have hg := (Tells.failedCalls records errors).append (.refused records e)
    exact ⟨_, h.lose hlost hanswered hheld hg, rfl, .lost entries _ rfl hentries⟩
  | unwritable reason entries hstored hentries =>
    exact ⟨_, h.lose hlost hanswered hheld .nil, rfl, .lost entries _ rfl hentries⟩

end

end CatalogImport
