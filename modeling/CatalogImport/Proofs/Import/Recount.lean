import CatalogImport.Proofs.Import.Counters
import CatalogImport.Proofs.Import.ElementPartition
import CatalogImport.Proofs.Import.Prefix
import Mathlib.Data.Finset.Card

/-!
# What a checkpoint counts over several imports

A checkpoint adds up the records of the batches at which it was put, over all imports that were taken up
where it says.  It goes by the number of batches; an import that is taken up goes by positions.  Where
elements that are no records come before, it comes to records again that were recorded already, and they
are counted once more.  Main statements: what the checkpoint counts in the end, and exactly when that is
the number of records (`count_after_imports`), and that it may be more (`not_counted_once`).
-/

namespace CatalogImport

/-! ## Chronicles that are cut short -/

/-- Recording a batch has been begun at most, and not been done. -/
def Begun (logbook : Option Logbook) (g : History) : Prop :=
  g = [] ∨ ∃ number records v, v ≠ [] ∧ Recorded logbook number records (g ++ v)

/-- Only the last exchange of recording a batch writes a checkpoint. -/
theorem saves_dropLast_of_recorded {logbook : Option Logbook} {number records : Nat} {entry : History}
    (h : Recorded logbook number records entry) : saves entry.dropLast = [] := by
  cases h <;> rfl

theorem Begun.saves_eq_nil {logbook : Option Logbook} {g : History} (h : Begun logbook g) :
    saves g = [] := by
  rcases h with rfl | ⟨number, records, v, hv, hentry⟩
  · rfl
  · have hsaves := saves_dropLast_of_recorded hentry
    rw [List.dropLast_append_of_ne_nil hv, saves_append] at hsaves
    exact (List.append_eq_nil_iff.1 hsaves).1

/-- When batches were recorded one after the other and this is cut short anywhere, some of them have been
recorded, and at most one more has been begun to be. -/
theorem Chronicle.cut {R : Type} {logbook : Option Logbook} {bs : List (Batch R)} {g u : History}
    (h : Chronicle logbook bs (g ++ u)) :
    ∃ ds g₁ g₂, ds <+: bs ∧ g = g₁ ++ g₂ ∧ Chronicle logbook ds g₁ ∧ Begun logbook g₂ := by
  generalize hwhole : g ++ u = whole at h
  induction h generalizing g u with
  | nil =>
    obtain ⟨rfl, rfl⟩ := List.append_eq_nil_iff.1 hwhole
    exact ⟨[], [], [], List.prefix_rfl, rfl, .nil, .inl rfl⟩
  | @concat bs b g' entry hbefore hentry ih =>
    rcases List.append_eq_append_iff.1 hwhole with ⟨v, rfl, rfl⟩ | ⟨v, rfl, rfl⟩
    · obtain ⟨ds, g₁, g₂, hds, rfl, hchronicle, hbegun⟩ := ih rfl
      exact ⟨ds, g₁, g₂, hds.trans (List.prefix_append _ _), rfl, hchronicle, hbegun⟩
    · cases u with
      | nil =>
        rw [List.append_nil] at hentry
        exact ⟨bs ++ [b], g' ++ v, [], List.prefix_rfl, (List.append_nil _).symm, hbefore.concat hentry,
          .inl rfl⟩
      | cons e u =>
        exact ⟨bs, g', v, List.prefix_append _ _, rfl, hbefore,
          .inr ⟨_, _, _, List.cons_ne_nil e u, hentry⟩⟩

theorem length_saves_of_recorded {b : Logbook} {number records : Nat} {entry : History}
    (h : Recorded (some b) number records entry) (hanswers : JournalAnswers entry) :
    (saves entry).length = 1 := by
  cases h with
  | unread b number records e => cases hanswers _ List.mem_cons_self
  | unlogged b number records c moment e =>
    cases hanswers _ (List.mem_cons_of_mem _ List.mem_cons_self)
  | logged b number records c moment later answer => rfl

/-- Recording batches writes a checkpoint for each if the journal does all that it is asked to do. -/
theorem Chronicle.length_saves {R : Type} {b : Logbook} {bs : List (Batch R)} {g : History}
    (h : Chronicle (some b) bs g) (hanswers : JournalAnswers g) : (saves g).length = bs.length := by
  induction h with
  | nil => rfl
  | concat hbefore hentry ih =>
    have hone := length_saves_of_recorded hentry hanswers.right
    rw [saves_append, List.length_append, ih hanswers.left, hone, List.length_append,
      List.length_singleton]

/-- Where no checkpoint is to be written, the checkpoint stays. -/
theorem Follows.eq_of_saves {runId : String} {c c' : Option Checkpoint} {t : History}
    (h : Follows runId c t c') (ht : saves t = []) : c' = c := by
  refine h.eq_of_written fun d hd => ?_
  have hmem := writtenCheckpoints_subset_saves t hd
  rw [ht] at hmem
  cases hmem

/-! ## One import -/

section

variable (R : Type) [CatalogRecord R] (size resumeFrom : Nat) (document : Reading) (t : History)

/-- The records of the batches that the store took in an import from a batch on. -/
def takenRecords : List (Entry R) :=
  (recordsDue R size resumeFrom document).take ((offers t).countP (·.2.isSome) * size)

/-- The records of the batches at which an import from a batch on put the checkpoint. -/
def recordedRecords : List (Entry R) :=
  (recordsDue R size resumeFrom document).take ((saves t).length * size)

end

section

variable {R : Type} [CatalogRecord R] {config : Config} {logbook : Option Logbook} {b : Logbook}
  {size k : Nat} {t : History} {outcome : Outcome} {document : Reading} {l : Ledger R}
  {c c' : Option Checkpoint}

/-- A run that is refused everything gets no document any more. -/
theorem documents_of_refused {u : History} (h : ∀ e ∈ u, e = ⟨e.1, Scene.refusal e.1⟩) :
    documents u = [] := by
  refine List.eq_nil_iff_forall_not_mem.2 fun d hd => ?_
  cases h _ (mem_documents_iff.1 hd)

/-- The batches that were counted are the first ones of those that are due, also if no document was
opened. -/
theorem Ledger.Settles.counted_isPrefix_of_forall (h : l.Settles config k t outcome)
    (hs : l.Sorts config logbook k t) (hdocuments : ∀ d ∈ documents t, d = document) :
    l.counted.map (·.batch) <+: batchesDue R (max config.batchSize 1) k document := by
  rcases h.opened with ⟨hnone, -⟩ | ⟨d, hsome⟩
  · have hrecords := h.records
    have hempty : recordsIn l.counted = [] := by
      rw [receivedElements, dueElements, openedElements, hnone, List.flatMap_nil, List.drop_nil,
        List.take_nil, entriesOf_nil, List.append_assoc] at hrecords
      exact (List.append_eq_nil_iff.1 hrecords.symm).1
    have hcounted : l.counted = [] := by
      cases hcs : l.counted with
      | nil => rfl
      | cons d ds =>
        rw [hcs, recordsIn_cons] at hempty
        have hpos := hs.nonempty d (hcs ▸ List.mem_cons_self)
        rw [Batch.size, (List.append_eq_nil_iff.1 hempty).1] at hpos
        exact absurd hpos (Nat.lt_irrefl 0)
    rw [hcounted]
    exact List.nil_prefix
  · obtain rfl := hdocuments d (hsome ▸ List.mem_cons_self)
    exact h.counted_isPrefix hs hsome

/-- As many batches were counted as the store took. -/
theorem countP_offers_eq (h : l.Settles config k t outcome) :
    (offers t).countP (·.2.isSome) = l.counted.length := by
  have hcounted : (l.counted.map fun c => (storedForms c.batch.entries, some c.report)).countP
      (·.2.isSome) = l.counted.length := by
    rw [List.countP_map]
    exact List.countP_eq_length.2 fun _ _ => rfl
  have hflight : ((l.inFlight k).map fun b => (storedForms b.entries, (none : Option BatchResult))).countP
      (·.2.isSome) = 0 := by
    rw [List.countP_map]
    exact List.countP_eq_zero.2 fun _ _ => Bool.false_ne_true
  rw [h.offers, offered_eq l k, List.countP_append, hcounted, hflight, Nat.add_zero]

/-- Wherever an import is, the batches that the store took are the first ones of those that are due, and
the journal was told of them in order, as far as it was. -/
theorem exists_taken_of_told {p : Task Outcome} (h : (importRun config logbook R k).Told t p)
    (hdocuments : ∀ d ∈ documents t, d = document) :
    ∃ bs u, bs <+: batchesDue R (max config.batchSize 1) k document ∧
      bs.length = (offers t).countP (·.2.isSome) ∧ Chronicle logbook bs (recordings t ++ u) := by
  obtain ⟨u, outcome, hu, hrefused⟩ := Program.exists_yields Scene.refusal p
  obtain ⟨l, hsettles, hsorts⟩ := exists_sorted_ledger (R := R) (h.trans hu)
  have hdocuments' : ∀ d ∈ documents (t ++ u), d = document := by
    rw [documents_append, documents_of_refused hrefused, List.append_nil]
    exact hdocuments
  have hunanswered : (offers u).countP (·.2.isSome) = 0 := by
    refine List.countP_eq_zero.2 fun x hx => ?_
    rw [eq_none_of_mem_offers hrefused hx]
    exact Bool.false_ne_true
  refine ⟨l.counted.map (·.batch), recordings u,
    hsettles.counted_isPrefix_of_forall hsorts hdocuments', ?_, ?_⟩
  · rw [List.length_map, ← countP_offers_eq hsettles, offers_append, List.countP_append, hunanswered,
      Nat.add_zero]
  · rw [← recordings_append]
    exact hsorts.chronicle

/-- The records of the first batches of those that are due. -/
theorem flatMap_of_isPrefix {bs : List (Batch R)} (hsize : 0 < size)
    (h : bs <+: batchesDue R size k document) :
    bs.flatMap (·.entries) = (recordsDue R size k document).take (bs.length * size) := by
  conv =>
    lhs
    rw [List.prefix_iff_eq_take.1 h]
  exact flatMap_take_batchesOf hsize k _ bs.length

/-- Wherever an import is, the first ones of the batches that are due have been recorded, with their
numbers, and no more than the store took. -/
theorem exists_chronicle_of_told {p : Task Outcome} (h : (importRun config logbook R k).Told t p)
    (hdocuments : ∀ d ∈ documents t, d = document) :
    ∃ (ds : List (Batch R)) (g₁ g₂ : History), ds <+: batchesDue R (max config.batchSize 1) k document ∧
      ds.length ≤ (offers t).countP (·.2.isSome) ∧
      (∀ (j : Nat) (x : Batch R), ds[j]? = some x → x.number = k + j) ∧
      recordings t = g₁ ++ g₂ ∧ Chronicle logbook ds g₁ ∧ Begun logbook g₂ := by
  obtain ⟨bs, u, hbs, htaken, hchronicle⟩ := exists_taken_of_told h hdocuments
  obtain ⟨ds, g₁, g₂, hds, hcut, hrecorded, hbegun⟩ := hchronicle.cut
  have hprefix := hds.trans hbs
  refine ⟨ds, g₁, g₂, hprefix, htaken ▸ hds.length_le, fun j x hx => ?_, hcut, hrecorded, hbegun⟩
  have hlt : j < ds.length := (List.getElem?_eq_some_iff.1 hx).1
  have hdue : (batchesDue R (max config.batchSize 1) k document)[j]? = some x := by
    obtain ⟨more, hmore⟩ := hprefix
    rw [← hmore, List.getElem?_append_left hlt, hx]
  exact number_batchesOf hdue

/-- Wherever an import is, the checkpoint has been put at the batches that were recorded, and counts their
records, if the journal did all that it was asked to do.  They are among those that the store took. -/
theorem recorded_of_told {p : Task Outcome} (h : (importRun config (some b) R k).Told t p)
    (hdocuments : ∀ d ∈ documents t, d = document) (hanswers : JournalAnswers t)
    (hfollows : Follows b.runId c t c') (hk : Logbook.batchAfter c = k) :
    recordsCounted c' =
        recordsCounted c + (recordedRecords R (max config.batchSize 1) k document t).length ∧
      Logbook.batchAfter c' = k + (saves t).length ∧
      (saves t).length ≤ (offers t).countP (·.2.isSome) := by
  have hsize : 0 < max config.batchSize 1 := by omega
  obtain ⟨ds, g₁, g₂, hprefix, htaken, hnumber, hcut, hrecorded, hbegun⟩ :=
    exists_chronicle_of_told h hdocuments
  have hquiet := hbegun.saves_eq_nil
  have hanswers' := hanswers.recordings
  have hfollows' := hfollows.recordings
  rw [hcut] at hanswers' hfollows'
  obtain ⟨c₁, hfirst, hrest⟩ := hfollows'.split
  obtain rfl := hrest.eq_of_saves hquiet
  have hlength : (saves t).length = ds.length := by
    rw [← saves_recordings, hcut, saves_append, hquiet, List.append_nil,
      hrecorded.length_saves hanswers'.left]
  obtain ⟨hcounted, hlast⟩ := hfirst.chronicle hrecorded hanswers'.left hnumber (Nat.le_of_eq hk)
  refine ⟨?_, ?_, ?_⟩
  · rw [hcounted, flatMap_of_isPrefix hsize hprefix, recordedRecords, hlength]
  · rw [hlength]
    rcases hlast with ⟨rfl, rfl⟩ | ⟨-, d, rfl, hd⟩
    · exact hk
    · exact hd
  · rw [hlength]
    exact htaken

/-- An import that did all it had to has recorded all records that were due. -/
theorem recordedRecords_eq_due {statistics : Statistics}
    (h : (importRun config (some b) R k).Yields t (.ok statistics))
    (hdocuments : ∀ d ∈ documents t, d = document) (hanswers : JournalAnswers t) :
    recordedRecords R (max config.batchSize 1) k document t =
      recordsDue R (max config.batchSize 1) k document := by
  have hsize : 0 < max config.batchSize 1 := by omega
  obtain ⟨l, hsettles, hsorts⟩ := exists_sorted_ledger (R := R) h
  have hbatches := hsettles.batches_eq hsorts (hsettles.documents_eq rfl hdocuments) rfl
  have hlength := hsorts.chronicle.length_saves hanswers.recordings
  rw [saves_recordings, hbatches, batchesDue, length_batchesOf] at hlength
  rw [recordedRecords, hlength]
  exact List.take_of_length_le (le_batchCount_mul hsize _)

/-! ## Imports one after the other -/

section

variable (R)

/-- An import of a document is taken up under the id of a run where the journal says, and told answers that
make another journal of it.  Here the batch from which it was taken up and the history that it was told are
shown.  Of the store nothing is said but what it answered. -/
def ImportsBy (document : Reading) (b : Logbook) (config : Config) (j : Journal) (k : Nat) (t : History)
    (p : Task Outcome) (j' : Journal) : Prop :=
  ∃ (j₁ : Journal) (u : History), b.resumePoint.Yields u (.ok k) ∧ Journal.After j u j₁ ∧
    (importRun config (some b) R k).Told t p ∧ (∀ d ∈ documents t, d = document) ∧ Journal.After j₁ t j'

/-- Any number of imports with one size of batches came one after the other, each from a batch on and with
a history, and each cut short anywhere.  The journal did all that it was asked to do.  Between two of them
it may have been closed and opened again. -/
inductive ImportChain (document : Reading) (b : Logbook) (size : Nat) :
    Journal → List (Nat × History) → Journal → Prop
  | nil (j : Journal) : ImportChain document b size j [] j
  | reopened {j j' : Journal} {runs : List (Nat × History)}
      (hrest : ImportChain document b size j.reopen runs j') : ImportChain document b size j runs j'
  | cons {j j₁ j' : Journal} {config : Config} {k : Nat} {t : History} {p : Task Outcome}
      {runs : List (Nat × History)} (hsize : max config.batchSize 1 = size)
      (himport : ImportsBy R document b config j k t p j₁) (hanswers : JournalAnswers t)
      (hrest : ImportChain document b size j₁ runs j') :
      ImportChain document b size j ((k, t) :: runs) j'

/-- The records that the store took in imports, once for each time. -/
def takenIn (size : Nat) (document : Reading) (runs : List (Nat × History)) : List (Entry R) :=
  runs.flatMap fun run => takenRecords R size run.1 document run.2

/-- The records that were recorded in imports, once for each time. -/
def recordedIn (size : Nat) (document : Reading) (runs : List (Nat × History)) : List (Entry R) :=
  runs.flatMap fun run => recordedRecords R size run.1 document run.2

end

/-- The checkpoint counts records of the document, which have been recorded.  Among them are all before
the position at which the run would be taken up, and there are no more of them than elements. -/
structure Counts (size : Nat) (document : Reading) (c : Option Checkpoint) (es : List (Entry R)) :
    Prop where
  count : recordsCounted c = es.length
  subset : ∀ e ∈ es, e ∈ entriesOf R document.elements.zipIdx
  covers : ∀ e ∈ entriesOf R document.elements.zipIdx,
    e.position < firstPosition (Logbook.batchAfter c) size → e ∈ es
  bounded : document.elements.length < Nat.pow 2 64 →
    es.length ≤ min (Logbook.batchAfter c * size) document.elements.length

theorem counts_nothing (size : Nat) (document : Reading) : Counts (R := R) size document none [] where
  count := rfl
  subset := by
    intro e he
    cases he
  covers := by
    intro e _ hlt
    have hfirst : firstPosition (Logbook.batchAfter none) size = 0 := by
      unfold firstPosition Logbook.batchAfter
      simp
    omega
  bounded := fun _ => Nat.zero_le _

theorem mem_recordsDue_iff {e : Entry R} :
    e ∈ recordsDue R size k document ↔
      e ∈ entriesOf R document.elements.zipIdx ∧ firstPosition k size ≤ e.position :=
  mem_entriesOf_drop_iff

/-- Behind the first records that are due, positions have grown by their number. -/
theorem firstPosition_add_le {e : Entry R} {n : Nat}
    (he : e ∈ (recordsDue R size k document).drop n) : firstPosition k size + n ≤ e.position := by
  have hn : n ≤ (recordsDue R size k document).length := by
    refine Nat.le_of_lt (Nat.lt_of_not_le fun hle => ?_)
    rw [List.drop_of_length_le hle] at he
    cases he
  have hpairwise : ((recordsDue R size k document).take n ++
      (recordsDue R size k document).drop n).Pairwise (·.position < ·.position) := by
    rw [List.take_append_drop]
    exact pairwise_entriesOf (pairwise_zipIdx document.elements 0).drop
  have hfirst : ∀ e ∈ (recordsDue R size k document).take n ++
      (recordsDue R size k document).drop n, firstPosition k size ≤ e.position := by
    rw [List.take_append_drop]
    exact fun e he => (mem_recordsDue_iff.1 he).2
  have hle := add_length_le_position hpairwise hfirst e he
  rwa [List.length_take, Nat.min_eq_left hn] at hle

theorem length_recordsDue_le (size k : Nat) (document : Reading) :
    (recordsDue R size k document).length ≤ document.elements.length - firstPosition k size := by
  have hle := List.length_filterMap_le (fun x : Json.Value × Nat =>
    (CatalogRecord.validate (R := R) x.1).toOption.map fun r => (⟨x.2, r⟩ : Entry R))
    (document.elements.zipIdx.drop (firstPosition k size))
  rw [List.length_drop, List.length_zipIdx] at hle
  exact hle

/-- Recording the first batches of those that are due next keeps the count. -/
theorem Counts.append {es : List (Entry R)} {n : Nat} (h : Counts size document c es)
    (hcount : recordsCounted c' = recordsCounted c +
      ((recordsDue R size (Logbook.batchAfter c) document).take (n * size)).length)
    (hnext : Logbook.batchAfter c' = Logbook.batchAfter c + n) :
    Counts size document c'
      (es ++ (recordsDue R size (Logbook.batchAfter c) document).take (n * size)) where
  count := by
    rw [hcount, h.count, List.length_append]
  subset := by
    intro e he
    rcases List.mem_append.1 he with he | he
    · exact h.subset e he
    · exact (mem_recordsDue_iff.1 (List.mem_of_mem_take he)).1
  covers := by
    intro e he hlt
    rw [hnext] at hlt
    refine List.mem_append.2 ?_
    by_cases hbefore : e.position < firstPosition (Logbook.batchAfter c) size
    · exact .inl (h.covers e he hbefore)
    · have hdue := mem_recordsDue_iff.2 ⟨he, Nat.le_of_not_lt hbefore⟩
      rw [← List.take_append_drop (n * size) (recordsDue R size _ document)] at hdue
      rcases List.mem_append.1 hdue with hmem | hrest
      · exact .inr hmem
      · have hposition := firstPosition_add_le hrest
        have hfirst : firstPosition (Logbook.batchAfter c + n) size ≤
          firstPosition (Logbook.batchAfter c) size + n * size := firstPosition_le (Nat.le_refl _)
        omega
  bounded := by
    intro hlength
    have hbefore := h.bounded hlength
    have hdue := length_recordsDue_le (R := R) size (Logbook.batchAfter c) document
    have hmul : (Logbook.batchAfter c + n) * size = Logbook.batchAfter c * size + n * size :=
      Nat.add_mul ..
    unfold firstPosition at hdue
    rw [hnext, hmul, List.length_append, List.length_take]
    omega

section

variable {j j' j₁ j₂ : Journal} {p : Task Outcome} {statistics : Statistics}
  {runs : List (Nat × History)}

/-- An import is taken up behind the batch at which the checkpoint is. -/
theorem ImportsBy.batchAfter_eq (h : ImportsBy R document b config j k t p j')
    (hc : j.loadCheckpoint b.runId = .ok c) : Logbook.batchAfter c = k := by
  obtain ⟨j₁, u, hresume, hasked, -⟩ := h
  obtain ⟨-, d, hd, rfl⟩ := hasked.resumesAt_of_yields hresume
  rw [hc] at hd
  cases hd
  rfl

/-- One that did all it had to has recorded all records that were due. -/
theorem ImportsBy.recordedRecords_eq
    (h : ImportsBy R document b config j k t (.done (.ok statistics)) j') (hanswers : JournalAnswers t) :
    recordedRecords R (max config.batchSize 1) k document t =
      recordsDue R (max config.batchSize 1) k document := by
  obtain ⟨j₁, u, -, -, hyields, hdocuments, -⟩ := h
  exact recordedRecords_eq_due hyields hdocuments hanswers

/-- An import that is taken up keeps the count. -/
theorem ImportsBy.counts {es : List (Entry R)}
    (h : ImportsBy R document b config j k t p j') (hanswers : JournalAnswers t)
    (hc : j.loadCheckpoint b.runId = .ok c) (hes : Counts (max config.batchSize 1) document c es) :
    (∃ c', j'.loadCheckpoint b.runId = .ok c' ∧ Counts (max config.batchSize 1) document c'
      (es ++ recordedRecords R (max config.batchSize 1) k document t)) ∧
    (saves t).length ≤ (offers t).countP (·.2.isSome) := by
  obtain rfl := h.batchAfter_eq hc
  obtain ⟨j₁, u, hresume, hasked, htold, hdocuments, hafter⟩ := h
  obtain ⟨rfl, -⟩ := hasked.resumesAt_of_yields hresume
  obtain ⟨c', hc', hfollows⟩ := hafter.follows hc
  obtain ⟨hcount, hnext, hle⟩ := recorded_of_told htold hdocuments hanswers hfollows rfl
  exact ⟨⟨c', hc', hes.append hcount hnext⟩, hle⟩

/-- Over any number of imports the checkpoint counts what was recorded, and the store has taken it. -/
theorem ImportChain.counts {es : List (Entry R)} (h : ImportChain R document b size j runs j')
    (hc : j.loadCheckpoint b.runId = .ok c) (hes : Counts size document c es) :
    (∃ c', j'.loadCheckpoint b.runId = .ok c' ∧
      Counts size document c' (es ++ recordedIn R size document runs)) ∧
    ∀ run ∈ runs, (saves run.2).length ≤ (offers run.2).countP (·.2.isSome) := by
  induction h generalizing c es with
  | nil j =>
    refine ⟨⟨c, hc, ?_⟩, fun run hrun => by cases hrun⟩
    rwa [recordedIn, List.flatMap_nil, List.append_nil]
  | reopened _ ih => exact ih hc hes
  | cons hsize himport hanswers _ ih =>
    subst hsize
    obtain ⟨⟨c₁, hc₁, hes₁⟩, hle⟩ := himport.counts hanswers hc hes
    obtain ⟨hrest, hrunsle⟩ := ih hc₁ hes₁
    rw [List.append_assoc] at hrest
    refine ⟨hrest, ?_⟩
    intro run hrun
    rcases List.mem_cons.1 hrun with rfl | hrun
    · exact hle
    · exact hrunsle run hrun

/-- One more import comes after the others. -/
theorem ImportChain.concat (h : ImportChain R document b size j runs j₁)
    (hsize : max config.batchSize 1 = size) (himport : ImportsBy R document b config j₁ k t p j₂)
    (hanswers : JournalAnswers t) : ImportChain R document b size j (runs ++ [(k, t)]) j₂ := by
  induction h with
  | nil j => exact .cons hsize himport hanswers (.nil j₂)
  | reopened _ ih => exact .reopened (ih himport)
  | cons hsize' himport' hanswers' _ ih => exact .cons hsize' himport' hanswers' (ih himport)

/-- What was recorded was taken, and what was taken are records of the document. -/
theorem recordedIn_subset_takenIn
    (h : ∀ run ∈ runs, (saves run.2).length ≤ (offers run.2).countP (·.2.isSome)) :
    recordedIn R size document runs ⊆ takenIn R size document runs := by
  intro e he
  obtain ⟨run, hrun, he⟩ := List.mem_flatMap.1 he
  refine List.mem_flatMap.2 ⟨run, hrun, ?_⟩
  exact (List.take_sublist_take_left (Nat.mul_le_mul_right size (h run hrun))).subset he

theorem takenIn_subset (size : Nat) (document : Reading) (runs : List (Nat × History)) :
    takenIn R size document runs ⊆ entriesOf R document.elements.zipIdx := by
  intro e he
  obtain ⟨run, -, he⟩ := List.mem_flatMap.1 he
  exact (mem_recordsDue_iff.1 (List.mem_of_mem_take he)).1

/-- As many positions are among records of a document that are all there as the document has records. -/
theorem card_positions {es : List (Entry R)}
    (hsubset : es ⊆ entriesOf R document.elements.zipIdx)
    (hall : entriesOf R document.elements.zipIdx ⊆ es) :
    (es.map (·.position)).toFinset.card = (entriesOf R document.elements.zipIdx).length := by
  have hnodup : ((entriesOf R document.elements.zipIdx).map (·.position)).Nodup := by
    have hpairwise := pairwise_entriesOf (R := R) (pairwise_zipIdx document.elements 0)
    exact List.pairwise_map.2 (hpairwise.imp Nat.ne_of_lt)
  have hsame : (es.map (·.position)).toFinset =
      ((entriesOf R document.elements.zipIdx).map (·.position)).toFinset := by
    refine List.toFinset.ext_iff.2 fun n => ?_
    exact ⟨fun hn => List.map_subset _ hsubset hn, fun hn => List.map_subset _ hall hn⟩
  rw [hsame, List.toFinset_card_of_nodup hnodup, List.length_map]

theorem nodup_iff_card {ns : List Nat} : ns.Nodup ↔ ns.toFinset.card = ns.length :=
  (Multiset.toFinset_card_eq_card_iff_nodup (m := (ns : Multiset Nat))).symm

/-- An element is a record or none. -/
theorem length_entriesOf_add (xs : List (Json.Value × Nat)) :
    (entriesOf R xs).length + (nonRecords R xs).length = xs.length := by
  have hlength := (perm_position (R := R) xs).length_eq
  rwa [List.length_append, List.length_map, List.length_map, List.length_map] at hlength

/-- Where all elements before the position at which a run would be taken up are records, those recorded
and those due are no more than there are. -/
theorem Counts.length_add_le {es : List (Entry R)} (h : Counts size document c es)
    (hlength : document.elements.length < Nat.pow 2 64)
    (hrecords : nonRecords R
      (document.elements.zipIdx.take (firstPosition (Logbook.batchAfter c) size)) = []) :
    es.length + (recordsDue R size (Logbook.batchAfter c) document).length ≤
      (entriesOf R document.elements.zipIdx).length := by
  have hbounded := h.bounded hlength
  have hbefore := length_entriesOf_add (R := R)
    (document.elements.zipIdx.take (firstPosition (Logbook.batchAfter c) size))
  rw [hrecords, List.length_nil, Nat.add_zero, List.length_take, List.length_zipIdx] at hbefore
  rw [entriesOf_take_drop document.elements (firstPosition (Logbook.batchAfter c) size),
    List.length_append, hbefore, ← recordsDue]
  unfold firstPosition
  omega

/-- What comes before the position at which a run would be taken up has been recorded; with the rest, that
is all. -/
theorem Counts.subset_append_due {es : List (Entry R)} (h : Counts size document c es) :
    entriesOf R document.elements.zipIdx ⊆ es ++ recordsDue R size (Logbook.batchAfter c) document := by
  intro e he
  by_cases hbefore : e.position < firstPosition (Logbook.batchAfter c) size
  · exact List.mem_append_left _ (h.covers e he hbefore)
  · exact List.mem_append_right _ (mem_recordsDue_iff.2 ⟨he, Nat.le_of_not_lt hbefore⟩)

/-- When a document has been imported under the id of a run that had no checkpoint, by any number of
imports with one size of batches that were cut short and a last one that did all it had to, and the
journal did all that it was asked to do, the checkpoint counts every record as often as it was recorded:
what it counted before the last import, and the records that were due in that.  The store has taken the
records at as many positions as the document has records, and that many are counted at least.  They are
exactly as many if and only if no record was recorded twice.  So it is when all elements before the
position at which the last import began are records; positions have 64 bits. -/
theorem count_after_imports (hfresh : j.loadCheckpoint b.runId = .ok none)
    (hchain : ImportChain R document b size j runs j₁) (hsize : max config.batchSize 1 = size)
    (hlast : ImportsBy R document b config j₁ k t (.done (.ok statistics)) j₂)
    (hanswers : JournalAnswers t) :
    ∃ c₁ c₂, j₁.loadCheckpoint b.runId = .ok c₁ ∧ Logbook.batchAfter c₁ = k ∧
      j₂.loadCheckpoint b.runId = .ok c₂ ∧
      recordsCounted c₂ = recordsCounted c₁ + (recordsDue R size k document).length ∧
      recordsCounted c₂ = (recordedIn R size document (runs ++ [(k, t)])).length ∧
      ((takenIn R size document (runs ++ [(k, t)])).map (·.position)).toFinset.card =
        (entriesOf R document.elements.zipIdx).length ∧
      (entriesOf R document.elements.zipIdx).length ≤ recordsCounted c₂ ∧
      (recordsCounted c₂ = (entriesOf R document.elements.zipIdx).length ↔
        ((recordedIn R size document (runs ++ [(k, t)])).map (·.position)).Nodup) ∧
      (document.elements.length < Nat.pow 2 64 →
        nonRecords R (document.elements.zipIdx.take (firstPosition k size)) = [] →
          recordsCounted c₂ = (entriesOf R document.elements.zipIdx).length) := by
  have hwhole := hchain.concat hsize hlast hanswers
  obtain ⟨⟨c₁, hc₁, hes₁⟩, -⟩ := hchain.counts hfresh (counts_nothing size document)
  obtain ⟨⟨c₂, hc₂, hes₂⟩, hsaved⟩ := hwhole.counts hfresh (counts_nothing size document)
  rw [List.nil_append] at hes₁ hes₂
  obtain rfl := hlast.batchAfter_eq hc₁
  -- the last import has recorded all that was due in it
  have hrecorded : recordedIn R size document (runs ++ [(Logbook.batchAfter c₁, t)]) =
      recordedIn R size document runs ++ recordsDue R size (Logbook.batchAfter c₁) document := by
    subst hsize
    rw [recordedIn, List.flatMap_append, List.flatMap_singleton, hlast.recordedRecords_eq hanswers]
    rfl
  have hcount : recordsCounted c₂ =
      recordsCounted c₁ + (recordsDue R size (Logbook.batchAfter c₁) document).length := by
    rw [hes₂.count, hrecorded, List.length_append, hes₁.count]
  have hall := hes₁.subset_append_due
  rw [← hrecorded] at hall
  have hcard := card_positions hes₂.subset hall
  have htaken := card_positions (takenIn_subset size document _)
    fun e he => recordedIn_subset_takenIn hsaved (hall he)
  have hleast := List.toFinset_card_le ((recordedIn R size document
    (runs ++ [(Logbook.batchAfter c₁, t)])).map (·.position))
  rw [hcard, List.length_map, ← hes₂.count] at hleast
  refine ⟨c₁, c₂, hc₁, rfl, hc₂, hcount, hes₂.count, htaken, hleast, ?_, ?_⟩
  · rw [nodup_iff_card, hcard, List.length_map, ← hes₂.count]
    exact eq_comm
  · intro hlength hrecords
    have hmost := hes₁.length_add_le hlength hrecords
    have hcount₁ := hes₁.count
    omega

end

end

/-! ## An import that is taken up behind an element that is no record -/

namespace Sample

/-- An import in a scene, taken up where its journal says. -/
theorem importsBy_of_run {batchSize k n : Nat} {s : Scene} {outcome : Outcome}
    (hresume : (logbook.resumePoint.run (Scene.surroundings document) (s, n)).1 = .finished (.ok k))
    (hrun : (run batchSize k (s, n)).1 = .finished outcome) :
    ImportsBy CardSet document logbook (config batchSize) s.journal k (history batchSize k (s, n))
      (.done outcome) (run batchSize k (s, n)).2.1.journal := by
  have hscene : (logbook.resumePoint.run (Scene.surroundings document) (s, n)).2 = (s, n) := rfl
  have hasked := Scene.after_of_run hresume
  rw [hscene] at hasked
  have hafter := Scene.after_of_run hrun
  exact ⟨s.journal, _, Program.run_yields hresume, hasked.journal, Program.run_yields hrun, hafter.documents,
    hafter.journal⟩

/-- The scene after the store has taken two batches of one record and refused the third. -/
def interruptedLater : Scene := (run 1 0 (scene, 2)).2.1

/-- The imports that lead there, with their histories. -/
def earlier : List (Nat × History) := [(0, history 1 0 (scene, 2))]

theorem importChain_earlier :
    ImportChain CardSet document logbook 1 scene.journal earlier interruptedLater.journal := by
  have hrun : (run 1 0 (scene, 2)).1 = .finished (.error ⟨.batchFailed 2 1 (.transport "refused"),
      ⟨3, 2, 1, 2, 1, 0, .epoch, some .epoch⟩⟩) := by decide +kernel
  exact .cons rfl (importsBy_of_run (k := 0) (n := 2) rfl hrun) (by decide +kernel) (.nil _)

/-- The import is taken up with the third batch, and comes to the second record again. -/
theorem importsBy_taken_up :
    ImportsBy CardSet document logbook (config 1) interruptedLater.journal 2
      (history 1 2 (interruptedLater, 9))
      (.done (.ok ⟨2, 2, 0, 2, 0, 0, .epoch, some .epoch⟩)) (run 1 2 (interruptedLater, 9)).2.1.journal :=
  importsBy_of_run (by decide +kernel) (by decide +kernel)

end Sample

theorem count_after_imports_of_sample :
    ∃ c, (Sample.run 1 2 (Sample.interruptedLater, 9)).2.1.journal.loadCheckpoint "sets" = .ok c ∧
      recordsCounted c = 4 ∧ (entriesOf CardSet Sample.document.elements.zipIdx).length = 3 := by
  have hanswers : JournalAnswers (Sample.history 1 2 (Sample.interruptedLater, 9)) := by
    decide +kernel
  obtain ⟨-, c, -, -, hc, -, hcount, -⟩ := count_after_imports rfl Sample.importChain_earlier rfl
    Sample.importsBy_taken_up hanswers
  exact ⟨c, hc, hcount.trans (by decide +kernel), by decide +kernel⟩

/-- A checkpoint may count more records than the store has taken, each counted once. -/
theorem not_counted_once :
    ¬ ∀ (document : Reading) (b : Logbook) (config : Config) (j j₁ j₂ : Journal)
        (runs : List (Nat × History)) (k : Nat) (t : History) (statistics : Statistics)
        (c : Option Checkpoint),
      1 ≤ config.batchSize → config.skipValidationErrors = true →
      j.loadCheckpoint b.runId = .ok none →
      ImportChain CardSet document b config.batchSize j runs j₁ →
      ImportsBy CardSet document b config j₁ k t (.done (.ok statistics)) j₂ →
      JournalAnswers t → j₂.loadCheckpoint b.runId = .ok c →
      recordsCounted c = ((takenIn CardSet config.batchSize document (runs ++ [(k, t)])).map
        (·.position)).toFinset.card := by
  intro hall
  have hanswers : JournalAnswers (Sample.history 1 2 (Sample.interruptedLater, 9)) := by
    decide +kernel
  have hcheckpoint : (Sample.run 1 2 (Sample.interruptedLater, 9)).2.1.journal.loadCheckpoint "sets" =
      .ok (some ⟨"sets", "sets", "sets.json", 3, 4, .epoch⟩) := by decide +kernel
  have hcounted := hall Sample.document Sample.logbook (Sample.config 1) Sample.scene.journal
    Sample.interruptedLater.journal _ Sample.earlier 2 _ _ _ (Nat.le_refl 1) rfl rfl
    Sample.importChain_earlier Sample.importsBy_taken_up hanswers hcheckpoint
  have hpositions : ((takenIn CardSet (Sample.config 1).batchSize Sample.document
      (Sample.earlier ++ [(2, Sample.history 1 2 (Sample.interruptedLater, 9))])).map
        (·.position)).toFinset.card = 3 := by decide +kernel
  rw [hpositions] at hcounted
  exact absurd hcounted (by decide)

end CatalogImport
