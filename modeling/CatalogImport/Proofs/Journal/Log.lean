import CatalogImport.Journal.Progress
import CatalogImport.Proofs.Decimal.Padded
import CatalogImport.Proofs.Index
import CatalogImport.Proofs.Journal.Checkpoint

/-!
# Logs of runs in one journal

The events of all runs lie in one journal, and the log of a run is what lies under keys that begin with its
id and a colon.  The run's own events are all there, in the order in which they were logged
(`own_events_in_order`).  But the log also shows the events of every run whose id goes on behind that colon,
and only those (`log_shows_exactly`).
-/

namespace CatalogImport

open CatalogImport.Decimal

/-- The event in a row, if there is one. -/
def eventIn? : String × Leaf → Option Event
  | (_, .event e) => some e
  | _ => none

namespace Journal

/-! ## Keys -/

/-- The log of a run shows what is logged under an id: under its own, and under any id that goes on behind
it with a colon. -/
def Shows (runId other : String) : Prop := other = runId ∨ (runId ++ ":").toList <+: other.toList

instance (runId other : String) : Decidable (Shows runId other) :=
  inferInstanceAs (Decidable (other = runId ∨ (runId ++ ":").toList <+: other.toList))

theorem toList_eventStem (runId : String) :
    (eventStem runId).toList = "wal:".toList ++ (runId ++ ":").toList := by
  unfold eventStem
  rw [String.append_assoc, String.toList_append]

theorem toList_eventKey (runId : String) (n : Nat) :
    (eventKey runId n).toList = "wal:".toList ++ (runId.toList ++ ':' :: (padded 20 n).toList) := by
  unfold eventKey
  rw [String.toList_append, toList_eventStem, String.toList_append, List.append_assoc, List.append_assoc]
  rfl

/-- There is no colon in the number of an event, so its key begins as those of a run do only if its own id
does. -/
theorem eventStem_isPrefix_iff {runId other : String} {n : Nat} :
    (eventStem runId).toList <+: (eventKey other n).toList ↔ Shows runId other := by
  rw [toList_eventStem, toList_eventKey, List.prefix_append_right_inj]
  constructor
  · intro h
    rcases List.prefix_or_prefix_of_prefix h (List.prefix_append _ _) with hlong | ⟨u, hu⟩
    · exact .inr hlong
    · rw [← hu, List.prefix_append_right_inj] at h
      rw [String.toList_append] at hu
      rcases List.eq_nil_or_concat u with rfl | ⟨v, c, rfl⟩
      · rw [List.append_nil, ← String.toList_append] at hu
        exact .inr (hu ▸ List.prefix_rfl)
      · rw [List.concat_eq_append] at h hu
        rw [← List.append_assoc] at hu
        obtain ⟨hid, hcolon⟩ := List.append_inj' hu rfl
        obtain rfl : c = ':' := List.singleton_inj.1 hcolon
        cases v with
        | nil =>
          rw [List.append_nil] at hid
          exact .inl (String.toList_inj.1 hid)
        | cons d v =>
          -- a second colon would have to stand in the number
          obtain ⟨-, hnumber⟩ := List.cons_prefix_cons.1 h
          have hmem : ':' ∈ (padded 20 n).toList :=
            hnumber.subset (List.mem_append_right v List.mem_cons_self)
          exact absurd (isDigit_of_mem_padded hmem) (by decide)
  · rintro (rfl | h)
    · rw [String.toList_append]
      exact (List.prefix_append_right_inj _).2 ⟨(padded 20 n).toList, rfl⟩
    · exact h.trans (List.prefix_append _ _)

/-- The keys of a run's checkpoint and of events do not begin alike. -/
theorem not_eventStem_isPrefix (runId other : String) :
    ¬ (eventStem runId).toList <+: (checkpointKey other).toList := by
  have hkey : (checkpointKey other).toList = "chk:".toList ++ other.toList := String.toList_append
  rw [toList_eventStem, hkey]
  intro h
  have hfirst : ('w' :: ("al:".toList ++ (runId ++ ":").toList)) <+: 'c' :: ("hk:".toList ++ other.toList) := h
  exact absurd (List.cons_prefix_cons.1 hfirst).1 (by decide)

/-- The keys of a run's events order as their numbers do. -/
theorem eventKey_lt_eventKey (runId : String) {m n : Nat} (hmn : m < n) (hn : n < 10 ^ 20) :
    eventKey runId m < eventKey runId n := by
  rw [String.lt_iff, toList_eventKey, toList_eventKey]
  refine List.append_left_lt (List.append_left_lt (List.cons_lt_cons_iff.2 (.inr ⟨rfl, ?_⟩)))
  exact padded_lt_padded hmn hn

/-- Events with different numbers have different keys, whatever runs they are of. -/
theorem number_eq_of_eventKey_eq {runId other : String} {m n : Nat} (hm : m < 10 ^ 20) (hn : n < 10 ^ 20)
    (h : eventKey runId m = eventKey other n) : m = n := by
  have hlist := congrArg String.toList h
  unfold eventKey at hlist
  rw [String.toList_append, String.toList_append] at hlist
  have hlength : (padded 20 m).toList.length = 20 := length_toList_padded (by decide) hm
  have hlength' : (padded 20 n).toList.length = 20 := length_toList_padded (by decide) hn
  obtain ⟨-, hnumber⟩ := List.append_inj' hlist (hlength.trans hlength'.symm)
  rcases Nat.lt_trichotomy m n with hlt | heq | hgt
  · have hless : (padded 20 m).toList < (padded 20 n).toList := padded_lt_padded hlt hn
    rw [hnumber] at hless
    exact absurd hless (List.lt_irrefl _)
  · exact heq
  · have hless : (padded 20 n).toList < (padded 20 m).toList := padded_lt_padded hgt hm
    rw [hnumber] at hless
    exact absurd hless (List.lt_irrefl _)

/-! ## Journals and what has been logged in them -/

/-- The events of all runs, in the order of their keys. -/
def allEvents (j : Journal) : List Event := j.leaves.rows.filterMap eventIn?

/-- The events of one run among others. -/
def ownEvents (runId : String) (es : List Event) : List Event := es.filter fun e => e.runId = runId

theorem ownEvents_concat (es : List Event) (e : Event) :
    ownEvents e.runId (es ++ [e]) = ownEvents e.runId es ++ [e] := by
  simp [ownEvents]

theorem ownEvents_concat_of_ne {runId : String} {e : Event} (h : e.runId ≠ runId) (es : List Event) :
    ownEvents runId (es ++ [e]) = ownEvents runId es := by
  simp [ownEvents, h]

/-- A row of a journal whose next number is given: a checkpoint under its key, or an event under its key
with a number that has been given out. -/
def IsRowOf (next : Nat) (row : String × Leaf) : Prop :=
  (∃ c, row = (checkpointKey c.runId, .checkpoint c)) ∨
    ∃ e n, n < next ∧ row = (eventKey e.runId n, .event e)

/-- A journal in which every leaf lies under its key. -/
def Keyed (j : Journal) : Prop := ∀ row ∈ j.leaves.rows, IsRowOf j.next row

theorem IsRowOf.mono {next later : Nat} {row : String × Leaf} (h : IsRowOf next row)
    (hle : next ≤ later) : IsRowOf later row := by
  rcases h with hrow | ⟨e, n, hn, hrow⟩
  · exact .inl hrow
  · exact .inr ⟨e, n, Nat.lt_of_lt_of_le hn hle, hrow⟩

theorem Keyed.append {j : Journal} (h : Keyed j) (e : Event) : Keyed (j.append e) := by
  intro row hrow
  rcases mem_putRow hrow with rfl | hrow
  · exact .inr ⟨e, j.next, Nat.lt_succ_self _, rfl⟩
  · exact (h row hrow).mono (Nat.le_succ _)

theorem Keyed.saveCheckpoint {j j' : Journal} {c : Checkpoint} (h : Keyed j)
    (hsave : j.saveCheckpoint c = .ok j') : Keyed j' := by
  rcases eq_or_eq_of_saveCheckpoint hsave with rfl | rfl
  · exact h
  · intro row hrow
    rcases mem_putRow hrow with rfl | hrow
    · exact .inl ⟨c, rfl⟩
    · exact h row hrow

theorem Keyed.renumber {j : Journal} (h : Keyed j) {next : Nat} (hle : j.next ≤ next) (block : Nat) :
    Keyed ⟨j.leaves, next, block⟩ := fun row hrow => (h row hrow).mono hle

/-! ## Reading a log -/

/-- The log of a run are the events that it shows, in the order of their keys, and it can be read. -/
theorem Keyed.events_eq {j : Journal} (h : Keyed j) (runId : String) :
    j.events runId = .ok (j.allEvents.filter fun e => Shows runId e.runId) := by
  unfold events scan allEvents
  unfold Keyed at h
  generalize j.leaves.rows = rows at h
  induction rows with
  | nil => rfl
  | cons row rows ih =>
    have hrest := ih fun r hr => h r (List.mem_cons_of_mem row hr)
    rcases h row List.mem_cons_self with ⟨c, rfl⟩ | ⟨e, n, -, rfl⟩
    · have hkey := not_eventStem_isPrefix runId c.runId
      rw [← List.isPrefixOf_iff_prefix] at hkey
      rw [List.filter_cons_of_neg (a := (checkpointKey c.runId, Leaf.checkpoint c)) hkey,
        List.filterMap_cons_none (a := (checkpointKey c.runId, Leaf.checkpoint c)) rfl]
      exact hrest
    · have hkey : _ ↔ Shows runId e.runId := eventStem_isPrefix_iff (n := n)
      rw [← List.isPrefixOf_iff_prefix] at hkey
      have hevent : eventIn? (eventKey e.runId n, .event e) = some e := rfl
      rw [List.filterMap_cons_some hevent]
      by_cases hshows : Shows runId e.runId
      · rw [List.filter_cons_of_pos (a := (eventKey e.runId n, Leaf.event e)) (hkey.2 hshows),
          List.filter_cons_of_pos (p := fun e : Event => decide (Shows runId e.runId))
            (decide_eq_true hshows)]
        exact congrArg (Except.map (e :: ·)) hrest
      · rw [List.filter_cons_of_neg (a := (eventKey e.runId n, Leaf.event e)) (mt hkey.1 hshows),
          List.filter_cons_of_neg (p := fun e : Event => decide (Shows runId e.runId))
            (by rwa [decide_eq_true_eq])]
        exact hrest

/-- The next event finds its key free. -/
theorem Keyed.key_ne {j : Journal} (h : Keyed j) (hnext : j.next < 10 ^ 20) (runId : String) :
    ∀ row ∈ j.leaves.rows, row.1 ≠ eventKey runId j.next := by
  intro row hrow
  rcases h row hrow with ⟨c, rfl⟩ | ⟨e, n, hn, rfl⟩
  · exact checkpointKey_ne_eventKey c.runId runId j.next
  · intro heq
    have hnumber := number_eq_of_eventKey_eq (Nat.lt_trans hn hnext) hnext heq
    exact absurd hnumber (Nat.ne_of_lt hn)

/-- An event that is logged comes to the others, of whatever runs. -/
theorem Keyed.allEvents_append {j : Journal} (h : Keyed j) (hnext : j.next < 10 ^ 20) (e : Event) :
    (j.append e).allEvents.Perm (e :: j.allEvents) := by
  have hrows : (putRow (eventKey e.runId j.next) (Leaf.event e) j.leaves.rows).Perm
      ((eventKey e.runId j.next, .event e) :: j.leaves.rows) :=
    putRow_perm (h.key_ne hnext e.runId)
  exact hrows.filterMap eventIn?

/-- Among the events of its run, an event that is logged comes last. -/
theorem Keyed.own_allEvents_append {j : Journal} (h : Keyed j) (hnext : j.next < 10 ^ 20) (e : Event) :
    ownEvents e.runId (j.append e).allEvents = ownEvents e.runId j.allEvents ++ [e] := by
  unfold ownEvents allEvents
  rw [List.filter_filterMap, List.filter_filterMap]
  refine filterMap_putRow_of_last j.leaves.ordered ?_ fun row hrow hread => ?_
  · exact Option.filter_some_pos (decide_eq_true rfl)
  · rcases h row hrow with ⟨c, rfl⟩ | ⟨d, n, hn, rfl⟩
    · exact absurd rfl hread
    · by_cases hown : d.runId = e.runId
      · rw [hown]
        exact eventKey_lt_eventKey e.runId hn hnext
      · have hnone : Option.filter (fun d : Event => decide (d.runId = e.runId)) (some d) = none :=
          Option.filter_some_neg (decide_eq_false hown)
        exact absurd hnone hread

/-- The events that a log does not take in leave it as it is. -/
theorem Keyed.filter_allEvents_append {j : Journal} (h : Keyed j) (hnext : j.next < 10 ^ 20) {e : Event}
    {p : Event → Bool} (hp : p e = false) :
    (j.append e).allEvents.filter p = j.allEvents.filter p := by
  unfold allEvents
  rw [List.filter_filterMap, List.filter_filterMap]
  refine filterMap_putRow_of_none ?_ fun row hrow hkey => ?_
  · exact Option.filter_some_neg hp
  · exact absurd hkey (h.key_ne hnext e.runId row hrow)

/-- A checkpoint leaves the events alone. -/
theorem Keyed.allEvents_saveCheckpoint {j j' : Journal} {c : Checkpoint} (h : Keyed j)
    (hsave : j.saveCheckpoint c = .ok j') : j'.allEvents = j.allEvents := by
  rcases eq_or_eq_of_saveCheckpoint hsave with rfl | rfl
  · rfl
  · refine filterMap_putRow_of_none rfl fun row hrow hkey => ?_
    rcases h row hrow with ⟨d, rfl⟩ | ⟨e, n, -, rfl⟩
    · rfl
    · exact absurd hkey.symm (checkpointKey_ne_eventKey c.runId e.runId n)

/-! ## Journals in which events have been logged -/

/-- Journals in which events of any runs have been logged, in the order given.  Meanwhile checkpoints may
have been written, and numbers passed over, as when the journal is opened again. -/
inductive Logged : List Event → Journal → Prop
  | empty : Logged [] .empty
  | append {es : List Event} {j : Journal} (h : Logged es j) (e : Event) : Logged (es ++ [e]) (j.append e)
  | saved {es : List Event} {j j' : Journal} {c : Checkpoint} (h : Logged es j)
      (hsave : j.saveCheckpoint c = .ok j') : Logged es j'
  | skipped {es : List Event} {j : Journal} {next block : Nat} (h : Logged es j) (hnext : j.next ≤ next)
      (hblock : next ≤ block + 2 * blockSize) : Logged es ⟨j.leaves, next, block⟩

/-- The next number is less than two blocks behind the start of the last one used. -/
theorem Logged.next_le {es : List Event} {j : Journal} (h : Logged es j) :
    j.next ≤ j.block + 2 * blockSize := by
  induction h with
  | empty => exact Nat.zero_le _
  | @append es j _ e ih =>
    have hblock := Nat.lt_div_mul_add (b := blockSize) (a := j.next) (by decide)
    have hmax := Nat.le_max_right j.block (j.next / blockSize * blockSize)
    change j.next + 1 ≤ max j.block (j.next / blockSize * blockSize) + 2 * blockSize
    omega
  | saved h hsave ih =>
    rcases eq_or_eq_of_saveCheckpoint hsave with rfl | rfl
    · exact ih
    · exact ih
  | skipped h hnext hblock ih => exact hblock

/-- A journal that is opened again passes over numbers. -/
theorem Logged.reopen {es : List Event} {j : Journal} (h : Logged es j) : Logged es j.reopen :=
  .skipped h h.next_le (Nat.le_refl _)

theorem Logged.keyed {es : List Event} {j : Journal} (h : Logged es j) : Keyed j := by
  induction h with
  | empty => exact fun row hrow => absurd hrow (List.not_mem_nil)
  | append h e ih => exact ih.append e
  | saved h hsave ih => exact ih.saveCheckpoint hsave
  | skipped h hnext hblock ih => exact ih.renumber hnext _

/-- What a journal holds of the events that were logged, as long as their numbers have 64 bits: all of them,
and those of each run in their order. -/
theorem Logged.allEvents_perm {es : List Event} {j : Journal} (h : Logged es j) (hnext : j.next ≤ 2 ^ 64) :
    j.allEvents.Perm es ∧ ∀ runId, ownEvents runId j.allEvents = ownEvents runId es := by
  induction h with
  | empty => exact ⟨.refl _, fun runId => rfl⟩
  | @append es j h e ih =>
    have hlt : j.next < 2 ^ 64 := hnext
    have hdigits : j.next < 10 ^ 20 := by omega
    obtain ⟨hperm, hown⟩ := ih (Nat.le_of_lt hlt)
    constructor
    · exact (h.keyed.allEvents_append hdigits e).trans
        ((hperm.cons e).trans (List.perm_append_singleton e es).symm)
    · intro runId
      by_cases hrun : e.runId = runId
      · subst hrun
        rw [h.keyed.own_allEvents_append hdigits e, ownEvents_concat, hown]
      · rw [ownEvents_concat_of_ne hrun, ← hown]
        exact h.keyed.filter_allEvents_append hdigits (decide_eq_false hrun)
  | saved h hsave ih =>
    rw [h.keyed.allEvents_saveCheckpoint hsave]
    refine ih ?_
    rcases eq_or_eq_of_saveCheckpoint hsave with rfl | rfl
    · exact hnext
    · exact hnext
  | skipped h hle hblock ih => exact ih (Nat.le_trans hle hnext)

/-! ## Logs of runs -/

theorem shows_of_eq {runId other : String} (h : other = runId) : Shows runId other := .inl h

/-- A log that shows events of its own run only shows all of these. -/
theorem filter_shows_eq_ownEvents {runId : String} {es : List Event}
    (h : ∀ e ∈ es, Shows runId e.runId → e.runId = runId) :
    es.filter (fun e => Shows runId e.runId) = ownEvents runId es :=
  List.filter_congr fun e he => decide_eq_decide.2 ⟨h e he, shows_of_eq⟩

/-- The run's own events are among those that its log shows. -/
theorem ownEvents_filter_shows (runId : String) (es : List Event) :
    ownEvents runId (es.filter fun e => Shows runId e.runId) = ownEvents runId es := by
  unfold ownEvents
  rw [List.filter_filter]
  refine List.filter_congr fun e _ => ?_
  rw [← Bool.decide_and]
  exact decide_eq_decide.2 ⟨And.left, fun hown => ⟨hown, shows_of_eq hown⟩⟩

/-- The log of a run holds the run's own events in the order in which they were logged, each as often as it
was logged, whatever was logged for other runs in between. -/
theorem own_events_in_order {es : List Event} {j : Journal} (h : Logged es j) (hnext : j.next ≤ 2 ^ 64)
    (runId : String) :
    ∃ evs, j.events runId = .ok evs ∧ ownEvents runId evs = ownEvents runId es := by
  refine ⟨_, h.keyed.events_eq runId, ?_⟩
  rw [ownEvents_filter_shows]
  exact (h.allEvents_perm hnext).2 runId

namespace Sample

/-- A run is aborted. -/
def aborted (runId error : String) : Event := ⟨runId, .aborted error, .epoch⟩

/-- A journal in which two runs are logged in turn, and which is opened again meanwhile. -/
def journal : Journal :=
  (((empty.append (aborted "a" "first")).append (aborted "a:b" "other")).reopen).append (aborted "a" "second")

theorem logged_journal :
    Logged [aborted "a" "first", aborted "a:b" "other", aborted "a" "second"] journal :=
  ((Logged.empty.append _).append _).reopen.append _

theorem logged_other : Logged [aborted "a:b" "other"] (empty.append (aborted "a:b" "other")) :=
  Logged.empty.append _

end Sample

theorem own_events_in_order_beside_others :
    Sample.journal.next ≤ 2 ^ 64 ∧ ∃ evs, Sample.journal.events "a" = .ok evs ∧
      ownEvents "a" evs = [Sample.aborted "a" "first", Sample.aborted "a" "second"] :=
  ⟨by decide, own_events_in_order Sample.logged_journal (by decide) "a"⟩

/-- The log of a run shows its own events and those of the runs whose id goes on behind its own with a colon,
and no others.  So it shows only its own exactly if there are no events of such runs, and then what is known
about the run comes from its own events and its checkpoint; an event of another run has no bearing on the log
unless the log shows it. -/
theorem log_shows_exactly {es : List Event} {j : Journal} (h : Logged es j) (hnext : j.next < 2 ^ 64)
    (runId : String) :
    ∃ evs, j.events runId = .ok evs ∧ evs.Perm (es.filter fun e => Shows runId e.runId) ∧
      ((∀ e ∈ evs, e.runId = runId) ↔ ∀ e ∈ es, Shows runId e.runId → e.runId = runId) ∧
      ((∀ e ∈ es, Shows runId e.runId → e.runId = runId) →
        j.progress runId = progressFrom (.ok (ownEvents runId es)) (j.loadCheckpoint runId)) ∧
      ∀ e : Event,
        (¬ Shows runId e.runId →
          (j.append e).events runId = .ok evs ∧ (j.append e).progress runId = j.progress runId) ∧
        (Shows runId e.runId → ∃ evs', (j.append e).events runId = .ok evs' ∧ evs'.Perm (e :: evs)) := by
  have hdigits : j.next < 10 ^ 20 := by omega
  obtain ⟨hperm, hown⟩ := h.allEvents_perm (Nat.le_of_lt hnext)
  have hmem : ∀ e, e ∈ j.allEvents ↔ e ∈ es := fun e => hperm.mem_iff
  refine ⟨_, h.keyed.events_eq runId, hperm.filter _, ?_, ?_, fun e => ⟨?_, ?_⟩⟩
  · constructor
    · intro hall e he hshows
      exact hall e (List.mem_filter.2 ⟨(hmem e).2 he, decide_eq_true hshows⟩)
    · intro hall e he
      obtain ⟨he, hshows⟩ := List.mem_filter.1 he
      exact hall e ((hmem e).1 he) (of_decide_eq_true hshows)
  · intro hall
    unfold progress
    rw [h.keyed.events_eq, filter_shows_eq_ownEvents fun e he => hall e ((hmem e).1 he), hown]
  · intro hshows
    have hevents : (j.append e).events runId = j.events runId := by
      rw [(h.keyed.append e).events_eq, h.keyed.events_eq,
        h.keyed.filter_allEvents_append hdigits (decide_eq_false hshows)]
    constructor
    · rw [hevents, h.keyed.events_eq]
    · unfold progress
      rw [hevents, loadCheckpoint_append]
  · intro hshows
    refine ⟨_, (h.keyed.append e).events_eq runId, ?_⟩
    rw [← List.filter_cons_of_pos (p := fun e : Event => decide (Shows runId e.runId))
      (decide_eq_true hshows)]
    exact (h.keyed.allEvents_append hdigits e).filter _

theorem log_shows_continued_run :
    (empty.append (Sample.aborted "a:b" "other")).next < 2 ^ 64 ∧
      ∃ evs, (empty.append (Sample.aborted "a:b" "other")).events "a" = .ok evs ∧
        evs.Perm [Sample.aborted "a:b" "other"] := by
  have hnext : (empty.append (Sample.aborted "a:b" "other")).next < 2 ^ 64 := by decide
  obtain ⟨evs, hevents, hperm, -⟩ := log_shows_exactly Sample.logged_other hnext "a"
  exact ⟨hnext, evs, hevents, hperm⟩

/-- The log of a run may show the event of another run, and what is known about the run may come of it. -/
theorem logs_not_apart :
    (¬ ∀ (es : List Event) (j : Journal) (runId : String) (evs : List Event), Logged es j →
        j.events runId = .ok evs → ∀ e ∈ evs, e.runId = runId) ∧
      ¬ ∀ (es : List Event) (j : Journal) (runId : String) (e : Event), Logged es j → e.runId ≠ runId →
          (j.append e).progress runId = j.progress runId := by
  constructor
  · intro hown
    have hevents := Sample.logged_other.keyed.events_eq "a"
    have hmem : Sample.aborted "a:b" "other" ∈
        (empty.append (Sample.aborted "a:b" "other")).allEvents.filter fun e => Shows "a" e.runId := by
      decide +kernel
    exact absurd (hown _ _ _ _ Sample.logged_other hevents _ hmem) (by decide)
  · intro hsame
    have hprogress := hsame [] empty "a" (Sample.aborted "a:b" "other") .empty (by decide)
    have hstage : ((empty.append (Sample.aborted "a:b" "other")).progress "a").toOption.map (·.stage) =
        some .failed := by
      decide +kernel
    rw [hprogress] at hstage
    exact absurd hstage (by decide)

end Journal

end CatalogImport
