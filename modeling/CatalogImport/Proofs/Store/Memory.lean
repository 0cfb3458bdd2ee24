import CatalogImport.Store.Memory

/-!
# What a store in memory holds

Which payload is found under an id after records have been written: that of the last of them with the id,
and what was found before if there is none.  Main statements: `find?_addMany`, that writing records in two
goes is writing them in one (`addMany_append`), and what is reported of them (`report_addMany`).
-/

namespace CatalogImport.MemoryStore

open CatalogImport.Json

/-- The store after one record has been written; a record without an id is refused. -/
def put (s : MemoryStore) (r : Stored) : MemoryStore :=
  if r.id = "" then s else { s with records := s.records.insert r.id r.payload }

theorem addOne_fst (s : MemoryStore) (report : BatchResult) (r : Stored) :
    (addOne (s, report) r).1 = s.put r := by
  unfold addOne put
  split
  · rfl
  · rfl

/-- The report has no bearing on what is written. -/
theorem foldl_addOne_fst (s : MemoryStore) (report : BatchResult) (records : List Stored) :
    (records.foldl addOne (s, report)).1 = records.foldl put s := by
  induction records generalizing s report with
  | nil => rfl
  | cons r records ih =>
    rw [List.foldl_cons, List.foldl_cons, ← addOne_fst s report r]
    exact ih _ _

theorem addMany_fst (s : MemoryStore) (records : List Stored) :
    (s.addMany records).1 = records.foldl put s := foldl_addOne_fst s .empty records

/-- The ids of the records that have one, in order. -/
def givenIds (records : List Stored) : List String := (records.map (·.id)).filter (· ≠ "")

/-- How many of the records have no id. -/
def nameless (records : List Stored) : Nat := records.countP (·.id = "")

theorem givenIds_cons_of_ne {r : Stored} (h : r.id ≠ "") (records : List Stored) :
    givenIds (r :: records) = r.id :: givenIds records :=
  List.filter_cons_of_pos (decide_eq_true h)

theorem givenIds_cons_of_eq {r : Stored} (h : r.id = "") (records : List Stored) :
    givenIds (r :: records) = givenIds records :=
  List.filter_cons_of_neg (by simpa using h)

theorem nameless_cons_of_eq {r : Stored} (h : r.id = "") (records : List Stored) :
    nameless (r :: records) = nameless records + 1 :=
  List.countP_cons_of_pos (decide_eq_true h)

theorem nameless_cons_of_ne {r : Stored} (h : r.id ≠ "") (records : List Stored) :
    nameless (r :: records) = nameless records :=
  List.countP_cons_of_neg (by simpa using h)

theorem mem_givenIds_iff {id : String} {records : List Stored} :
    id ∈ givenIds records ↔ ∃ r ∈ records, r.id = id ∧ id ≠ "" := by
  unfold givenIds
  rw [List.mem_filter, List.mem_map, decide_eq_true_eq]
  exact ⟨fun ⟨⟨r, hr, hid⟩, hne⟩ => ⟨r, hr, hid, hne⟩, fun ⟨r, hr, hid, hne⟩ => ⟨⟨r, hr, hid⟩, hne⟩⟩

/-- A record has an id or has none. -/
theorem length_givenIds (records : List Stored) :
    (givenIds records).length + nameless records = records.length := by
  induction records with
  | nil => rfl
  | cons r records ih =>
    by_cases hid : r.id = ""
    · rw [givenIds_cons_of_eq hid, nameless_cons_of_eq hid, List.length_cons]
      omega
    · rw [givenIds_cons_of_ne hid, nameless_cons_of_ne hid, List.length_cons, List.length_cons]
      omega

/-- Each record is reported in turn, as inserted if it has an id and as refused if it has none. -/
theorem foldl_addOne_snd (records : List Stored) (s : MemoryStore) (report : BatchResult) :
    (records.foldl addOne (s, report)).2 =
      { total := report.total + records.length
        successful := report.successful + (givenIds records).length
        failed := report.failed + nameless records
        insertedIds := report.insertedIds ++ givenIds records
        errorDetails := report.errorDetails ++ List.replicate (nameless records) "record without id" } := by
  induction records generalizing s report with
  | nil => simp [givenIds, nameless]
  | cons r records ih =>
    rw [List.foldl_cons]
    by_cases hid : r.id = ""
    · rw [addOne, if_pos hid, ih, givenIds_cons_of_eq hid, nameless_cons_of_eq hid]
      simp [BatchResult.recordFailure, List.replicate_succ, Nat.add_assoc, Nat.add_comm 1]
    · rw [addOne, if_neg hid, ih, givenIds_cons_of_ne hid, nameless_cons_of_ne hid]
      simp [BatchResult.recordSuccess, Nat.add_assoc, Nat.add_comm 1]

/-- What is reported of records depends on nothing but their ids, whatever the store holds. -/
theorem report_addMany (s : MemoryStore) (records : List Stored) :
    (s.addMany records).2 =
      { total := records.length
        successful := (givenIds records).length
        failed := nameless records
        insertedIds := givenIds records
        errorDetails := List.replicate (nameless records) "record without id" } := by
  rw [addMany, foldl_addOne_snd]
  simp [BatchResult.empty]

/-- Of records that all have an id each is reported as inserted, whatever the store holds. -/
theorem addMany_snd {records : List Stored} (hids : ∀ r ∈ records, r.id ≠ "") (s : MemoryStore) :
    (s.addMany records).2 = ⟨records.length, records.length, 0, records.map (·.id), []⟩ := by
  have hgiven : givenIds records = records.map (·.id) := by
    refine List.filter_eq_self.2 fun id hid => ?_
    obtain ⟨r, hr, rfl⟩ := List.mem_map.1 hid
    exact decide_eq_true (hids r hr)
  have hnameless : nameless records = 0 := List.countP_eq_zero.2 fun r hr => by simpa using hids r hr
  rw [report_addMany, hgiven, hnameless, List.length_map]
  rfl

/-- Writing records in two goes is writing them in one. -/
theorem addMany_append (s : MemoryStore) (records more : List Stored) :
    (s.addMany (records ++ more)).1 = ((s.addMany records).1.addMany more).1 := by
  rw [addMany_fst, addMany_fst, addMany_fst, List.foldl_append]

/-- The payload of the last record with an id; no record has the empty one. -/
def lastPayload (id : String) : List Stored → Option Value
  | [] => none
  | r :: records => (lastPayload id records).or (if r.id = id ∧ id ≠ "" then some r.payload else none)

theorem lastPayload_append (id : String) (records more : List Stored) :
    lastPayload id (records ++ more) = (lastPayload id more).or (lastPayload id records) := by
  induction records with
  | nil => rw [List.nil_append, lastPayload, Option.or_none]
  | cons r records ih => rw [List.cons_append, lastPayload, lastPayload, ih, Option.or_assoc]

/-- No payload is found for an id exactly if no record has it. -/
theorem lastPayload_eq_none_iff {id : String} {records : List Stored} :
    lastPayload id records = none ↔ ∀ r ∈ records, ¬ (r.id = id ∧ id ≠ "") := by
  induction records with
  | nil => simp [lastPayload]
  | cons r records ih =>
    rw [lastPayload, Option.or_eq_none_iff, ih, List.forall_mem_cons, and_comm]
    refine and_congr_left fun _ => ?_
    rw [ite_eq_right_iff]
    exact forall_congr' fun _ => by simp

theorem lastPayload_eq_none_iff_not_mem {id : String} {records : List Stored} :
    lastPayload id records = none ↔ id ∉ givenIds records := by
  rw [lastPayload_eq_none_iff, mem_givenIds_iff]
  exact ⟨fun h ⟨r, hr, hid⟩ => h r hr hid, fun h r hr hid => h ⟨r, hr, hid⟩⟩

theorem lastPayload_eq_none_of_subset {id : String} {records more : List Stored}
    (h : records ⊆ more) (hmore : lastPayload id more = none) : lastPayload id records = none :=
  lastPayload_eq_none_iff.2 fun r hr => lastPayload_eq_none_iff.1 hmore r (h hr)

theorem find?_put (s : MemoryStore) (r : Stored) (id : String) :
    (s.put r).records.find? id =
      (if r.id = id ∧ id ≠ "" then some r.payload else none).or (s.records.find? id) := by
  unfold put
  by_cases hempty : r.id = ""
  · rw [if_pos hempty, if_neg]
    · rfl
    · rintro ⟨rfl, hne⟩
      exact hne hempty
  · rw [if_neg hempty, Index.find?_insert]
    by_cases hid : id = r.id
    · rw [if_pos hid, if_pos ⟨hid.symm, hid ▸ hempty⟩]
      rfl
    · rw [if_neg hid, if_neg fun h => hid h.1.symm]
      rfl

/-- What is found under an id is the payload of the last record written with it, or what was found
before. -/
theorem find?_addMany (s : MemoryStore) (records : List Stored) (id : String) :
    (s.addMany records).1.records.find? id =
      (lastPayload id records).or (s.records.find? id) := by
  rw [addMany_fst]
  induction records generalizing s with
  | nil => rfl
  | cons r records ih => rw [List.foldl_cons, ih, find?_put, lastPayload, Option.or_assoc]

/-- The store has a record under the id. -/
def Holds (s : MemoryStore) (id : String) : Prop := (s.records.find? id).isSome

instance (s : MemoryStore) (id : String) : Decidable (s.Holds id) :=
  inferInstanceAs (Decidable ((s.records.find? id).isSome = true))

/-- A store has a record under an id if one was written with it or it had one before. -/
theorem holds_addMany_iff {s : MemoryStore} {records : List Stored} {id : String} (hid : id ≠ "") :
    (s.addMany records).1.Holds id ↔ (∃ r ∈ records, r.id = id) ∨ s.Holds id := by
  unfold Holds
  rw [find?_addMany, Option.isSome_or, Bool.or_eq_true]
  refine or_congr_left ?_
  rw [Option.isSome_iff_ne_none, ne_eq, lastPayload_eq_none_iff]
  constructor
  · intro h
    refine Classical.byContradiction fun hnone => h ?_
    intro r hr hr'
    exact hnone ⟨r, hr, hr'.1⟩
  · rintro ⟨r, hr, hid'⟩ h
    exact h r hr ⟨hid', hid⟩

end CatalogImport.MemoryStore
