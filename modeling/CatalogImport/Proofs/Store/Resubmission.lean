import CatalogImport.Proofs.Index
import CatalogImport.Proofs.Store.Memory

/-!
# Records that are written again

A store in memory keeps under each id the last record that was written with it, so a batch may be handed to it
again after any attempts at it, whole or in part: what they wrote is written over.  Main statement: what the
store holds after a batch, after attempts at it, and what is reported (`upserts_are_repeatable`).
-/

namespace CatalogImport.MemoryStore

open CatalogImport.Json

/-- The store after several attempts to write records. -/
def attempted (s : MemoryStore) (attempts : List (List Stored)) : MemoryStore :=
  attempts.foldl (fun s records => (s.addMany records).1) s

theorem attempted_eq_addMany (s : MemoryStore) (attempts : List (List Stored)) :
    s.attempted attempts = (s.addMany attempts.flatten).1 := by
  unfold attempted
  induction attempts generalizing s with
  | nil => rfl
  | cons records attempts ih => rw [List.foldl_cons, ih, List.flatten_cons, addMany_append]

theorem kind_put (s : MemoryStore) (r : Stored) : (s.put r).kind = s.kind := by
  unfold put
  split
  · rfl
  · rfl

theorem kind_addMany (s : MemoryStore) (records : List Stored) : (s.addMany records).1.kind = s.kind := by
  rw [addMany_fst]
  induction records generalizing s with
  | nil => rfl
  | cons r records ih => rw [List.foldl_cons, ih, kind_put]

/-- Stores of one kind in which the same is found under every id are one. -/
theorem eq_of_find?_eq {s s' : MemoryStore} (hkind : s.kind = s'.kind)
    (h : ∀ id, s.records.find? id = s'.records.find? id) : s = s' := by
  obtain ⟨kind, records⟩ := s
  obtain rfl : kind = s'.kind := hkind
  obtain rfl : records = s'.records := Index.ext_find? h
  rfl

/-- The last record with an id is the one whose payload counts. -/
theorem lastPayload_of_last {r : Stored} (hid : r.id ≠ "") (before : List Stored) {after : List Stored}
    (hlast : ∀ r' ∈ after, r'.id ≠ r.id) : lastPayload r.id (before ++ r :: after) = some r.payload := by
  have hafter : lastPayload r.id after = none :=
    lastPayload_eq_none_iff.2 fun r' hr' hsame => hlast r' hr' hsame.1
  rw [lastPayload_append, lastPayload, hafter, if_pos ⟨rfl, hid⟩]
  rfl

/-- What was written before with ids that all come again is written over. -/
theorem addMany_over {earlier records : List Stored} (h : givenIds earlier ⊆ givenIds records)
    (s : MemoryStore) : ((s.addMany earlier).1.addMany records).1 = (s.addMany records).1 := by
  refine eq_of_find?_eq (by simp only [kind_addMany]) fun id => ?_
  rw [find?_addMany, find?_addMany, find?_addMany]
  cases hlast : lastPayload id records with
  | some payload => rfl
  | none =>
    have hnew : id ∉ givenIds records := lastPayload_eq_none_iff_not_mem.1 hlast
    have hearlier : lastPayload id earlier = none :=
      lastPayload_eq_none_iff_not_mem.2 fun hmem => hnew (h hmem)
    rw [hearlier]
    rfl

theorem givenIds_flatten_subset {attempts : List (List Stored)} {records : List Stored}
    (h : ∀ earlier ∈ attempts, givenIds earlier ⊆ givenIds records) :
    givenIds attempts.flatten ⊆ givenIds records := by
  intro id hid
  obtain ⟨r, hr, hsame⟩ := mem_givenIds_iff.1 hid
  obtain ⟨earlier, hearlier, hr⟩ := List.mem_flatten.1 hr
  exact h earlier hearlier (mem_givenIds_iff.2 ⟨r, hr, hsame⟩)

/-- Under the id of a record that is written the store holds the payload of the last record with it, and
under every other id what it held before.  Attempts at the same records, or at some of them, that came
before make no difference to it, however many there were.  A record is reported as inserted if it has an id
and as failed if it has none. -/
theorem upserts_are_repeatable (s : MemoryStore) (records : List Stored) :
    (∀ before r after, records = before ++ r :: after → r.id ≠ "" → (∀ r' ∈ after, r'.id ≠ r.id) →
        (s.addMany records).1.records.find? r.id = some r.payload ∧
          (s.addMany records).1.get r.id = .ok r.payload) ∧
      (∀ id, id ∉ givenIds records →
        (s.addMany records).1.records.find? id = s.records.find? id ∧
          (s.addMany records).1.get id = s.get id) ∧
      (∀ attempts : List (List Stored), (∀ earlier ∈ attempts, givenIds earlier ⊆ givenIds records) →
        ((s.attempted attempts).addMany records).1 = (s.addMany records).1) ∧
      (s.addMany records).2.total = records.length ∧
      (s.addMany records).2.failed = (records.filter (·.id = "")).length ∧
      (s.addMany records).2.insertedIds = (records.map (·.id)).filter (· ≠ "") ∧
      (s.addMany records).2.successful + (s.addMany records).2.failed = (s.addMany records).2.total := by
  refine ⟨?_, ?_, ?_, ?_⟩
  · intro before r after hrecords hid hlast
    have hfind : (s.addMany records).1.records.find? r.id = some r.payload := by
      rw [find?_addMany, hrecords, lastPayload_of_last hid before hlast]
      rfl
    refine ⟨hfind, ?_⟩
    unfold get
    rw [hfind]
  · intro id hid
    have hfind : (s.addMany records).1.records.find? id = s.records.find? id := by
      rw [find?_addMany, lastPayload_eq_none_iff_not_mem.2 hid]
      rfl
    refine ⟨hfind, ?_⟩
    unfold get
    rw [hfind]
  · intro attempts hattempts
    rw [attempted_eq_addMany]
    exact addMany_over (givenIds_flatten_subset hattempts) s
  · rw [report_addMany]
    exact ⟨rfl, List.countP_eq_length_filter, rfl, length_givenIds records⟩

namespace Sample

/-- A record with an id and a text. -/
def record (id payload : String) : Stored := ⟨id, .text payload⟩

/-- Records of which two have one id and one has none. -/
def records : List Stored := [record "a" "first", record "" "lost", record "b" "other", record "a" "second"]

/-- A store that holds a record already. -/
def store : MemoryStore := ⟨.sets, Index.empty.insert "c" (.text "kept")⟩

end Sample

theorem upserts_of_sample_are_repeatable :
    ((Sample.store.attempted [Sample.records.take 2, [], Sample.records]).addMany Sample.records).1 =
        (Sample.store.addMany Sample.records).1 ∧
      (Sample.store.addMany Sample.records).1.get "a" = .ok (.text "second") ∧
      (Sample.store.addMany Sample.records).1.get "c" = .ok (.text "kept") := by
  obtain ⟨hwritten, hother, hrepeated, -⟩ := upserts_are_repeatable Sample.store Sample.records
  refine ⟨hrepeated _ (by decide), ?_, (hother "c" (by decide)).2⟩
  exact (hwritten (Sample.records.take 3) (Sample.record "a" "second") [] rfl (by decide)
    fun r' hr' => absurd hr' List.not_mem_nil).2

end CatalogImport.MemoryStore
