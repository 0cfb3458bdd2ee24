import CatalogImport.Proofs.Store.Resubmission
import CatalogImport.Proofs.Text.ByteOrder
import Mathlib.Data.Nat.Find

/-!
# Page by page

The records of a store in memory can be read page by page, from the first one on, until a page is empty.  The
first pages are the first payloads in the order of the ids (`flatMap_list`), and a page is empty exactly if it
begins behind the last of them (`list_eq_nil_iff`).  Main statement: whatever has been written, the pages up to
the first empty one hold the payload under each id once, in the order of the bytes of the ids
(`pages_hold_each_payload_once`).
-/

namespace CatalogImport.MemoryStore

open CatalogImport.Json

section

variable (s : MemoryStore)

theorem length_ids : s.ids.length = s.size := List.length_map ..

/-- A page has as many records as there are left, but no more than were asked for. -/
theorem length_list (limit offset : Nat) : (s.list limit offset).length = min limit (s.size - offset) := by
  have hvalues : s.records.values.length = s.size := List.length_map ..
  rw [list, List.length_take, List.length_drop, hvalues]

/-- A page is empty exactly if it begins behind the last record. -/
theorem list_eq_nil_iff {limit : Nat} (hlimit : 0 < limit) {offset : Nat} :
    s.list limit offset = [] ↔ s.size ≤ offset := by
  rw [← List.length_eq_zero_iff, length_list]
  omega

/-- The first pages hold the first payloads. -/
theorem flatMap_list (limit n : Nat) :
    ((List.range n).flatMap fun k => s.list limit (k * limit)) = s.records.values.take (n * limit) := by
  induction n with
  | zero => simp
  | succ n ih =>
    rw [List.range_succ, List.flatMap_append, ih, List.flatMap_singleton, list, Nat.succ_mul, List.take_add]

/-- All pages, of which the last one ends with the last record or behind it, hold all payloads. -/
theorem flatMap_list_of_size_le {limit n : Nat} (h : s.size ≤ n * limit) :
    ((List.range n).flatMap fun k => s.list limit (k * limit)) = s.records.values := by
  have hvalues : s.records.values.length = s.size := List.length_map ..
  rw [flatMap_list, List.take_of_length_le (hvalues ▸ h)]

/-- Some page is the first one that begins behind the last record. -/
theorem exists_pages {limit : Nat} (hlimit : 0 < limit) :
    ∃ n, s.size ≤ n * limit ∧ ∀ k < n, k * limit < s.size := by
  have hbehind : ∃ n, s.size ≤ n * limit := ⟨s.size, Nat.le_mul_of_pos_right s.size hlimit⟩
  exact ⟨Nat.find hbehind, Nat.find_spec hbehind, fun k hk => Nat.lt_of_not_le (Nat.find_min hbehind hk)⟩

/-- The payloads under the ids, one after the other, are all payloads in their order. -/
theorem map_get_ids : s.ids.map s.get = s.records.values.map .ok := by
  unfold ids Index.keys Index.values
  rw [List.map_map, List.map_map]
  refine List.map_congr_left fun row hrow => ?_
  have hfound : s.records.find? row.1 = some row.2 := findRow?_of_mem s.records.ordered hrow
  show s.get row.1 = .ok row.2
  rw [get, hfound]

/-- The ids ascend in the order of their bytes. -/
theorem ids_ascend : (s.ids.map bytesOf).Pairwise (· < ·) := by
  have hordered : s.ids.Pairwise (· < ·) := List.pairwise_map.2 s.records.ordered
  exact List.pairwise_map.2 (hordered.imp bytesOf_lt_iff.2)

end

/-- The ids of a store into which records have been written are the ids that these have. -/
theorem mem_ids_attempted_iff (kind : RecordKind) (calls : List (List Stored)) (id : String) :
    id ∈ ((empty kind).attempted calls).ids ↔ id ∈ givenIds calls.flatten := by
  rw [ids, Index.mem_keys_iff, attempted_eq_addMany, find?_addMany, empty, Index.find?_empty, Option.or_none,
    Option.isSome_iff_ne_none, ne_eq, lastPayload_eq_none_iff_not_mem, Decidable.not_not]

/-- Whatever records have been written into a store, in however many calls, its ids are those that they have,
once each and in the order of their bytes.  Reading page after page one comes to an empty one; the pages before
it hold the payload under each of the ids in turn, and all of them but the last are full.  A page is empty
exactly if it begins behind the last record. -/
theorem pages_hold_each_payload_once (kind : RecordKind) (calls : List (List Stored)) (limit : Nat)
    (hlimit : 0 < limit) :
    let s := (empty kind).attempted calls
    (∃ n, (∀ k < n, s.list limit (k * limit) ≠ []) ∧ s.list limit (n * limit) = [] ∧
        ((List.range n).flatMap fun k => s.list limit (k * limit)).map .ok = s.ids.map s.get ∧
        ∀ k, k + 1 < n → (s.list limit (k * limit)).length = limit) ∧
      (s.ids.map bytesOf).Pairwise (· < ·) ∧ s.ids.Nodup ∧ s.ids.length = s.size ∧
      (∀ id, id ∈ s.ids ↔ id ∈ givenIds calls.flatten) ∧
      ∀ offset, s.list limit offset = [] ↔ s.size ≤ offset := by
  intro s
  have hnodup : s.ids.Nodup := by
    refine (List.pairwise_map.1 s.ids_ascend).imp fun hlt heq => ?_
    rw [heq] at hlt
    exact List.lt_irrefl _ hlt
  refine ⟨?_, s.ids_ascend, hnodup, s.length_ids, mem_ids_attempted_iff kind calls,
    fun offset => s.list_eq_nil_iff hlimit⟩
  obtain ⟨n, hlast, hbefore⟩ := s.exists_pages hlimit
  refine ⟨n, fun k hk hempty => ?_, (s.list_eq_nil_iff hlimit).2 hlast, ?_, fun k hk => ?_⟩
  · exact Nat.not_le_of_lt (hbefore k hk) ((s.list_eq_nil_iff hlimit).1 hempty)
  · rw [s.flatMap_list_of_size_le hlast, map_get_ids]
  · have hnext := hbefore (k + 1) hk
    rw [Nat.succ_mul] at hnext
    rw [length_list]
    omega

namespace Sample

/-- A store into which records have been written, some of them under the same ids. -/
def written : MemoryStore :=
  (empty .sets).attempted [records, [record "é" "accented", record "z" "last"], [record "b" "third"]]

end Sample

theorem pages_of_sample :
    0 < 2 ∧ Sample.written.ids = ["a", "b", "z", "é"] ∧
      (Sample.written.list 2 0 ++ Sample.written.list 2 2).map .ok =
        Sample.written.ids.map Sample.written.get ∧
      Sample.written.list 2 4 = [] := by
  obtain ⟨⟨n, hbefore, hempty, hall, -⟩, -⟩ := pages_hold_each_payload_once .sets
    [Sample.records, [Sample.record "é" "accented", Sample.record "z" "last"], [Sample.record "b" "third"]] 2
    (by decide)
  change (∀ k < n, Sample.written.list 2 (k * 2) ≠ []) at hbefore
  change Sample.written.list 2 (n * 2) = [] at hempty
  obtain rfl : n = 2 := by
    rcases n with _ | _ | _ | n
    · exact absurd hempty (by decide)
    · exact absurd hempty (by decide)
    · rfl
    · exact absurd (by decide) (hbefore 2 (by omega))
  exact ⟨by decide, by decide, hall, hempty⟩

end CatalogImport.MemoryStore
