import CatalogImport.Batch.Basic

/-!
# Records cut into batches

Records are cut into batches of one size, of which only the last may be shorter, with numbers from a
first one on.  Main statements: what the batches are (`flatMap_batchesOf`, `number_batchesOf`,
`size_batchesOf`), and that whatever batches come one after the other and are full as far as they have
to be are the first ones of those (`IsRow.isPrefix_batchesOf`), and all of them if nothing is left over
(`IsRow.eq_batchesOf`).
-/

namespace CatalogImport

variable {R : Type} {size first : Nat} {es : List (Entry R)}

/-- How many batches so many records make: their number over the size, rounded up. -/
def batchCount (size records : Nat) : Nat := (records + size - 1) / size

theorem lt_batchCount_iff (hsize : 0 < size) {j n : Nat} : j < batchCount size n ↔ j * size < n := by
  unfold batchCount
  rw [← Nat.succ_le_iff, Nat.le_div_iff_mul_le hsize, Nat.succ_mul]
  omega

theorem le_batchCount_mul (hsize : 0 < size) (n : Nat) : n ≤ batchCount size n * size :=
  Nat.le_of_not_lt fun h => Nat.lt_irrefl _ ((lt_batchCount_iff hsize).2 h)

@[simp] theorem batchCount_zero (size : Nat) : batchCount size 0 = 0 := by
  unfold batchCount
  cases size with
  | zero => rfl
  | succ n => exact Nat.div_eq_of_lt (by omega)

/-- The batch at an index. -/
def batchAt (size first : Nat) (es : List (Entry R)) (j : Nat) : Batch R :=
  ⟨first + j, (es.drop (j * size)).take size⟩

/-- Records cut into batches of one size. -/
def batchesOf (size first : Nat) (es : List (Entry R)) : List (Batch R) :=
  (List.range (batchCount size es.length)).map (batchAt size first es)

@[simp] theorem length_batchesOf (size first : Nat) (es : List (Entry R)) :
    (batchesOf size first es).length = batchCount size es.length := by
  rw [batchesOf, List.length_map, List.length_range]

theorem getElem?_batchesOf {j : Nat} {b : Batch R} (h : (batchesOf size first es)[j]? = some b) :
    j < batchCount size es.length ∧ b = batchAt size first es j := by
  unfold batchesOf at h
  rw [List.getElem?_map] at h
  obtain ⟨i, hi, rfl⟩ := Option.map_eq_some_iff.1 h
  obtain ⟨hlt, rfl⟩ := List.getElem?_eq_some_iff.1 hi
  rw [List.length_range] at hlt
  rw [List.getElem_range]
  exact ⟨hlt, rfl⟩

/-! ## What the batches are -/

theorem number_batchesOf {j : Nat} {b : Batch R} (h : (batchesOf size first es)[j]? = some b) :
    b.number = first + j := by
  obtain ⟨-, rfl⟩ := getElem?_batchesOf h
  rfl

theorem size_batchAt (size first : Nat) (es : List (Entry R)) (j : Nat) :
    (batchAt size first es j).size = min size (es.length - j * size) := by
  unfold Batch.size batchAt
  rw [List.length_take, List.length_drop]

/-- The batches have the records in their order. -/
theorem flatMap_range_batchAt (size first : Nat) (es : List (Entry R)) (n : Nat) :
    ((List.range n).map (batchAt size first es)).flatMap (·.entries) = es.take (n * size) := by
  induction n with
  | zero => simp
  | succ n ih =>
    rw [List.range_succ, List.map_append, List.flatMap_append, ih, Nat.succ_mul, List.take_add]
    simp [batchAt]

theorem flatMap_batchesOf (hsize : 0 < size) (first : Nat) (es : List (Entry R)) :
    (batchesOf size first es).flatMap (·.entries) = es := by
  unfold batchesOf
  rw [flatMap_range_batchAt]
  exact List.take_of_length_le (le_batchCount_mul hsize es.length)

/-- The first batches have the first records. -/
theorem flatMap_take_batchesOf (hsize : 0 < size) (first : Nat) (es : List (Entry R)) (n : Nat) :
    ((batchesOf size first es).take n).flatMap (·.entries) = es.take (n * size) := by
  unfold batchesOf
  rw [← List.map_take, List.take_range, flatMap_range_batchAt]
  rcases Nat.le_total n (batchCount size es.length) with hle | hle
  · rw [Nat.min_eq_left hle]
  · have hall := le_batchCount_mul hsize es.length
    have hmore := Nat.le_trans hall (Nat.mul_le_mul_right size hle)
    rw [Nat.min_eq_right hle, List.take_of_length_le hall, List.take_of_length_le hmore]

/-- No batch is empty, and only the last may have fewer records than the others. -/
theorem size_batchesOf (hsize : 0 < size) {j : Nat} {b : Batch R}
    (h : (batchesOf size first es)[j]? = some b) :
    1 ≤ b.size ∧ b.size ≤ size ∧ (j + 1 < (batchesOf size first es).length → b.size = size) := by
  obtain ⟨hlt, rfl⟩ := getElem?_batchesOf h
  have hstart := (lt_batchCount_iff hsize).1 hlt
  rw [size_batchAt, length_batchesOf]
  refine ⟨by omega, by omega, ?_⟩
  intro hnext
  have hend := (lt_batchCount_iff hsize).1 hnext
  rw [Nat.succ_mul] at hend
  omega

/-! ## Which batches these are -/

/-- Full batches have their size times as many records as there are. -/
theorem length_flatMap_entries {bs : List (Batch R)} (h : ∀ b ∈ bs, b.size = size) :
    (bs.flatMap (·.entries)).length = bs.length * size := by
  induction bs with
  | nil => rw [List.flatMap_nil, List.length_nil, List.length_nil, Nat.zero_mul]
  | cons b bs ih =>
    have hb : b.entries.length = size := h b List.mem_cons_self
    have hbs := ih fun c hc => h c (List.mem_cons_of_mem b hc)
    rw [List.flatMap_cons, List.length_append, hb, hbs, List.length_cons, Nat.succ_mul, Nat.add_comm]

theorem length_flatMap_entries_le {bs : List (Batch R)} (h : ∀ b ∈ bs, b.size ≤ size) :
    (bs.flatMap (·.entries)).length ≤ bs.length * size := by
  induction bs with
  | nil => exact Nat.zero_le _
  | cons b bs ih =>
    have hb : b.entries.length ≤ size := h b List.mem_cons_self
    have hbs := ih fun c hc => h c (List.mem_cons_of_mem b hc)
    rw [List.flatMap_cons, List.length_append, List.length_cons, Nat.succ_mul]
    omega

/-- Batches come one after the other, with numbers from a first one on, none is empty and none too large,
and all but the last are full. -/
structure IsRow (size first : Nat) (bs : List (Batch R)) : Prop where
  number : ∀ (j : Nat) (b : Batch R), bs[j]? = some b → b.number = first + j
  bounds : ∀ b ∈ bs, 0 < b.size ∧ b.size ≤ size
  full : ∀ b ∈ bs.dropLast, b.size = size

/-- A row of full batches may be followed by one more. -/
theorem IsRow.concat {bs : List (Batch R)} {b : Batch R} (h : IsRow size first bs)
    (hfull : ∀ c ∈ bs, c.size = size) (hnumber : b.number = first + bs.length)
    (hbounds : 0 < b.size ∧ b.size ≤ size) : IsRow size first (bs ++ [b]) where
  number := by
    intro j c hc
    by_cases hj : j < bs.length
    · rw [List.getElem?_append_left hj] at hc
      exact h.number j c hc
    · have hlt : j < (bs ++ [b]).length := (List.getElem?_eq_some_iff.1 hc).1
      rw [List.length_append, List.length_singleton] at hlt
      obtain rfl : j = bs.length := by omega
      rw [List.getElem?_concat_length] at hc
      obtain rfl := Option.some.inj hc
      exact hnumber
  bounds := by
    intro c hc
    rcases List.mem_append.1 hc with hc | hc
    · exact h.bounds c hc
    · obtain rfl := List.mem_singleton.1 hc
      exact hbounds
  full := by
    rw [List.dropLast_concat]
    exact hfull

/-- A batch of such a row has the records that are cut at its place. -/
theorem IsRow.eq_batchAt {bs : List (Batch R)} {rest : List (Entry R)} (h : IsRow size first bs)
    (hlast : (∀ b ∈ bs, b.size = size) ∨ rest = []) {j : Nat} {b : Batch R} (hb : bs[j]? = some b) :
    b = batchAt size first (bs.flatMap (·.entries) ++ rest) j := by
  obtain ⟨hlt, rfl⟩ := List.getElem?_eq_some_iff.1 hb
  have hnumber := h.number j bs[j] hb
  have hle := (h.bounds bs[j] (List.getElem_mem hlt)).2
  -- the batches before it are full
  have hbefore : ((bs.take j).flatMap (·.entries)).length = j * size := by
    have hfull : ∀ c ∈ bs.take j, c.size = size := by
      intro c hc
      refine h.full c ?_
      rw [List.dropLast_eq_take]
      exact (List.take_sublist_take_left (by omega)).subset hc
    rw [length_flatMap_entries hfull, List.length_take, Nat.min_eq_left (Nat.le_of_lt hlt)]
  have hsplit : bs.flatMap (·.entries) = (bs.take j).flatMap (·.entries) ++
      (bs[j].entries ++ (bs.drop (j + 1)).flatMap (·.entries)) := by
    rw [← List.flatMap_cons, ← List.drop_eq_getElem_cons hlt, ← List.flatMap_append,
      List.take_append_drop]
  have hentries : ((bs.flatMap (·.entries) ++ rest).drop (j * size)).take size = bs[j].entries := by
    rw [hsplit, List.append_assoc, List.drop_left' hbefore]
    by_cases hnext : j + 1 < bs.length
    · have hfull : bs[j].size = size := by
        refine h.full _ ?_
        rw [List.dropLast_eq_take, List.mem_take_iff_getElem]
        exact ⟨j, by omega, rfl⟩
      rw [List.append_assoc, List.take_left' hfull]
    · rw [List.drop_eq_nil_of_le (Nat.le_of_not_lt hnext), List.flatMap_nil, List.append_nil]
      rcases hlast with hfull | rfl
      · rw [List.take_left' (hfull bs[j] (List.getElem_mem hlt))]
      · rw [List.append_nil]
        exact List.take_of_length_le hle
  unfold batchAt
  rw [hentries, ← hnumber]

/-- The batches of a row are the first ones of those into which its records and further ones are cut, if
all of them are full or there are no further ones. -/
theorem IsRow.isPrefix_batchesOf {bs : List (Batch R)} {rest : List (Entry R)} (hsize : 0 < size)
    (h : IsRow size first bs) (hlast : (∀ b ∈ bs, b.size = size) ∨ rest = []) :
    bs <+: batchesOf size first (bs.flatMap (·.entries) ++ rest) := by
  have hcount : bs.length ≤ batchCount size (bs.flatMap (·.entries) ++ rest).length := by
    rcases Nat.eq_zero_or_pos bs.length with hzero | hpos
    · omega
    · -- the last batch is not empty
      have hlt : bs.length - 1 < bs.length := by omega
      have hmem := h.bounds _ (List.getElem_mem hlt)
      have heq := h.eq_batchAt hlast (List.getElem?_eq_getElem hlt)
      rw [heq, size_batchAt] at hmem
      have hstart : (bs.length - 1) * size < (bs.flatMap (·.entries) ++ rest).length := by omega
      have hle := (lt_batchCount_iff hsize).2 hstart
      omega
  refine List.prefix_iff_eq_take.2 (List.ext_getElem ?_ ?_)
  · rw [List.length_take, length_batchesOf]
    omega
  · intro j hj hj'
    rw [h.eq_batchAt hlast (List.getElem?_eq_getElem hj), List.getElem_take]
    simp [batchesOf]

/-- The batches of a row are those into which its records are cut. -/
theorem IsRow.eq_batchesOf {bs : List (Batch R)} (hsize : 0 < size) (h : IsRow size first bs) :
    bs = batchesOf size first (bs.flatMap (·.entries)) := by
  have hprefix := h.isPrefix_batchesOf hsize (.inr rfl)
  rw [List.append_nil] at hprefix
  -- as many batches have no more records than that
  have hcount : batchCount size (bs.flatMap (·.entries)).length ≤ bs.length := by
    refine Nat.le_of_not_lt fun hlt => ?_
    have hle := length_flatMap_entries_le fun b hb => (h.bounds b hb).2
    have hmore := (lt_batchCount_iff hsize).1 hlt
    omega
  exact hprefix.eq_of_length_le (by rwa [length_batchesOf])

end CatalogImport
