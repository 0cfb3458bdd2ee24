import CatalogImport.Index

/-!
# Indexes that hold the same

Rows in strictly ascending order of their keys are determined by what is found among them
(`Index.ext_find?`), and rows with different keys are all found when they have been written
(`findRow?_foldl_putRow_of_mem`).  A row with a new key comes to the others (`putRow_perm`).  What is read off the rows in
their order is not changed by a row that adds nothing, and grows at its end by a row behind all those that
were read (`filterMap_putRow_of_last`).
-/

namespace CatalogImport

variable {α : Type}

theorem findRow?_cons_self (row : String × α) (rows : List (String × α)) :
    findRow? row.1 (row :: rows) = some row.2 := by
  simp [findRow?]

theorem findRow?_cons_of_ne {key : String} {row : String × α} (h : row.1 ≠ key)
    (rows : List (String × α)) : findRow? key (row :: rows) = findRow? key rows := by
  simp [findRow?, h]

/-- Rows of which none has the key do not bear on what is found under it when they are written. -/
theorem findRow?_foldl_putRow_of_not_mem {key : String} {ms : List (String × α)} (h : key ∉ ms.map (·.1))
    (rows : List (String × α)) :
    findRow? key (ms.foldl (fun rows m => putRow m.1 m.2 rows) rows) = findRow? key rows := by
  induction ms generalizing rows with
  | nil => rfl
  | cons m ms ih =>
    rw [List.map_cons, List.mem_cons, not_or] at h
    rw [List.foldl_cons, ih h.2, findRow?_putRow, if_neg h.1]

/-- Of rows with different keys that are written one after the other each is found. -/
theorem findRow?_foldl_putRow_of_mem {ms : List (String × α)} (hkeys : (ms.map (·.1)).Nodup)
    {row : String × α} (h : row ∈ ms) (rows : List (String × α)) :
    findRow? row.1 (ms.foldl (fun rows m => putRow m.1 m.2 rows) rows) = some row.2 := by
  induction ms generalizing rows with
  | nil => cases h
  | cons m ms ih =>
    obtain ⟨hnew, hkeys⟩ := List.nodup_cons.1 hkeys
    rw [List.foldl_cons]
    rcases List.mem_cons.1 h with rfl | h
    · rw [findRow?_foldl_putRow_of_not_mem hnew, findRow?_putRow, if_pos rfl]
    · exact ih hkeys h _

/-- Without the rows that have a key, nothing is found under it and all else as before. -/
theorem findRow?_filter_ne (key other : String) (rows : List (String × α)) :
    findRow? other (rows.filter (·.1 ≠ key)) = if other = key then none else findRow? other rows := by
  induction rows with
  | nil => rw [List.filter_nil, findRow?, List.find?_nil, Option.map_none, ite_self]
  | cons row rows ih =>
    by_cases hrow : row.1 = key
    · rw [List.filter_cons_of_neg (by simpa using hrow), ih]
      split
      · rfl
      · next hother => rw [findRow?_cons_of_ne fun heq => hother (heq.symm.trans hrow)]
    · rw [List.filter_cons_of_pos (by simpa using hrow)]
      by_cases hfound : row.1 = other
      · subst hfound
        rw [findRow?_cons_self, findRow?_cons_self, if_neg hrow]
      · rw [findRow?_cons_of_ne hfound, findRow?_cons_of_ne hfound, ih]

/-- A key below all the others is not found among them. -/
theorem findRow?_eq_none {key : String} {rows : List (String × α)} (h : ∀ row ∈ rows, key < row.1) :
    findRow? key rows = none := by
  induction rows with
  | nil => rfl
  | cons row rows ih =>
    have hne : row.1 ≠ key := fun heq => String.lt_irrefl key (heq ▸ h row List.mem_cons_self)
    rw [findRow?_cons_of_ne hne]
    exact ih fun r hr => h r (List.mem_cons_of_mem row hr)

/-- A key below the first is not found among ordered rows. -/
theorem findRow?_eq_none_of_lt {key : String} {row : String × α} {rows : List (String × α)}
    (hordered : RowsOrdered (row :: rows)) (h : key < row.1) : findRow? key (row :: rows) = none := by
  refine findRow?_eq_none fun r hr => ?_
  rcases List.mem_cons.1 hr with rfl | hr
  · exact h
  · exact String.lt_trans h ((List.pairwise_cons.1 hordered).1 r hr)

theorem rows_eq_of_findRow?_eq {rows rows' : List (String × α)} (hordered : RowsOrdered rows)
    (hordered' : RowsOrdered rows') (h : ∀ key, findRow? key rows = findRow? key rows') :
    rows = rows' := by
  induction rows generalizing rows' with
  | nil =>
    cases rows' with
    | nil => rfl
    | cons row' rest' =>
      have hfind := h row'.1
      rw [findRow?_cons_self] at hfind
      cases hfind
  | cons row rest ih =>
    cases rows' with
    | nil =>
      have hfind := h row.1
      rw [findRow?_cons_self] at hfind
      cases hfind
    | cons row' rest' =>
      obtain ⟨hfirst, hrest⟩ := List.pairwise_cons.1 hordered
      obtain ⟨hfirst', hrest'⟩ := List.pairwise_cons.1 hordered'
      have hkey : row.1 = row'.1 := by
        by_cases hlt : row.1 < row'.1
        · have hfind := h row.1
          rw [findRow?_cons_self, findRow?_eq_none_of_lt hordered' hlt] at hfind
          cases hfind
        · by_cases hgt : row'.1 < row.1
          · have hfind := h row'.1
            rw [findRow?_cons_self, findRow?_eq_none_of_lt hordered hgt] at hfind
            cases hfind
          · exact String.le_antisymm (String.not_lt.1 hgt) (String.not_lt.1 hlt)
      have hvalue : row.2 = row'.2 := by
        have hfind := h row.1
        rw [findRow?_cons_self, hkey, findRow?_cons_self] at hfind
        exact Option.some.inj hfind
      have htail : ∀ key, findRow? key rest = findRow? key rest' := by
        intro key
        by_cases hk : row.1 = key
        · subst hk
          rw [findRow?_eq_none hfirst, findRow?_eq_none (hkey ▸ hfirst')]
        · have hfind := h key
          rwa [findRow?_cons_of_ne hk, findRow?_cons_of_ne (hkey ▸ hk)] at hfind
      rw [Prod.ext hkey hvalue, ih hrest hrest' htail]

/-- Two indexes in which the same is found under every key are one. -/
theorem Index.ext_find? {t t' : Index α} (h : ∀ key, t.find? key = t'.find? key) : t = t' := by
  obtain ⟨rows, hordered⟩ := t
  obtain ⟨rows', hordered'⟩ := t'
  obtain rfl := rows_eq_of_findRow?_eq hordered hordered' h
  rfl

/-- The keys of an index are those under which something is found. -/
theorem Index.mem_keys_iff {t : Index α} {key : String} : key ∈ t.keys ↔ (t.find? key).isSome := by
  rw [find?, findRow?, Option.isSome_map, List.find?_isSome, keys, List.mem_map]
  simp only [beq_iff_eq]

/-- Under the key of each of the ordered rows its value is found. -/
theorem findRow?_of_mem {rows : List (String × α)} (hordered : RowsOrdered rows) {row : String × α}
    (h : row ∈ rows) : findRow? row.1 rows = some row.2 := by
  induction rows with
  | nil => cases h
  | cons first rows ih =>
    obtain ⟨hfirst, hrest⟩ := List.pairwise_cons.1 hordered
    rcases List.mem_cons.1 h with rfl | h
    · exact findRow?_cons_self row rows
    · have hne : first.1 ≠ row.1 := fun heq => String.lt_irrefl row.1 (heq ▸ hfirst row h)
      rw [findRow?_cons_of_ne hne]
      exact ih hrest h

/-- What is found after values have been written that depend on their keys. -/
theorem Index.find?_foldl_insert (keys : List String) (f : String → α) (t : Index α) (key : String) :
    (keys.foldl (fun t key => t.insert key (f key)) t).find? key =
      if key ∈ keys then some (f key) else t.find? key := by
  induction keys generalizing t with
  | nil => rfl
  | cons first keys ih =>
    rw [List.foldl_cons, ih, find?_insert]
    by_cases hlater : key ∈ keys
    · rw [if_pos hlater, if_pos (List.mem_cons_of_mem first hlater)]
    · rw [if_neg hlater]
      by_cases hfirst : key = first
      · rw [if_pos hfirst, if_pos (hfirst ▸ List.mem_cons_self), hfirst]
      · rw [if_neg hfirst, if_neg (List.not_mem_cons_of_ne_of_not_mem hfirst hlater)]

/-! ## Reading off rows -/

/-- A row with a new key comes to the others. -/
theorem putRow_perm {key : String} {value : α} {rows : List (String × α)}
    (hfresh : ∀ row ∈ rows, row.1 ≠ key) : (putRow key value rows).Perm ((key, value) :: rows) := by
  induction rows with
  | nil => exact .refl _
  | cons row rows ih =>
    have hrest := ih fun r hr => hfresh r (List.mem_cons_of_mem row hr)
    unfold putRow
    split
    · exact .refl _
    · rw [if_neg (hfresh row List.mem_cons_self).symm]
      exact (hrest.cons row).trans (.swap _ _ _)

section

variable {β : Type} {key : String} {value : α} {rows : List (String × α)} {f : String × α → Option β}

/-- A row that adds nothing, and takes the place of nothing that was read, does not change what is read. -/
theorem filterMap_putRow_of_none (hnew : f (key, value) = none)
    (hold : ∀ row ∈ rows, row.1 = key → f row = none) :
    (putRow key value rows).filterMap f = rows.filterMap f := by
  induction rows with
  | nil => rw [putRow, List.filterMap_cons_none hnew]
  | cons row rows ih =>
    have hrest := ih fun r hr => hold r (List.mem_cons_of_mem row hr)
    unfold putRow
    split
    · rw [List.filterMap_cons_none hnew]
    · split
      · next heq =>
        have hrow := hold row List.mem_cons_self heq.symm
        rw [List.filterMap_cons_none hnew, List.filterMap_cons_none hrow]
      · rw [List.filterMap_cons, List.filterMap_cons, hrest]

/-- Nothing is read off ordered rows from a key on that is greater than those of all rows that are read. -/
theorem filterMap_eq_nil_of_le {row : String × α} (hordered : RowsOrdered (row :: rows))
    (hlast : ∀ r ∈ row :: rows, f r ≠ none → r.1 < key) (hle : ¬ row.1 < key) :
    (row :: rows).filterMap f = [] := by
  refine List.filterMap_eq_nil_iff.2 fun r hr => ?_
  refine Classical.byContradiction fun hsome => hle ?_
  have hlt := hlast r hr hsome
  rcases List.mem_cons.1 hr with rfl | hr
  · exact hlt
  · exact String.lt_trans ((List.pairwise_cons.1 hordered).1 r hr) hlt

/-- A row behind all those that were read comes last in what is read. -/
theorem filterMap_putRow_of_last {b : β} (hordered : RowsOrdered rows) (hnew : f (key, value) = some b)
    (hlast : ∀ row ∈ rows, f row ≠ none → row.1 < key) :
    (putRow key value rows).filterMap f = rows.filterMap f ++ [b] := by
  induction rows with
  | nil => rw [putRow, List.filterMap_cons_some hnew, List.filterMap_nil, List.nil_append]
  | cons row rows ih =>
    unfold putRow
    split
    · next hlt =>
      have hnothing := filterMap_eq_nil_of_le hordered hlast (String.lt_asymm hlt)
      rw [List.filterMap_cons_some hnew, hnothing, List.nil_append]
    · split
      · next heq =>
        have hnothing := filterMap_eq_nil_of_le hordered hlast (heq ▸ String.lt_irrefl key)
        have hrest := List.filterMap_eq_nil_iff.1 hnothing
        rw [List.filterMap_cons_some hnew, hnothing, List.nil_append,
          List.filterMap_eq_nil_iff.2 fun r hr => hrest r (List.mem_cons_of_mem row hr)]
      · have hrest := ih (List.pairwise_cons.1 hordered).2 fun r hr =>
          hlast r (List.mem_cons_of_mem row hr)
        rw [List.filterMap_cons, List.filterMap_cons, hrest]
        cases f row with
        | none => rfl
        | some c => rfl

end

end CatalogImport
