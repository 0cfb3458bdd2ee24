/-!
# Indexes

An index maps text keys to values and lists them in the order of the keys, which is by code point
and so also the byte order of their encodings.  Main statements: writing a key changes what is found
under that key and under no other (`find?_insert`), and the keys ascend strictly (`ordered`).
-/

namespace CatalogImport

/-! ## Rows in key order -/

variable {α : Type}

/-- Writes a row into rows in key order, in place of the row with the same key. -/
def putRow (key : String) (value : α) : List (String × α) → List (String × α)
  | [] => [(key, value)]
  | row :: rest =>
    if key < row.1 then (key, value) :: row :: rest
    else if key = row.1 then (key, value) :: rest
    else row :: putRow key value rest

/-- The value in the first row with a key. -/
def findRow? (key : String) (rows : List (String × α)) : Option α :=
  (rows.find? (·.1 == key)).map (·.2)

/-- The keys of the rows ascend strictly. -/
def RowsOrdered (rows : List (String × α)) : Prop := rows.Pairwise (·.1 < ·.1)

theorem mem_putRow {key : String} {value : α} {rows : List (String × α)} {row : String × α}
    (h : row ∈ putRow key value rows) : row = (key, value) ∨ row ∈ rows := by
  induction rows with
  | nil => simpa [putRow] using h
  | cons first rest ih =>
    unfold putRow at h
    split at h
    · simpa using h
    · split at h
      · rcases List.mem_cons.1 h with h | h
        · exact .inl h
        · exact .inr (List.mem_cons_of_mem _ h)
      · rcases List.mem_cons.1 h with h | h
        · exact .inr (h ▸ List.mem_cons_self)
        · rcases ih h with h | h
          · exact .inl h
          · exact .inr (List.mem_cons_of_mem _ h)

theorem rowsOrdered_putRow {key : String} {value : α} {rows : List (String × α)}
    (h : RowsOrdered rows) : RowsOrdered (putRow key value rows) := by
  induction rows with
  | nil => simp [putRow, RowsOrdered]
  | cons first rest ih =>
    obtain ⟨hfirst, hrest⟩ := List.pairwise_cons.1 h
    unfold putRow
    split
    · next hlt =>
      refine List.pairwise_cons.2 ⟨?_, h⟩
      intro row hrow
      rcases List.mem_cons.1 hrow with rfl | hrow
      · exact hlt
      · exact String.lt_trans hlt (hfirst row hrow)
    · next hnlt =>
      split
      · next heq => exact List.pairwise_cons.2 ⟨fun row hrow => heq ▸ hfirst row hrow, hrest⟩
      · next hne =>
        refine List.pairwise_cons.2 ⟨?_, ih hrest⟩
        intro row hrow
        rcases mem_putRow hrow with rfl | hrow
        · rcases String.le_total key first.1 with hle | hle
          · exact absurd (String.le_antisymm hle (String.not_lt.1 hnlt)) hne
          · exact Decidable.byContradiction fun hcon =>
              hne (String.le_antisymm (String.not_lt.1 hcon) hle)
        · exact hfirst row hrow

theorem findRow?_putRow (key other : String) (value : α) (rows : List (String × α)) :
    findRow? other (putRow key value rows) =
      if other = key then some value else findRow? other rows := by
  induction rows with
  | nil =>
    by_cases h : other = key
    · subst h; simp [putRow, findRow?]
    · simp [putRow, findRow?, h, Ne.symm h]
  | cons first rest ih =>
    unfold putRow
    split
    · by_cases h : other = key
      · subst h; simp [findRow?]
      · simp [findRow?, h, Ne.symm h]
    · split
      · next heq =>
        by_cases h : other = key
        · subst h; simp [findRow?]
        · have hf : (first.1 == other) = false := by
            rw [beq_eq_false_iff_ne]; exact fun e => h (e.symm.trans heq.symm)
          simp [findRow?, h, Ne.symm h, hf]
      · next hne =>
        by_cases hf : first.1 = other
        · subst hf
          have : ¬ first.1 = key := fun e => hne e.symm
          simp [findRow?, this]
        · have hf' : (first.1 == other) = false := by rwa [beq_eq_false_iff_ne]
          simpa [findRow?, hf'] using ih

/-! ## The index -/

/-- Rows of keys and values in strictly ascending order of the keys. -/
structure Index (α : Type) where
  rows : List (String × α)
  ordered : RowsOrdered rows

namespace Index

variable {α : Type}

/-- The index without rows. -/
def empty : Index α := ⟨[], List.Pairwise.nil⟩

instance : Inhabited (Index α) := ⟨empty⟩

/-- Writes a value under a key, in place of the one that was there. -/
def insert (t : Index α) (key : String) (value : α) : Index α :=
  ⟨putRow key value t.rows, rowsOrdered_putRow t.ordered⟩

/-- The value under a key. -/
def find? (t : Index α) (key : String) : Option α := findRow? key t.rows

/-- There is a value under the key. -/
def contains (t : Index α) (key : String) : Bool := (t.find? key).isSome

/-- The keys in ascending order. -/
def keys (t : Index α) : List String := t.rows.map (·.1)

/-- The values in the order of their keys. -/
def values (t : Index α) : List α := t.rows.map (·.2)

/-- How many rows there are. -/
def size (t : Index α) : Nat := t.rows.length

/-- The index of rows in any order, of which the last with a key counts. -/
def ofList (rows : List (String × α)) : Index α :=
  rows.foldl (fun t row => t.insert row.1 row.2) empty

@[simp] theorem find?_empty (key : String) : (empty : Index α).find? key = none := rfl

/-- Writing a key changes what is found under it and nothing else. -/
theorem find?_insert (t : Index α) (key other : String) (value : α) :
    (t.insert key value).find? other = if other = key then some value else t.find? other :=
  findRow?_putRow key other value t.rows

end Index

end CatalogImport
