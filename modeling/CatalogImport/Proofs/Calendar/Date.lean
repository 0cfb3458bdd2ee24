import CatalogImport.Calendar.Date
import CatalogImport.Proofs.Decimal.Padded
import CatalogImport.Proofs.Text.Blank

/-!
# Dates that are read back

A date is written with four digits of the year or more, and is read again however many there are: from 0 to
9999 four digits are written and no more are read, and otherwise the sign says that all digits are to be read.
Main statement: the text of a date is read as that date (`ofText?_text`).
-/

namespace CatalogImport.Calendar

open CatalogImport.Decimal CatalogImport.Text

/-! ## Digits -/

/-- Digits are read as far as they go, or as far as they may. -/
theorem someDigits?_append {most : Nat} {ds rest : List Char} (hdigits : ∀ c ∈ ds, c.isDigit = true)
    (hne : ds ≠ []) (hmost : ds.length ≤ most)
    (hrest : ds.length = most ∨ ∀ c ∈ rest.head?, c.isDigit = false) :
    someDigits? most (ds ++ rest) = some (valueFrom 0 ds, rest) := by
  have hbehind : (rest.take (most - ds.length)).takeWhile isDigit = [] := by
    rcases hrest with hlength | hhead
    · rw [hlength, Nat.sub_self]
      rfl
    · cases rest with
      | nil => simp
      | cons c rest =>
        cases most - ds.length with
        | zero => rfl
        | succ k => exact List.takeWhile_cons_of_neg (by simp [isDigit_eq, hhead c rfl])
  have hread : ((ds ++ rest).take most).takeWhile isDigit = ds := by
    rw [List.take_append, List.take_of_length_le hmost,
      List.takeWhile_append_of_pos (p := isDigit) hdigits, hbehind, List.append_nil]
  unfold someDigits?
  rw [hread, if_neg hne, List.drop_left]

theorem someDigits?_padded {most width n : Nat} {rest : List Char}
    (hmost : (padded width n).toList.length ≤ most)
    (hrest : (padded width n).toList.length = most ∨ ∀ c ∈ rest.head?, c.isDigit = false) :
    someDigits? most ((padded width n).toList ++ rest) = some (n, rest) := by
  rw [someDigits?_append (fun _ => isDigit_of_mem_padded) (padded_ne_nil width n) hmost hrest,
    valueFrom_padded]

/-- Blanks in front are passed over, and a numeral has none. -/
theorem trimStart_padded (width n : Nat) (rest : List Char) :
    trimStart ((padded width n).toList ++ rest) = (padded width n).toList ++ rest := by
  refine trimStart_eq_self fun c hc => ?_
  obtain ⟨d, ds, hpadded⟩ := List.exists_cons_of_ne_nil (padded_ne_nil width n)
  rw [hpadded] at hc
  obtain rfl : d = c := Option.some.inj hc
  exact isBlank_of_isDigit (isDigit_of_mem_padded (hpadded ▸ List.mem_cons_self))

/-! ## Years -/

theorem yearOf?_minus (cs : List Char) :
    yearOf? ('-' :: cs) = (someDigits? cs.length cs).map fun (n, r) => (-(n : Int), r) := rfl

theorem yearOf?_plus (cs : List Char) :
    yearOf? ('+' :: cs) = (someDigits? cs.length cs).map fun (n, r) => ((n : Int), r) := rfl

/-- A year that is written without a sign. -/
theorem yearOf?_of_isDigit {c : Char} (cs : List Char) (h : c.isDigit = true) :
    yearOf? (c :: cs) = (someDigits? 4 (c :: cs)).map fun (n, r) => ((n : Int), r) := by
  unfold yearOf?
  split
  · next heq =>
    cases heq
    exact absurd h (by decide)
  · next heq =>
    cases heq
    exact absurd h (by decide)
  · rfl

/-- A year is read as it was written, whatever follows behind a dash. -/
theorem yearOf?_yearText (year : Int) (rest : List Char) :
    yearOf? ((yearText year).toList ++ '-' :: rest) = some (year, '-' :: rest) := by
  have hdash : ∀ c ∈ ('-' :: rest).head?, c.isDigit = false := by
    intro c hc
    obtain rfl : '-' = c := Option.some.inj hc
    rfl
  have hsigned : someDigits? ((padded 4 year.natAbs).toList ++ '-' :: rest).length
      ((padded 4 year.natAbs).toList ++ '-' :: rest) = some (year.natAbs, '-' :: rest) :=
    someDigits?_padded (by rw [List.length_append]; omega) (.inr hdash)
  unfold yearText
  split
  · next hnegative =>
    have habs : -(year.natAbs : Int) = year := by omega
    have hsign : ("-" ++ padded 4 year.natAbs).toList = '-' :: (padded 4 year.natAbs).toList :=
      String.toList_append
    rw [hsign, List.cons_append, yearOf?_minus, hsigned]
    simp only [Option.map_some, habs]
  · next hnonnegative =>
    have habs : (year.natAbs : Int) = year := by omega
    split
    · have hsign : ("+" ++ padded 4 year.natAbs).toList = '+' :: (padded 4 year.natAbs).toList :=
        String.toList_append
      rw [hsign, List.cons_append, yearOf?_plus, hsigned]
      simp only [Option.map_some, habs]
    · next hshort =>
      have hlength : (padded 4 year.natAbs).toList.length = 4 :=
        length_toList_padded (by decide) (by omega)
      rw [String.empty_append]
      obtain ⟨d, ds, hpadded⟩ := List.exists_cons_of_ne_nil (padded_ne_nil 4 year.natAbs)
      have hdigit : d.isDigit = true := isDigit_of_mem_padded (hpadded ▸ List.mem_cons_self)
      have hread : someDigits? 4 ((padded 4 year.natAbs).toList ++ '-' :: rest) =
          some (year.natAbs, '-' :: rest) := someDigits?_padded (Nat.le_of_eq hlength) (.inr hdash)
      rw [hpadded, List.cons_append] at hread ⊢
      rw [yearOf?_of_isDigit _ hdigit, hread]
      simp only [Option.map_some, habs]

/-! ## Dates -/

namespace Date

theorem month_le (d : Date) : d.month ≤ 12 := by
  obtain ⟨-, -, hday, hdays⟩ := d.isDate
  refine Nat.le_of_not_lt fun hmonth => ?_
  have hnone : daysInMonth d.year d.month = 0 := by
    unfold daysInMonth
    split <;> omega
  omega

theorem day_le (d : Date) : d.day ≤ 31 := by
  obtain ⟨-, -, -, hdays⟩ := d.isDate
  have hmost : daysInMonth d.year d.month ≤ 31 := by
    unfold daysInMonth
    repeat' split
    all_goals omega
  omega

theorem toList_text (d : Date) : d.text.toList =
    (yearText d.year).toList ++ '-' :: ((padded 2 d.month).toList ++ '-' :: (padded 2 d.day).toList) := by
  unfold text
  simp [String.toList_append]

/-- The characters of a date are digits, dashes and a plus sign. -/
theorem isDigit_of_mem_text {d : Date} {c : Char} (h : c ∈ d.text.toList) :
    c.isDigit = true ∨ c = '-' ∨ c = '+' := by
  have hyear (hc : c ∈ (yearText d.year).toList) : c.isDigit = true ∨ c = '-' ∨ c = '+' := by
    unfold yearText at hc
    split at hc
    · rw [String.toList_append] at hc
      rcases List.mem_append.1 hc with hc | hc
      · exact .inr (.inl (List.mem_singleton.1 hc))
      · exact .inl (isDigit_of_mem_padded hc)
    · rw [String.toList_append] at hc
      rcases List.mem_append.1 hc with hc | hc
      · split at hc
        · exact .inr (.inr (List.mem_singleton.1 hc))
        · cases hc
      · exact .inl (isDigit_of_mem_padded hc)
  rw [toList_text] at h
  simp only [List.mem_append, List.mem_cons] at h
  rcases h with hc | hc | hc | hc | hc
  · exact hyear hc
  · exact .inr (.inl hc)
  · exact .inl (isDigit_of_mem_padded hc)
  · exact .inr (.inl hc)
  · exact .inl (isDigit_of_mem_padded hc)

theorem isBlank_of_mem_text {d : Date} {c : Char} (h : c ∈ d.text.toList) : isBlank c = false := by
  rcases isDigit_of_mem_text h with hdigit | rfl | rfl
  · exact isBlank_of_isDigit hdigit
  · decide
  · decide

/-- There are no blanks around a date that has been written. -/
theorem trim_text (d : Date) : Text.trim d.text = d.text := by
  unfold Text.trim
  rw [trimChars_eq_self (trimmed_of_forall fun _ => isBlank_of_mem_text), String.ofList_toList]

/-- A date that has been written is read again, in whatever year of the calendar. -/
theorem ofText?_text (d : Date) : ofText? d.text = some d := by
  have hstart : trimStart d.text.toList = d.text.toList :=
    trimStart_eq_self fun c hc => isBlank_of_mem_text (List.mem_of_head? hc)
  have hmonth : (padded 2 d.month).toList.length = 2 :=
    length_toList_padded (by decide) (Nat.lt_of_le_of_lt d.month_le (by decide))
  have hday : (padded 2 d.day).toList.length = 2 :=
    length_toList_padded (by decide) (Nat.lt_of_le_of_lt d.day_le (by decide))
  have hdate : Date.of? d.year d.month d.day = some d := dif_pos d.isDate
  have hdayread : someDigits? 2 ((padded 2 d.day).toList ++ []) = some (d.day, []) :=
    someDigits?_padded (Nat.le_of_eq hday) (.inl hday)
  have hdaystart := trimStart_padded 2 d.day []
  rw [List.append_nil] at hdayread hdaystart
  have hread : dateOf? d.text.toList = some (d, []) := by
    unfold dateOf?
    rw [hstart, toList_text, yearOf?_yearText]
    simp [expect?, trimStart_padded, someDigits?_padded (Nat.le_of_eq hmonth) (.inl hmonth), hdaystart,
      hdayread, hdate]
  unfold ofText?
  rw [hread]

end Date

end CatalogImport.Calendar
