import CatalogImport.Decimal.Digits
import Mathlib.Algebra.Group.Nat.Defs

/-!
# Numerals with leading zeros

Numerals with leading zeros up to a width consist of digits alone (`isDigit_of_mem_padded`), as texts they
order as their numbers do (`padded_lt_padded`), and read back they give their numbers (`valueFrom_padded`).
Where a number is to stay below a limit, leading zeros and a plus sign change nothing (`unsigned?_numeral`), and
with a minus sign nothing is read (`unsigned?_minus`).
-/

namespace CatalogImport.Decimal

/-- The last digit of a numeral is that of the ones. -/
theorem toList_padded_succ (width n : Nat) (hwidth : 0 < width) :
    (padded (width + 1) n).toList = (padded width (n / 10)).toList ++ [(n % 10).digitChar] := by
  unfold padded
  rw [String.toList_ofList, String.toList_ofList]
  by_cases hn : n < 10
  · have hzeros : width - 1 + 1 = width := Nat.sub_add_cancel hwidth
    rw [Nat.div_eq_of_lt hn, Nat.mod_eq_of_lt hn, Nat.toDigits_of_lt_base hn, Nat.toDigits_zero,
      List.length_singleton, List.length_singleton, Nat.add_sub_cancel, ← hzeros,
      List.replicate_succ']
    rfl
  · rw [Nat.toDigits_of_base_le (by decide) (Nat.le_of_not_lt hn), List.length_append,
      List.length_singleton, Nat.add_sub_add_right, List.append_assoc]

theorem toList_padded_one {n : Nat} (hn : n < 10) : (padded 1 n).toList = [n.digitChar] := by
  unfold padded
  rw [String.toList_ofList, Nat.toDigits_of_lt_base hn]
  rfl

theorem length_toList_padded {width n : Nat} (hwidth : 0 < width) (hn : n < 10 ^ width) :
    (padded width n).toList.length = width := by
  have hlength := (Nat.length_toDigits_le_iff (by decide) hwidth).2 hn
  unfold padded
  rw [String.toList_ofList, List.length_append, List.length_replicate]
  omega

theorem isDigit_of_mem_padded {width n : Nat} {c : Char} (h : c ∈ (padded width n).toList) :
    c.isDigit = true := by
  unfold padded at h
  rw [String.toList_ofList] at h
  rcases List.mem_append.1 h with h | h
  · rw [List.eq_of_mem_replicate h]
    rfl
  · exact Nat.isDigit_of_mem_toDigits (by decide) (by decide) h

theorem digitChar_lt_digitChar {m n : Nat} (hmn : m < n) (hn : n < 10) : m.digitChar < n.digitChar := by
  rw [Char.lt_def, UInt32.lt_iff_toNat_lt]
  have hm := Nat.toNat_digitChar_of_lt_ten (Nat.lt_trans hmn hn)
  have hn' := Nat.toNat_digitChar_of_lt_ten hn
  unfold Char.toNat at hm hn'
  omega

/-- Of two texts of one length the one that is less stays so whatever is written behind both. -/
theorem append_lt_append {cs ds es fs : List Char} (hlength : cs.length = ds.length) (h : cs < ds) :
    cs ++ es < ds ++ fs := by
  induction cs generalizing ds with
  | nil =>
    rw [List.length_nil] at hlength
    rw [List.eq_nil_of_length_eq_zero hlength.symm] at h
    exact absurd h (List.lt_irrefl [])
  | cons c cs ih =>
    cases ds with
    | nil => cases hlength
    | cons d ds =>
      rw [List.cons_append, List.cons_append, List.cons_lt_cons_iff]
      rcases List.cons_lt_cons_iff.1 h with hlt | ⟨rfl, hlt⟩
      · exact .inl hlt
      · exact .inr ⟨rfl, ih (Nat.succ.inj hlength) hlt⟩

/-- Numerals of one width order as their numbers do. -/
theorem padded_lt_padded {width m n : Nat} (hmn : m < n) (hn : n < 10 ^ (width + 1)) :
    (padded (width + 1) m).toList < (padded (width + 1) n).toList := by
  induction width generalizing m n with
  | zero =>
    have hn' : n < 10 := hn
    rw [toList_padded_one (Nat.lt_trans hmn hn'), toList_padded_one hn']
    exact List.cons_lt_cons_iff.2 (.inl (digitChar_lt_digitChar hmn hn'))
  | succ width ih =>
    have hpow : 10 ^ (width + 1 + 1) = 10 ^ (width + 1) * 10 := Nat.pow_succ ..
    have htens : n / 10 < 10 ^ (width + 1) := by omega
    rw [toList_padded_succ _ m (Nat.succ_pos width), toList_padded_succ _ n (Nat.succ_pos width)]
    rcases Nat.lt_or_ge (m / 10) (n / 10) with hlt | hge
    · have hm := length_toList_padded (Nat.succ_pos width) (Nat.lt_trans hlt htens)
      have hn := length_toList_padded (Nat.succ_pos width) htens
      exact append_lt_append (hm.trans hn.symm) (ih hlt htens)
    · have hsame : m / 10 = n / 10 := by omega
      have hones : m % 10 < n % 10 := by omega
      rw [hsame]
      refine List.append_left_lt (List.cons_lt_cons_iff.2 (.inl ?_))
      exact digitChar_lt_digitChar hones (Nat.mod_lt n (by decide))

/-! ## Reading them back -/

theorem padded_ne_nil (width n : Nat) : (padded width n).toList ≠ [] := by
  unfold padded
  rw [String.toList_ofList]
  intro h
  have hlength : (Nat.toDigits 10 n).length = 0 := congrArg List.length (List.append_eq_nil_iff.1 h).2
  exact absurd hlength (Nat.ne_of_gt Nat.length_toDigits_pos)

theorem isDigit_eq (c : Char) : isDigit c = c.isDigit := rfl

theorem valueFrom_zeros_append (zeros n : Nat) :
    valueFrom 0 (List.replicate zeros '0' ++ Nat.toDigits 10 n) = n := by
  have hdigits (cs : List Char) : valueFrom 0 cs = Nat.ofDigitChars 10 cs 0 := Nat.ofDigitChars_eq_foldl.symm
  rw [hdigits, Nat.ofDigitChars_append, Nat.ofDigitChars_replicate_zero, Nat.mul_zero,
    Nat.ofDigitChars_ten_toDigits]

/-- Leading zeros do not count. -/
theorem valueFrom_padded (width n : Nat) : valueFrom 0 (padded width n).toList = n := by
  unfold padded
  rw [String.toList_ofList, valueFrom_zeros_append]

theorem toList_numeral (n : Nat) : (numeral n).toList = Nat.toDigits 10 n := String.toList_ofList

theorem numeral_ne_nil (n : Nat) : (numeral n).toList ≠ [] := by
  rw [toList_numeral]
  exact Nat.toDigits_ne_nil

theorem isDigit_of_mem_numeral {n : Nat} {c : Char} (h : c ∈ (numeral n).toList) : c.isDigit = true := by
  rw [toList_numeral] at h
  exact Nat.isDigit_of_mem_toDigits (by decide) (by decide) h

/-- A numeral does not begin with a zero, unless its number is zero. -/
theorem head?_numeral_ne_zero {n : Nat} (hn : 0 < n) : (numeral n).toList.head? ≠ some '0' := by
  rw [toList_numeral]
  induction n using Nat.strongRecOn with
  | ind n ih =>
    rcases Nat.lt_or_ge n 10 with hlt | hge
    · rw [Nat.toDigits_of_lt_base hlt]
      intro hhead
      have hvalue := Nat.toNat_digitChar_of_lt_ten hlt
      rw [Option.some.inj hhead] at hvalue
      have hzero : '0'.toNat = 48 := rfl
      omega
    · have htens : (Nat.toDigits 10 (n / 10)).head? ≠ some '0' := ih (n / 10) (by omega) (by omega)
      obtain ⟨c, cs, hdigits⟩ := List.exists_cons_of_ne_nil (Nat.toDigits_ne_nil (n := n / 10) (b := 10))
      rw [hdigits] at htens
      rw [Nat.toDigits_of_base_le (by decide) hge, hdigits]
      exact htens

theorem isDigit_of_mem_zeros_append {zeros n : Nat} {c : Char}
    (h : c ∈ List.replicate zeros '0' ++ (numeral n).toList) : c.isDigit = true := by
  rcases List.mem_append.1 h with h | h
  · rw [List.eq_of_mem_replicate h]
    rfl
  · exact isDigit_of_mem_numeral h

theorem natural?_zeros_append (zeros n : Nat) :
    natural? (List.replicate zeros '0' ++ (numeral n).toList) = some n := by
  have hne : List.replicate zeros '0' ++ (numeral n).toList ≠ [] :=
    List.append_ne_nil_of_right_ne_nil _ (numeral_ne_nil n)
  have hdigits : (List.replicate zeros '0' ++ (numeral n).toList).all isDigit = true :=
    List.all_eq_true.2 fun _ => isDigit_of_mem_zeros_append
  rw [natural?, if_pos ⟨hne, hdigits⟩, toList_numeral, valueFrom_zeros_append]

theorem unsigned?_plus (limit : Nat) (cs : List Char) :
    unsigned? limit ('+' :: cs) = (natural? cs).filter (· < limit) := rfl

theorem unsigned?_of_head? {cs : List Char} (limit : Nat) (hhead : cs.head? ≠ some '+') :
    unsigned? limit cs = (natural? cs).filter (· < limit) := by
  unfold unsigned?
  split
  · exact absurd rfl hhead
  · rfl

/-- A number below the limit is read from its digits, behind zeros and behind a plus sign. -/
theorem unsigned?_numeral {limit zeros n : Nat} {plus : List Char} (hplus : plus = [] ∨ plus = ['+']) :
    unsigned? limit (plus ++ (List.replicate zeros '0' ++ (numeral n).toList)) =
      if n < limit then some n else none := by
  have hdigits : unsigned? limit (plus ++ (List.replicate zeros '0' ++ (numeral n).toList)) =
      (natural? (List.replicate zeros '0' ++ (numeral n).toList)).filter (· < limit) := by
    rcases hplus with rfl | rfl
    · refine unsigned?_of_head? limit fun hhead => ?_
      exact absurd (isDigit_of_mem_zeros_append (List.mem_of_head? hhead)) (by decide)
    · exact unsigned?_plus limit _
  rw [hdigits, natural?_zeros_append]
  simp [Option.filter]

/-- Behind a minus sign there is no number to be read, not even zero. -/
theorem unsigned?_minus (limit : Nat) (cs : List Char) : unsigned? limit ('-' :: cs) = none := by
  have hnatural : natural? ('-' :: cs) = none := if_neg fun h => by simp [isDigit_eq] at h
  rw [unsigned?_of_head? limit (by simp), hnatural]
  rfl

end CatalogImport.Decimal
