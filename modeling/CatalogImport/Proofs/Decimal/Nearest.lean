import CatalogImport.Decimal.Nearest
import CatalogImport.Proofs.Decimal.Double

/-!
# Doubles nearest to whole numbers

The double nearest to a positive whole number of 64 bits has 53 bits, and of two numbers the one that is
not greater has the double that is not above.  Main statement: the ratio of two such doubles, in percent,
lies between 0 and 100 (`percent_bounds`).
-/

namespace CatalogImport.Decimal

/-! ## Rounding to whole numbers -/

theorem roundHalfEven_bounds (num den : Nat) :
    num / den ≤ roundHalfEven num den ∧ roundHalfEven num den ≤ num / den + 1 := by
  unfold roundHalfEven
  dsimp only
  split
  · omega
  · split
    · omega
    · omega

theorem roundHalfEven_mono {num num' den : Nat} (h : num ≤ num') :
    roundHalfEven num den ≤ roundHalfEven num' den := by
  have hdiv : num / den ≤ num' / den := Nat.div_le_div_right h
  have hhigh := (roundHalfEven_bounds num den).2
  have hlow := (roundHalfEven_bounds num' den).1
  rcases Nat.lt_or_eq_of_le hdiv with hlt | heq
  · omega
  · have hmod : num % den ≤ num' % den := by
      have h₁ := Nat.div_add_mod num den
      have h₂ := Nat.div_add_mod num' den
      rw [heq] at h₁
      omega
    unfold roundHalfEven
    dsimp only
    rw [heq]
    repeat' split
    all_goals omega

/-! ## Whole numbers -/

section

variable {n : Nat}

theorem unitExponent_natural (h : n ≠ 0) : unitExponent n 1 = (n.log2 : Int) - 52 := by
  have hlog : (Nat.log2 1 : Int) = 0 := rfl
  have hle : 1 * Nat.pow 2 n.log2 ≤ n := by
    rw [Nat.one_mul]
    exact Nat.log2_self_le h
  have hscale : scaleRatio n 1 n.log2 = (n, 1 * Nat.pow 2 n.log2) := by
    unfold scaleRatio
    rw [if_neg (by omega), Int.natAbs_natCast]
  unfold unitExponent
  simp only [hlog, Int.sub_zero, hscale, if_pos hle]
  omega

/-- A whole number is scaled to one of 53 bits and a fraction. -/
theorem scaleRatio_natural (h : n ≠ 0) :
    2 ^ 52 ≤ (scaleRatio n 1 (n.log2 - 52)).1 / (scaleRatio n 1 (n.log2 - 52)).2 ∧
      (scaleRatio n 1 (n.log2 - 52)).1 / (scaleRatio n 1 (n.log2 - 52)).2 < 2 ^ 53 := by
  have hlow := Nat.log2_self_le h
  have hhigh := Nat.lt_log2_self (n := n)
  unfold scaleRatio
  by_cases hlog : n.log2 < 52
  · rw [if_pos (by omega), show ((n.log2 : Int) - 52).natAbs = 52 - n.log2 by omega]
    show 2 ^ 52 ≤ n * 2 ^ (52 - n.log2) / 1 ∧ n * 2 ^ (52 - n.log2) / 1 < 2 ^ 53
    rw [Nat.div_one]
    have hpos : 0 < 2 ^ (52 - n.log2) := Nat.two_pow_pos _
    constructor
    · calc 2 ^ 52 = 2 ^ n.log2 * 2 ^ (52 - n.log2) := by
            rw [← Nat.pow_add, Nat.add_sub_cancel' (Nat.le_of_lt hlog)]
        _ ≤ n * 2 ^ (52 - n.log2) := Nat.mul_le_mul_right _ hlow
    · calc n * 2 ^ (52 - n.log2) < 2 ^ (n.log2 + 1) * 2 ^ (52 - n.log2) :=
            Nat.mul_lt_mul_of_pos_right hhigh hpos
        _ = 2 ^ 53 := by
            rw [← Nat.pow_add, show n.log2 + 1 + (52 - n.log2) = 53 by omega]
  · rw [if_neg (by omega), show ((n.log2 : Int) - 52).natAbs = n.log2 - 52 by omega]
    show 2 ^ 52 ≤ n / (1 * 2 ^ (n.log2 - 52)) ∧ n / (1 * 2 ^ (n.log2 - 52)) < 2 ^ 53
    rw [Nat.one_mul]
    exact le_div_two_pow (by omega)

/-- The bits of the double nearest to a whole number that is not too great. -/
theorem nearestBits_natural (h : n ≠ 0) (hlt : n < 2 ^ 64) :
    nearestBits n 1 = (n.log2 + 1022) * 2 ^ 52 + roundHalfEven (scaleRatio n 1 (n.log2 - 52)).1
      (scaleRatio n 1 (n.log2 - 52)).2 := by
  have hlog : n.log2 < 64 := (Nat.log2_lt h).2 hlt
  have hhigh := (roundHalfEven_bounds (scaleRatio n 1 (n.log2 - 52)).1
    (scaleRatio n 1 (n.log2 - 52)).2).2
  have hscale := (scaleRatio_natural h).2
  have hpower : ((n.log2 : Int) - 52 + 1074).toNat = n.log2 + 1022 := by omega
  have hmost : 2047 * Nat.pow 2 52 = 2047 * 2 ^ 52 := rfl
  have hunit : (n.log2 + 1022) * Nat.pow 2 52 = (n.log2 + 1022) * 2 ^ 52 := rfl
  unfold nearestBits
  rw [if_neg h, unitExponent_natural h]
  simp only [hpower, hmost, hunit]
  omega

theorem nearestBits_mono {n' : Nat} (h : n ≠ 0) (hle : n ≤ n') (hlt : n' < 2 ^ 64) :
    nearestBits n 1 ≤ nearestBits n' 1 := by
  have h' : n' ≠ 0 := by omega
  have hhigh := (roundHalfEven_bounds (scaleRatio n 1 (n.log2 - 52)).1
    (scaleRatio n 1 (n.log2 - 52)).2).2
  have hlow := (roundHalfEven_bounds (scaleRatio n' 1 (n'.log2 - 52)).1
    (scaleRatio n' 1 (n'.log2 - 52)).2).1
  have hscale := (scaleRatio_natural h).2
  have hscale' := (scaleRatio_natural h').1
  have hlog : n.log2 ≤ n'.log2 := (Nat.le_log2 h').2 (Nat.le_trans (Nat.log2_self_le h) hle)
  rw [nearestBits_natural h (by omega), nearestBits_natural h' hlt]
  rcases Nat.lt_or_eq_of_le hlog with hless | heq
  · omega
  · rw [← heq]
    refine Nat.add_le_add_left ?_ _
    unfold scaleRatio
    split
    · exact roundHalfEven_mono (Nat.mul_le_mul_right _ hle)
    · exact roundHalfEven_mono hle

/-- Also a multiple that was rounded up to 54 bits stands for a double of 53 bits. -/
theorem exists_form_of_bits {l r : Nat} (hl : l < 64) (hlow : 2 ^ 52 ≤ r) (hhigh : r ≤ 2 ^ 53) :
    ∃ m e, IsForm m e ∧ (l + 1022) * 2 ^ 52 + r = bitsOf m e ∧ -52 ≤ e ∧ e ≤ 12 := by
  unfold bitsOf
  by_cases hr : r < 2 ^ 53
  · exact ⟨r, l - 52, ⟨hlow, hr, by omega, by omega⟩, by omega, by omega, by omega⟩
  · exact ⟨2 ^ 52, l - 51, ⟨by decide, by decide, by omega, by omega⟩, by omega, by omega, by omega⟩

/-- The double nearest to a positive whole number of 64 bits has 53 bits. -/
theorem exists_form_ofNat (h : n ≠ 0) (hlt : n < 2 ^ 64) :
    ∃ m e, HasForm (ofNat n) m e ∧ nearestBits n 1 = bitsOf m e ∧ -52 ≤ e ∧ e ≤ 12 := by
  obtain ⟨hlow, hhigh⟩ := roundHalfEven_bounds (scaleRatio n 1 (n.log2 - 52)).1
    (scaleRatio n 1 (n.log2 - 52)).2
  obtain ⟨hscale, hscale'⟩ := scaleRatio_natural h
  obtain ⟨m, e, hform, hbits, he⟩ := exists_form_of_bits ((Nat.log2_lt h).2 hlt)
    (Nat.le_trans hscale hlow) (Nat.le_trans hhigh hscale')
  rw [← nearestBits_natural h hlt] at hbits
  refine ⟨m, e, ?_, hbits, he⟩
  unfold ofNat nearest
  rw [hbits]
  exact hform.hasForm_ofBits

end

/-- Doubles are in the order of their bits. -/
theorem IsForm.notAbove {m m' : Nat} {e e' : Int} (h : IsForm m e) (h' : IsForm m' e')
    (hle : bitsOf m e ≤ bitsOf m' e') : NotAbove m e m' e' := by
  have h₁ := h.le_multiple
  have h₂ := h.le_power
  have h₃ := h'.multiple_lt
  have h₄ := h'.le_power
  unfold bitsOf at hle
  unfold NotAbove
  omega

/-- A part of a whole number, in percent of it. -/
theorem percent_bounds {part whole : Nat} (hle : part ≤ whole) (hpos : whole ≠ 0)
    (hlt : whole < 2 ^ 64) :
    0.0 ≤ ofNat part / ofNat whole * 100.0 ∧ ofNat part / ofNat whole * 100.0 ≤ 100.0 := by
  obtain ⟨m', e', hwhole, hbits', hlow', hhigh'⟩ := exists_form_ofNat hpos hlt
  by_cases hpart : part = 0
  · subst hpart
    have hnothing : (ofNat 0).toModel.unpack = .zero .positive := rfl
    have hratio : ofNat 0 / ofNat whole = 0.0 := by
      show Float.ofModel (.pack (.div .binary64 (ofNat 0).toModel.unpack (ofNat whole).toModel.unpack)) =
        0.0
      rw [hnothing, hwhole.unpack_eq]
      rfl
    rw [hratio]
    decide +kernel
  · obtain ⟨m, e, hform, hbits, hlow, hhigh⟩ := exists_form_ofNat hpart (by omega)
    have hbelow : NotAbove m e m' e' := by
      refine hform.toIsForm.notAbove hwhole.toIsForm ?_
      rw [← hbits, ← hbits']
      exact nearestBits_mono hpart hle hlt
    obtain ⟨M, E, hratio, hone, hE⟩ := hform.div_le_one hwhole hbelow (by omega)
    obtain ⟨M', E', hpercent, hhundred⟩ := hratio.mul_le hasForm_hundred hone (by omega)
    exact ⟨hpercent.nonneg, hpercent.le hasForm_hundred hhundred⟩

end CatalogImport.Decimal
