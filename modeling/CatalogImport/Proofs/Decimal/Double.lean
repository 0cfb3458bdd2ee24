import CatalogImport.Proofs.Decimal.Rounding

/-!
# Positive doubles

What the bits of a positive double are, and what comes of dividing and multiplying two of them.
-/

namespace CatalogImport.Decimal

open Float.Model Float.Model.UnpackedFloat

/-! ## Bits -/

theorem IsForm.pack_eq {m : Nat} {e : Int} (h : IsForm m e) :
    UnpackedFloat.pack Format.binary64 (.finite .positive m e h.multiple_pos) =
      packComponents Format.binary64 .positive (BitVec.ofNat 11 (e + 1075).toNat)
        (BitVec.ofNat 52 m) := by
  have hlow := h.le_power
  have hhigh := h.power_le
  have hbias : (Format.binary64.exponentBias : Int) = 1023 := rfl
  have hbits : (Format.binary64.mantissaBitsWithoutImplicit : Int) = 52 := rfl
  have hbiased : e + Format.binary64.exponentBias + Format.binary64.mantissaBitsWithoutImplicit =
      e + 1075 := by
    omega
  have hfits : ¬ 2 ^ Format.binary64.exponentBits ≤ (e + 1075).toNat + 1 := by
    have hall : 2 ^ Format.binary64.exponentBits = 2048 := rfl
    omega
  have hnormal : m.log2 + 1 = Format.binary64.mantissaBits := by
    rw [h.log2_eq]
    rfl
  unfold UnpackedFloat.pack
  simp only [hbiased]
  rw [if_neg hfits, if_pos hnormal]

/-- A double of 53 bits is read as it was written. -/
theorem IsForm.unpack_pack {m : Nat} {e : Int} (h : IsForm m e) :
    (Float.Model.pack (.finite .positive m e h.multiple_pos)).unpack =
      .finite .positive m e h.multiple_pos := by
  have hlow := h.le_power
  have hhigh := h.power_le
  have hbias : Format.binary64.exponentBias = 1023 := rfl
  have hexponent : (BitVec.ofNat 11 (e + 1075).toNat).toNat = (e + 1075).toNat := by
    rw [BitVec.toNat_ofNat]
    exact Nat.mod_eq_of_lt (by omega)
  have hmantissa : (1#1 ++ BitVec.ofNat 52 m).toNat = m := by
    have hle := h.le_multiple
    have hlt := h.multiple_lt
    rw [BitVec.toNat_append, ← Nat.shiftLeft_add_eq_or_of_lt (BitVec.isLt _), BitVec.toNat_ofNat,
      BitVec.toNat_ofNat, Nat.shiftLeft_eq]
    omega
  have hnotAll : BitVec.ofNat 11 (e + 1075).toNat ≠ -1#11 := by
    intro heq
    have hnat := congrArg BitVec.toNat heq
    rw [hexponent] at hnat
    have hall : (-1#11 : BitVec 11).toNat = 2047 := rfl
    omega
  have hnotZero : BitVec.ofNat 11 (e + 1075).toNat ≠ 0#11 := by
    intro heq
    have hnat := congrArg BitVec.toNat heq
    rw [hexponent] at hnat
    have hzero : (0#11 : BitVec 11).toNat = 0 := rfl
    omega
  unfold Float.Model.unpack Float.Model.pack
  simp only [h.pack_eq]
  unfold UnpackedFloat.unpack
  simp only [unpackExponent_packComponents, unpackMantissa_packComponents, unpackSign_packComponents]
  rw [if_neg hnotAll, if_neg hnotZero]
  have hpower : ((e + 1075).toNat : Int) - ((Format.binary64.exponentBias : Int) + (52 : Nat)) = e := by
    rw [hbias]
    omega
  simp only [hmantissa, hexponent, hpower]
  rfl

/-- The bits of a double of 53 bits, as a number. -/
def bitsOf (m : Nat) (e : Int) : Nat := (e + 1074).toNat * 2 ^ 52 + m

theorem IsForm.toNat_toBits {m : Nat} {e : Int} (h : IsForm m e) :
    (Float.Model.pack (.finite .positive m e h.multiple_pos)).toBits.toNat = bitsOf m e := by
  have hlow := h.le_power
  have hhigh := h.power_le
  have hle := h.le_multiple
  have hlt := h.multiple_lt
  have hbits : (Float.Model.pack (.finite .positive m e h.multiple_pos)).toBits.toNat =
      (0#1 ++ BitVec.ofNat 11 (e + 1075).toNat ++ BitVec.ofNat 52 m).toNat := by
    unfold Float.Model.pack
    simp only [h.pack_eq]
    rfl
  rw [hbits, BitVec.toNat_append, ← Nat.shiftLeft_add_eq_or_of_lt (BitVec.isLt _),
    BitVec.toNat_append, ← Nat.shiftLeft_add_eq_or_of_lt (BitVec.isLt _), BitVec.toNat_ofNat,
    BitVec.toNat_ofNat, BitVec.toNat_ofNat, Nat.shiftLeft_eq, Nat.shiftLeft_eq]
  unfold bitsOf
  omega

/-! ## Doubles of 53 bits -/

/-- A positive double with its multiple and its power of two. -/
structure HasForm (x : Float) (m : Nat) (e : Int) : Prop extends IsForm m e where
  unpack_eq : x.toModel.unpack = .finite .positive m e toIsForm.multiple_pos

theorem IsForm.hasForm_ofBits {m : Nat} {e : Int} (h : IsForm m e) :
    HasForm (Float.ofBits (UInt64.ofNat (bitsOf m e))) m e := by
  refine ⟨h, ?_⟩
  have hbits : UInt64.ofNat (bitsOf m e) =
      (Float.Model.pack (.finite .positive m e h.multiple_pos)).toBits := by
    rw [← h.toNat_toBits, UInt64.ofNat_toNat]
  rw [hbits]
  show (Float.Model.pack (Float.Model.pack _).unpack).unpack = _
  rw [h.unpack_pack, h.unpack_pack]

theorem IsForm.hasForm_pack {m : Nat} {e : Int} {hm : 0 < m} (h : IsForm m e) :
    HasForm (.ofModel (Float.Model.pack (.finite .positive m e hm))) m e := ⟨h, h.unpack_pack⟩

theorem le_iff_unpack {x y : Float} : x ≤ y ↔ x.toModel.unpack.le y.toModel.unpack = true := by
  show decide (x.toModel ≤ y.toModel) = true ↔ _
  exact decide_eq_true_iff

/-- A double of 53 bits that is not above another one is not greater. -/
theorem HasForm.le {x y : Float} {m m' : Nat} {e e' : Int} (hx : HasForm x m e) (hy : HasForm y m' e')
    (hle : NotAbove m e m' e') : x ≤ y := by
  rw [le_iff_unpack, hx.unpack_eq, hy.unpack_eq]
  show ((compare e e').then (compare m m')).isLE = true
  rcases hle with hlt | ⟨rfl, hle⟩
  · rw [Int.compare_eq_lt.2 hlt]
    rfl
  · rw [Int.compare_eq_eq.2 rfl]
    exact Nat.isLE_compare.2 hle

/-- No double of 53 bits is less than zero. -/
theorem HasForm.nonneg {x : Float} {m : Nat} {e : Int} (h : HasForm x m e) : 0.0 ≤ x := by
  have hzero : (0.0 : Float).toModel.unpack = .zero .positive := rfl
  rw [le_iff_unpack, h.unpack_eq, hzero]
  rfl

/-! ## Division and multiplication -/

/-- The ratio of two doubles is one at most, also when it has been rounded, if the first is not above the
second. -/
theorem HasForm.div_le_one {x y : Float} {m m' : Nat} {e e' : Int} (hx : HasForm x m e)
    (hy : HasForm y m' e') (hle : NotAbove m e m' e') (hpower : -1000 ≤ e - e') :
    ∃ M E, HasForm (x / y) M E ∧ NotAbove M E (2 ^ 52) (-52) ∧ e - e' - 53 ≤ E := by
  have hx₁ := hx.le_multiple
  have hx₂ := hx.multiple_lt
  have hy₁ := hy.le_multiple
  have hy₂ := hy.multiple_lt
  have hpos := hy.multiple_pos
  have hquotient : x / y = .ofModel (Float.Model.pack
      (UnpackedFloat.div Format.binary64 x.toModel.unpack y.toModel.unpack)) := rfl
  have hcore : divCore Format.binary64 m e m' e' =
      (m <<< 53 / m', e - e' - 53, accuracyOfFraction (m <<< 53 % m') m') := by
    have htarget : min (e - e')
        (Format.binary64.targetExponent (totalExponent m e - totalExponent m' e')) = e - e' - 53 := by
      simp only [Format.targetExponent, totalExponent, Format.mantissaBits, Format.minExponent,
        hx.log2_eq, hy.log2_eq]
      omega
    have hshift : (e - e' - (e - e' - 53)).toNat = 53 := by omega
    unfold divCore
    simp only [htarget, hshift]
  have hlog : 52 ≤ (m <<< 53 / m').log2 := by
    have hle : 2 ^ 52 ≤ m <<< 53 / m' := by
      rw [Nat.le_div_iff_mul_le hpos, Nat.shiftLeft_eq]
      omega
    exact (Nat.le_log2 (by omega)).2 hle
  obtain ⟨n, hn⟩ : ∃ n : Nat, (-52 : Int) = e - e' - 53 + n := by
    refine ⟨(e' - e + 1).toNat, ?_⟩
    rcases hle with hlt | ⟨rfl, -⟩ <;> omega
  have hone : IsForm (2 ^ 52) (e - e' - 53 + n) := hn ▸ ⟨by decide, by decide, by decide, by decide⟩
  have hbound : m <<< 53 / m' < 2 ^ 52 * 2 ^ n ∨
      m <<< 53 / m' = 2 ^ 52 * 2 ^ n ∧ accuracyOfFraction (m <<< 53 % m') m' = .exact := by
    rw [Nat.shiftLeft_eq]
    rcases hle with hlt | ⟨rfl, hle⟩
    · -- the power is less, so that the ratio of the multiples does not matter
      have htwo : 2 ^ 2 ≤ 2 ^ n := Nat.pow_le_pow_right (by decide) (by omega)
      have hdiv : m * 2 ^ 53 / m' < 2 ^ 54 := (Nat.div_lt_iff_lt_mul hpos).2 (by omega)
      exact .inl (by omega)
    · obtain rfl : n = 1 := by omega
      rcases Nat.lt_or_eq_of_le hle with hlt | rfl
      · exact .inl ((Nat.div_lt_iff_lt_mul hpos).2 (by omega))
      · refine .inr ⟨Nat.mul_div_cancel_left _ hpos, ?_⟩
        rw [Nat.mul_mod_right]
        rfl
  obtain ⟨M, E, hM, hround, hform, hbelow, hle⟩ :=
    exists_form_rounded (s := .positive) hlog (by omega) hone hbound
  refine ⟨M, E, ?_, hn ▸ hbelow, hle⟩
  have hdiv : UnpackedFloat.div Format.binary64 x.toModel.unpack y.toModel.unpack =
      .finite .positive M E hM := by
    rw [hx.unpack_eq, hy.unpack_eq, ← hround]
    unfold UnpackedFloat.div
    simp only [hcore]
    rfl
  rw [hquotient, hdiv]
  exact hform.hasForm_pack

/-- The product of two doubles is not above the second, also when it has been rounded, if the first is one
at most. -/
theorem HasForm.mul_le {x y : Float} {m m' : Nat} {e e' : Int} (hx : HasForm x m e)
    (hy : HasForm y m' e') (hle : NotAbove m e (2 ^ 52) (-52)) (hpower : -1074 ≤ e + e') :
    ∃ M E, HasForm (x * y) M E ∧ NotAbove M E m' e' := by
  have hproduct : x * y = .ofModel (Float.Model.pack
      (UnpackedFloat.mul Format.binary64 x.toModel.unpack y.toModel.unpack)) := rfl
  have hx₁ := hx.le_multiple
  have hx₂ := hx.multiple_lt
  have hy₁ := hy.le_multiple
  have hpos := hy.multiple_pos
  have hlog : 52 ≤ (m * m').log2 := by
    have hle : 2 ^ 52 * 1 ≤ m * m' := Nat.mul_le_mul hx₁ hpos
    exact (Nat.le_log2 (by omega)).2 hle
  obtain ⟨n, hn⟩ : ∃ n : Nat, e' = e + e' + n := by
    have hneg : e ≤ -52 := by
      rcases hle with hlt | ⟨rfl, -⟩ <;> omega
    exact ⟨(-e).toNat, by omega⟩
  have hmultiple : m ≤ 2 ^ n := by
    rcases hle with hlt | ⟨rfl, hle⟩
    · have htwo : 2 ^ 53 ≤ 2 ^ n := Nat.pow_le_pow_right (by decide) (by omega)
      omega
    · obtain rfl : n = 52 := by omega
      exact hle
  have hbound : m * m' < m' * 2 ^ n ∨ m * m' = m' * 2 ^ n ∧ Accuracy.exact = .exact := by
    have hmul : m * m' ≤ m' * 2 ^ n := Nat.mul_comm m m' ▸ Nat.mul_le_mul_left m' hmultiple
    rcases Nat.lt_or_eq_of_le hmul with hlt | heq
    · exact .inl hlt
    · exact .inr ⟨heq, rfl⟩
  obtain ⟨M, E, hM, hround, hform, hbelow, -⟩ :=
    exists_form_rounded (s := .positive) hlog hpower (hn ▸ hy.toIsForm) hbound
  refine ⟨M, E, ?_, hn ▸ hbelow⟩
  have hmul : UnpackedFloat.mul Format.binary64 x.toModel.unpack y.toModel.unpack =
      .finite .positive M E hM := by
    rw [hx.unpack_eq, hy.unpack_eq, ← hround]
    rfl
  rw [hproduct, hmul]
  exact hform.hasForm_pack

theorem hasForm_hundred : HasForm 100.0 (100 * 2 ^ 46) (-46) := by
  have hform : IsForm (100 * 2 ^ 46) (-46) := ⟨by decide, by decide, by decide, by decide⟩
  have hbits : (100.0 : Float) = Float.ofBits (UInt64.ofNat (bitsOf (100 * 2 ^ 46) (-46))) := by
    decide +kernel
  rw [hbits]
  exact hform.hasForm_ofBits

end CatalogImport.Decimal
