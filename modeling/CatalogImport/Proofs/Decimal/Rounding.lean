import Mathlib

/-!
# Rounding to doubles

A positive double that is not tiny is a multiple of 53 bits of a power of two.  Main statement: what is
rounded does not rise above a double that it was not above before (`exists_form_rounded`).  Tiny doubles,
which have fewer bits, do not come up.
-/

namespace CatalogImport.Decimal

open Float.Model Float.Model.UnpackedFloat

/-! ## Multiples of powers of two -/

/-- The multiple has 53 bits, and the power is one that a double can have. -/
structure IsForm (m : Nat) (e : Int) : Prop where
  le_multiple : 2 ^ 52 ≤ m
  multiple_lt : m < 2 ^ 53
  le_power : -1074 ≤ e
  power_le : e ≤ 971

/-- Of two multiples of 53 bits, the first is not the greater number. -/
def NotAbove (m : Nat) (e : Int) (m' : Nat) (e' : Int) : Prop := e < e' ∨ e = e' ∧ m ≤ m'

theorem IsForm.multiple_pos {m : Nat} {e : Int} (h : IsForm m e) : 0 < m := by
  have hle := h.le_multiple
  omega

theorem IsForm.log2_eq {m : Nat} {e : Int} (h : IsForm m e) : m.log2 = 52 :=
  (Nat.log2_eq_iff (Nat.ne_of_gt h.multiple_pos)).2 ⟨h.le_multiple, h.multiple_lt⟩

/-! ## Dropping bits -/

theorem mantissa_shiftRight (x : ExtendedMantissa) (k : Nat) :
    (x >>> k).mantissa = x.mantissa / 2 ^ k := by
  induction k with
  | zero => exact (Nat.div_one _).symm
  | succ k ih =>
    have hstep : (x >>> (k + 1)).mantissa = (x >>> k).mantissa / 2 := rfl
    rw [hstep, ih, Nat.div_div_eq_div_mul, Nat.pow_succ]

/-- No bit is lost of a multiple. -/
theorem shiftRight_multiple (m k : Nat) :
    (⟨m * 2 ^ k, false, false⟩ : ExtendedMantissa) >>> k = ⟨m, false, false⟩ := by
  induction k generalizing m with
  | zero =>
    rw [Nat.pow_zero, Nat.mul_one]
    rfl
  | succ k ih =>
    have hstep : (⟨m * 2 ^ (k + 1), false, false⟩ : ExtendedMantissa) >>> (k + 1) =
        ((⟨2 * m * 2 ^ k, false, false⟩ : ExtendedMantissa) >>> k).shiftRightOne := by
      rw [Nat.pow_succ, Nat.mul_comm _ 2, ← Nat.mul_assoc, Nat.mul_comm m 2]
      rfl
    rw [hstep, ih]
    simp [ExtendedMantissa.shiftRightOne]

theorem roundedMantissa_bounds (x : ExtendedMantissa) :
    x.mantissa ≤ x.roundedMantissa ∧ x.roundedMantissa ≤ x.mantissa + 1 := by
  obtain ⟨m, roundBit, stickyBit⟩ := x
  unfold ExtendedMantissa.roundedMantissa
  cases roundBit <;> cases stickyBit <;>
    simp only [ExtendedMantissa.accuracy, Accuracy.roundToNearestEven] <;> omega

theorem mantissa_ofMantissaAndAccuracy (m : Nat) (a : Accuracy) :
    (ExtendedMantissa.ofMantissaAndAccuracy m a).mantissa = m := by
  cases a with
  | exact => rfl
  | inexact o => cases o <;> rfl

/-- With 53 bits or more, exactly the bits above 53 are dropped. -/
theorem shiftToTargetExponent_eq {m : Nat} {e : Int} {a : Accuracy} (hm : 52 ≤ m.log2)
    (he : -1074 ≤ e) :
    shiftToTargetExponent Format.binary64 m e a =
      (ExtendedMantissa.ofMantissaAndAccuracy m a >>> (m.log2 - 52), e + (m.log2 - 52 : Nat)) := by
  have htarget : Format.binary64.targetExponent (totalExponent m e) = e + (m.log2 - 52 : Nat) := by
    simp only [Format.targetExponent, totalExponent, Format.mantissaBits, Format.minExponent]
    omega
  have hshift : (e + (m.log2 - 52 : Nat) - e).toNat = m.log2 - 52 := by omega
  rw [shiftToTargetExponent, htarget, shiftToExponent, hshift]

/-! ## Rounding -/

/-- Of a multiple of at least 53 bits, 53 are left. -/
theorem le_div_two_pow {m : Nat} (hm : 52 ≤ m.log2) :
    2 ^ 52 ≤ m / 2 ^ (m.log2 - 52) ∧ m / 2 ^ (m.log2 - 52) < 2 ^ 53 := by
  have hpos : 0 < 2 ^ (m.log2 - 52) := Nat.two_pow_pos _
  have hne : m ≠ 0 := by
    rintro rfl
    exact absurd hm (by decide)
  constructor
  · rw [Nat.le_div_iff_mul_le hpos, ← Nat.pow_add, Nat.add_sub_cancel' hm]
    exact Nat.log2_self_le hne
  · rw [Nat.div_lt_iff_lt_mul hpos, ← Nat.pow_add, show 53 + (m.log2 - 52) = m.log2 + 1 by omega]
    exact Nat.lt_log2_self

/-- What bits are dropped is decided twice, before rounding and after it. -/
theorem roundWithAccuracy_of_shifts {spec : Format} {s : Sign} {m : Nat} {e e₁ e₂ : Int} {a : Accuracy}
    {x₁ x₂ : ExtendedMantissa} (h₁ : shiftToTargetExponent spec m e a = (x₁, e₁))
    (h₂ : shiftToTargetExponent spec x₁.roundedMantissa e₁ .exact = (x₂, e₂))
    (hpos : 0 < x₂.mantissa) :
    roundWithAccuracy spec s m e a = .finite s x₂.mantissa e₂ hpos := by
  unfold roundWithAccuracy
  simp only [h₁, h₂, Nat.ne_of_gt hpos, dif_neg, not_false_eq_true]

/-- Rounding takes the nearest multiple of 53 bits, and one bit less of it if there are 54. -/
theorem roundWithAccuracy_eq {s : Sign} {m : Nat} {e : Int} {a : Accuracy} {x : ExtendedMantissa}
    (hm : 52 ≤ m.log2) (he : -1074 ≤ e)
    (hx : ExtendedMantissa.ofMantissaAndAccuracy m a >>> (m.log2 - 52) = x) :
    ∃ M E hM, roundWithAccuracy Format.binary64 s m e a = .finite s M E hM ∧
      (x.roundedMantissa < 2 ^ 53 ∧ M = x.roundedMantissa ∧ E = e + (m.log2 - 52 : Nat) ∨
        x.roundedMantissa = 2 ^ 53 ∧ M = 2 ^ 52 ∧ E = e + (m.log2 - 52 : Nat) + 1) := by
  obtain ⟨hlow, hhigh⟩ := le_div_two_pow hm
  obtain ⟨hrlow, hrhigh⟩ := roundedMantissa_bounds x
  have hmantissa : x.mantissa = m / 2 ^ (m.log2 - 52) := by
    rw [← hx, mantissa_shiftRight, mantissa_ofMantissaAndAccuracy]
  have hne : x.roundedMantissa ≠ 0 := by omega
  have hlog : 52 ≤ x.roundedMantissa.log2 := (Nat.le_log2 hne).2 (by omega)
  have hfirst := shiftToTargetExponent_eq (a := a) hm he
  have hsecond := shiftToTargetExponent_eq (e := e + (m.log2 - 52 : Nat)) (a := .exact) hlog (by omega)
  rw [hx] at hfirst
  by_cases hsmall : x.roundedMantissa < 2 ^ 53
  · have hlog : x.roundedMantissa.log2 = 52 := (Nat.log2_eq_iff hne).2 ⟨by omega, hsmall⟩
    rw [hlog] at hsecond
    exact ⟨_, _, _, roundWithAccuracy_of_shifts hfirst hsecond (Nat.pos_of_ne_zero hne),
      .inl ⟨hsmall, rfl, Int.add_zero _⟩⟩
  · have hmax : x.roundedMantissa = 2 ^ 53 := by omega
    have hlog : x.roundedMantissa.log2 = 53 := hmax ▸ Nat.log2_two_pow
    rw [hlog] at hsecond
    have hhalf : (ExtendedMantissa.ofMantissaAndAccuracy x.roundedMantissa .exact >>>
        (53 - 52)).mantissa = 2 ^ 52 := by
      rw [hmax]
      rfl
    exact ⟨_, _, _, roundWithAccuracy_of_shifts hfirst hsecond (by omega), .inr ⟨hmax, hhalf, rfl⟩⟩

/-- What is not above a double is not above it when it has been rounded. -/
theorem exists_form_rounded {s : Sign} {m n M₀ : Nat} {e : Int} {a : Accuracy} (hm : 52 ≤ m.log2)
    (he : -1074 ≤ e) (h₀ : IsForm M₀ (e + n))
    (hle : m < M₀ * 2 ^ n ∨ m = M₀ * 2 ^ n ∧ a = .exact) :
    ∃ M E hM, roundWithAccuracy Format.binary64 s m e a = .finite s M E hM ∧ IsForm M E ∧
      NotAbove M E M₀ (e + n) ∧ e ≤ E := by
  obtain ⟨hlow, hhigh⟩ := le_div_two_pow hm
  have hbounds :=
    roundedMantissa_bounds (ExtendedMantissa.ofMantissaAndAccuracy m a >>> (m.log2 - 52))
  rw [mantissa_shiftRight, mantissa_ofMantissaAndAccuracy] at hbounds
  obtain ⟨M, E, hM, hround, hform⟩ := roundWithAccuracy_eq (s := s) hm he rfl
  generalize hr : (ExtendedMantissa.ofMantissaAndAccuracy m a >>> (m.log2 - 52)).roundedMantissa = r
    at hbounds hform
  have hpower := h₀.power_le
  have hleast := h₀.le_multiple
  have hgreatest := h₀.multiple_lt
  -- no more bits are dropped than there are between the two powers
  have hdropped : m.log2 - 52 ≤ n := by
    have hne : m ≠ 0 := by
      rintro rfl
      exact absurd hm (by decide)
    have hlt : m < 2 ^ (53 + n) := by
      have hmul : M₀ * 2 ^ n < 2 ^ 53 * 2 ^ n :=
        Nat.mul_lt_mul_of_pos_right hgreatest (Nat.two_pow_pos n)
      rw [← Nat.pow_add] at hmul
      omega
    have hlog := (Nat.log2_lt hne).2 hlt
    omega
  refine ⟨M, E, hM, hround, ?_⟩
  by_cases hn : m.log2 - 52 = n
  · have hq : r ≤ M₀ := by
      rcases hle with hlt | ⟨hm, rfl⟩
      · have hdiv : m / 2 ^ n < M₀ := (Nat.div_lt_iff_lt_mul (Nat.two_pow_pos n)).2 hlt
        rw [hn] at hbounds
        omega
      · rw [hn, hm] at hr
        have hexact : ExtendedMantissa.ofMantissaAndAccuracy (M₀ * 2 ^ n) .exact >>> n =
            ⟨M₀, false, false⟩ := shiftRight_multiple M₀ n
        rw [hexact] at hr
        exact Nat.le_of_eq hr.symm
    obtain ⟨-, rfl, rfl⟩ | ⟨hr, -, -⟩ := hform
    · rw [hn]
      exact ⟨⟨by omega, by omega, by omega, by omega⟩, .inr ⟨rfl, hq⟩, by omega⟩
    · omega
  · rcases hform with ⟨hsmall, rfl, rfl⟩ | ⟨-, rfl, rfl⟩
    · exact ⟨⟨by omega, by omega, by omega, by omega⟩, .inl (by omega), by omega⟩
    · refine ⟨⟨by omega, by omega, by omega, by omega⟩, ?_, by omega⟩
      unfold NotAbove
      omega

end CatalogImport.Decimal
