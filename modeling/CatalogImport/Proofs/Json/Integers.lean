import CatalogImport.Proofs.Decimal.Padded
import CatalogImport.Proofs.Json.Values
import CatalogImport.Proofs.Text.Blank
import CatalogImport.Proofs.Text.ByteOrder
import Mathlib.Algebra.Group.Int.Defs

/-!
# Whole numbers

A whole number is written in digits, perhaps behind a minus sign, and its sign and its size decide what it is read
as: an integer where it fits 64 bits, and else a double (`ReadAs`).  Digits are kept in full as long as they fit
(`foldl_whole_of_lt`) and are known not to fit once they do not (`full_foldl_whole_of_le`).  Main statements: the
literal of an integer of 64 bits is read as that integer, whatever stands behind it (`readValue_signedNumeral`), and
where the literal of any integer is read, its size alone decides what as (`eq_of_readValue_signedNumeral`).
-/

namespace CatalogImport.Json

open CatalogImport.Decimal CatalogImport.Text

/-! ## Digits that are kept -/

section

variable {digit start : Nat} {digits : List Nat} {k : Kept}

theorem Kept.whole_of_lt (h : 10 * start + digit < Nat.pow 2 64) :
    (Kept.mk start 0 false).whole digit = ⟨10 * start + digit, 0, false⟩ := by
  have hfits : ¬ (false = true ∨ Nat.pow 2 64 ≤ 10 * start + digit) := by
    rintro (hfull | hlarge)
    · cases hfull
    · exact Nat.not_lt.2 hlarge h
  exact if_neg hfits

theorem Kept.full_whole (h : k.full = true ∨ Nat.pow 2 64 ≤ 10 * k.significand + digit) :
    (k.whole digit).full = true := by
  unfold Kept.whole
  dsimp only
  rw [if_pos h]

/-- What no longer fits does not fit again. -/
theorem Kept.full_foldl_whole (h : k.full = true) : (digits.foldl Kept.whole k).full = true := by
  induction digits generalizing k with
  | nil => exact h
  | cons digit digits ih => exact ih (Kept.full_whole (.inl h))

/-- A number does not become less by digits behind it. -/
theorem le_foldl_digits : start ≤ digits.foldl (10 * · + ·) start := by
  induction digits generalizing start with
  | nil => exact Nat.le_refl start
  | cons digit digits ih =>
    have hnext : start ≤ 10 * start + digit := by omega
    exact Nat.le_trans hnext ih

theorem foldl_whole_of_lt_from (h : digits.foldl (10 * · + ·) start < Nat.pow 2 64) :
    digits.foldl Kept.whole ⟨start, 0, false⟩ = ⟨digits.foldl (10 * · + ·) start, 0, false⟩ := by
  induction digits generalizing start with
  | nil => rfl
  | cons digit digits ih =>
    have hnext : 10 * start + digit < Nat.pow 2 64 := Nat.lt_of_le_of_lt le_foldl_digits h
    rw [List.foldl_cons, Kept.whole_of_lt hnext]
    exact ih h

theorem full_foldl_whole_of_le_from (hstart : start < Nat.pow 2 64)
    (h : Nat.pow 2 64 ≤ digits.foldl (10 * · + ·) start) :
    (digits.foldl Kept.whole ⟨start, 0, false⟩).full = true := by
  induction digits generalizing start with
  | nil => exact absurd hstart (Nat.not_lt.2 h)
  | cons digit digits ih =>
    rw [List.foldl_cons]
    -- the next digit still fits, or it is the first that does not
    rcases Nat.lt_or_ge (10 * start + digit) (Nat.pow 2 64) with hnext | hnext
    · rw [Kept.whole_of_lt hnext]
      exact ih hnext h
    · exact Kept.full_foldl_whole (Kept.full_whole (.inr hnext))

/-- Digits are kept in full as long as they fit. -/
theorem foldl_whole_of_lt (h : digitsValue digits < Nat.pow 2 64) :
    digits.foldl Kept.whole ⟨0, 0, false⟩ = ⟨digitsValue digits, 0, false⟩ := foldl_whole_of_lt_from h

theorem full_foldl_whole_of_le (h : Nat.pow 2 64 ≤ digitsValue digits) :
    (digits.foldl Kept.whole ⟨0, 0, false⟩).full = true := full_foldl_whole_of_le_from (by decide) h

end

/-! ## Integers and doubles -/

/-- A whole number of 64 bits: signed behind a minus sign, where there must be something to be taken away, and
unsigned elsewhere. -/
def Fits (negative : Bool) (m : Nat) : Prop :=
  if negative then 0 < m ∧ m ≤ Nat.pow 2 63 else m < Nat.pow 2 64

theorem fits_iff (n : Int) : Fits (decide (n < 0)) n.natAbs ↔ -(2 ^ 63) ≤ n ∧ n < 2 ^ 64 := by
  have hpowers : Nat.pow 2 63 = 9223372036854775808 ∧ Nat.pow 2 64 = 18446744073709551616 := by decide
  unfold Fits
  rw [hpowers.1, hpowers.2]
  simp only [decide_eq_true_eq]
  split <;> omega

theorem Fits.lt {negative : Bool} {m : Nat} (h : Fits negative m) : m < Nat.pow 2 64 := by
  cases negative with
  | false => exact h
  | true => exact Nat.lt_of_le_of_lt h.2 (by decide)

/-- What a whole number is read as, by whether there is a minus sign before it and by its size. -/
inductive ReadAs (negative : Bool) (m : Nat) : Number → Prop
  | integer (h : Fits negative m) : ReadAs negative m (.integer (if negative then -(m : Int) else m))
  | double (h : ¬ Fits negative m) (x : Float) : ReadAs negative m (.double x)

/-- Whether a number fits shows in the digits that have been kept of it. -/
theorem kept_iff_fits (negative : Bool) (digits : List Nat) :
    ((digits.foldl Kept.whole ⟨0, 0, false⟩).full = false ∧
      if negative then 0 < (digits.foldl Kept.whole ⟨0, 0, false⟩).significand ∧
        (digits.foldl Kept.whole ⟨0, 0, false⟩).significand ≤ Nat.pow 2 63 else True) ↔
      Fits negative (digitsValue digits) := by
  rcases Nat.lt_or_ge (digitsValue digits) (Nat.pow 2 64) with hlt | hge
  · rw [foldl_whole_of_lt hlt]
    cases negative with
    | false => exact ⟨fun _ => hlt, fun _ => ⟨rfl, trivial⟩⟩
    | true => exact ⟨fun h => h.2, fun h => ⟨rfl, h⟩⟩
  · constructor
    · rintro ⟨hkept, -⟩
      rw [full_foldl_whole_of_le hge] at hkept
      cases hkept
    · intro h
      exact absurd h.lt (Nat.not_lt.2 hge)

section

variable {l : Literal} (hplaces : l.places = []) (hexponent : l.exponent = none)

include hplaces hexponent

theorem Literal.value_of_fits (hfits : Fits l.negative (digitsValue l.whole)) : l.value =
    some (.integer (if l.negative then -(digitsValue l.whole : Int) else digitsValue l.whole)) := by
  unfold Literal.value
  dsimp only
  rw [if_pos ⟨hplaces, hexponent, (kept_iff_fits l.negative l.whole).2 hfits⟩, foldl_whole_of_lt hfits.lt]

theorem Literal.readAs_of_value {x : Number} (h : l.value = some x) :
    ReadAs l.negative (digitsValue l.whole) x := by
  by_cases hfits : Fits l.negative (digitsValue l.whole)
  · rw [Literal.value_of_fits hplaces hexponent hfits] at h
    rw [← Option.some.inj h]
    exact .integer hfits
  · unfold Literal.value at h
    dsimp only at h
    rw [if_neg fun hinteger => hfits ((kept_iff_fits l.negative l.whole).1 hinteger.2.2)] at h
    obtain ⟨d, -, rfl⟩ := Option.map_eq_some_iff.1 h
    exact .double hfits _

end

/-! ## Literals of whole numbers -/

/-- A whole number as it is written. -/
def wholeText (negative : Bool) (m : Nat) : String := if negative then "-" ++ numeral m else numeral m

theorem signedNumeral_eq (n : Int) : signedNumeral n = wholeText (decide (n < 0)) n.natAbs := by
  unfold signedNumeral wholeText
  simp only [decide_eq_true_eq]

section

variable {s : String} {c : Char} {w rest : List UInt8}

theorem toNat_byte (h : c.isDigit = true) : (byte c).toNat = c.toNat := by
  have hbounds := toNat_of_isDigit h
  exact toNat_ofNat_of_lt (by omega)

theorem isDigitByte_byte (h : c.isDigit = true) : isDigitByte (byte c) = true := by
  have hbounds := toNat_of_isDigit h
  simp [isDigitByte, UInt8.le_iff_toNat_le, toNat_byte h]
  omega

theorem digitByteValue_byte (h : c.isDigit = true) : digitByteValue (byte c) = digitValue c := by
  rw [digitByteValue, toNat_byte h]
  rfl

/-- Digits are one byte each. -/
theorem bytesOf_of_digits (hs : ∀ c ∈ s.toList, c.isDigit = true) : bytesOf s = s.toList.map byte := by
  have hone : s.toList.map String.utf8EncodeChar = s.toList.map fun c => [byte c] := by
    refine List.map_congr_left fun c hc => ?_
    have hbounds := toNat_of_isDigit (hs c hc)
    exact utf8EncodeChar_of_lt (by omega)
  rw [bytesOf_eq, List.flatMap_def, hone, ← List.flatMap_def, List.map_eq_flatMap]

theorem isDigitByte_of_mem_numeral {m : Nat} {b : UInt8} (hb : b ∈ bytesOf (numeral m)) :
    isDigitByte b = true := by
  rw [bytesOf_of_digits fun _ => isDigit_of_mem_numeral] at hb
  obtain ⟨c, hc, rfl⟩ := List.mem_map.1 hb
  exact isDigitByte_byte (isDigit_of_mem_numeral hc)

/-- The digits of a numeral write its number. -/
theorem digitsValue_numeral (m : Nat) : digitsValue ((bytesOf (numeral m)).map digitByteValue) = m := by
  have hvalues : (bytesOf (numeral m)).map digitByteValue = (numeral m).toList.map digitValue := by
    rw [bytesOf_of_digits fun _ => isDigit_of_mem_numeral, List.map_map]
    exact List.map_congr_left fun c hc => digitByteValue_byte (isDigit_of_mem_numeral hc)
  calc
    digitsValue ((bytesOf (numeral m)).map digitByteValue)
      = valueFrom 0 (numeral m).toList := by rw [hvalues, digitsValue, List.foldl_map]; rfl
    _ = m := by rw [toList_numeral]; exact valueFrom_zeros_append 0 m

theorem bytesOf_numeral_ne_nil (m : Nat) : bytesOf (numeral m) ≠ [] := by
  rw [bytesOf_of_digits fun _ => isDigit_of_mem_numeral]
  exact mt List.map_eq_nil_iff.1 (numeral_ne_nil m)

/-- The literal of a whole number, in its parts. -/
def wholeLiteral (negative : Bool) (m : Nat) : Literal :=
  ⟨negative, (bytesOf (numeral m)).map digitByteValue, [], none⟩

/-- A numeral is written as the whole part of a number has to be. -/
theorem numeral_wholeLiteral (negative : Bool) (m : Nat) : Numeral (bytesOf (numeral m)) (wholeLiteral negative m) := by
  have hwhole : Whole (bytesOf (numeral m)) (wholeLiteral negative m).whole := by
    rcases Nat.eq_zero_or_pos m with rfl | hpos
    · have hzero : bytesOf (numeral 0) = [byte '0'] := by decide +kernel
      rw [wholeLiteral, hzero]
      exact .zero
    · refine .digits ⟨bytesOf_numeral_ne_nil m, fun _ => isDigitByte_of_mem_numeral, rfl⟩ fun hhead => ?_
      rw [bytesOf_of_digits fun _ => isDigit_of_mem_numeral, List.head?_map] at hhead
      obtain ⟨c, hc, hbyte⟩ := Option.map_eq_some_iff.1 hhead
      have hdigit : c.isDigit = true := isDigit_of_mem_numeral (List.mem_of_head? hc)
      have hchar : c = '0' := by
        apply Char.toNat_inj.1
        rw [← toNat_byte hdigit, hbyte]
        rfl
      exact head?_numeral_ne_zero hpos (hchar ▸ hc)
  have hparts : Numeral (bytesOf (numeral m) ++ [] ++ []) (wholeLiteral negative m) := .mk hwhole .none .none
  rwa [List.append_nil, List.append_nil] at hparts

/-- A number that is written in digits alone has neither places nor an exponent. -/
theorem Numeral.whole_of_digits {l : Literal} (hw : Numeral w l) (hdigits : ∀ b ∈ w, isDigitByte b = true) :
    l.places = [] ∧ l.exponent = none ∧ l.whole = w.map digitByteValue := by
  obtain @⟨u, v, x, l, hu, hv, hx⟩ := hw
  -- places begin with a point and an exponent with a letter, and neither is a digit
  have hplaces : l.places = [] ∧ v = [] := by
    generalize l.places = places at hv
    cases hv with
    | none => exact ⟨rfl, rfl⟩
    | some _ => exact absurd (hdigits (byte '.') (by simp)) (by decide)
  have hexponent : l.exponent = none ∧ x = [] := by
    generalize l.exponent = exponent at hx
    cases hx with
    | none => exact ⟨rfl, rfl⟩
    | some he _ _ =>
      have hmark := hdigits _ (List.mem_append_right _ List.mem_cons_self)
      rcases he with rfl | rfl <;> exact absurd hmark (by decide)
  have hwhole : l.whole = u.map digitByteValue := by
    generalize l.whole = whole at hu
    cases hu with
    | zero => rfl
    | digits hu _ => exact hu.2.2
  rw [hplaces.2, hexponent.2, List.append_nil, List.append_nil]
  exact ⟨hplaces.1, hexponent.1, hwhole⟩

/-! ## Reading whole numbers -/

variable {streamed negative : Bool} {depth m : Nat} {x : Number} {v : Value} {n : Int}

theorem readNumber_numeral (hfits : Fits negative m) (hrest : EndsNumber rest) :
    readNumber streamed negative (bytesOf (numeral m) ++ rest) =
      .ok (.integer (if negative then -(m : Int) else m), rest) := by
  have hvalue : digitsValue (wholeLiteral negative m).whole = m := digitsValue_numeral m
  have hfits' : Fits negative (digitsValue (wholeLiteral negative m).whole) := by rwa [hvalue]
  have hnumber := Literal.value_of_fits (l := wholeLiteral negative m) rfl rfl hfits'
  rw [hvalue] at hnumber
  exact readNumber_eq_ok_iff.2
    ⟨wholeLiteral negative m, readLiteral_of_numeral .endInValue (numeral_wholeLiteral negative m) hrest, hnumber⟩

theorem readAs_of_readNumber (h : readNumber streamed negative (bytesOf (numeral m) ++ rest) = .ok (x, rest)) :
    ReadAs negative m x := by
  obtain ⟨l, hl, hx⟩ := readNumber_eq_ok_iff.1 h
  obtain ⟨hnegative, w, hw, hbytes⟩ := exists_numeral_of_readLiteral hl
  obtain rfl : bytesOf (numeral m) = w := List.append_cancel_right hbytes
  obtain ⟨hplaces, hexponent, hwhole⟩ := hw.whole_of_digits fun _ => isDigitByte_of_mem_numeral
  have hvalue : l.value = some x := by
    rw [← hx, Literal.number?, hexponent]
  have hread := Literal.readAs_of_value hplaces hexponent hvalue
  rwa [hnegative, hwhole, digitsValue_numeral] at hread

/-- The first byte tells whether there is a minus sign; a number is to be read in either case. -/
theorem readValue_wholeText : readValue streamed depth (bytesOf (wholeText negative m) ++ rest) =
    readNumber streamed negative (bytesOf (numeral m) ++ rest) >>= fun found => .ok (.number found.1, found.2) := by
  cases negative with
  | false =>
    obtain ⟨b, more, hbytes⟩ := List.exists_cons_of_ne_nil (bytesOf_numeral_ne_nil m)
    have hdigit : isDigitByte b = true := isDigitByte_of_mem_numeral (hbytes ▸ List.mem_cons_self)
    show readValue streamed depth (bytesOf (numeral m) ++ rest) = _
    rw [hbytes, List.cons_append, readValue_digit hdigit]
  | true =>
    have hbytes : bytesOf (wholeText true m) = byte '-' :: bytesOf (numeral m) := by
      rw [bytesOf_eq, bytesOf_eq]
      exact congrArg (List.flatMap String.utf8EncodeChar) String.toList_append
    rw [hbytes, List.cons_append, readValue_minus]

/-- Wherever the literal of a whole number stands, what is read is the number that it writes. -/
theorem exists_readAs_of_readValue
    (h : readValue streamed depth (bytesOf (wholeText negative m) ++ rest) = .ok (v, rest)) :
    ∃ x, v = .number x ∧ ReadAs negative m x := by
  rw [readValue_wholeText] at h
  obtain ⟨⟨x, rest'⟩, hnumber, hend⟩ := exists_of_bind_eq_ok h
  cases hend
  exact ⟨x, rfl, readAs_of_readNumber hnumber⟩

theorem signed_natAbs (n : Int) : (if decide (n < 0) = true then -(n.natAbs : Int) else n.natAbs) = n := by
  simp only [decide_eq_true_eq]
  omega

/-- The literal of an integer that fits 64 bits is read as that integer, whatever follows that does not go on with
it. -/
theorem readValue_signedNumeral (hlow : -(2 ^ 63) ≤ n) (hhigh : n < 2 ^ 64) (hrest : EndsNumber rest) :
    readValue streamed depth (bytesOf (signedNumeral n) ++ rest) = .ok (.number (.integer n), rest) := by
  rw [signedNumeral_eq, readValue_wholeText, readNumber_numeral ((fits_iff n).2 ⟨hlow, hhigh⟩) hrest,
    signed_natAbs]
  rfl

/-- Wherever the literal of an integer is read, it is read as that integer where it fits 64 bits, and else as a
double. -/
theorem eq_of_readValue_signedNumeral
    (h : readValue streamed depth (bytesOf (signedNumeral n) ++ rest) = .ok (v, rest)) :
    if -(2 ^ 63) ≤ n ∧ n < 2 ^ 64 then v = .number (.integer n) else ∃ x, v = .number (.double x) := by
  rw [signedNumeral_eq] at h
  obtain ⟨x, rfl, hx⟩ := exists_readAs_of_readValue h
  cases hx with
  | integer hfits => rw [if_pos ((fits_iff n).1 hfits), signed_natAbs]
  | double hfits d =>
    rw [if_neg (mt (fits_iff n).2 hfits)]
    exact ⟨d, rfl⟩

/-- Minus zero is a double. -/
theorem eq_of_readValue_minusZero (h : readValue streamed depth (bytesOf "-0" ++ rest) = .ok (v, rest)) :
    ∃ x, v = .number (.double x) := by
  have htext : "-0" = wholeText true 0 := rfl
  rw [htext] at h
  obtain ⟨x, rfl, hx⟩ := exists_readAs_of_readValue h
  cases hx with
  | integer hfits => exact absurd hfits.1 (by decide)
  | double _ d => exact ⟨d, rfl⟩

end

end CatalogImport.Json
