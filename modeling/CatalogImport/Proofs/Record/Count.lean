import CatalogImport.Proofs.Json.Integers
import CatalogImport.Proofs.Record.Field

/-!
# Counts in numbers and in texts

A count may be given as a number or as a text.  A number comes from the JSON reader as an integer or, beyond 64 bits,
as a double; a text is trimmed and read digit by digit.  Both ways come to the same count: the integer that is
written, where it is not negative and below `2 ^ 32` (`count?_of_readValue`, `count?_of_signedNumeral`), however many
zeros and with or without a plus sign before the digits of a text (`count?_of_digits`).  Main statement: the rule for
counts takes an integer alike from a number and from a text (`counts_agree`).
-/

namespace CatalogImport.Field

open CatalogImport.Json CatalogImport.Decimal CatalogImport.Text

/-- The integer as a count, if it is one. -/
def countOf? (n : Int) : Option Nat := if 0 ≤ n ∧ n < 2 ^ 32 then some n.toNat else none

/-! ## Numbers -/

theorem count?_integer (n : Int) : count? (.number (.integer n)) = countOf? n := rfl

theorem count?_double (x : Float) : count? (.number (.double x)) = none := rfl

/-- What lies beyond 64 bits is no count. -/
theorem countOf?_eq_none {n : Int} (h : ¬ (-(2 ^ 63) ≤ n ∧ n < 2 ^ 64)) : countOf? n = none := by
  have hcount : ¬ (0 ≤ n ∧ n < 2 ^ 32) := by omega
  exact if_neg hcount

/-- An integer is counted as what its literal says, whether it is read as an integer or as a double. -/
theorem count?_of_readValue {streamed : Bool} {depth : Nat} {rest : List UInt8} {n : Int} {v : Value}
    (h : readValue streamed depth (bytesOf (signedNumeral n) ++ rest) = .ok (v, rest)) :
    count? v = countOf? n := by
  have hread := eq_of_readValue_signedNumeral h
  split at hread
  · rw [hread, count?_integer]
  · next hlarge =>
    obtain ⟨x, rfl⟩ := hread
    rw [count?_double, countOf?_eq_none hlarge]

/-! ## Texts -/

section

variable {s : String} {n : Int}

theorem count?_of_inBlanks {core : List Char} (hs : InBlanks core s) (hcore : ∀ c ∈ core, isBlank c = false) :
    count? (.text s) = unsigned? (Nat.pow 2 32) core := by
  show unsigned? (Nat.pow 2 32) (trimChars s.toList) = _
  rw [hs.trimChars_eq (trimmed_of_forall hcore)]

theorem signedNumeral_of_nonneg (hn : 0 ≤ n) : signedNumeral n = numeral n.toNat := by
  have habs : n.natAbs = n.toNat := by omega
  rw [signedNumeral, if_neg (Int.not_lt.2 hn), habs]

theorem toList_signedNumeral_of_neg (hn : n < 0) :
    (signedNumeral n).toList = '-' :: (numeral n.natAbs).toList := by
  rw [signedNumeral, if_pos hn]
  exact String.toList_append

/-- Zeros and a plus sign before the digits do not count. -/
theorem count?_of_digits {plus : List Char} {zeros : Nat} (hn : 0 ≤ n) (hplus : plus = [] ∨ plus = ['+'])
    (hs : InBlanks (plus ++ (List.replicate zeros '0' ++ (signedNumeral n).toList)) s) :
    count? (.text s) = countOf? n := by
  rw [signedNumeral_of_nonneg hn] at hs
  have hblank : ∀ c ∈ plus ++ (List.replicate zeros '0' ++ (numeral n.toNat).toList), isBlank c = false := by
    intro c hc
    rcases List.mem_append.1 hc with hc | hc
    · rcases hplus with rfl | rfl
      · cases hc
      · rw [List.mem_singleton.1 hc]
        decide
    · exact isBlank_of_isDigit (isDigit_of_mem_zeros_append hc)
  have hlimit : n.toNat < Nat.pow 2 32 ↔ n < 2 ^ 32 := Int.toNat_lt hn
  rw [count?_of_inBlanks hs hblank, unsigned?_numeral hplus]
  simp only [hlimit, countOf?, hn, true_and]

theorem count?_of_minus {cs : List Char} (hcs : ∀ c ∈ cs, c.isDigit = true) (hs : InBlanks ('-' :: cs) s) :
    count? (.text s) = none := by
  rw [count?_of_inBlanks hs, unsigned?_minus]
  intro c hc
  rcases List.mem_cons.1 hc with rfl | hc
  · decide
  · exact isBlank_of_isDigit (hcs c hc)

/-- A text is counted as the integer whose literal it holds. -/
theorem count?_of_signedNumeral (hs : InBlanks (signedNumeral n).toList s) : count? (.text s) = countOf? n := by
  rcases Int.lt_or_le n 0 with hneg | hnonneg
  · rw [toList_signedNumeral_of_neg hneg] at hs
    have hcount : ¬ (0 ≤ n ∧ n < 2 ^ 32) := fun h => absurd h.1 (Int.not_le.2 hneg)
    rw [count?_of_minus (fun _ => isDigit_of_mem_numeral) hs, countOf?, if_neg hcount]
  · have hdigits : InBlanks ([] ++ (List.replicate 0 '0' ++ (signedNumeral n).toList)) s := hs
    exact count?_of_digits hnonneg (.inl rfl) hdigits

end

/-! ## The rule -/

/-- The rule for counts takes the value for the integer: it gives the integer where that is not negative and below
`2 ^ 32`, and else it complains of the value, which it quotes. -/
def TakenFor (n : Int) (v : Value) : Prop :=
  ∀ (ms : Members) (field : String), present? ms field = some v →
    optionalCount ms field = if 0 ≤ n ∧ n < 2 ^ 32 then .ok (some n.toNat) else
      .error (.wrongType field "a non-negative integer" v.compact)

/-- The rule for counts takes the value for no count. -/
def Refused (v : Value) : Prop :=
  ∀ (ms : Members) (field : String), present? ms field = some v →
    optionalCount ms field = .error (.wrongType field "a non-negative integer" v.compact)

variable {n : Int} {v : Value}

theorem takenFor_of_count? (h : count? v = countOf? n) : TakenFor n v := by
  intro ms field hv
  by_cases hcount : 0 ≤ n ∧ n < 2 ^ 32
  · rw [if_pos hcount]
    exact optionalCount_of_count? hv (by rw [h, countOf?, if_pos hcount])
  · rw [if_neg hcount]
    exact optionalCount_of_count?_eq_none hv (by rw [h, countOf?, if_neg hcount])

theorem refused_of_count? (h : count? v = none) : Refused v :=
  fun _ _ hv => optionalCount_of_count?_eq_none hv h

theorem TakenFor.eq_ok_iff {ms : Members} {field : String} {k : Option Nat} (h : TakenFor n v)
    (hv : present? ms field = some v) :
    optionalCount ms field = .ok k ↔ 0 ≤ n ∧ n < 2 ^ 32 ∧ k = some n.toNat := by
  rw [h ms field hv]
  by_cases hcount : 0 ≤ n ∧ n < 2 ^ 32
  · rw [if_pos hcount]
    constructor
    · intro hk
      exact ⟨hcount.1, hcount.2, (Except.ok.inj hk).symm⟩
    · rintro ⟨-, -, rfl⟩
      rfl
  · rw [if_neg hcount]
    constructor
    · intro hk
      cases hk
    · rintro ⟨hlow, hhigh, -⟩
      exact absurd ⟨hlow, hhigh⟩ hcount

/-- Numbers and texts count alike.  A text that holds the literal of an integer in white space is taken for that
integer, also with zeros before the digits and one plus sign before these.  The JSON reader takes the literal of
every integer of 64 bits as that integer, and where it takes the literal of any other, it is as a double; whatever it
takes is taken for the integer, too.  So the rule for counts accepts the number exactly if it accepts the text, and
both come to the integer, exactly where that is not negative and below `2 ^ 32`.  Minus zero, which is the literal of
no integer, is refused either way. -/
theorem counts_agree :
    (∀ n : Int,
      (∀ s, InBlanks (signedNumeral n).toList s → TakenFor n (.text s)) ∧
      (0 ≤ n → ∀ plus zeros s, plus = [] ∨ plus = ['+'] →
        InBlanks (plus ++ (List.replicate zeros '0' ++ (signedNumeral n).toList)) s → TakenFor n (.text s)) ∧
      ∀ streamed depth rest,
        (-(2 ^ 63) ≤ n → n < 2 ^ 64 → EndsNumber rest →
          readValue streamed depth (bytesOf (signedNumeral n) ++ rest) = .ok (.number (.integer n), rest)) ∧
        ∀ v, readValue streamed depth (bytesOf (signedNumeral n) ++ rest) = .ok (v, rest) →
          (if -(2 ^ 63) ≤ n ∧ n < 2 ^ 64 then v = .number (.integer n) else ∃ x, v = .number (.double x)) ∧
          TakenFor n v ∧
          ∀ s, InBlanks (signedNumeral n).toList s → ∀ numbers texts field k,
            present? numbers field = some v → present? texts field = some (.text s) →
              (optionalCount numbers field = .ok k ↔ optionalCount texts field = .ok k)) ∧
    (∀ s, InBlanks ['-', '0'] s → Refused (.text s)) ∧
      ∀ streamed depth rest v, readValue streamed depth (bytesOf "-0" ++ rest) = .ok (v, rest) → Refused v := by
  refine ⟨fun n => ?_, fun s hs => ?_, fun streamed depth rest v hread => ?_⟩
  · have htexts (s : String) (hs : InBlanks (signedNumeral n).toList s) : TakenFor n (.text s) :=
      takenFor_of_count? (count?_of_signedNumeral hs)
    refine ⟨htexts, fun hn plus zeros s hplus hs => takenFor_of_count? (count?_of_digits hn hplus hs), ?_⟩
    intro streamed depth rest
    refine ⟨readValue_signedNumeral, fun v hread => ?_⟩
    have hnumber : TakenFor n v := takenFor_of_count? (count?_of_readValue hread)
    refine ⟨eq_of_readValue_signedNumeral hread, hnumber, fun s hs numbers texts field k hv ht => ?_⟩
    rw [hnumber.eq_ok_iff hv, (htexts s hs).eq_ok_iff ht]
  · exact refused_of_count? (count?_of_minus (List.forall_mem_singleton.2 rfl) hs)
  · obtain ⟨x, rfl⟩ := eq_of_readValue_minusZero hread
    exact refused_of_count? (count?_double x)

/-- The greatest count, also behind zeros and a plus sign; a number that has become a double; and minus zero. -/
theorem counts_agree_at_limits :
    (readValue true 0 (bytesOf (signedNumeral 4294967295) ++ [byte ',']) =
        .ok (.number (.integer 4294967295), [byte ',']) ∧
      optionalCount [("card_count", .number (.integer 4294967295))] "card_count" = .ok (some 4294967295) ∧
      optionalCount [("card_count", .text "\u00a0+004294967295\t")] "card_count" = .ok (some 4294967295)) ∧
    (∃ x, readValue false 0 (bytesOf (signedNumeral 18446744073709551616) ++ []) = .ok (.number (.double x), []) ∧
      Refused (.number (.double x)) ∧ Refused (.text " 18446744073709551616")) ∧
    readValue false 0 (bytesOf "-0" ++ []) = .ok (.number (.double (-0.0)), []) ∧
      Refused (.number (.double (-0.0))) ∧ Refused (.text "-0\n") := by
  obtain ⟨-, hdigits, hgreatest⟩ := counts_agree.1 4294967295
  obtain ⟨hread, htaken⟩ := hgreatest true 0 [byte ',']
  have hcomma := hread (by decide) (by decide) (endsNumber_cons (by decide) [])
  have hcount := (htaken _ hcomma).2.1
  obtain ⟨hlarge, -, hdoubles⟩ := counts_agree.1 18446744073709551616
  obtain ⟨x, hdouble⟩ : ∃ x, readValue false 0 (bytesOf (signedNumeral 18446744073709551616) ++ []) =
      .ok (.number (.double x), []) := by
    have hbytes : bytesOf (signedNumeral 18446744073709551616) =
        [49, 56, 52, 52, 54, 55, 52, 52, 48, 55, 51, 55, 48, 57, 53, 53, 49, 54, 49, 54] := by decide +kernel
    rw [hbytes]
    exact ⟨_, readValue_digit rfl⟩
  have hminus : readValue false 0 (bytesOf "-0" ++ []) = .ok (.number (.double (-0.0)), []) := by
    have hbytes : bytesOf "-0" = [45, 48] := by decide +kernel
    rw [hbytes]
    exact readValue_minus
  refine ⟨⟨hcomma, hcount _ _ rfl, ?_⟩, ⟨x, hdouble, ?_, ?_⟩, hminus, counts_agree.2.2 _ _ _ _ hminus, ?_⟩
  · exact hdigits (by decide) ['+'] 2 _ (.inr rfl) ⟨['\u00a0'], ['\t'], by decide, by decide, by decide +kernel⟩
      _ _ rfl
  · exact fun ms field => (hdoubles _ _ _).2 _ hdouble |>.2.1 ms field
  · exact fun ms field => hlarge _ ⟨[' '], [], by decide, by decide, by decide +kernel⟩ ms field
  · exact counts_agree.2.1 _ ⟨[], ['\n'], by decide, by decide, rfl⟩

end CatalogImport.Field
