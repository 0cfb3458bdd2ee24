import CatalogImport.Json.Scan
import Mathlib.Data.List.TakeWhile

/-!
# Blanks and numbers

What blanks and numbers are in a JSON text, said apart from how they are taken off its front.  Main
statements: blanks are skipped over wherever they stand (`skipBlanks_eq_cons_iff`), and a number is taken
exactly where one is written that goes on no further (`exists_numeral_of_readLiteral`,
`readLiteral_of_numeral`).
-/

namespace CatalogImport.Json

/-- What is put together from parts has been put together from each of them. -/
theorem exists_of_bind_eq_ok {ε α β : Type} {x : Except ε α} {f : α → Except ε β} {b : β}
    (h : x >>= f = .ok b) : ∃ a, x = .ok a ∧ f a = .ok b := by
  cases x with
  | error e => cases h
  | ok a => exact ⟨a, rfl, h⟩

/-- What is put together by a function has been put together from a result. -/
theorem exists_of_map_eq_ok {ε α β : Type} {x : Except ε α} {f : α → β} {b : β} (h : f <$> x = .ok b) :
    ∃ a, x = .ok a ∧ f a = b := by
  cases x with
  | error e => cases h
  | ok a => exact ⟨a, rfl, Except.ok.inj h⟩

variable {u v w rest bytes : List UInt8} {b : UInt8}

/-! ## Blanks -/

/-- Blanks and nothing else. -/
def Blanks (w : List UInt8) : Prop := ∀ b ∈ w, isBlankByte b = true

theorem blanks_nil : Blanks [] := fun _ hb => by cases hb

theorem Blanks.append (hu : Blanks u) (hv : Blanks v) : Blanks (u ++ v) :=
  List.forall_mem_append.2 ⟨hu, hv⟩

theorem skipBlanks_append (hu : Blanks u) (rest : List UInt8) :
    skipBlanks (u ++ rest) = skipBlanks rest := List.dropWhile_append_of_pos hu

theorem skipBlanks_cons (hb : isBlankByte b = false) (rest : List UInt8) :
    skipBlanks (b :: rest) = b :: rest := List.dropWhile_cons_of_neg (by simp [hb])

theorem exists_blanks (bytes : List UInt8) : ∃ u, Blanks u ∧ bytes = u ++ skipBlanks bytes :=
  ⟨bytes.takeWhile isBlankByte, fun _ => List.mem_takeWhile_imp, List.takeWhile_append_dropWhile.symm⟩

theorem skipBlanks_eq_nil_iff : skipBlanks bytes = [] ↔ Blanks bytes := List.dropWhile_eq_nil_iff

/-- What is left after blanks starts with the first byte that is none. -/
theorem skipBlanks_eq_cons_iff :
    skipBlanks bytes = b :: rest ↔ isBlankByte b = false ∧ ∃ u, Blanks u ∧ bytes = u ++ b :: rest := by
  constructor
  · intro h
    obtain ⟨u, hu, hbytes⟩ := exists_blanks bytes
    have hhead := List.head?_dropWhile_not isBlankByte bytes
    rw [show bytes.dropWhile isBlankByte = b :: rest from h] at hhead
    exact ⟨hhead, u, hu, h ▸ hbytes⟩
  · rintro ⟨hb, u, hu, rfl⟩
    rw [skipBlanks_append hu, skipBlanks_cons hb]

theorem skipBlanks_append_cons (hv : Blanks v) (hb : isBlankByte b = false) (rest : List UInt8) :
    skipBlanks (v ++ b :: rest) = b :: rest := skipBlanks_eq_cons_iff.2 ⟨hb, v, hv, rfl⟩

/-- The first byte that is no blank is the same, wherever blanks are said to end. -/
theorem blanks_append_cons_inj {c : UInt8} {rest' : List UInt8} (hu : Blanks u) (hv : Blanks v)
    (hb : isBlankByte b = false) (hc : isBlankByte c = false) (heq : u ++ b :: rest = v ++ c :: rest') :
    b = c ∧ rest = rest' := by
  have hskip := congrArg skipBlanks heq
  rw [skipBlanks_append_cons hu hb, skipBlanks_append_cons hv hc] at hskip
  exact List.cons.inj hskip

@[simp] theorem skipBlanks_skipBlanks (bytes : List UInt8) :
    skipBlanks (skipBlanks bytes) = skipBlanks bytes := by
  cases h : skipBlanks bytes with
  | nil => rfl
  | cons b rest => exact skipBlanks_cons (skipBlanks_eq_cons_iff.1 h).1 rest

/-! ## Digits -/

/-- The value of a digit. -/
def digitByteValue (b : UInt8) : Nat := b.toNat - 48

/-- Digits, at least one, with their values. -/
def Digits (w : List UInt8) (ds : List Nat) : Prop :=
  w ≠ [] ∧ (∀ b ∈ w, isDigitByte b = true) ∧ ds = w.map digitByteValue

/-- The text does not start with a digit. -/
def StartsNoDigit (rest : List UInt8) : Prop := ∀ b ∈ rest.head?, isDigitByte b = false

theorem isBlankByte_eq_false_of_isDigitByte (hb : isDigitByte b = true) : isBlankByte b = false := by
  refine Bool.eq_false_iff.2 fun hblank => ?_
  simp only [isBlankByte, Bool.or_eq_true, beq_iff_eq] at hblank
  rcases hblank with ((rfl | rfl) | rfl) | rfl <;> cases hb

theorem exists_spanDigits (bytes : List UInt8) :
    ∃ w rest, spanDigits bytes = (w.map digitByteValue, rest) ∧ (∀ b ∈ w, isDigitByte b = true) ∧
      bytes = w ++ rest :=
  ⟨bytes.takeWhile isDigitByte, bytes.dropWhile isDigitByte, rfl, fun _ => List.mem_takeWhile_imp,
    List.takeWhile_append_dropWhile.symm⟩

theorem exists_digits (hb : isDigitByte b = true) (rest : List UInt8) :
    ∃ w ds rest', spanDigits (b :: rest) = (ds, rest') ∧ Digits (b :: w) ds ∧
      b :: rest = b :: w ++ rest' := by
  refine ⟨rest.takeWhile isDigitByte, _, _, rfl, ⟨List.cons_ne_nil _ _, ?_, ?_⟩, ?_⟩
  · exact List.forall_mem_cons.2 ⟨hb, fun _ => List.mem_takeWhile_imp⟩
  · rw [List.takeWhile_cons_of_pos hb]
    rfl
  · rw [List.dropWhile_cons_of_pos hb, List.cons_append, List.takeWhile_append_dropWhile]

theorem spanDigits_append (hw : ∀ b ∈ w, isDigitByte b = true) (hrest : StartsNoDigit rest) :
    spanDigits (w ++ rest) = (w.map digitByteValue, rest) := by
  have htake : rest.takeWhile isDigitByte = [] ∧ rest.dropWhile isDigitByte = rest := by
    cases rest with
    | nil => exact ⟨rfl, rfl⟩
    | cons b rest =>
      have hb : ¬ isDigitByte b = true := by rw [hrest b rfl]; exact Bool.false_ne_true
      exact ⟨List.takeWhile_cons_of_neg hb, List.dropWhile_cons_of_neg hb⟩
  unfold spanDigits
  rw [List.takeWhile_append_of_pos hw, List.dropWhile_append_of_pos hw, htake.1, htake.2, List.append_nil]
  rfl

/-! ## The parts of a number -/

/-- The digits before the point: a zero alone, or digits of which the first is not zero. -/
inductive Whole : List UInt8 → List Nat → Prop
  | zero : Whole [byte '0'] [0]
  | digits {w : List UInt8} {ds : List Nat} (hw : Digits w ds) (hzero : w.head? ≠ some (byte '0')) :
      Whole w ds

/-- The places of a number, with the point before them, or nothing. -/
inductive Places : List UInt8 → List Nat → Prop
  | none : Places [] []
  | some {w : List UInt8} {ds : List Nat} (hw : Digits w ds) : Places (byte '.' :: w) ds

/-- The sign of an exponent, and whether it is a minus; there need not be one. -/
inductive Sign : List UInt8 → Bool → Prop
  | none : Sign [] false
  | plus : Sign [byte '+'] false
  | minus : Sign [byte '-'] true

/-- The exponent of a number, with the mark before it, or nothing. -/
inductive Exponent : List UInt8 → Option (Bool × List Nat) → Prop
  | none : Exponent [] none
  | some {e : UInt8} {s w : List UInt8} {minus : Bool} {ds : List Nat}
      (he : e = byte 'e' ∨ e = byte 'E') (hs : Sign s minus) (hw : Digits w ds) :
      Exponent (e :: (s ++ w)) (some (minus, ds))

/-- A number as it is written, behind its minus sign if it has one. -/
inductive Numeral : List UInt8 → Literal → Prop
  | mk {u v w : List UInt8} {l : Literal} (hu : Whole u l.whole) (hv : Places v l.places)
      (hw : Exponent w l.exponent) : Numeral (u ++ v ++ w) l

/-- The byte can go on with a number. -/
def continuesNumber (b : UInt8) : Bool :=
  isDigitByte b || b == byte '.' || b == byte 'e' || b == byte 'E'

/-- The text does not go on with a number that stands before it. -/
def EndsNumber (rest : List UInt8) : Prop := ∀ b ∈ rest.head?, continuesNumber b = false

theorem EndsNumber.startsNoDigit (hrest : EndsNumber rest) : StartsNoDigit rest := by
  intro b hb
  have hnone := hrest b hb
  simp only [continuesNumber, Bool.or_eq_false_iff] at hnone
  exact hnone.1.1.1

theorem EndsNumber.head?_ne_point (hrest : EndsNumber rest) : rest.head? ≠ some (byte '.') :=
  fun heq => absurd (hrest _ heq) (by decide)

theorem exists_whole_of_readWhole {cut : Cause} {ds : List Nat}
    (h : readWhole cut bytes = .ok (ds, rest)) : ∃ w, Whole w ds ∧ bytes = w ++ rest := by
  cases bytes with
  | nil => cases h
  | cons b more =>
    unfold readWhole at h
    dsimp only at h
    split at h
    · next hb =>
      obtain rfl : b = byte '0' := hb
      cases more with
      | nil =>
        cases h
        exact ⟨[byte '0'], .zero, rfl⟩
      | cons d more =>
        dsimp only at h
        split at h
        · cases h
        · cases h
          exact ⟨[byte '0'], .zero, rfl⟩
    · next hzero =>
      split at h
      · next hb =>
        obtain ⟨w, ds', rest', hspan, hw, hbytes⟩ := exists_digits hb more
        rw [hspan] at h
        cases h
        exact ⟨b :: w, .digits hw (fun heq => hzero (Option.some.inj heq)), hbytes⟩
      · cases h

theorem readWhole_of_whole {cut : Cause} {ds : List Nat} (hw : Whole w ds) (hrest : StartsNoDigit rest) :
    readWhole cut (w ++ rest) = .ok (ds, rest) := by
  cases hw with
  | zero =>
    cases rest with
    | nil => rfl
    | cons d rest =>
      have hd : isDigitByte d = false := hrest d rfl
      simp [readWhole, byte, hd]
  | digits hw hzero =>
    obtain ⟨hne, hdigits, rfl⟩ := hw
    have hspan := spanDigits_append hdigits hrest
    cases w with
    | nil => exact absurd rfl hne
    | cons b w =>
      have hb : b ≠ 48 := fun heq => hzero (congrArg some heq)
      have hdigit : isDigitByte b = true := hdigits b List.mem_cons_self
      unfold readWhole
      dsimp only [List.cons_append]
      rw [if_neg hb, if_pos hdigit]
      exact congrArg Except.ok hspan

theorem exists_places_of_readPlaces {cut : Cause} {ds : List Nat}
    (h : readPlaces cut bytes = .ok (ds, rest)) : ∃ w, Places w ds ∧ bytes = w ++ rest := by
  cases bytes with
  | nil =>
    cases h
    exact ⟨[], .none, rfl⟩
  | cons b more =>
    unfold readPlaces at h
    dsimp only at h
    split at h
    · next hb =>
      subst hb
      obtain ⟨w, rest', hspan, hw, rfl⟩ := exists_spanDigits more
      rw [hspan] at h
      cases w with
      | nil => cases rest' <;> cases h
      | cons d w =>
        cases h
        exact ⟨byte '.' :: (d :: w), .some ⟨List.cons_ne_nil d w, hw, rfl⟩, rfl⟩
    · cases h
      exact ⟨[], .none, rfl⟩

theorem readPlaces_of_places {cut : Cause} {ds : List Nat} (hw : Places w ds)
    (hdigit : StartsNoDigit rest) (hpoint : rest.head? ≠ some (byte '.')) :
    readPlaces cut (w ++ rest) = .ok (ds, rest) := by
  cases hw with
  | none =>
    cases rest with
    | nil => rfl
    | cons b rest =>
      have hb : b ≠ byte '.' := fun heq => hpoint (congrArg some heq)
      rw [List.nil_append, readPlaces, if_neg hb]
  | @some w ds hw =>
    obtain ⟨hne, hdigits, rfl⟩ := hw
    cases w with
    | nil => exact absurd rfl hne
    | cons d w =>
      rw [List.cons_append, readPlaces, if_pos rfl, spanDigits_append hdigits hdigit]
      rfl

/-- Takes the sign of an exponent, if there is one. -/
def takeSign (bytes : List UInt8) : Bool × List UInt8 :=
  match bytes with
  | s :: after =>
    if s = byte '-' then (true, after) else if s = byte '+' then (false, after) else (false, bytes)
  | [] => (false, [])

theorem readExponent_cons (cut : Cause) (b : UInt8) (rest : List UInt8) :
    readExponent cut (b :: rest) =
      if b = byte 'e' ∨ b = byte 'E' then
        match (takeSign rest).2 with
        | [] => .error (.taken cut [])
        | d :: after =>
          if isDigitByte d then
            .ok (some ((takeSign rest).1, (spanDigits (d :: after)).1), (spanDigits (d :: after)).2)
          else .error (.taken .invalidNumber after)
      else .ok (none, b :: rest) := rfl

theorem exists_sign (bytes : List UInt8) :
    ∃ s, Sign s (takeSign bytes).1 ∧ bytes = s ++ (takeSign bytes).2 := by
  cases bytes with
  | nil => exact ⟨[], .none, rfl⟩
  | cons s after =>
    unfold takeSign
    dsimp only
    split
    · next hs => exact ⟨[byte '-'], .minus, by rw [hs]; rfl⟩
    · split
      · next hs => exact ⟨[byte '+'], .plus, by rw [hs]; rfl⟩
      · exact ⟨[], .none, rfl⟩

theorem takeSign_append {s : List UInt8} {minus : Bool} (hs : Sign s minus) (hb : isDigitByte b = true) :
    takeSign (s ++ b :: rest) = (minus, b :: rest) := by
  cases hs with
  | none =>
    have hminus : b ≠ byte '-' := fun heq => by rw [heq] at hb; exact absurd hb (by decide)
    have hplus : b ≠ byte '+' := fun heq => by rw [heq] at hb; exact absurd hb (by decide)
    simp [takeSign, hminus, hplus]
  | plus => rfl
  | minus => rfl

theorem exists_exponent_of_readExponent {cut : Cause} {x : Option (Bool × List Nat)}
    (h : readExponent cut bytes = .ok (x, rest)) : ∃ w, Exponent w x ∧ bytes = w ++ rest := by
  cases bytes with
  | nil =>
    cases h
    exact ⟨[], .none, rfl⟩
  | cons e more =>
    rw [readExponent_cons] at h
    split at h
    · next he =>
      obtain ⟨s, hs, hmore⟩ := exists_sign more
      split at h
      · cases h
      · next d after hafter =>
        split at h
        · next hd =>
          obtain ⟨w, ds, rest', hspan, hw, hdigits⟩ := exists_digits hd after
          rw [hspan] at h
          cases h
          refine ⟨e :: (s ++ d :: w), .some he hs hw, ?_⟩
          rw [hmore, hafter, hdigits]
          simp
        · cases h
    · cases h
      exact ⟨[], .none, rfl⟩

theorem readExponent_of_exponent {cut : Cause} {x : Option (Bool × List Nat)} (hw : Exponent w x)
    (hrest : EndsNumber rest) : readExponent cut (w ++ rest) = .ok (x, rest) := by
  cases hw with
  | none =>
    cases rest with
    | nil => rfl
    | cons b rest =>
      have hb : continuesNumber b = false := hrest b rfl
      simp only [continuesNumber, Bool.or_eq_false_iff, beq_eq_false_iff_ne] at hb
      obtain ⟨⟨-, he⟩, hE⟩ := hb
      rw [List.nil_append, readExponent_cons, if_neg (not_or.2 ⟨he, hE⟩)]
  | @some e s w minus ds he hs hw =>
    obtain ⟨hne, hdigits, rfl⟩ := hw
    cases w with
    | nil => exact absurd rfl hne
    | cons d w =>
      have hd : isDigitByte d = true := hdigits d List.mem_cons_self
      have hspan := spanDigits_append hdigits hrest.startsNoDigit
      rw [List.cons_append, List.append_assoc, List.cons_append, readExponent_cons, if_pos he,
        takeSign_append hs hd]
      dsimp only
      rw [if_pos hd, ← List.cons_append, hspan]

/-! ## Numbers -/

theorem exists_numeral_of_readLiteral {cut : Cause} {negative : Bool} {l : Literal}
    (h : readLiteral cut negative bytes = .ok (l, rest)) :
    l.negative = negative ∧ ∃ w, Numeral w l ∧ bytes = w ++ rest := by
  obtain ⟨⟨whole, rest₁⟩, hwhole, h⟩ := exists_of_bind_eq_ok h
  obtain ⟨⟨places, rest₂⟩, hplaces, h⟩ := exists_of_bind_eq_ok h
  obtain ⟨⟨exponent, rest₃⟩, hexponent, h⟩ := exists_of_bind_eq_ok h
  cases h
  obtain ⟨u, hu, rfl⟩ := exists_whole_of_readWhole hwhole
  obtain ⟨v, hv, rfl⟩ := exists_places_of_readPlaces hplaces
  obtain ⟨w, hw, rfl⟩ := exists_exponent_of_readExponent hexponent
  exact ⟨rfl, u ++ v ++ w, .mk hu hv hw, by simp only [List.append_assoc]⟩

/-- What follows the whole part of a number goes on with no digit of it. -/
theorem startsNoDigit_of_exponent {x : Option (Bool × List Nat)} (hw : Exponent w x)
    (hrest : EndsNumber rest) : StartsNoDigit (w ++ rest) := by
  cases hw with
  | none => exact hrest.startsNoDigit
  | some he hs hw =>
    intro b hb
    obtain rfl := Option.some.inj hb
    rcases he with rfl | rfl <;> decide

theorem head?_ne_point_of_exponent {x : Option (Bool × List Nat)} (hw : Exponent w x)
    (hrest : EndsNumber rest) : (w ++ rest).head? ≠ some (byte '.') := by
  cases hw with
  | none => exact hrest.head?_ne_point
  | some he hs hw =>
    intro hb
    have heq := Option.some.inj hb
    rcases he with rfl | rfl <;> exact absurd heq (by decide)

theorem startsNoDigit_of_places {ds : List Nat} (hw : Places w ds) (hrest : StartsNoDigit rest) :
    StartsNoDigit (w ++ rest) := by
  cases hw with
  | none => exact hrest
  | some hw =>
    intro b hb
    obtain rfl := Option.some.inj hb
    decide

theorem readLiteral_of_numeral {l : Literal} (cut : Cause) (hw : Numeral w l) (hrest : EndsNumber rest) :
    readLiteral cut l.negative (w ++ rest) = .ok (l, rest) := by
  obtain @⟨u, v, x, l, hu, hv, hx⟩ := hw
  have hdigit := startsNoDigit_of_exponent hx hrest
  have hwhole : readWhole cut (u ++ (v ++ (x ++ rest))) = .ok (l.whole, v ++ (x ++ rest)) :=
    readWhole_of_whole hu (startsNoDigit_of_places hv hdigit)
  have hplaces : readPlaces cut (v ++ (x ++ rest)) = .ok (l.places, x ++ rest) :=
    readPlaces_of_places hv hdigit (head?_ne_point_of_exponent hx hrest)
  have hexponent : readExponent cut (x ++ rest) = .ok (l.exponent, rest) := readExponent_of_exponent hx hrest
  rw [List.append_assoc, List.append_assoc]
  simp only [readLiteral, hwhole, hplaces, hexponent, bind, Except.bind]
  rfl

/-- The number that is meant; none when it is out of range.  An exponent of more than 31 bits makes a zero
of everything, or of nothing but zero. -/
def Literal.number? (l : Literal) : Option Number :=
  match l.exponent with
  | some (minus, digits) =>
    if (exponentOverflow digits).isSome then
      if ((l.whole ++ l.places).foldl Kept.whole ⟨0, 0, false⟩).significand ≠ 0 ∧ minus = false then none
      else some (.double (if l.negative then -0.0 else 0.0))
    else l.value
  | none => l.value

/-- Once the digits of a number have been taken, they have a meaning or there is a fault. -/
theorem readNumber_of_readLiteral {negative : Bool} {l : Literal} (streamed : Bool)
    (hl : readLiteral .endInValue negative bytes = .ok (l, rest)) :
    ∃ fault, readNumber streamed negative bytes =
      match l.number? with
      | some n => .ok (n, rest)
      | none => .error fault := by
  have hnegative := (exists_numeral_of_readLiteral hl).1
  unfold readNumber Literal.number?
  rw [hl, ← hnegative]
  dsimp only [bind, Except.bind]
  cases l.exponent with
  | none => exact ⟨_, rfl⟩
  | some x =>
    obtain ⟨minus, digits⟩ := x
    dsimp only
    cases exponentOverflow digits with
    | none => exact ⟨_, rfl⟩
    | some n =>
      by_cases hlarge : ((l.whole ++ l.places).foldl Kept.whole ⟨0, 0, false⟩).significand ≠ 0 ∧ minus = false
      · refine ⟨⟨.numberOutOfRange, rest.length + (digits.length - n)⟩, ?_⟩
        simp only [Option.isSome_some, if_true, if_pos hlarge]
      · refine ⟨⟨.numberOutOfRange, 0⟩, ?_⟩
        simp only [Option.isSome_some, if_true, if_neg hlarge]

theorem readNumber_eq_ok_iff {streamed negative : Bool} {n : Number} :
    readNumber streamed negative bytes = .ok (n, rest) ↔
      ∃ l, readLiteral .endInValue negative bytes = .ok (l, rest) ∧ l.number? = some n := by
  constructor
  · intro h
    obtain ⟨⟨l, rest'⟩, hl, -⟩ := exists_of_bind_eq_ok h
    obtain ⟨fault, hread⟩ := readNumber_of_readLiteral streamed hl
    rw [hread] at h
    split at h
    · next n' hn =>
      cases h
      exact ⟨l, hl, hn⟩
    · cases h
  · rintro ⟨l, hl, hn⟩
    obtain ⟨fault, hread⟩ := readNumber_of_readLiteral streamed hl
    rw [hread, hn]

end CatalogImport.Json
