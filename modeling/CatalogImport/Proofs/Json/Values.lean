import CatalogImport.Proofs.Json.Items

/-!
# Values

What values are in a JSON text, said apart from how they are read: `Spells`, for a depth of brackets.  Main
statement: a value is read exactly where one is written that goes on no further (`reads_readValue`).
-/

namespace CatalogImport.Json

variable {b : UInt8} {u w rest bytes : List UInt8}

/-! ## Texts of values -/

/-- A value without brackets. -/
inductive Scalar : List UInt8 → Value → Prop
  | null : Scalar [byte 'n', byte 'u', byte 'l', byte 'l'] .null
  | isTrue : Scalar [byte 't', byte 'r', byte 'u', byte 'e'] (.bool true)
  | isFalse : Scalar [byte 'f', byte 'a', byte 'l', byte 's', byte 'e'] (.bool false)
  | number {w : List UInt8} {l : Literal} {n : Number} (hw : Numeral w l) (hnegative : l.negative = false)
      (hn : l.number? = some n) : Scalar w (.number n)
  | negative {w : List UInt8} {l : Literal} {n : Number} (hw : Numeral w l) (hnegative : l.negative = true)
      (hn : l.number? = some n) : Scalar (byte '-' :: w) (.number n)
  | text {w : List UInt8} {s : String} (hw : SpellsChars w s.toList) :
      Scalar (byte '"' :: w ++ [byte '"']) (.text s)

/-- Brackets with what stands between them; of members with one key the last counts. -/
inductive Bracketed (inner : List UInt8 → Value → Prop) : List UInt8 → Value → Prop
  | array {x : List UInt8} {items : List Value} (hx : Enclosed inner x items) :
      Bracketed inner (byte '[' :: x ++ [byte ']']) (.array items)
  | object {x : List UInt8} {members : List (String × Value)} (hx : Enclosed (Member inner) x members) :
      Bracketed inner (byte '\x7b' :: x ++ [byte '\x7d']) (.ofMembers members)

/-- The text writes the value, and brackets are nested no deeper than that. -/
def Spells : Nat → List UInt8 → Value → Prop
  | 0 => Scalar
  | depth + 1 => fun w v => Scalar w v ∨ Bracketed (Spells depth) w v

/-! ## Readers of values -/

theorem readWord_eq_ok_iff {word : List UInt8} :
    readWord word bytes = .ok ((), rest) ↔ bytes = word ++ rest := by
  induction word generalizing bytes with
  | nil =>
    unfold readWord
    simp
  | cons b word ih =>
    cases bytes with
    | nil => simp [readWord]
    | cons c more =>
      rw [readWord, List.cons_append, List.cons.injEq]
      split
      · next hb => rw [ih, and_iff_right hb]
      · next hb => simp [hb]

section

variable {streamed : Bool} {depth : Nat} {a : Value}

theorem readValue_minus :
    readValue streamed depth (byte '-' :: rest) =
      readNumber streamed true rest >>= fun found => .ok (.number found.1, found.2) := by
  rw [readValue.eq_def]
  rfl

theorem readValue_digit (hb : isDigitByte b = true) :
    readValue streamed depth (b :: rest) =
      readNumber streamed false (b :: rest) >>= fun found => .ok (.number found.1, found.2) := by
  have hne : ∀ c, isDigitByte c = false → b ≠ c := by
    rintro c hc rfl
    rw [hb] at hc
    cases hc
  rw [readValue.eq_def]
  dsimp only
  rw [skipBlanks_cons (isBlankByte_eq_false_of_isDigitByte hb)]
  dsimp only
  rw [if_neg (hne _ (by decide)), if_neg (hne _ (by decide)), if_neg (hne _ (by decide)),
    if_neg (hne _ (by decide)), if_pos hb]
  rfl

theorem readValue_quote :
    readValue streamed depth (byte '"' :: rest) =
      readString rest >>= fun found => .ok (.text found.1, found.2) := by
  rw [readValue.eq_def]
  rfl

theorem readValue_bracket :
    readValue streamed (depth + 1) (byte '[' :: rest) =
      readList (readValue streamed depth) rest >>= fun found => .ok (.array found.1, found.2) := by
  rw [readValue.eq_def]
  rfl

theorem readValue_brace :
    readValue streamed (depth + 1) (byte '\x7b' :: rest) =
      readObject (readValue streamed depth) rest >>= fun found => .ok (.object found.1, found.2) := by
  rw [readValue.eq_def]
  rfl

theorem Scalar.spells (hw : Scalar w a) : Spells depth w a := by
  cases depth with
  | zero => exact hw
  | succ depth => exact .inl hw

/-- A number without a minus sign starts with a digit. -/
theorem Numeral.exists_digit {l : Literal} (hw : Numeral w l) :
    ∃ b more, w = b :: more ∧ isDigitByte b = true := by
  obtain @⟨u, v, x, l, hu, hv, hx⟩ := hw
  have hdigit : ∃ b more, u = b :: more ∧ isDigitByte b = true := by
    generalize l.whole = ds at hu
    cases hu with
    | zero => exact ⟨byte '0', [], rfl, by decide⟩
    | digits hu hzero =>
      obtain ⟨hne, hall, -⟩ := hu
      obtain ⟨b, more, rfl⟩ := List.exists_cons_of_ne_nil hne
      exact ⟨b, more, rfl, hall b List.mem_cons_self⟩
  obtain ⟨b, more, rfl, hb⟩ := hdigit
  exact ⟨b, more ++ v ++ x, by simp only [List.cons_append], hb⟩

theorem readValue_of_scalar (hw : Scalar w a) (hrest : EndsNumber rest) :
    readValue streamed depth (w ++ rest) = .ok (a, rest) := by
  cases hw with
  | null =>
    rw [readValue.eq_def]
    rfl
  | isTrue =>
    rw [readValue.eq_def]
    rfl
  | isFalse =>
    rw [readValue.eq_def]
    rfl
  | @number w l n hw hnegative hn =>
    have hread : readNumber streamed false (w ++ rest) = .ok (n, rest) :=
      hnegative ▸ readNumber_eq_ok_iff.2 ⟨l, readLiteral_of_numeral .endInValue hw hrest, hn⟩
    obtain ⟨b, more, rfl, hb⟩ := hw.exists_digit
    rw [List.cons_append] at hread ⊢
    rw [readValue_digit hb, hread]
    rfl
  | @negative w l n hw hnegative hn =>
    have hread : readNumber streamed true (w ++ rest) = .ok (n, rest) :=
      hnegative ▸ readNumber_eq_ok_iff.2 ⟨l, readLiteral_of_numeral .endInValue hw hrest, hn⟩
    rw [List.cons_append, readValue_minus, hread]
    rfl
  | @text w s hw =>
    have hread : readString (w ++ byte '"' :: rest) = .ok (s, rest) := readString_eq_ok_iff.2 ⟨w, hw, rfl⟩
    rw [List.cons_append, List.cons_append, readValue_quote, List.append_assoc, List.singleton_append, hread]
    rfl

theorem exists_spells_of_readValue
    (hinner : ∀ d, depth = d + 1 → Reads (readValue streamed d) (Spells d))
    (h : readValue streamed depth bytes = .ok (a, rest)) :
    ∃ u w, Blanks u ∧ Spells depth w a ∧ bytes = u ++ w ++ rest := by
  rw [readValue.eq_def] at h
  dsimp only at h
  cases hs : skipBlanks bytes with
  | nil =>
    rw [hs] at h
    cases h
  | cons b more =>
    rw [hs] at h
    dsimp only at h
    obtain ⟨-, u, hu, rfl⟩ := skipBlanks_eq_cons_iff.1 hs
    suffices hvalue : ∃ w, Spells depth w a ∧ b :: more = w ++ rest by
      obtain ⟨w, hw, hmore⟩ := hvalue
      exact ⟨u, w, hu, hw, by rw [hmore, List.append_assoc]⟩
    clear hs
    by_cases hb : b = byte 'n'
    · rw [if_pos hb] at h
      obtain ⟨⟨⟨⟩, rest'⟩, hword, hend⟩ := exists_of_bind_eq_ok h
      cases hend
      exact ⟨_, Scalar.null.spells, by rw [hb, readWord_eq_ok_iff.1 hword]; rfl⟩
    rw [if_neg hb] at h
    by_cases hb : b = byte 't'
    · rw [if_pos hb] at h
      obtain ⟨⟨⟨⟩, rest'⟩, hword, hend⟩ := exists_of_bind_eq_ok h
      cases hend
      exact ⟨_, Scalar.isTrue.spells, by rw [hb, readWord_eq_ok_iff.1 hword]; rfl⟩
    rw [if_neg hb] at h
    by_cases hb : b = byte 'f'
    · rw [if_pos hb] at h
      obtain ⟨⟨⟨⟩, rest'⟩, hword, hend⟩ := exists_of_bind_eq_ok h
      cases hend
      exact ⟨_, Scalar.isFalse.spells, by rw [hb, readWord_eq_ok_iff.1 hword]; rfl⟩
    rw [if_neg hb] at h
    by_cases hb : b = byte '-'
    · rw [if_pos hb] at h
      obtain ⟨⟨n, rest'⟩, hnumber, hend⟩ := exists_of_bind_eq_ok h
      cases hend
      obtain ⟨l, hl, hn⟩ := readNumber_eq_ok_iff.1 hnumber
      obtain ⟨hnegative, w, hw, rfl⟩ := exists_numeral_of_readLiteral hl
      exact ⟨byte '-' :: w, (Scalar.negative hw hnegative hn).spells, by rw [hb]; rfl⟩
    rw [if_neg hb] at h
    by_cases hb : isDigitByte b = true
    · rw [if_pos hb] at h
      obtain ⟨⟨n, rest'⟩, hnumber, hend⟩ := exists_of_bind_eq_ok h
      cases hend
      obtain ⟨l, hl, hn⟩ := readNumber_eq_ok_iff.1 hnumber
      obtain ⟨hnegative, w, hw, hmore⟩ := exists_numeral_of_readLiteral hl
      exact ⟨w, (Scalar.number hw hnegative hn).spells, hmore⟩
    rw [if_neg hb] at h
    by_cases hb : b = byte '"'
    · rw [if_pos hb] at h
      obtain ⟨⟨s, rest'⟩, hstring, hend⟩ := exists_of_bind_eq_ok h
      cases hend
      obtain ⟨w, hw, rfl⟩ := readString_eq_ok_iff.1 hstring
      exact ⟨_, (Scalar.text hw).spells, by rw [hb]; simp⟩
    rw [if_neg hb] at h
    by_cases hb : b = byte '['
    · rw [if_pos hb] at h
      cases depth with
      | zero => cases h
      | succ depth =>
        obtain ⟨⟨items, rest'⟩, hlist, hend⟩ := exists_of_bind_eq_ok h
        cases hend
        obtain ⟨x, hx, rfl⟩ := (readList_eq_ok_iff (hinner depth rfl)).1 hlist
        exact ⟨_, .inr (.array hx), by rw [hb]; simp⟩
    rw [if_neg hb] at h
    by_cases hb : b = byte '\x7b'
    · rw [if_pos hb] at h
      cases depth with
      | zero => cases h
      | succ depth =>
        obtain ⟨⟨found, rest'⟩, hobject, hend⟩ := exists_of_bind_eq_ok h
        cases hend
        obtain ⟨x, ms, hx, rfl, hfound⟩ := (readObject_eq_ok_iff (hinner depth rfl)).1 hobject
        rw [hfound]
        exact ⟨_, .inr (.object hx), by rw [hb]; simp⟩
    rw [if_neg hb] at h
    cases h

theorem Scalar.starts (hw : Scalar w a) : ∃ b more, w = b :: more ∧ isBlankByte b = false ∧ b ≠ byte ']' := by
  cases hw with
  | number hw hnegative hn =>
    obtain ⟨b, more, rfl, hb⟩ := hw.exists_digit
    refine ⟨b, more, rfl, isBlankByte_eq_false_of_isDigitByte hb, ?_⟩
    rintro rfl
    cases hb
  | _ => exact ⟨_, _, rfl, by decide, by decide⟩

theorem Spells.starts (hw : Spells depth w a) :
    ∃ b more, w = b :: more ∧ isBlankByte b = false ∧ b ≠ byte ']' := by
  cases depth with
  | zero => exact Scalar.starts hw
  | succ depth =>
    rcases hw with hw | ⟨⟩ | ⟨⟩
    · exact hw.starts
    · exact ⟨_, _, rfl, by decide, by decide⟩
    · exact ⟨_, _, rfl, by decide, by decide⟩

theorem readValue_skipBlanks (bytes : List UInt8) :
    readValue streamed depth (skipBlanks bytes) = readValue streamed depth bytes := by
  rw [readValue.eq_def, readValue.eq_def streamed depth bytes]
  dsimp only
  rw [skipBlanks_skipBlanks]

/-- A value is read exactly where one is written that goes on no further. -/
theorem reads_readValue (streamed : Bool) (depth : Nat) : Reads (readValue streamed depth) (Spells depth) := by
  induction depth with
  | zero =>
    exact ⟨Spells.starts, readValue_skipBlanks, exists_spells_of_readValue (fun d hd => by cases hd),
      readValue_of_scalar⟩
  | succ depth ih =>
    refine ⟨Spells.starts, readValue_skipBlanks,
      exists_spells_of_readValue (fun d hd => Nat.succ.inj hd ▸ ih), ?_⟩
    rintro w a rest (hw | hw) hrest
    · exact readValue_of_scalar hw hrest
    · cases hw with
      | @array x items hx =>
        have hlist : readList (readValue streamed depth) (x ++ byte ']' :: rest) = .ok (items, rest) :=
          (readList_eq_ok_iff ih).2 ⟨x, hx, rfl⟩
        rw [List.cons_append, List.cons_append, readValue_bracket, List.append_assoc, List.singleton_append, hlist]
        rfl
      | @object x ms hx =>
        obtain ⟨rows, hrows⟩ : ∃ rows, .object rows = Value.ofMembers ms := ⟨_, rfl⟩
        have hobject : readObject (readValue streamed depth) (x ++ byte '\x7d' :: rest) = .ok (rows, rest) :=
          (readObject_eq_ok_iff ih).2 ⟨x, ms, hx, rfl, hrows⟩
        rw [List.cons_append, List.cons_append, readValue_brace, List.append_assoc, List.singleton_append, hobject,
          ← hrows]
        rfl

end

end CatalogImport.Json
