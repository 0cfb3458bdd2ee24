import CatalogImport.Json.Skim
import CatalogImport.Proofs.Json.Values

/-!
# Values that are skimmed over

What a value is when nobody reads it, said apart from how it is taken: brackets at any depth, numbers of any
size, strings of any bytes.  The brackets that are open while it is taken belong to what is around it, so
what goes on behind an item up to the end of its brackets is described along with it.  Main statements: a
value is skimmed over exactly where one is written that goes on no further (`exists_skimmed_of_skimValue`,
`skimValue_of_skimmed`), and what can be read can be skimmed over (`Spells.skimmed`).
-/

namespace CatalogImport.Json

variable {α : Type} {b : Bracket} {brackets : List Bracket} {u v w k t rest bytes : List UInt8} {n : Nat}

/-! ## Texts -/

/-- The byte that opens a pair of brackets. -/
def Bracket.opening : Bracket → UInt8
  | .list => byte '['
  | .object => byte '\x7b'

/-- What stands before a value between brackets, blanks included: nothing else in a list, and a key with a
colon in an object. -/
inductive Lead : Bracket → List UInt8 → Prop
  | item {u : List UInt8} (hu : Blanks u) : Lead .list u
  | key {u k v w : List UInt8} (hu : Blanks u) (hk : SkipsChars k) (hv : Blanks v) (hw : Blanks w) :
      Lead .object (u ++ byte '"' :: k ++ byte '"' :: v ++ byte ':' :: w)

/-- A value without brackets, of which only the form counts. -/
inductive SkimmedScalar : List UInt8 → Prop
  | null : SkimmedScalar [byte 'n', byte 'u', byte 'l', byte 'l']
  | isTrue : SkimmedScalar [byte 't', byte 'r', byte 'u', byte 'e']
  | isFalse : SkimmedScalar [byte 'f', byte 'a', byte 'l', byte 's', byte 'e']
  | number {w : List UInt8} {l : Literal} (hw : Numeral w l) (hnegative : l.negative = false) : SkimmedScalar w
  | negative {w : List UInt8} {l : Literal} (hw : Numeral w l) (hnegative : l.negative = true) :
      SkimmedScalar (byte '-' :: w)
  | text {w : List UInt8} (hw : SkipsChars w) : SkimmedScalar (byte '"' :: w ++ [byte '"'])

/-- A part of a text. -/
inductive Part where
  /-- A value. -/
  | value
  /-- What follows an item up to the end of its brackets. -/
  | tail (b : Bracket)

/-- The text is such a part, whatever the values in it mean. -/
inductive Skimmed : Part → List UInt8 → Prop
  | scalar {w : List UInt8} (hw : SkimmedScalar w) : Skimmed .value w
  | empty {u : List UInt8} (b : Bracket) (hu : Blanks u) : Skimmed .value (b.opening :: u ++ [b.close])
  | items {b : Bracket} {k w t : List UInt8} (hk : Lead b k) (hw : Skimmed .value w) (ht : Skimmed (.tail b) t) :
      Skimmed .value (b.opening :: k ++ w ++ t)
  | close {u : List UInt8} (b : Bracket) (hu : Blanks u) : Skimmed (.tail b) (u ++ [b.close])
  | comma {b : Bracket} {u k w t : List UInt8} (hu : Blanks u) (hk : Lead b k) (hw : Skimmed .value w)
      (ht : Skimmed (.tail b) t) : Skimmed (.tail b) (u ++ byte ',' :: k ++ w ++ t)

theorem Lead.blanks_append (hu : Blanks u) (hk : Lead b k) : Lead b (u ++ k) := by
  cases hk with
  | item hk => exact .item (hu.append hk)
  | @key u' k v w hu' hk hv hw =>
    have h := Lead.key (hu.append hu') hk hv hw
    simpa only [List.append_assoc] using h

theorem Lead.append_blanks (hk : Lead b k) (hu : Blanks u) : Lead b (k ++ u) := by
  cases hk with
  | item hk => exact .item (hk.append hu)
  | @key u' k v w hu' hk hv hw =>
    have h := Lead.key hu' hk hv (hw.append hu)
    simpa only [List.append_assoc, List.cons_append] using h

theorem Bracket.isBlankByte_close (b : Bracket) : isBlankByte b.close = false := by
  cases b <;> decide

theorem Bracket.continuesNumber_close (b : Bracket) : continuesNumber b.close = false := by
  cases b <;> decide

theorem SkimmedScalar.starts (hw : SkimmedScalar w) :
    ∃ c more, w = c :: more ∧ isBlankByte c = false ∧ ∀ b : Bracket, c ≠ b.close := by
  have hdigit : ∀ {w l}, Numeral w l →
      ∃ c more, w = c :: more ∧ isBlankByte c = false ∧ ∀ b : Bracket, c ≠ b.close := by
    intro w l hw
    obtain ⟨c, more, rfl, hc⟩ := hw.exists_digit
    refine ⟨c, more, rfl, isBlankByte_eq_false_of_isDigitByte hc, fun b heq => ?_⟩
    rw [heq] at hc
    cases b <;> cases hc
  cases hw with
  | number hw hnegative => exact hdigit hw
  | _ => exact ⟨_, _, rfl, by decide, fun b => by cases b <;> decide⟩

theorem Skimmed.starts (hw : Skimmed .value w) :
    ∃ c more, w = c :: more ∧ isBlankByte c = false ∧ ∀ b : Bracket, c ≠ b.close := by
  have hopening : ∀ b : Bracket, isBlankByte b.opening = false ∧ ∀ b' : Bracket, b.opening ≠ b'.close := by
    intro b
    refine ⟨by cases b <;> decide, fun b' => by cases b <;> cases b' <;> decide⟩
  cases hw with
  | scalar hw => exact hw.starts
  | empty b hu => exact ⟨_, _, rfl, hopening b⟩
  | @items b k w t hk hw ht => exact ⟨_, _, rfl, hopening b⟩

theorem Skimmed.endsNumber (ht : Skimmed (.tail b) t) : EndsNumber (t ++ rest) := by
  cases ht with
  | close b hu =>
    rw [List.append_assoc]
    exact endsNumber_append_cons hu b.continuesNumber_close _
  | comma hu hk hw ht =>
    rw [List.append_assoc, List.append_assoc, List.append_assoc]
    exact endsNumber_append_cons hu (by decide) _

/-! ## Steps -/

theorem skimLeaf_digit {c : UInt8} (hc : isDigitByte c = true) :
    skimLeaf c rest = (·.2) <$> readLiteral .invalidNumber false (c :: rest) := by
  have hne : ∀ c', isDigitByte c' = false → c ≠ c' := by
    rintro c' hc' rfl
    rw [hc] at hc'
    cases hc'
  unfold skimLeaf
  rw [if_neg (hne _ (by decide)), if_neg (hne _ (by decide)), if_neg (hne _ (by decide)),
    if_neg (hne _ (by decide)), if_pos hc]

theorem skimLeaf_of_scalar (hw : SkimmedScalar w) (hrest : EndsNumber rest) :
    ∃ c more, w = c :: more ∧ skimLeaf c (more ++ rest) = .ok rest := by
  cases hw with
  | null => exact ⟨_, _, rfl, rfl⟩
  | isTrue => exact ⟨_, _, rfl, rfl⟩
  | isFalse => exact ⟨_, _, rfl, rfl⟩
  | @number w l hw hnegative =>
    have hread := readLiteral_of_numeral .invalidNumber hw hrest
    obtain ⟨c, more, rfl, hc⟩ := hw.exists_digit
    rw [hnegative, List.cons_append] at hread
    exact ⟨c, more, rfl, by rw [skimLeaf_digit hc, hread]; rfl⟩
  | @negative w l hw hnegative =>
    have hread := readLiteral_of_numeral .invalidNumber hw hrest
    rw [hnegative] at hread
    refine ⟨byte '-', w, rfl, ?_⟩
    show (·.2) <$> readLiteral .invalidNumber true (w ++ rest) = _
    rw [hread]
    rfl
  | @text w hw =>
    have hread : skipString (w ++ byte '"' :: rest) = .ok ((), rest) := skipString_eq_ok_iff.2 ⟨w, hw, rfl⟩
    refine ⟨byte '"', w ++ [byte '"'], rfl, ?_⟩
    show (·.2) <$> skipString (w ++ [byte '"'] ++ rest) = _
    rw [List.append_assoc, List.singleton_append, hread]
    rfl

theorem exists_scalar_of_skimLeaf {c : UInt8} (h : skimLeaf c bytes = .ok rest) :
    ∃ w, SkimmedScalar w ∧ c :: bytes = w ++ rest := by
  unfold skimLeaf at h
  by_cases hc : c = byte 'n'
  · rw [if_pos hc] at h
    obtain ⟨⟨⟨⟩, rest'⟩, hword, rfl⟩ := exists_of_map_eq_ok h
    exact ⟨_, .null, by rw [hc, readWord_eq_ok_iff.1 hword]; rfl⟩
  rw [if_neg hc] at h
  by_cases hc : c = byte 't'
  · rw [if_pos hc] at h
    obtain ⟨⟨⟨⟩, rest'⟩, hword, rfl⟩ := exists_of_map_eq_ok h
    exact ⟨_, .isTrue, by rw [hc, readWord_eq_ok_iff.1 hword]; rfl⟩
  rw [if_neg hc] at h
  by_cases hc : c = byte 'f'
  · rw [if_pos hc] at h
    obtain ⟨⟨⟨⟩, rest'⟩, hword, rfl⟩ := exists_of_map_eq_ok h
    exact ⟨_, .isFalse, by rw [hc, readWord_eq_ok_iff.1 hword]; rfl⟩
  rw [if_neg hc] at h
  by_cases hc : c = byte '-'
  · rw [if_pos hc] at h
    obtain ⟨⟨l, rest'⟩, hl, rfl⟩ := exists_of_map_eq_ok h
    obtain ⟨hnegative, w, hw, rfl⟩ := exists_numeral_of_readLiteral hl
    exact ⟨_, .negative hw hnegative, by rw [hc]; rfl⟩
  rw [if_neg hc] at h
  by_cases hc : isDigitByte c = true
  · rw [if_pos hc] at h
    obtain ⟨⟨l, rest'⟩, hl, rfl⟩ := exists_of_map_eq_ok h
    obtain ⟨hnegative, w, hw, hmore⟩ := exists_numeral_of_readLiteral hl
    exact ⟨w, .number hw hnegative, hmore⟩
  rw [if_neg hc] at h
  by_cases hc : c = byte '"'
  · rw [if_pos hc] at h
    obtain ⟨⟨⟨⟩, rest'⟩, hstring, rfl⟩ := exists_of_map_eq_ok h
    obtain ⟨w, hw, rfl⟩ := skipString_eq_ok_iff.1 hstring
    exact ⟨_, .text hw, by rw [hc]; simp⟩
  rw [if_neg hc] at h
  cases h

theorem exists_lead_of_skimKey (h : skimKey b bytes = .ok rest) : ∃ k, Lead b k ∧ bytes = k ++ rest := by
  cases b with
  | list =>
    cases h
    exact ⟨[], .item blanks_nil, rfl⟩
  | object =>
    unfold skimKey at h
    dsimp only at h
    cases hs : skipBlanks bytes with
    | nil =>
      rw [hs] at h
      cases h
    | cons c more =>
      rw [hs] at h
      obtain ⟨-, u, hu, rfl⟩ := skipBlanks_eq_cons_iff.1 hs
      dsimp only at h
      split at h
      · next hc =>
        subst hc
        obtain ⟨⟨⟨⟩, rest₁⟩, hstring, htail⟩ := exists_of_bind_eq_ok h
        obtain ⟨⟨⟨⟩, rest₂⟩, hcolon, hend⟩ := exists_of_bind_eq_ok htail
        cases hend
        obtain ⟨k, hk, rfl⟩ := skipString_eq_ok_iff.1 hstring
        obtain ⟨-, v, hv, rfl⟩ := skipBlanks_eq_cons_iff.1 (readColon_eq_ok_iff.1 hcolon)
        refine ⟨u ++ byte '"' :: k ++ byte '"' :: v ++ byte ':' :: [], .key hu hk hv blanks_nil, ?_⟩
        simp only [List.append_assoc, List.cons_append, List.nil_append]
      · cases h

/-- What stands before a value is taken when the first byte of it has been looked at. -/
theorem skimKey_of_skipBlanks (hk : Lead b k) {c : UInt8} (hc : isBlankByte c = false) (hclose : c ≠ b.close)
    (more : List UInt8) :
    ∃ u c' more', Blanks u ∧ skipBlanks (k ++ c :: more) = c' :: more' ∧ c' ≠ b.close ∧
      skimKey b (c' :: more') = .ok (u ++ c :: more) := by
  cases hk with
  | item hu =>
    exact ⟨[], c, more, blanks_nil, skipBlanks_append_cons hu hc more, hclose, rfl⟩
  | @key u k v w hu hk hv hw =>
    refine ⟨w, byte '"', k ++ byte '"' :: (v ++ byte ':' :: (w ++ c :: more)), hw, ?_, by decide, ?_⟩
    · simp only [List.append_assoc, List.cons_append]
      exact skipBlanks_append_cons hu (by decide) _
    · have hstring : skipString (k ++ byte '"' :: (v ++ byte ':' :: (w ++ c :: more))) =
          .ok ((), v ++ byte ':' :: (w ++ c :: more)) := skipString_eq_ok_iff.2 ⟨k, hk, rfl⟩
      have hcolon : readColon (v ++ byte ':' :: (w ++ c :: more)) = .ok ((), w ++ c :: more) :=
        readColon_eq_ok_iff.2 (skipBlanks_append_cons hv (by decide) _)
      unfold skimKey
      dsimp only
      rw [skipBlanks_cons (by decide)]
      dsimp only
      rw [if_pos rfl, hstring]
      dsimp only [bind, Except.bind]
      rw [hcolon]
      rfl

theorem skimKey_of_lead (hk : Lead b k) {c : UInt8} (hc : isBlankByte c = false) (hclose : c ≠ b.close)
    (more : List UInt8) : ∃ u, Blanks u ∧ skimKey b (k ++ c :: more) = .ok (u ++ c :: more) := by
  obtain ⟨u, c', more', hu, hblanks, -, hkey⟩ := skimKey_of_skipBlanks hk hc hclose more
  cases b with
  | list =>
    cases hk with
    | item hk => exact ⟨k, hk, rfl⟩
  | object =>
    refine ⟨u, hu, ?_⟩
    rw [← hkey, ← hblanks]
    unfold skimKey
    dsimp only
    rw [skipBlanks_skipBlanks]

theorem skimStep_value_cases {next : Option (Awaited × List Bracket)}
    (h : skimStep .value brackets bytes = .ok (next, rest)) :
    ∃ u, Blanks u ∧ ((∃ b, next = some (.first, b :: brackets) ∧ bytes = u ++ Bracket.opening b :: rest) ∨
      ∃ w, SkimmedScalar w ∧ next = some (.next, brackets) ∧ bytes = u ++ w ++ rest) := by
  unfold skimStep at h
  dsimp only at h
  cases hs : skipBlanks bytes with
  | nil =>
    rw [hs] at h
    cases h
  | cons c more =>
    rw [hs] at h
    obtain ⟨-, u, hu, rfl⟩ := skipBlanks_eq_cons_iff.1 hs
    dsimp only at h
    refine ⟨u, hu, ?_⟩
    by_cases hlist : c = byte '['
    · rw [if_pos hlist] at h
      cases h
      exact .inl ⟨.list, rfl, by rw [hlist]; rfl⟩
    rw [if_neg hlist] at h
    by_cases hobject : c = byte '\x7b'
    · rw [if_pos hobject] at h
      cases h
      exact .inl ⟨.object, rfl, by rw [hobject]; rfl⟩
    rw [if_neg hobject] at h
    obtain ⟨rest', hleaf, hend⟩ := exists_of_bind_eq_ok h
    cases hend
    obtain ⟨w, hw, hmore⟩ := exists_scalar_of_skimLeaf hleaf
    exact .inr ⟨w, hw, rfl, by rw [hmore, List.append_assoc]⟩

theorem skimStep_first_cases {next : Option (Awaited × List Bracket)}
    (h : skimStep .first (b :: brackets) bytes = .ok (next, rest)) :
    (∃ u, Blanks u ∧ next = some (.next, brackets) ∧ bytes = u ++ b.close :: rest) ∨
      ∃ k, Lead b k ∧ next = some (.value, b :: brackets) ∧ bytes = k ++ rest := by
  unfold skimStep at h
  dsimp only at h
  cases hs : skipBlanks bytes with
  | nil =>
    rw [hs] at h
    cases h
  | cons c more =>
    rw [hs] at h
    obtain ⟨-, u, hu, rfl⟩ := skipBlanks_eq_cons_iff.1 hs
    dsimp only at h
    by_cases hclose : c = b.close
    · rw [if_pos hclose] at h
      cases h
      exact .inl ⟨u, hu, rfl, by rw [hclose]⟩
    rw [if_neg hclose, if_pos rfl] at h
    obtain ⟨rest', hkey, hend⟩ := exists_of_bind_eq_ok h
    cases hend
    obtain ⟨k, hk, hmore⟩ := exists_lead_of_skimKey hkey
    exact .inr ⟨u ++ k, hk.blanks_append hu, rfl, by rw [hmore, List.append_assoc]⟩

theorem skimStep_next_cases {next : Option (Awaited × List Bracket)}
    (h : skimStep .next (b :: brackets) bytes = .ok (next, rest)) :
    ∃ u, Blanks u ∧ ((next = some (.next, brackets) ∧ bytes = u ++ b.close :: rest) ∨
      ∃ k, Lead b k ∧ next = some (.value, b :: brackets) ∧ bytes = u ++ byte ',' :: k ++ rest) := by
  unfold skimStep at h
  dsimp only at h
  cases hs : skipBlanks bytes with
  | nil =>
    rw [hs] at h
    cases h
  | cons c more =>
    rw [hs] at h
    obtain ⟨-, u, hu, rfl⟩ := skipBlanks_eq_cons_iff.1 hs
    dsimp only at h
    refine ⟨u, hu, ?_⟩
    by_cases hclose : c = b.close
    · rw [if_pos hclose] at h
      cases h
      exact .inl ⟨rfl, by rw [hclose]⟩
    rw [if_neg hclose, if_neg (by decide)] at h
    by_cases hcomma : c = byte ','
    · rw [if_pos hcomma] at h
      obtain ⟨rest', hkey, hend⟩ := exists_of_bind_eq_ok h
      cases hend
      obtain ⟨k, hk, rfl⟩ := exists_lead_of_skimKey hkey
      refine .inr ⟨k, hk, rfl, ?_⟩
      rw [hcomma, List.append_assoc, List.cons_append]
    rw [if_neg hcomma] at h
    cases h

/-! ## Runs -/

theorem exists_step_of_skimFrom {awaited : Awaited} (h : skimFrom n awaited brackets bytes = .ok rest) :
    ∃ m, n = m + 1 ∧ (skimStep awaited brackets bytes = .ok (none, rest) ∨
      ∃ awaited' brackets' more, skimStep awaited brackets bytes = .ok (some (awaited', brackets'), more) ∧
        skimFrom m awaited' brackets' more = .ok rest) := by
  cases n with
  | zero => cases h
  | succ m =>
    refine ⟨m, rfl, ?_⟩
    unfold skimFrom at h
    split at h
    · cases h
    · next hstep =>
      cases h
      exact .inl hstep
    · next awaited' brackets' more hstep => exact .inr ⟨awaited', brackets', more, hstep, h⟩

/-- A run that comes to an end takes a value first if it awaits one, and what follows an item up to the end
of the brackets if it is between brackets. -/
theorem exists_part_of_skimFrom (n : Nat) :
    (∀ {brackets bytes rest}, skimFrom n .value brackets bytes = .ok rest →
      ∃ u w more m, m < n ∧ Blanks u ∧ Skimmed .value w ∧ bytes = u ++ w ++ more ∧
        skimFrom m .next brackets more = .ok rest) ∧
    ∀ {b brackets bytes rest}, skimFrom n .next (b :: brackets) bytes = .ok rest →
      ∃ t more m, m < n ∧ Skimmed (.tail b) t ∧ bytes = t ++ more ∧
        skimFrom m .next brackets more = .ok rest := by
  induction n using Nat.strongRecOn with
  | ind n ih =>
    -- Behind what stands before it, an item is taken, and then the rest of its brackets.
    have hitem : ∀ {m b brackets k bytes rest}, m < n → Lead b k →
        skimFrom m .value (b :: brackets) bytes = .ok rest →
        ∃ k' w t more m', m' < m ∧ Lead b k' ∧ Skimmed .value w ∧ Skimmed (.tail b) t ∧
          k ++ bytes = k' ++ w ++ t ++ more ∧ skimFrom m' .next brackets more = .ok rest := by
      intro m b brackets k bytes rest hm hk hrun
      obtain ⟨u, w, more, m₁, hm₁, hu, hw, rfl, hrun₁⟩ := (ih m hm).1 hrun
      obtain ⟨t, more₂, m₂, hm₂, ht, rfl, hrun₂⟩ := (ih m₁ (Nat.lt_trans hm₁ hm)).2 hrun₁
      refine ⟨k ++ u, w, t, more₂, m₂, Nat.lt_trans hm₂ hm₁, hk.append_blanks hu, hw, ht, ?_, hrun₂⟩
      simp only [List.append_assoc]
    refine ⟨fun {brackets bytes rest} h => ?_, fun {b brackets bytes rest} h => ?_⟩
    · obtain ⟨m, rfl, hstep | ⟨awaited, brackets', more, hstep, hrun⟩⟩ := exists_step_of_skimFrom h
      · obtain ⟨u, hu, ⟨b, hnext, -⟩ | ⟨w, hw, hnext, -⟩⟩ := skimStep_value_cases hstep
        · cases hnext
        · cases hnext
      · obtain ⟨u, hu, ⟨b, hnext, rfl⟩ | ⟨w, hw, hnext, rfl⟩⟩ := skimStep_value_cases hstep
        · cases hnext
          obtain ⟨m, rfl, hstep | ⟨awaited, brackets', more', hstep, hrun⟩⟩ := exists_step_of_skimFrom hrun
          · rcases skimStep_first_cases hstep with ⟨u', hu', hnext, -⟩ | ⟨k, hk, hnext, -⟩
            · cases hnext
            · cases hnext
          · rcases skimStep_first_cases hstep with ⟨u', hu', hnext, rfl⟩ | ⟨k, hk, hnext, rfl⟩
            · cases hnext
              refine ⟨u, _, more', m, by omega, hu, .empty b hu', ?_, hrun⟩
              simp only [List.append_assoc, List.cons_append, List.nil_append]
            · cases hnext
              obtain ⟨k', w, t, more, m', hm', hk', hw, ht, heq, hrun'⟩ := hitem (by omega) hk hrun
              refine ⟨u, _, more, m', by omega, hu, .items hk' hw ht, ?_, hrun'⟩
              rw [heq]
              simp only [List.append_assoc, List.cons_append]
        · cases hnext
          exact ⟨u, w, more, m, Nat.lt_succ_self m, hu, .scalar hw, rfl, hrun⟩
    · obtain ⟨m, rfl, hstep | ⟨awaited, brackets', more, hstep, hrun⟩⟩ := exists_step_of_skimFrom h
      · obtain ⟨u, hu, ⟨hnext, -⟩ | ⟨k, hk, hnext, -⟩⟩ := skimStep_next_cases hstep
        · cases hnext
        · cases hnext
      · obtain ⟨u, hu, ⟨hnext, rfl⟩ | ⟨k, hk, hnext, rfl⟩⟩ := skimStep_next_cases hstep
        · cases hnext
          refine ⟨u ++ [b.close], more, m, Nat.lt_succ_self m, .close b hu, ?_, hrun⟩
          rw [List.append_assoc, List.singleton_append]
        · cases hnext
          obtain ⟨k', w, t, more', m', hm', hk', hw, ht, heq, hrun'⟩ := hitem (by omega) hk hrun
          refine ⟨_, more', m', by omega, .comma hu hk' hw ht, ?_, hrun'⟩
          rw [List.append_assoc, List.cons_append, heq]
          simp only [List.append_assoc, List.cons_append]

theorem exists_skimmed_of_skimValue (h : skimValue bytes = .ok rest) :
    ∃ u w, Blanks u ∧ Skimmed .value w ∧ bytes = u ++ w ++ rest := by
  obtain ⟨u, w, more, m, -, hu, hw, rfl, hrun⟩ := (exists_part_of_skimFrom _).1 h
  obtain ⟨m, rfl, hstep | ⟨awaited, brackets, more', hstep, -⟩⟩ := exists_step_of_skimFrom hrun
  · cases hstep
    exact ⟨u, w, hu, hw, rfl⟩
  · cases hstep

theorem skimFrom_of_step {awaited awaited' : Awaited} {brackets' : List Bracket}
    (h : skimStep awaited brackets bytes = .ok (some (awaited', brackets'), rest)) :
    skimFrom (n + 1) awaited brackets bytes = skimFrom n awaited' brackets' rest := by
  rw [skimFrom, h]

theorem skimFrom_blanks_append (hn : 0 < n) (hu : Blanks u) :
    skimFrom n .value brackets (u ++ bytes) = skimFrom n .value brackets bytes := by
  obtain ⟨n, rfl⟩ := Nat.exists_eq_add_one_of_ne_zero hn.ne'
  rw [skimFrom, skimFrom, skimStep, skimStep, skipBlanks_append hu]

theorem skimStep_opening (b : Bracket) :
    skimStep .value brackets (b.opening :: rest) = .ok (some (.first, b :: brackets), rest) := by
  cases b <;> rfl

theorem skimStep_scalar (hw : SkimmedScalar w) (hrest : EndsNumber rest) :
    skimStep .value brackets (w ++ rest) = .ok (some (.next, brackets), rest) := by
  obtain ⟨c, more, rfl, hleaf⟩ := skimLeaf_of_scalar hw hrest
  obtain ⟨c', more', hcons, hc, -⟩ := hw.starts
  obtain ⟨rfl, -⟩ := List.cons.inj hcons
  have hne : ∀ b : Bracket, c ≠ b.opening := by
    rintro b rfl
    cases b <;> cases hleaf
  unfold skimStep
  dsimp only
  rw [List.cons_append, skipBlanks_cons hc]
  dsimp only
  rw [if_neg (show c ≠ byte '[' from hne .list), if_neg (show c ≠ byte '\x7b' from hne .object), hleaf]
  rfl

theorem skimStep_close {awaited : Awaited} (b : Bracket) (hawaited : awaited ≠ .value) (hu : Blanks u) :
    skimStep awaited (b :: brackets) (u ++ b.close :: rest) = .ok (some (.next, brackets), rest) := by
  unfold skimStep
  cases awaited with
  | value => exact absurd rfl hawaited
  | _ =>
    dsimp only
    rw [skipBlanks_append_cons hu b.isBlankByte_close]
    exact if_pos rfl

theorem skimStep_lead (hk : Lead b k) (hw : Skimmed .value w) (brackets : List Bracket) (rest : List UInt8) :
    ∃ u, Blanks u ∧ skimStep .first (b :: brackets) (k ++ (w ++ rest)) =
      .ok (some (.value, b :: brackets), u ++ (w ++ rest)) := by
  obtain ⟨c, more, rfl, hc, hclose⟩ := hw.starts
  obtain ⟨u, c', more', hu, hblanks, hclose', hkey⟩ :=
    skimKey_of_skipBlanks hk hc (hclose b) (more ++ rest)
  refine ⟨u, hu, ?_⟩
  unfold skimStep
  dsimp only [List.cons_append]
  rw [hblanks]
  dsimp only
  rw [if_neg hclose', if_pos rfl, hkey]
  rfl

theorem skimStep_comma (hu : Blanks u) (hk : Lead b k) (hw : Skimmed .value w) (brackets : List Bracket)
    (rest : List UInt8) :
    ∃ u', Blanks u' ∧ skimStep .next (b :: brackets) (u ++ byte ',' :: (k ++ (w ++ rest))) =
      .ok (some (.value, b :: brackets), u' ++ (w ++ rest)) := by
  obtain ⟨c, more, rfl, hc, hclose⟩ := hw.starts
  obtain ⟨u', hu', hkey⟩ := skimKey_of_lead hk hc (hclose b) (more ++ rest)
  have hcomma : byte ',' ≠ b.close := by cases b <;> decide
  refine ⟨u', hu', ?_⟩
  unfold skimStep
  dsimp only [List.cons_append]
  rw [skipBlanks_append_cons hu (by decide)]
  dsimp only
  rw [if_neg hcomma, if_neg (by decide), if_pos rfl, hkey]
  rfl

/-- The text is skimmed over, as a value or up to the end of brackets, in two steps a byte at most. -/
def IsSkimmedOver : Part → List UInt8 → Prop
  | .value, w => ∃ steps ≤ 2 * w.length, ∀ n brackets rest, EndsNumber rest →
      skimFrom (n + 1 + steps) .value brackets (w ++ rest) = skimFrom (n + 1) .next brackets rest
  | .tail b, t => ∃ steps ≤ 2 * t.length, ∀ n brackets rest,
      skimFrom (n + 1 + steps) .next (b :: brackets) (t ++ rest) = skimFrom (n + 1) .next brackets rest

theorem Skimmed.isSkimmedOver {part : Part} (hw : Skimmed part w) : IsSkimmedOver part w := by
  induction hw with
  | @scalar w hw =>
    obtain ⟨c, more, rfl, -⟩ := hw.starts
    refine ⟨1, by rw [List.length_cons]; omega, fun n brackets rest hrest => ?_⟩
    exact skimFrom_of_step (skimStep_scalar hw hrest)
  | @empty u b hu =>
    refine ⟨2, by rw [List.length_append, List.length_cons, List.length_singleton]; omega,
      fun n brackets rest hrest => ?_⟩
    rw [List.cons_append, List.cons_append, List.append_assoc, List.singleton_append]
    show skimFrom (n + 2 + 1) .value brackets _ = _
    rw [skimFrom_of_step (skimStep_opening b), skimFrom_of_step (skimStep_close b (by decide) hu)]
  | @items b k w t hk hw ht ihw iht =>
    obtain ⟨stepsw, hstepsw, hrunw⟩ := ihw
    obtain ⟨stepst, hstepst, hrunt⟩ := iht
    refine ⟨2 + stepsw + stepst, ?_, fun n brackets rest hrest => ?_⟩
    · simp only [List.length_append, List.length_cons]
      omega
    · obtain ⟨u, hu, hlead⟩ := skimStep_lead hk hw brackets (t ++ rest)
      have hfuel : n + 1 + (2 + stepsw + stepst) = n + stepst + 1 + stepsw + 1 + 1 := by omega
      simp only [List.append_assoc, List.cons_append]
      rw [hfuel, skimFrom_of_step (skimStep_opening b), skimFrom_of_step hlead,
        skimFrom_blanks_append (by omega) hu, hrunw _ _ _ ht.endsNumber, Nat.add_right_comm n stepst 1, hrunt]
  | close b hu =>
    refine ⟨1, by rw [List.length_append, List.length_singleton]; omega, fun n brackets rest => ?_⟩
    rw [List.append_assoc, List.singleton_append]
    exact skimFrom_of_step (skimStep_close b (by decide) hu)
  | @comma b u k w t hu hk hw ht ihw iht =>
    obtain ⟨stepsw, hstepsw, hrunw⟩ := ihw
    obtain ⟨stepst, hstepst, hrunt⟩ := iht
    refine ⟨1 + stepsw + stepst, ?_, fun n brackets rest => ?_⟩
    · simp only [List.length_append, List.length_cons]
      omega
    · obtain ⟨u', hu', hcomma⟩ := skimStep_comma hu hk hw brackets (t ++ rest)
      have hfuel : n + 1 + (1 + stepsw + stepst) = n + stepst + 1 + stepsw + 1 := by omega
      simp only [List.append_assoc, List.cons_append]
      rw [hfuel, skimFrom_of_step hcomma, skimFrom_blanks_append (by omega) hu', hrunw _ _ _ ht.endsNumber,
        Nat.add_right_comm n stepst 1, hrunt]

theorem skimValue_of_skimmed (hu : Blanks u) (hw : Skimmed .value w) (hrest : EndsNumber rest) :
    skimValue (u ++ w ++ rest) = .ok rest := by
  obtain ⟨steps, hsteps, hrun⟩ := hw.isSkimmedOver
  have hfuel : ∃ n, 2 * (u ++ w ++ rest).length + 2 = n + 1 + steps := by
    refine ⟨2 * (u ++ w ++ rest).length + 1 - steps, ?_⟩
    simp only [List.length_append]
    omega
  obtain ⟨n, hfuel⟩ := hfuel
  unfold skimValue
  rw [hfuel, List.append_assoc, skimFrom_blanks_append (by omega) hu, hrun n [] rest hrest]
  rfl

/-! ## What can be read -/

theorem Scalar.skimmed {a : Value} (hw : Scalar w a) : SkimmedScalar w := by
  cases hw with
  | null => exact .null
  | isTrue => exact .isTrue
  | isFalse => exact .isFalse
  | number hw hnegative hn => exact .number hw hnegative
  | negative hw hnegative hn => exact .negative hw hnegative
  | text hw => exact .text hw.skips

/-- Items that can be skimmed over can be so together with their brackets. -/
theorem Listed.skimmed {grammar : List UInt8 → α → Prop} {as : List α}
    (hitem : ∀ {w a}, grammar w a → ∃ k v, Lead b k ∧ Skimmed .value v ∧ w = k ++ v)
    (hx : Listed grammar w as) :
    ∃ k v t, Lead b k ∧ Skimmed .value v ∧ Skimmed (.tail b) t ∧ w ++ [b.close] = k ++ v ++ t := by
  induction hx with
  | @last u w v a hu hw hv =>
    obtain ⟨k, value, hk, hvalue, rfl⟩ := hitem hw
    refine ⟨u ++ k, value, v ++ [b.close], hk.blanks_append hu, hvalue, .close b hv, ?_⟩
    simp only [List.append_assoc]
  | @cons u w v x a as hu hw hv hx ih =>
    obtain ⟨k, value, hk, hvalue, rfl⟩ := hitem hw
    obtain ⟨k', value', t, hk', hvalue', ht, hx'⟩ := ih
    refine ⟨u ++ k, value, v ++ byte ',' :: k' ++ value' ++ t, hk.blanks_append hu, hvalue,
      .comma hv hk' hvalue' ht, ?_⟩
    have happend : u ++ (k ++ value) ++ v ++ byte ',' :: x ++ [b.close] =
        u ++ (k ++ value) ++ v ++ byte ',' :: (x ++ [b.close]) := by
      simp only [List.append_assoc, List.cons_append]
    rw [happend, hx']
    simp only [List.append_assoc, List.cons_append]

theorem Enclosed.skimmed {grammar : List UInt8 → α → Prop} {as : List α}
    (hitem : ∀ {w a}, grammar w a → ∃ k v, Lead b k ∧ Skimmed .value v ∧ w = k ++ v)
    (hx : Enclosed grammar w as) : Skimmed .value (b.opening :: w ++ [b.close]) := by
  cases hx with
  | none hu => exact .empty b hu
  | some hx =>
    obtain ⟨k, v, t, hk, hv, ht, heq⟩ := hx.skimmed hitem
    have hskimmed := Skimmed.items hk hv ht
    rw [List.cons_append, List.cons_append] at hskimmed
    rw [List.cons_append, heq]
    exact hskimmed

/-- What can be read can be skimmed over. -/
theorem Spells.skimmed {depth : Nat} {a : Value} (hw : Spells depth w a) : Skimmed .value w := by
  induction depth generalizing w a with
  | zero => exact .scalar (Scalar.skimmed hw)
  | succ depth ih =>
    rcases hw with hw | ⟨hx⟩ | ⟨hx⟩
    · exact .scalar hw.skimmed
    · exact Enclosed.skimmed (b := .list) (fun hw => ⟨[], _, .item blanks_nil, ih hw, rfl⟩) hx
    · refine Enclosed.skimmed (b := .object) (fun {w m} hm => ?_) hx
      cases hm with
      | @mk k u v w key a hk hu hv hw =>
        refine ⟨[] ++ byte '"' :: k ++ byte '"' :: u ++ byte ':' :: v, w, .key blanks_nil hk.skips hu hv, ih hw, ?_⟩
        simp only [List.append_assoc, List.cons_append, List.nil_append]

end CatalogImport.Json
