import CatalogImport.Proofs.Json.Utf8
import CatalogImport.Proofs.Json.Words

/-!
# Strings

What stands between the quotes of a string, said apart from how it is read.  A string that is read has to
encode characters; in one that is skipped only the escapes have a form.  Main statements: a string is read
or skipped exactly where one is written (`readString_eq_ok_iff`, `skipString_eq_ok_iff`), and what can be
read can be skipped (`SpellsChars.skips`).
-/

namespace CatalogImport.Json

variable {b : UInt8} {n : Nat} {u v w rest bytes : List UInt8}

/-! ## Escapes -/

/-- What stands behind a backslash for a character: a letter, the number of the character, or the numbers of
two surrogates. -/
inductive Escape : List UInt8 → Char → Prop
  | letter {e : UInt8} {ch : Char} (he : escape? e = some ch) : Escape [e] ch
  | code {b₁ b₂ b₃ b₄ : UInt8} {n : Nat} (hn : hexFour? b₁ b₂ b₃ b₄ = some n)
      (hscalar : n < 0xD800 ∨ 0xDFFF < n) : Escape [byte 'u', b₁, b₂, b₃, b₄] (Char.ofNat n)
  | surrogates {b₁ b₂ b₃ b₄ d₁ d₂ d₃ d₄ : UInt8} {n m : Nat} (hn : hexFour? b₁ b₂ b₃ b₄ = some n)
      (hm : hexFour? d₁ d₂ d₃ d₄ = some m) (hleading : 0xD800 ≤ n ∧ n ≤ 0xDBFF)
      (htrailing : 0xDC00 ≤ m ∧ m ≤ 0xDFFF) :
      Escape [byte 'u', b₁, b₂, b₃, b₄, byte '\\', byte 'u', d₁, d₂, d₃, d₄]
        (Char.ofNat (0x10000 + (n - 0xD800) * 1024 + (m - 0xDC00)))

/-- Takes four hexadecimal digits. -/
def takeFour : Reader Nat
  | b₁ :: b₂ :: b₃ :: b₄ :: rest =>
    match hexFour? b₁ b₂ b₃ b₄ with
    | none => .error (.taken .invalidEscape rest)
    | some n => .ok (n, rest)
  | _ => .error (.taken .endInString [])

/-- Takes the escape of a trailing surrogate, which goes with a leading one. -/
def takeTrailing (n : Nat) : Reader Char
  | [] => .error (.taken .endInString [])
  | s :: rest =>
    if s = byte '\\' then
      match rest with
      | [] => .error (.taken .endInString [])
      | u :: rest =>
        if u = byte 'u' then do
          let (m, rest) ← takeFour rest
          if m < 0xDC00 ∨ 0xDFFF < m then .error (.taken .loneSurrogate rest)
          else .ok (Char.ofNat (0x10000 + (n - 0xD800) * 1024 + (m - 0xDC00)), rest)
        else .error (.taken .endOfSurrogates rest)
    else .error (.taken .endOfSurrogates rest)

/-- Takes what stands behind a backslash. -/
def takeEscape : Reader Char
  | [] => .error (.taken .endInString [])
  | e :: rest =>
    if e = byte 'u' then do
      let (n, rest) ← takeFour rest
      if 0xDC00 ≤ n ∧ n ≤ 0xDFFF then .error (.taken .loneSurrogate rest)
      else if n < 0xD800 ∨ 0xDBFF < n then .ok (Char.ofNat n, rest)
      else takeTrailing n rest
    else
      match escape? e with
      | some ch => .ok (ch, rest)
      | none => .error (.taken .invalidEscape rest)

theorem takeFour_eq_ok_iff :
    takeFour bytes = .ok (n, rest) ↔
      ∃ b₁ b₂ b₃ b₄, hexFour? b₁ b₂ b₃ b₄ = some n ∧ bytes = b₁ :: b₂ :: b₃ :: b₄ :: rest := by
  constructor
  · intro h
    unfold takeFour at h
    split at h
    · next b₁ b₂ b₃ b₄ rest' =>
      split at h
      · cases h
      · next hn =>
        cases h
        exact ⟨b₁, b₂, b₃, b₄, hn, rfl⟩
    · cases h
  · rintro ⟨b₁, b₂, b₃, b₄, hn, rfl⟩
    simp only [takeFour, hn]

theorem exists_of_takeTrailing {ch : Char} (h : takeTrailing n bytes = .ok (ch, rest)) :
    ∃ d₁ d₂ d₃ d₄ m, hexFour? d₁ d₂ d₃ d₄ = some m ∧ (0xDC00 ≤ m ∧ m ≤ 0xDFFF) ∧
      Char.ofNat (0x10000 + (n - 0xD800) * 1024 + (m - 0xDC00)) = ch ∧
      bytes = byte '\\' :: byte 'u' :: d₁ :: d₂ :: d₃ :: d₄ :: rest := by
  unfold takeTrailing at h
  split at h
  · cases h
  · next s more =>
    split at h
    · next hs =>
      split at h
      · cases h
      · next u more =>
        split at h
        · next hu =>
          obtain ⟨⟨m, rest'⟩, hfour, hend⟩ := exists_of_bind_eq_ok h
          obtain ⟨d₁, d₂, d₃, d₄, hm, rfl⟩ := takeFour_eq_ok_iff.1 hfour
          dsimp only at hend
          split at hend
          · cases hend
          · next hrange =>
            obtain ⟨hch, rfl⟩ := Prod.mk.inj (Except.ok.inj hend)
            exact ⟨d₁, d₂, d₃, d₄, m, hm, by omega, hch, by rw [hs, hu]⟩
        · cases h
    · cases h

/-- An escape is taken where one is written. -/
theorem takeEscape_eq_ok_iff {ch : Char} :
    takeEscape bytes = .ok (ch, rest) ↔ ∃ w, Escape w ch ∧ bytes = w ++ rest := by
  constructor
  · intro h
    unfold takeEscape at h
    split at h
    · cases h
    · next e more =>
      split at h
      · next he =>
        subst he
        obtain ⟨⟨n, rest'⟩, hfour, hend⟩ := exists_of_bind_eq_ok h
        obtain ⟨b₁, b₂, b₃, b₄, hn, rfl⟩ := takeFour_eq_ok_iff.1 hfour
        dsimp only at hend
        split at hend
        · cases hend
        · split at hend
          · next hlow hscalar =>
            cases hend
            exact ⟨_, .code hn (by omega), rfl⟩
          · next hlow hscalar =>
            obtain ⟨d₁, d₂, d₃, d₄, m, hm, hrange, rfl, rfl⟩ := exists_of_takeTrailing hend
            exact ⟨_, .surrogates hn hm (by omega) hrange, rfl⟩
      · split at h
        · next ch' he =>
          cases h
          exact ⟨[e], .letter he, rfl⟩
        · cases h
  · rintro ⟨w, hw, rfl⟩
    cases hw with
    | @letter e _ he =>
      have hu : e ≠ byte 'u' := by
        rintro rfl
        cases he
      simp only [List.cons_append, takeEscape, if_neg hu, he]
      rfl
    | @code b₁ b₂ b₃ b₄ n hn hscalar =>
      have hfour : takeFour (b₁ :: b₂ :: b₃ :: b₄ :: rest) = .ok (n, rest) :=
        takeFour_eq_ok_iff.2 ⟨b₁, b₂, b₃, b₄, hn, rfl⟩
      simp only [List.cons_append, List.nil_append, takeEscape, if_true, hfour]
      show (if _ then _ else _) = _
      rw [if_neg (by omega), if_pos (by omega)]
    | @surrogates b₁ b₂ b₃ b₄ d₁ d₂ d₃ d₄ n m hn hm hleading htrailing =>
      have hfour : ∀ rest, takeFour (b₁ :: b₂ :: b₃ :: b₄ :: rest) = .ok (n, rest) :=
        fun rest => takeFour_eq_ok_iff.2 ⟨b₁, b₂, b₃, b₄, hn, rfl⟩
      have hfour' : takeFour (d₁ :: d₂ :: d₃ :: d₄ :: rest) = .ok (m, rest) :=
        takeFour_eq_ok_iff.2 ⟨d₁, d₂, d₃, d₄, hm, rfl⟩
      simp only [List.cons_append, List.nil_append, takeEscape, if_true, hfour]
      show (if _ then _ else _) = _
      rw [if_neg (by omega), if_neg (by omega)]
      simp only [takeTrailing, if_true, hfour']
      show (if _ then _ else _) = _
      rw [if_neg (by omega)]

/-! ## Strings that are read -/

/-- What stands in a string for a character: its encoding, or an escape. -/
inductive SpellsChar : List UInt8 → Char → Prop
  | plain {ch : Char} (hcontrol : 32 ≤ ch.toNat) (hquote : ch ≠ '"') (hslash : ch ≠ '\\') :
      SpellsChar (String.utf8EncodeChar ch) ch
  | escape {w : List UInt8} {ch : Char} (hw : Escape w ch) : SpellsChar (byte '\\' :: w) ch

/-- What stands between the quotes of a string. -/
inductive SpellsChars : List UInt8 → List Char → Prop
  | nil : SpellsChars [] []
  | cons {w v : List UInt8} {ch : Char} {cs : List Char} (hw : SpellsChar w ch) (hv : SpellsChars v cs) :
      SpellsChars (w ++ v) (ch :: cs)

theorem SpellsChar.length_pos {ch : Char} (hw : SpellsChar w ch) : 0 < w.length := by
  cases hw with
  | plain => exact List.length_pos_iff.2 String.utf8EncodeChar_ne_nil
  | escape => exact Nat.succ_pos _

variable {taken : List Char} {bad : Option Nat} {s : String}

theorem readStringFrom_quote :
    readStringFrom taken 0 bad (byte '"' :: rest) = closeString taken bad rest := by
  unfold readStringFrom
  rfl

/-- The bytes that still belong to the last character are passed over. -/
theorem readStringFrom_owed (tail : List UInt8) :
    readStringFrom taken tail.length bad (tail ++ rest) = readStringFrom taken 0 bad rest := by
  induction tail with
  | nil => rfl
  | cons b tail ih =>
    rw [← ih, List.cons_append, List.length_cons]
    rw [readStringFrom.eq_def taken (tail.length + 1)]
    exact if_pos (Nat.zero_lt_succ tail.length)

/-- The first surrogate of two makes a character together with the second one. -/
theorem readStringFrom_surrogate (n : Nat) :
    (match rest with
      | [] => .error (.taken .endInString [])
      | s :: rest =>
        if s = byte '\\' then
          match rest with
          | [] => .error (.taken .endInString [])
          | u :: rest =>
            if u = byte 'u' then
              match rest with
              | d₁ :: d₂ :: d₃ :: d₄ :: rest =>
                match hexFour? d₁ d₂ d₃ d₄ with
                | none => .error (.taken .invalidEscape rest)
                | some m =>
                  if m < 0xDC00 ∨ 0xDFFF < m then .error (.taken .loneSurrogate rest)
                  else
                    readStringFrom (Char.ofNat (0x10000 + (n - 0xD800) * 1024 + (m - 0xDC00)) :: taken) 0
                      bad rest
              | _ => .error (.taken .endInString [])
            else .error (.taken .endOfSurrogates rest)
        else .error (.taken .endOfSurrogates rest)) =
      takeTrailing n rest >>= fun found => readStringFrom (found.1 :: taken) 0 bad found.2 := by
  unfold takeTrailing
  rcases rest with _ | ⟨s, rest⟩
  · rfl
  · dsimp only
    split
    · rcases rest with _ | ⟨u, rest⟩
      · rfl
      · dsimp only
        split
        · rcases rest with _ | ⟨d₁, _ | ⟨d₂, _ | ⟨d₃, _ | ⟨d₄, rest⟩⟩⟩⟩
          · rfl
          · rfl
          · rfl
          · rfl
          · dsimp only [takeFour]
            cases hexFour? d₁ d₂ d₃ d₄ with
            | none => rfl
            | some m =>
              dsimp only [bind, Except.bind]
              split
              · rfl
              · dsimp only
        · rfl
    · rfl

theorem readStringFrom_backslash :
    readStringFrom taken 0 bad (byte '\\' :: rest) =
      takeEscape rest >>= fun found => readStringFrom (found.1 :: taken) 0 bad found.2 := by
  rw [readStringFrom.eq_def taken 0]
  dsimp only
  rw [if_neg (Nat.lt_irrefl 0), if_neg (by decide), if_pos rfl]
  unfold takeEscape
  cases rest with
  | nil => rfl
  | cons e rest =>
    dsimp only
    split
    · rcases rest with _ | ⟨b₁, _ | ⟨b₂, _ | ⟨b₃, _ | ⟨b₄, rest⟩⟩⟩⟩
      · rfl
      · rfl
      · rfl
      · rfl
      · dsimp only [takeFour]
        cases hexFour? b₁ b₂ b₃ b₄ with
        | none => rfl
        | some n =>
          dsimp only [bind, Except.bind]
          split
          · rfl
          · split
            · rfl
            · exact readStringFrom_surrogate n
    · cases escape? e with
      | none => rfl
      | some ch => rfl

theorem readStringFrom_low (hquote : b ≠ byte '"') (hslash : b ≠ byte '\\') (hb : b < 128) :
    readStringFrom taken 0 bad (b :: rest) =
      if b < 32 then .error (.taken .controlCharacter rest)
      else readStringFrom (Char.ofNat b.toNat :: taken) 0 bad rest := by
  rw [readStringFrom.eq_def taken 0]
  dsimp only
  rw [if_neg (Nat.lt_irrefl 0), if_neg hquote, if_neg hslash, if_pos hb]

theorem readStringFrom_high (hb : ¬ b < 128) :
    readStringFrom taken 0 bad (b :: rest) =
      match wideChar? b rest with
      | some (ch, n) => readStringFrom (ch :: taken) n bad rest
      | none => readStringFrom taken 0 (bad.or (some rest.length)) rest := by
  have hquote : b ≠ byte '"' := fun heq => hb (heq ▸ by decide)
  have hslash : b ≠ byte '\\' := fun heq => hb (heq ▸ by decide)
  have hcontrol : ¬ b < 32 := fun hlt => hb (UInt8.lt_trans hlt (by decide))
  rw [readStringFrom.eq_def taken 0]
  dsimp only
  rw [if_neg (Nat.lt_irrefl 0), if_neg hquote, if_neg hslash, if_neg hcontrol]
  refine (if_neg hb).trans ?_
  cases wideChar? b rest <;> rfl

theorem ofNat_toNat_ne_byte {ch quoted : Char} (h : ch.toNat < 128) (hquoted : quoted.toNat < 128)
    (hne : ch ≠ quoted) : UInt8.ofNat ch.toNat ≠ byte quoted := by
  intro heq
  have hnat := congrArg UInt8.toNat heq
  unfold byte at hnat
  rw [toNat_ofNat_of_lt (by omega), toNat_ofNat_of_lt (by omega)] at hnat
  rw [← Char.ofNat_toNat ch, hnat, Char.ofNat_toNat] at hne
  exact hne rfl

theorem readStringFrom_plain {ch : Char} (hcontrol : 32 ≤ ch.toNat) (hquote : ch ≠ '"')
    (hslash : ch ≠ '\\') :
    readStringFrom taken 0 bad (String.utf8EncodeChar ch ++ rest) =
      readStringFrom (ch :: taken) 0 bad rest := by
  by_cases hlow : ch.toNat < 128
  · have hnat : (UInt8.ofNat ch.toNat).toNat = ch.toNat := toNat_ofNat_of_lt (by omega)
    have hb : UInt8.ofNat ch.toNat < 128 := by rwa [lt_128_iff, hnat]
    have hcontrol' : ¬ UInt8.ofNat ch.toNat < 32 := by rwa [lt_32_iff, hnat, Nat.not_lt]
    rw [utf8EncodeChar_of_lt hlow, List.singleton_append,
      readStringFrom_low (ofNat_toNat_ne_byte hlow (by decide) hquote)
        (ofNat_toNat_ne_byte hlow (by decide) hslash) hb,
      if_neg hcontrol', hnat, Char.ofNat_toNat]
  · have hw := wide_utf8EncodeChar (Nat.le_of_not_lt hlow)
    obtain ⟨b, tail, hcons, hb⟩ := hw.exists_cons
    rw [hcons] at hw ⊢
    rw [List.cons_append, readStringFrom_high hb, wideChar?_of_wide rest hw]
    exact readStringFrom_owed tail

theorem readStringFrom_spelled {ch : Char} (hw : SpellsChar w ch) :
    readStringFrom taken 0 bad (w ++ rest) = readStringFrom (ch :: taken) 0 bad rest := by
  cases hw with
  | plain hcontrol hquote hslash => exact readStringFrom_plain hcontrol hquote hslash
  | @escape w _ hw =>
    rw [List.cons_append, readStringFrom_backslash, takeEscape_eq_ok_iff.2 ⟨w, hw, rfl⟩]
    rfl

/-- A byte that is a character by itself. -/
theorem spellsChar_of_lt (hquote : b ≠ byte '"') (hslash : b ≠ byte '\\') (hb : b < 128)
    (hcontrol : ¬ b < 32) : SpellsChar [b] (Char.ofNat b.toNat) := by
  have hlt := lt_128_iff.1 hb
  have hle := Nat.le_of_not_lt fun h => hcontrol (lt_32_iff.2 h)
  have hnat : (Char.ofNat b.toNat).toNat = b.toNat := toNat_val_ofNat (.inl (by omega))
  have hself : UInt8.ofNat (Char.ofNat b.toNat).toNat = b := by rw [hnat, UInt8.ofNat_toNat]
  have hplain : SpellsChar (String.utf8EncodeChar (Char.ofNat b.toNat)) (Char.ofNat b.toNat) := by
    refine .plain (hnat.symm ▸ hle) (fun heq => hquote ?_) (fun heq => hslash ?_)
    · rw [← hself, heq]
      rfl
    · rw [← hself, heq]
      rfl
  rwa [utf8EncodeChar_of_lt (hnat.symm ▸ hlt), hself] at hplain

theorem Wide.spellsChar {ch : Char} (hw : Wide w ch) : SpellsChar w ch := by
  have hle := hw.le_toNat
  rw [← hw.utf8EncodeChar_eq]
  refine .plain (by omega) ?_ ?_
  · rintro rfl
    exact absurd hle (by decide)
  · rintro rfl
    exact absurd hle (by decide)

/-- How reading goes on when it comes to a good end: with the quote, with a character, or, in vain, behind a
byte that belongs to none. -/
theorem readStringFrom_cases (h : readStringFrom taken 0 bad bytes = .ok (s, rest)) :
    (bytes = byte '"' :: rest ∧ bad = none ∧ s = String.ofList taken.reverse) ∨
      (∃ w ch more, SpellsChar w ch ∧ bytes = w ++ more ∧
        readStringFrom (ch :: taken) 0 bad more = .ok (s, rest)) ∨
      ∃ b unseen more, bytes = b :: more ∧ readStringFrom taken 0 (some unseen) more = .ok (s, rest) := by
  cases bytes with
  | nil => cases h
  | cons b more =>
    by_cases hquote : b = byte '"'
    · subst hquote
      rw [readStringFrom_quote] at h
      unfold closeString at h
      cases bad with
      | none =>
        cases h
        exact .inl ⟨rfl, rfl, rfl⟩
      | some unseen => cases h
    · by_cases hslash : b = byte '\\'
      · subst hslash
        rw [readStringFrom_backslash] at h
        obtain ⟨⟨ch, more'⟩, hescape, hmore⟩ := exists_of_bind_eq_ok h
        obtain ⟨w, hw, rfl⟩ := takeEscape_eq_ok_iff.1 hescape
        exact .inr (.inl ⟨byte '\\' :: w, ch, more', .escape hw, rfl, hmore⟩)
      · by_cases hb : b < 128
        · rw [readStringFrom_low hquote hslash hb] at h
          split at h
          · cases h
          · next hcontrol =>
            have hw := spellsChar_of_lt hquote hslash hb hcontrol
            exact .inr (.inl ⟨[b], _, more, hw, rfl, h⟩)
        · rw [readStringFrom_high hb] at h
          split at h
          · next ch n hwide =>
            obtain ⟨tail, more', rfl, rfl, hw⟩ := exists_wide_of_wideChar? hwide
            rw [readStringFrom_owed] at h
            exact .inr (.inl ⟨b :: tail, ch, more', hw.spellsChar, rfl, h⟩)
          · cases bad with
            | none => exact .inr (.inr ⟨b, _, more, rfl, h⟩)
            | some unseen => exact .inr (.inr ⟨b, unseen, more, rfl, h⟩)

theorem exists_of_readStringFrom (h : readStringFrom taken 0 bad bytes = .ok (s, rest)) :
    bad = none ∧ ∃ w cs, SpellsChars w cs ∧ bytes = w ++ byte '"' :: rest ∧
      s = String.ofList (taken.reverse ++ cs) := by
  generalize hn : bytes.length = n
  induction n using Nat.strongRecOn generalizing taken bad bytes with
  | ind n ih =>
    rcases readStringFrom_cases h with ⟨rfl, rfl, rfl⟩ | ⟨w, ch, more, hw, rfl, hmore⟩ |
      ⟨b, unseen, more, rfl, hmore⟩
    · exact ⟨rfl, [], [], .nil, rfl, by rw [List.append_nil]⟩
    · have hlt : more.length < n := by
        rw [← hn, List.length_append]
        have := hw.length_pos
        omega
      obtain ⟨hbad, v, cs, hv, rfl, rfl⟩ := ih _ hlt hmore rfl
      refine ⟨hbad, w ++ v, ch :: cs, .cons hw hv, (List.append_assoc _ _ _).symm, ?_⟩
      rw [List.reverse_cons, List.append_assoc, List.singleton_append]
    · have hlt : more.length < n := by
        rw [← hn, List.length_cons]
        omega
      obtain ⟨hbad, -⟩ := ih _ hlt hmore rfl
      cases hbad

theorem readStringFrom_of_spelled {cs : List Char} (hw : SpellsChars w cs) (taken : List Char)
    (rest : List UInt8) :
    readStringFrom taken 0 none (w ++ byte '"' :: rest) = .ok (String.ofList (taken.reverse ++ cs), rest) := by
  induction hw generalizing taken with
  | nil =>
    rw [List.nil_append, readStringFrom_quote, List.append_nil]
    rfl
  | @cons w v ch cs hw hv ih =>
    rw [List.append_assoc, readStringFrom_spelled hw, ih, List.reverse_cons, List.append_assoc,
      List.singleton_append]

/-- A string is read exactly where one is written. -/
theorem readString_eq_ok_iff :
    readString bytes = .ok (s, rest) ↔ ∃ w, SpellsChars w s.toList ∧ bytes = w ++ byte '"' :: rest := by
  constructor
  · intro h
    obtain ⟨-, w, cs, hw, hbytes, rfl⟩ := exists_of_readStringFrom h
    exact ⟨w, by rwa [String.toList_ofList], hbytes⟩
  · rintro ⟨w, hw, rfl⟩
    have h := readStringFrom_of_spelled hw [] rest
    rwa [List.reverse_nil, List.nil_append, String.ofList_toList] at h

/-! ## Strings that are skipped -/

/-- What stands in a string that is skipped: a byte, or an escape, which need not be a character. -/
inductive SkipsChar : List UInt8 → Prop
  | plain {b : UInt8} (hcontrol : ¬ b < 32) (hquote : b ≠ byte '"') (hslash : b ≠ byte '\\') : SkipsChar [b]
  | letter {e : UInt8} (he : (escape? e).isSome) : SkipsChar [byte '\\', e]
  | code {b₁ b₂ b₃ b₄ : UInt8} (hn : (hexFour? b₁ b₂ b₃ b₄).isSome) :
      SkipsChar [byte '\\', byte 'u', b₁, b₂, b₃, b₄]

/-- What stands between the quotes of a string that is skipped. -/
inductive SkipsChars : List UInt8 → Prop
  | nil : SkipsChars []
  | cons {w v : List UInt8} (hw : SkipsChar w) (hv : SkipsChars v) : SkipsChars (w ++ v)

theorem skipString_append (hw : SkipsChar w) : skipString (w ++ rest) = skipString rest := by
  rw [skipString.eq_def]
  cases hw with
  | plain hcontrol hquote hslash =>
    dsimp only [List.cons_append]
    rw [if_neg hquote, if_neg hslash, if_neg hcontrol]
    rfl
  | @letter e he =>
    have hu : e ≠ byte 'u' := by
      rintro rfl
      cases he
    dsimp only [List.cons_append]
    rw [if_neg (by decide), if_pos rfl, if_neg hu, if_pos he]
    rfl
  | code hn =>
    dsimp only [List.cons_append]
    rw [if_neg (by decide), if_pos rfl, if_pos rfl, if_pos hn]
    rfl

theorem skipString_cases (h : skipString bytes = .ok ((), rest)) :
    bytes = byte '"' :: rest ∨ ∃ w more, SkipsChar w ∧ bytes = w ++ more ∧ skipString more = .ok ((), rest) := by
  rw [skipString.eq_def] at h
  split at h
  · cases h
  · next b more =>
    split at h
    · next hquote =>
      cases h
      exact .inl (by rw [hquote])
    · next hquote =>
      split at h
      · next hslash =>
        split at h
        · cases h
        · next e more =>
          split at h
          · next hu =>
            split at h
            · next b₁ b₂ b₃ b₄ more =>
              split at h
              · next hn => exact .inr ⟨_, more, .code hn, by rw [hslash, hu]; rfl, h⟩
              · cases h
            · cases h
          · split at h
            · next he => exact .inr ⟨_, more, .letter he, by rw [hslash]; rfl, h⟩
            · cases h
      · next hslash =>
        split at h
        · cases h
        · next hcontrol => exact .inr ⟨_, more, .plain hcontrol hquote hslash, rfl, h⟩

theorem SkipsChar.length_pos (hw : SkipsChar w) : 0 < w.length := by
  cases hw with
  | _ => exact Nat.succ_pos _

/-- A string is skipped exactly where one is written. -/
theorem skipString_eq_ok_iff :
    skipString bytes = .ok ((), rest) ↔ ∃ w, SkipsChars w ∧ bytes = w ++ byte '"' :: rest := by
  constructor
  · intro h
    generalize hn : bytes.length = n
    induction n using Nat.strongRecOn generalizing bytes with
    | ind n ih =>
      rcases skipString_cases h with rfl | ⟨w, more, hw, rfl, hmore⟩
      · exact ⟨[], .nil, rfl⟩
      · have hlt : more.length < n := by
          rw [← hn, List.length_append]
          have := hw.length_pos
          omega
        obtain ⟨v, hv, rfl⟩ := ih _ hlt hmore rfl
        exact ⟨w ++ v, .cons hw hv, (List.append_assoc _ _ _).symm⟩
  · rintro ⟨w, hw, rfl⟩
    induction hw with
    | nil =>
      rw [List.nil_append, skipString.eq_def]
      rfl
    | cons hw hv ih => rwa [List.append_assoc, skipString_append hw]

theorem SkipsChars.append (hu : SkipsChars u) (hv : SkipsChars v) : SkipsChars (u ++ v) := by
  induction hu with
  | nil => exact hv
  | cons hw _ ih =>
    rw [List.append_assoc]
    exact .cons hw ih

theorem SkipsChar.skips (hw : SkipsChar w) : SkipsChars w := by
  have h := SkipsChars.cons hw .nil
  rwa [List.append_nil] at h

theorem Escape.skips {ch : Char} (hw : Escape w ch) : SkipsChars (byte '\\' :: w) := by
  cases hw with
  | letter he => exact (SkipsChar.letter (by rw [he]; rfl)).skips
  | code hn hscalar => exact (SkipsChar.code (by rw [hn]; rfl)).skips
  | surrogates hn hm hleading htrailing =>
    exact .cons (.code (by rw [hn]; rfl)) (SkipsChar.code (by rw [hm]; rfl)).skips

theorem skipsChars_of_forall_not_lt (hw : ∀ b ∈ w, ¬ b < 128) : SkipsChars w := by
  induction w with
  | nil => exact .nil
  | cons b w ih =>
    obtain ⟨hb, hw⟩ := List.forall_mem_cons.1 hw
    have hplain : SkipsChar [b] := by
      refine .plain (fun hlt => hb (UInt8.lt_trans hlt (by decide))) ?_ ?_
      · rintro rfl
        exact hb (by decide)
      · rintro rfl
        exact hb (by decide)
    exact .cons hplain (ih hw)

theorem SpellsChar.skips {ch : Char} (hw : SpellsChar w ch) : SkipsChars w := by
  cases hw with
  | plain hcontrol hquote hslash =>
    by_cases hlow : ch.toNat < 128
    · have hnat : (UInt8.ofNat ch.toNat).toNat = ch.toNat := toNat_ofNat_of_lt (by omega)
      have hplain : SkipsChar [UInt8.ofNat ch.toNat] :=
        .plain (by rwa [lt_32_iff, hnat, Nat.not_lt]) (ofNat_toNat_ne_byte hlow (by decide) hquote)
          (ofNat_toNat_ne_byte hlow (by decide) hslash)
      rw [utf8EncodeChar_of_lt hlow]
      exact hplain.skips
    · exact skipsChars_of_forall_not_lt (wide_utf8EncodeChar (Nat.le_of_not_lt hlow)).forall_not_lt
  | escape hw => exact hw.skips

/-- What can be read can be skipped. -/
theorem SpellsChars.skips {cs : List Char} (hw : SpellsChars w cs) : SkipsChars w := by
  induction hw with
  | nil => exact .nil
  | cons hw hv ih => exact hw.skips.append ih

end CatalogImport.Json
