import CatalogImport.Json.Scan

/-!
# Characters in bytes

The bytes of a character that has several are recognised by their ranges, and its code point is put together
from their low bits.  Main statements: what is recognised is the encoding of the character
(`Wide.utf8EncodeChar_eq`), every encoding of several bytes is (`wide_utf8EncodeChar`), and it is recognised
whatever follows (`exists_wide_of_wideChar?`, `wideChar?_of_wide`).
-/

namespace CatalogImport.Json

open wideChar?

variable {b c d e : UInt8} {n : Nat} {rest : List UInt8}

theorem ofNat_eq (h : n = b.toNat) : UInt8.ofNat n = b := by
  rw [h, UInt8.ofNat_toNat]

theorem toNat_val_ofNat (hn : n.isValidChar) : (Char.ofNat n).val.toNat = n := by
  unfold Char.ofNat
  rw [dif_pos hn]
  rfl

theorem leadsTwo_iff : leadsTwo b = true ↔ 194 ≤ b.toNat ∧ b.toNat < 224 := by
  simp [leadsTwo, UInt8.le_iff_toNat_le, UInt8.lt_iff_toNat_lt]

theorem isContinuation_iff : isContinuation b = true ↔ 128 ≤ b.toNat ∧ b.toNat < 192 := by
  simp [isContinuation, UInt8.le_iff_toNat_le, UInt8.lt_iff_toNat_lt]

theorem leadsThree_iff : leadsThree b c = true ↔ 224 ≤ b.toNat ∧ b.toNat < 240 ∧ 128 ≤ c.toNat ∧
    c.toNat < 192 ∧ (b.toNat = 224 → 160 ≤ c.toNat) ∧ (b.toNat = 237 → c.toNat < 160) := by
  simp [leadsThree, isContinuation, UInt8.le_iff_toNat_le, UInt8.lt_iff_toNat_lt, ← UInt8.toNat_inj]
  omega

theorem leadsFour_iff : leadsFour b c = true ↔ 240 ≤ b.toNat ∧ b.toNat < 245 ∧ 128 ≤ c.toNat ∧
    c.toNat < 192 ∧ (b.toNat = 240 → 144 ≤ c.toNat) ∧ (b.toNat = 244 → c.toNat < 144) := by
  simp [leadsFour, isContinuation, UInt8.le_iff_toNat_le, UInt8.lt_iff_toNat_lt, ← UInt8.toNat_inj]
  omega

theorem lt_128_iff : b < 128 ↔ b.toNat < 128 := UInt8.lt_iff_toNat_lt

theorem lt_32_iff : b < 32 ↔ b.toNat < 32 := UInt8.lt_iff_toNat_lt

theorem toNat_ofNat_of_lt (hn : n < 256) : (UInt8.ofNat n).toNat = n := UInt8.toNat_ofNat_of_lt' hn

theorem utf8EncodeChar_of_lt {ch : Char} (h : ch.toNat < 128) :
    String.utf8EncodeChar ch = [UInt8.ofNat ch.toNat] := by
  unfold String.utf8EncodeChar
  exact if_pos (Nat.le_of_lt_succ h)

theorem utf8EncodeChar_twoBytes (hb : leadsTwo b = true) (hc : isContinuation c = true) :
    String.utf8EncodeChar (twoBytes b c) = [b, c] := by
  have hb := leadsTwo_iff.1 hb
  have hc := isContinuation_iff.1 hc
  have hval := toNat_val_ofNat (n := b.toNat % 32 * 64 + low6 c) (by unfold Nat.isValidChar low6; omega)
  unfold String.utf8EncodeChar twoBytes
  rw [hval]
  unfold low6
  rw [if_neg (by omega), if_pos (by omega), ofNat_eq (b := b) (by omega), ofNat_eq (b := c) (by omega)]

theorem utf8EncodeChar_threeBytes (hb : leadsThree b c = true) (hd : isContinuation d = true) :
    String.utf8EncodeChar (threeBytes b c d) = [b, c, d] := by
  have hb := leadsThree_iff.1 hb
  have hd := isContinuation_iff.1 hd
  have hval := toNat_val_ofNat (n := b.toNat % 16 * 4096 + low6 c * 64 + low6 d)
    (by unfold Nat.isValidChar low6; omega)
  unfold String.utf8EncodeChar threeBytes
  rw [hval]
  unfold low6
  rw [if_neg (by omega), if_neg (by omega), if_pos (by omega), ofNat_eq (b := b) (by omega),
    ofNat_eq (b := c) (by omega), ofNat_eq (b := d) (by omega)]

theorem utf8EncodeChar_fourBytes (hb : leadsFour b c = true) (hd : isContinuation d = true)
    (he : isContinuation e = true) : String.utf8EncodeChar (fourBytes b c d e) = [b, c, d, e] := by
  have hb := leadsFour_iff.1 hb
  have hd := isContinuation_iff.1 hd
  have he := isContinuation_iff.1 he
  have hval := toNat_val_ofNat (n := b.toNat % 8 * 262144 + low6 c * 4096 + low6 d * 64 + low6 e)
    (by unfold Nat.isValidChar low6; omega)
  unfold String.utf8EncodeChar fourBytes
  rw [hval]
  unfold low6
  rw [if_neg (by omega), if_neg (by omega), if_neg (by omega), ofNat_eq (b := b) (by omega),
    ofNat_eq (b := c) (by omega), ofNat_eq (b := d) (by omega), ofNat_eq (b := e) (by omega)]

/-- The bytes of a character that has several. -/
inductive Wide : List UInt8 → Char → Prop
  | two {b c : UInt8} (hb : leadsTwo b = true) (hc : isContinuation c = true) :
      Wide [b, c] (twoBytes b c)
  | three {b c d : UInt8} (hb : leadsThree b c = true) (hd : isContinuation d = true) :
      Wide [b, c, d] (threeBytes b c d)
  | four {b c d e : UInt8} (hb : leadsFour b c = true) (hd : isContinuation d = true)
      (he : isContinuation e = true) : Wide [b, c, d, e] (fourBytes b c d e)

theorem Wide.utf8EncodeChar_eq {w : List UInt8} {ch : Char} (hw : Wide w ch) :
    String.utf8EncodeChar ch = w := by
  cases hw with
  | two hb hc => exact utf8EncodeChar_twoBytes hb hc
  | three hb hd => exact utf8EncodeChar_threeBytes hb hd
  | four hb hd he => exact utf8EncodeChar_fourBytes hb hd he

/-- No byte of such a character is a character by itself. -/
theorem Wide.forall_not_lt {w : List UInt8} {ch : Char} (hw : Wide w ch) : ∀ b ∈ w, ¬ b < 128 := by
  simp only [lt_128_iff]
  cases hw with
  | two hb hc =>
    have hb := leadsTwo_iff.1 hb
    have hc := isContinuation_iff.1 hc
    simp only [List.mem_cons, List.not_mem_nil, or_false, forall_eq_or_imp, forall_eq]
    omega
  | three hb hd =>
    have hb := leadsThree_iff.1 hb
    have hd := isContinuation_iff.1 hd
    simp only [List.mem_cons, List.not_mem_nil, or_false, forall_eq_or_imp, forall_eq]
    omega
  | four hb hd he =>
    have hb := leadsFour_iff.1 hb
    have hd := isContinuation_iff.1 hd
    have he := isContinuation_iff.1 he
    simp only [List.mem_cons, List.not_mem_nil, or_false, forall_eq_or_imp, forall_eq]
    omega

theorem Wide.exists_cons {w : List UInt8} {ch : Char} (hw : Wide w ch) :
    ∃ b tail, w = b :: tail ∧ ¬ b < 128 := by
  have hall := hw.forall_not_lt
  cases hw with
  | _ => exact ⟨_, _, rfl, hall _ List.mem_cons_self⟩

theorem Wide.le_toNat {w : List UInt8} {ch : Char} (hw : Wide w ch) : 128 ≤ ch.toNat := by
  refine Nat.le_of_not_lt fun hlt => ?_
  obtain ⟨b, tail, hcons, hb⟩ := hw.exists_cons
  rw [← hw.utf8EncodeChar_eq, utf8EncodeChar_of_lt hlt] at hcons
  obtain ⟨rfl, -⟩ := List.cons.inj hcons
  rw [lt_128_iff, toNat_ofNat_of_lt (by omega)] at hb
  exact hb hlt

theorem wide_utf8EncodeChar {ch : Char} (h : 128 ≤ ch.toNat) : Wide (String.utf8EncodeChar ch) ch := by
  have hvalid : ch.val.toNat < 0xD800 ∨ 0xDFFF < ch.val.toNat ∧ ch.val.toNat < 0x110000 := ch.valid
  have hch : Char.ofNat ch.val.toNat = ch := Char.ofNat_toNat ch
  change 128 ≤ ch.val.toNat at h
  unfold String.utf8EncodeChar
  dsimp only
  generalize ch.val.toNat = v at h hvalid hch
  subst hch
  rw [if_neg (by omega)]
  split
  · have h₁ := toNat_ofNat_of_lt (n := v / 64 % 32 + 192) (by omega)
    have h₂ := toNat_ofNat_of_lt (n := v % 64 + 128) (by omega)
    have hwide := Wide.two (b := UInt8.ofNat (v / 64 % 32 + 192)) (c := UInt8.ofNat (v % 64 + 128))
      (leadsTwo_iff.2 (by omega)) (isContinuation_iff.2 (by omega))
    unfold twoBytes low6 at hwide
    have hv : (v / 64 % 32 + 192) % 32 * 64 + (v % 64 + 128) % 64 = v := by omega
    rwa [h₁, h₂, hv] at hwide
  · split
    · have h₁ := toNat_ofNat_of_lt (n := v / 4096 % 16 + 224) (by omega)
      have h₂ := toNat_ofNat_of_lt (n := v / 64 % 64 + 128) (by omega)
      have h₃ := toNat_ofNat_of_lt (n := v % 64 + 128) (by omega)
      have hwide := Wide.three (b := UInt8.ofNat (v / 4096 % 16 + 224)) (c := UInt8.ofNat (v / 64 % 64 + 128))
        (d := UInt8.ofNat (v % 64 + 128)) (leadsThree_iff.2 (by omega)) (isContinuation_iff.2 (by omega))
      unfold threeBytes low6 at hwide
      have hv : (v / 4096 % 16 + 224) % 16 * 4096 + (v / 64 % 64 + 128) % 64 * 64 + (v % 64 + 128) % 64 = v := by
        omega
      rwa [h₁, h₂, h₃, hv] at hwide
    · have h₁ := toNat_ofNat_of_lt (n := v / 262144 % 8 + 240) (by omega)
      have h₂ := toNat_ofNat_of_lt (n := v / 4096 % 64 + 128) (by omega)
      have h₃ := toNat_ofNat_of_lt (n := v / 64 % 64 + 128) (by omega)
      have h₄ := toNat_ofNat_of_lt (n := v % 64 + 128) (by omega)
      have hwide := Wide.four (b := UInt8.ofNat (v / 262144 % 8 + 240))
        (c := UInt8.ofNat (v / 4096 % 64 + 128)) (d := UInt8.ofNat (v / 64 % 64 + 128))
        (e := UInt8.ofNat (v % 64 + 128)) (leadsFour_iff.2 (by omega)) (isContinuation_iff.2 (by omega))
        (isContinuation_iff.2 (by omega))
      unfold fourBytes low6 at hwide
      have hv : (v / 262144 % 8 + 240) % 8 * 262144 + (v / 4096 % 64 + 128) % 64 * 4096 +
          (v / 64 % 64 + 128) % 64 * 64 + (v % 64 + 128) % 64 = v := by omega
      rwa [h₁, h₂, h₃, h₄, hv] at hwide

theorem exists_wide_of_wideChar? {ch : Char} (h : wideChar? b rest = some (ch, n)) :
    ∃ tail more, rest = tail ++ more ∧ tail.length = n ∧ Wide (b :: tail) ch := by
  have htwo {c : UInt8} {more : List UInt8} (hlead : (leadsTwo b && isContinuation c) = true)
      (heq : some (twoBytes b c, 1) = some (ch, n)) :
      ∃ tail more', c :: more = tail ++ more' ∧ tail.length = n ∧ Wide (b :: tail) ch := by
    rw [Bool.and_eq_true] at hlead
    cases heq
    exact ⟨[c], more, rfl, rfl, .two hlead.1 hlead.2⟩
  have hthree {c d : UInt8} {more : List UInt8} (hlead : (leadsThree b c && isContinuation d) = true)
      (heq : some (threeBytes b c d, 2) = some (ch, n)) :
      ∃ tail more', c :: d :: more = tail ++ more' ∧ tail.length = n ∧ Wide (b :: tail) ch := by
    rw [Bool.and_eq_true] at hlead
    cases heq
    exact ⟨[c, d], more, rfl, rfl, .three hlead.1 hlead.2⟩
  unfold wideChar? at h
  split at h
  · next c d e more =>
    split at h
    · next hlead => exact htwo hlead h
    · split at h
      · next hlead => exact hthree hlead h
      · split at h
        · next hlead =>
          simp only [Bool.and_eq_true] at hlead
          cases h
          exact ⟨[c, d, e], more, rfl, rfl, .four hlead.1.1 hlead.1.2 hlead.2⟩
        · cases h
  · split at h
    · next hlead => exact htwo hlead h
    · split at h
      · next hlead => exact hthree hlead h
      · cases h
  · split at h
    · next hlead => exact htwo hlead h
    · cases h
  · cases h

theorem wideChar?_of_wide {tail : List UInt8} {ch : Char} (more : List UInt8) (hw : Wide (b :: tail) ch) :
    wideChar? b (tail ++ more) = some (ch, tail.length) := by
  cases hw with
  | two hb hc => rcases more with _ | ⟨x, _ | ⟨y, more⟩⟩ <;> simp [wideChar?, hb, hc]
  | three hb hd =>
    have hrange := leadsThree_iff.1 hb
    have htwo : leadsTwo b = false := Bool.eq_false_iff.2 fun heq => by
      have := leadsTwo_iff.1 heq
      omega
    rcases more with _ | ⟨x, more⟩ <;> simp [wideChar?, htwo, hb, hd]
  | @four _ c _ _ hb hd he =>
    have hrange := leadsFour_iff.1 hb
    have htwo : leadsTwo b = false := Bool.eq_false_iff.2 fun heq => by
      have := leadsTwo_iff.1 heq
      omega
    have hthree : leadsThree b c = false := Bool.eq_false_iff.2 fun heq => by
      have := leadsThree_iff.1 heq
      omega
    simp [wideChar?, htwo, hthree, hb, hd, he]

end CatalogImport.Json
