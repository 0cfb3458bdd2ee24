import CatalogImport.Proofs.Record.Replay

/-!
# Texts of records within their limits

Every text of an accepted record has no blanks around it, is not empty and has at most as many characters as
its field may have, and codes are in small letters.  The characters of a code are counted before it is put
into small letters, though, in which a capital I with a dot is two characters, so a code may come to up to
twice its limit.  Main statement: it stays within the limit exactly if it does with these counted twice
(`texts_of_accepted_records`).
-/

namespace CatalogImport

open CatalogImport.Json CatalogImport.Field

/-! ## Codes -/

namespace Field

variable {ms : Members} {field : String} {most longest : Nat}

/-- The text is as rules keep codes: as they keep other texts, and in small letters. -/
structure KeptSmall (most : Nat) (s : String) : Prop extends Kept most s where
  lower_eq_self : Text.lower s = s

/-- The text under a key has at most so many characters when those that are two in small letters are counted
twice. -/
def FitsSmall (ms : Members) (field : String) (longest : Nat) : Prop :=
  ∀ raw, findRow? field ms = some (.text raw) →
    (Text.trim raw).length + (Text.trim raw).toList.count 'İ' ≤ longest

/-- In small letters a text is kept as a code, and has come to at most twice its length. -/
theorem Kept.lower {s : String} (h : Kept most s) : KeptSmall (2 * most) (Text.lower s) where
  trimmed := Text.trimmed_lower h.trimmed
  ne_empty := mt Text.lower_eq_empty_iff.1 h.ne_empty
  length_le := by
    have hdotted : s.toList.count 'İ' ≤ s.toList.length := List.count_le_length
    have hlength := h.length_le
    rw [String.length_toList] at hdotted
    rw [Text.length_lower]
    omega
  lower_eq_self := Text.lower_lower s

theorem KeptSmall.of_length_le {s : String} (h : KeptSmall most s) (hlength : s.length ≤ longest) :
    KeptSmall longest s :=
  ⟨⟨h.trimmed, h.ne_empty, hlength⟩, h.lower_eq_self⟩

/-- A text that must be there is found by the rule for those that may be absent. -/
theorem optionalText_of_requiredText {s : String} (h : requiredText ms field most = .ok s) :
    optionalText ms field most = .ok (some s) := by
  unfold requiredText at h
  unfold optionalText
  cases hpresent : present? ms field with
  | none =>
    rw [hpresent] at h
    cases h
  | some v =>
    rw [hpresent] at h
    dsimp only at h ⊢
    split at h
    · cases h
    · cases h
    · next hbounded =>
      cases h
      exact hbounded

/-- Of a text nothing is kept but what is between the blanks around it, if there is anything. -/
theorem trim_of_boundedText {raw : String} {s : Option String}
    (h : boundedText field most (.text raw) = .ok s) : Text.trim raw = s.getD "" := by
  unfold boundedText at h
  dsimp only at h
  split at h
  · next hblank =>
    cases h
    unfold Text.trim
    rw [hblank]
    rfl
  · split at h
    · cases h
    · cases h
      rfl

theorem exists_raw_of_optionalText {s : String} (h : optionalText ms field most = .ok (some s)) :
    ∃ raw, findRow? field ms = some (.text raw) := by
  unfold optionalText present? at h
  split at h
  · cases h
  · next v hpresent =>
    cases v with
    | text raw =>
      split at hpresent
      · cases hpresent
      · exact ⟨raw, hpresent⟩
    | _ => cases h

/-- What is found where there is a text is that text between the blanks around it. -/
theorem trim_of_optionalText {raw : String} {s : Option String} (h : optionalText ms field most = .ok s)
    (hfound : findRow? field ms = some (.text raw)) : Text.trim raw = s.getD "" := by
  unfold optionalText at h
  rw [present?_eq_some hfound Value.noConfusion] at h
  exact trim_of_boundedText h

/-- A code in small letters is short enough exactly if the text that it was taken from fits. -/
theorem fitsSmall_iff_of_optionalText {s : Option String} (h : optionalText ms field most = .ok s) :
    FitsSmall ms field longest ↔ ∀ code, s.map Text.lower = some code → code.length ≤ longest := by
  cases s with
  | none =>
    constructor
    · rintro - code hcode
      cases hcode
    · intro _ raw hfound
      have htrim : Text.trim raw = "" := trim_of_optionalText h hfound
      rw [htrim]
      exact Nat.zero_le _
  | some s =>
    obtain ⟨raw, hfound⟩ := exists_raw_of_optionalText h
    have htrim : Text.trim raw = s := trim_of_optionalText h hfound
    constructor
    · intro hfits code hcode
      cases hcode
      rw [Text.length_lower, ← htrim]
      exact hfits raw hfound
    · intro hshort raw' hfound'
      obtain rfl : raw = raw' := by
        rw [hfound] at hfound'
        cases hfound'
        rfl
      rw [htrim, ← Text.length_lower]
      exact hshort _ rfl

theorem fitsSmall_iff_of_requiredText {s : String} (h : requiredText ms field most = .ok s) :
    FitsSmall ms field longest ↔ (Text.lower s).length ≤ longest := by
  rw [fitsSmall_iff_of_optionalText (optionalText_of_requiredText h)]
  exact ⟨fun hshort => hshort _ rfl, fun hshort code hcode => Option.some.inj hcode ▸ hshort⟩

end Field

/-! ## Card sets -/

namespace CardSet

/-- Every text of the card set is as rules keep texts, and its codes have at most so many characters. -/
structure WithinLimits (longest : Nat) (s : CardSet) : Prop where
  id : Kept 64 s.id
  name : Kept 255 s.name
  code : KeptSmall longest s.code
  setType : Kept 50 s.setType
  parentSetCode : ∀ code, s.parentSetCode = some code → KeptSmall longest code
  iconSvgUri : ∀ uri, s.iconSvgUri = some uri → Kept 512 uri

variable {ms : Members} {s : CardSet}

theorem DescribedBy.withinLimits (h : DescribedBy ms s) : s.WithinLimits 32 where
  id := kept_of_requiredText h.id
  name := kept_of_requiredText h.name
  code := by
    obtain ⟨code, hcode, hlower⟩ := h.code
    rw [hlower]
    exact (kept_of_requiredText hcode).lower
  setType := kept_of_requiredText h.setType
  parentSetCode := by
    obtain ⟨found, hfound, hlower⟩ := h.parentSetCode
    intro code hcode
    rw [hlower] at hcode
    obtain ⟨parent, rfl, rfl⟩ := Option.map_eq_some_iff.1 hcode
    exact (kept_of_optionalText hfound).lower
  iconSvgUri := fun uri huri => kept_of_optionalText (h.iconSvgUri.trans (congrArg Except.ok huri))

theorem DescribedBy.withinLimits_iff (h : DescribedBy ms s) :
    s.WithinLimits 16 ↔ FitsSmall ms "code" 16 ∧ FitsSmall ms "parent_set_code" 16 := by
  obtain ⟨code, hcode, hlower⟩ := h.code
  obtain ⟨parent, hparent, hparentLower⟩ := h.parentSetCode
  rw [fitsSmall_iff_of_requiredText hcode, fitsSmall_iff_of_optionalText hparent, ← hlower, ← hparentLower]
  constructor
  · exact fun hwithin => ⟨hwithin.code.length_le, fun code hcode =>
      (hwithin.parentSetCode code hcode).length_le⟩
  · rintro ⟨hshort, hparentShort⟩
    exact { h.withinLimits with
      code := h.withinLimits.code.of_length_le hshort
      parentSetCode := fun code hcode =>
        (h.withinLimits.parentSetCode code hcode).of_length_le (hparentShort code hcode) }

end CardSet

/-! ## Cards -/

namespace Card

/-- Every text of the card is as rules keep texts, and the code of its set has at most so many characters. -/
structure WithinLimits (longest : Nat) (c : Card) : Prop where
  id : Kept 64 c.id
  name : Kept 255 c.name
  setCode : KeptSmall longest c.setCode
  collectorNumber : Kept 32 c.collectorNumber
  rarity : Kept 32 c.rarity
  lang : ∀ lang, c.lang = some lang → Kept 8 lang
  oracleId : ∀ oracleId, c.oracleId = some oracleId → Kept 64 oracleId

variable {ms : Members} {c : Card}

theorem DescribedBy.withinLimits (h : DescribedBy ms c) : c.WithinLimits 32 where
  id := kept_of_requiredText h.id
  name := kept_of_requiredText h.name
  setCode := by
    obtain ⟨code, hcode, hlower⟩ := h.setCode
    rw [hlower]
    exact (kept_of_requiredText hcode).lower
  collectorNumber := kept_of_requiredText h.collectorNumber
  rarity := kept_of_requiredText h.rarity
  lang := fun lang hlang => kept_of_optionalText (h.lang.trans (congrArg Except.ok hlang))
  oracleId := fun oracleId horacleId => kept_of_optionalText (h.oracleId.trans (congrArg Except.ok horacleId))

theorem DescribedBy.withinLimits_iff (h : DescribedBy ms c) :
    c.WithinLimits 16 ↔ FitsSmall ms "set" 16 := by
  obtain ⟨code, hcode, hlower⟩ := h.setCode
  rw [fitsSmall_iff_of_requiredText hcode, ← hlower]
  constructor
  · exact fun hwithin => hwithin.setCode.length_le
  · exact fun hshort => { h.withinLimits with setCode := h.withinLimits.setCode.of_length_le hshort }

end Card

/-! ## Accepted records -/

/-- Every text of an accepted card set or card has no blanks around it, is not empty and stays within the
limit of its field, and its codes are in small letters, in which they may come to 32 characters in place of
16.  They stay within 16 exactly if they do when each capital I with a dot is counted twice. -/
theorem texts_of_accepted_records (v : Value) :
    (∀ s, CardSet.validate v = .ok s → ∃ ms, v = .object ms ∧ s.WithinLimits 32 ∧
      (s.WithinLimits 16 ↔ FitsSmall ms "code" 16 ∧ FitsSmall ms "parent_set_code" 16)) ∧
    ∀ c, Card.validate v = .ok c → ∃ ms, v = .object ms ∧ c.WithinLimits 32 ∧
      (c.WithinLimits 16 ↔ FitsSmall ms "set" 16) := by
  constructor
  · intro s h
    obtain ⟨ms, hobject, hdescribed⟩ := CardSet.eq_object_of_validate h
    exact ⟨ms, hobject, hdescribed.withinLimits, hdescribed.withinLimits_iff⟩
  · intro c h
    obtain ⟨ms, hobject, hdescribed⟩ := Card.eq_object_of_validate h
    exact ⟨ms, hobject, hdescribed.withinLimits, hdescribed.withinLimits_iff⟩

theorem texts_of_accepted_samples :
    CardSet.Sample.cardSet.WithinLimits 16 ∧ Card.Sample.card.WithinLimits 16 := by
  constructor
  · obtain ⟨ms, hobject, -, hwithin⟩ := (texts_of_accepted_records _).1 _ CardSet.Sample.validate_element
    cases hobject
    refine hwithin.2 ⟨fun raw hfound => ?_, fun raw hfound => ?_⟩
    · have hcode : Value.text "ÅBC" = .text raw := Option.some.inj hfound
      cases hcode
      decide
    · have hcode : Value.text "Σ" = .text raw := Option.some.inj hfound
      cases hcode
      decide
  · obtain ⟨ms, hobject, -, hwithin⟩ := (texts_of_accepted_records _).2 _ Card.Sample.validate_element
    cases hobject
    refine hwithin.2 fun raw hfound => ?_
    have hcode : Value.text "X" = .text raw := Option.some.inj hfound
    cases hcode
    decide

namespace CardSet.Sample

/-- An element with a code of nine characters, each of which is two in small letters. -/
def dotted : Value := .object [("code", .text "İİİİİİİİİ"), ("id", .text "a"), ("name", .text "First"),
  ("set_type", .text "core")]

/-- The card set that it describes. -/
def dottedSet : CardSet :=
  ⟨"a", "First", "i̇i̇i̇i̇i̇i̇i̇i̇i̇", "core", none, none, false, false, false, none, none⟩

theorem validate_dotted : validate dotted = .ok dottedSet := by with_unfolding_all rfl

end CardSet.Sample

/-- Codes of accepted records may have more characters than codes may have. -/
theorem codes_beyond_limit :
    ¬ ((∀ v s, CardSet.validate v = .ok s → s.WithinLimits 16) ∧
      ∀ v c, Card.validate v = .ok c → c.WithinLimits 16) := by
  rintro ⟨hsets, -⟩
  have hshort := (hsets _ _ CardSet.Sample.validate_dotted).code.length_le
  exact absurd hshort (by decide)

end CatalogImport
