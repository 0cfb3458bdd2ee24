import CatalogImport.Proofs.Json.Words
import CatalogImport.Proofs.Record.Field
import CatalogImport.Record.Card
import CatalogImport.Record.CardSet

/-!
# Elements that describe records

An element is accepted as a record exactly if its members describe the record field by field
(`validate_object_eq_ok_iff`): each field is what the rule for it takes out of the members.
-/

namespace CatalogImport

open CatalogImport.Json CatalogImport.Field

/-! ## Card sets -/

namespace CardSet

/-- The members describe the card set. -/
structure DescribedBy (ms : Members) (s : CardSet) : Prop where
  id : requiredText ms "id" 64 = .ok s.id
  name : requiredText ms "name" 255 = .ok s.name
  code : ∃ code, requiredText ms "code" 16 = .ok code ∧ s.code = Text.lower code
  setType : requiredText ms "set_type" 50 = .ok s.setType
  releasedAt : optionalDate ms "released_at" = .ok s.releasedAt
  cardCount : optionalCount ms "card_count" = .ok s.cardCount
  digital : flag ms "digital" = .ok s.digital
  foilOnly : flag ms "foil_only" = .ok s.foilOnly
  nonfoilOnly : flag ms "nonfoil_only" = .ok s.nonfoilOnly
  parentSetCode : ∃ code, optionalText ms "parent_set_code" 16 = .ok code ∧
    s.parentSetCode = code.map Text.lower
  iconSvgUri : optionalText ms "icon_svg_uri" 512 = .ok s.iconSvgUri

theorem validate_object_eq_ok_iff {ms : Members} {s : CardSet} :
    validate (.object ms) = .ok s ↔ DescribedBy ms s := by
  constructor
  · intro h
    obtain ⟨_, hmembers, h⟩ := exists_of_bind_eq_ok h
    cases hmembers
    obtain ⟨id, hid, h⟩ := exists_of_bind_eq_ok h
    obtain ⟨name, hname, h⟩ := exists_of_bind_eq_ok h
    obtain ⟨code, hcode, h⟩ := exists_of_bind_eq_ok h
    obtain ⟨setType, hsetType, h⟩ := exists_of_bind_eq_ok h
    obtain ⟨releasedAt, hreleasedAt, h⟩ := exists_of_bind_eq_ok h
    obtain ⟨cardCount, hcardCount, h⟩ := exists_of_bind_eq_ok h
    obtain ⟨digital, hdigital, h⟩ := exists_of_bind_eq_ok h
    obtain ⟨foilOnly, hfoilOnly, h⟩ := exists_of_bind_eq_ok h
    obtain ⟨nonfoilOnly, hnonfoilOnly, h⟩ := exists_of_bind_eq_ok h
    obtain ⟨parent, hparent, h⟩ := exists_of_bind_eq_ok h
    obtain ⟨icon, hicon, h⟩ := exists_of_bind_eq_ok h
    cases h
    exact ⟨hid, hname, ⟨code, hcode, rfl⟩, hsetType, hreleasedAt, hcardCount, hdigital, hfoilOnly,
      hnonfoilOnly, ⟨parent, hparent, rfl⟩, hicon⟩
  · rintro ⟨hid, hname, ⟨code, hcode, hlower⟩, hsetType, hreleasedAt, hcardCount, hdigital, hfoilOnly,
      hnonfoilOnly, ⟨parent, hparent, hparentLower⟩, hicon⟩
    unfold validate
    simp only [members_object, hid, hname, hcode, hsetType, hreleasedAt, hcardCount, hdigital, hfoilOnly,
      hnonfoilOnly, hparent, hicon, bind, Except.bind, pure, Except.pure, ← hlower, ← hparentLower]

/-- Only objects are accepted. -/
theorem eq_object_of_validate {v : Value} {s : CardSet} (h : validate v = .ok s) :
    ∃ ms, v = .object ms ∧ DescribedBy ms s := by
  cases v with
  | object ms => exact ⟨ms, rfl, validate_object_eq_ok_iff.1 h⟩
  | _ => cases h

theorem exists_describedBy {v : Value} {s : CardSet} (h : validate v = .ok s) :
    ∃ ms, DescribedBy ms s := by
  obtain ⟨ms, -, hdescribed⟩ := eq_object_of_validate h
  exact ⟨ms, hdescribed⟩

end CardSet

/-! ## Cards -/

namespace Card

/-- The members describe the card. -/
structure DescribedBy (ms : Members) (c : Card) : Prop where
  id : requiredText ms "id" 64 = .ok c.id
  name : requiredText ms "name" 255 = .ok c.name
  setCode : ∃ code, requiredText ms "set" 16 = .ok code ∧ c.setCode = Text.lower code
  collectorNumber : requiredText ms "collector_number" 32 = .ok c.collectorNumber
  rarity : requiredText ms "rarity" 32 = .ok c.rarity
  lang : optionalText ms "lang" 8 = .ok c.lang
  releasedAt : optionalDate ms "released_at" = .ok c.releasedAt
  oracleId : optionalText ms "oracle_id" 64 = .ok c.oracleId
  foil : flag ms "foil" = .ok c.foil
  nonfoil : flag ms "nonfoil" = .ok c.nonfoil
  digital : flag ms "digital" = .ok c.digital

theorem validate_object_eq_ok_iff {ms : Members} {c : Card} :
    validate (.object ms) = .ok c ↔ DescribedBy ms c := by
  constructor
  · intro h
    obtain ⟨_, hmembers, h⟩ := exists_of_bind_eq_ok h
    cases hmembers
    obtain ⟨id, hid, h⟩ := exists_of_bind_eq_ok h
    obtain ⟨name, hname, h⟩ := exists_of_bind_eq_ok h
    obtain ⟨code, hcode, h⟩ := exists_of_bind_eq_ok h
    obtain ⟨number, hnumber, h⟩ := exists_of_bind_eq_ok h
    obtain ⟨rarity, hrarity, h⟩ := exists_of_bind_eq_ok h
    obtain ⟨lang, hlang, h⟩ := exists_of_bind_eq_ok h
    obtain ⟨releasedAt, hreleasedAt, h⟩ := exists_of_bind_eq_ok h
    obtain ⟨oracleId, horacleId, h⟩ := exists_of_bind_eq_ok h
    obtain ⟨foil, hfoil, h⟩ := exists_of_bind_eq_ok h
    obtain ⟨nonfoil, hnonfoil, h⟩ := exists_of_bind_eq_ok h
    obtain ⟨digital, hdigital, h⟩ := exists_of_bind_eq_ok h
    cases h
    exact ⟨hid, hname, ⟨code, hcode, rfl⟩, hnumber, hrarity, hlang, hreleasedAt, horacleId, hfoil,
      hnonfoil, hdigital⟩
  · rintro ⟨hid, hname, ⟨code, hcode, hlower⟩, hnumber, hrarity, hlang, hreleasedAt, horacleId, hfoil,
      hnonfoil, hdigital⟩
    unfold validate
    simp only [members_object, hid, hname, hcode, hnumber, hrarity, hlang, hreleasedAt, horacleId, hfoil,
      hnonfoil, hdigital, bind, Except.bind, pure, Except.pure, ← hlower]

/-- Only objects are accepted. -/
theorem eq_object_of_validate {v : Value} {c : Card} (h : validate v = .ok c) :
    ∃ ms, v = .object ms ∧ DescribedBy ms c := by
  cases v with
  | object ms => exact ⟨ms, rfl, validate_object_eq_ok_iff.1 h⟩
  | _ => cases h

theorem exists_describedBy {v : Value} {c : Card} (h : validate v = .ok c) :
    ∃ ms, DescribedBy ms c := by
  obtain ⟨ms, -, hdescribed⟩ := eq_object_of_validate h
  exact ⟨ms, hdescribed⟩

end Card

end CatalogImport
