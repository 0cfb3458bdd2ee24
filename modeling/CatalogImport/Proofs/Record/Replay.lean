import CatalogImport.Proofs.Index
import CatalogImport.Proofs.Record.Description

/-!
# Records that are put back into a document

What is kept of a record that a store refused is its JSON form, so that it can be put back into a document
and imported again.  Main statements: the form of a card set describes the same card set, unless one of its
codes has become too long in small letters (`CardSet.replayed_iff`); the form of a card never describes a
card, as the code of its set is looked for under another key than the one it is written under
(`Card.replay_refused`).
-/

namespace CatalogImport

open CatalogImport.Json CatalogImport.Field

/-- Members with different keys are found in the object that is made of them. -/
theorem findRow?_of_ofMembers {written again : Members} (hobject : Value.ofMembers written = .object again)
    (hkeys : (written.map (·.1)).Nodup) {m : String × Value} (hm : m ∈ written) :
    findRow? m.1 again = some m.2 := by
  cases hobject
  exact findRow?_foldl_putRow_of_mem hkeys hm []

/-- A key that no member has is not found in the object. -/
theorem findRow?_ofMembers_eq_none {written again : Members} {key : String}
    (hobject : Value.ofMembers written = .object again) (h : key ∉ written.map (·.1)) :
    findRow? key again = none := by
  cases hobject
  exact findRow?_foldl_putRow_of_not_mem h []

/-! ## Card sets -/

namespace CardSet

theorem nodup_keys (s : CardSet) : (s.members.map (·.1)).Nodup := by
  have hkeys : s.members.map (·.1) = ["id", "name", "code", "set_type", "released_at", "card_count",
      "digital", "foil_only", "nonfoil_only", "parent_set_code", "icon_svg_uri"] := rfl
  rw [hkeys]
  decide

/-- The JSON form of a card set that an element described describes that card set again exactly if its code
and the code of its parent are still short enough in small letters: in whatever year it was released, and
however its flags and its count were spelled. -/
theorem replayed_iff {v : Value} {s : CardSet} (h : validate v = .ok s) :
    (∃ form, CatalogRecord.payload s = .ok form ∧ validate form = .ok s) ↔
      s.code.length ≤ 16 ∧ ∀ code, s.parentSetCode = some code → code.length ≤ 16 := by
  obtain ⟨ms, hdescribed⟩ := exists_describedBy h
  obtain ⟨again, hobject⟩ : ∃ again, Value.ofMembers s.members = .object again := ⟨_, rfl⟩
  have hfound {key : String} {x : Value} (hm : (key, x) ∈ s.members) : findRow? key again = some x :=
    findRow?_of_ofMembers hobject s.nodup_keys hm
  obtain ⟨code, hcode, hlower⟩ := hdescribed.code
  obtain ⟨parent, hparent, hparentLower⟩ := hdescribed.parentSetCode
  have hcodeAgain := requiredText_lower_again hcode
    (hfound (by simp [members, hlower]))
  have hparentAgain := optionalText_lower_again hparent
    (hfound (by simp [members, hparentLower]))
  rw [← hlower] at hcodeAgain
  rw [← hparentLower] at hparentAgain
  have hpayload : CatalogRecord.payload s = .ok (.object again) := congrArg Except.ok hobject
  constructor
  · rintro ⟨form, hform, hvalid⟩
    rw [hpayload] at hform
    cases hform
    obtain hagain := validate_object_eq_ok_iff.1 hvalid
    exact ⟨hcodeAgain.1 hagain.code, hparentAgain.1 hagain.parentSetCode⟩
  · rintro ⟨hcodeShort, hparentShort⟩
    refine ⟨_, hpayload, validate_object_eq_ok_iff.2 ?_⟩
    exact {
      id := requiredText_again hdescribed.id (hfound (by simp [members]))
      name := requiredText_again hdescribed.name (hfound (by simp [members]))
      code := hcodeAgain.2 hcodeShort
      setType := requiredText_again hdescribed.setType (hfound (by simp [members]))
      releasedAt := optionalDate_again (hfound (by simp [members]))
      cardCount := optionalCount_again hdescribed.cardCount (hfound (by simp [members]))
      digital := flag_again (hfound (by simp [members]))
      foilOnly := flag_again (hfound (by simp [members]))
      nonfoilOnly := flag_again (hfound (by simp [members]))
      parentSetCode := hparentAgain.2 hparentShort
      iconSvgUri := optionalText_again hdescribed.iconSvgUri (hfound (by simp [members])) }

namespace Sample

/-- An element with a late year, and with a count, flags and codes in other forms than they are kept in. -/
def element : Value := .object [("card_count", .text " +7"), ("code", .text "ÅBC"), ("digital", .text "Yes"),
  ("id", .text "a "), ("name", .text "First"), ("parent_set_code", .text "Σ"),
  ("released_at", .text " +12345-6- 7"), ("set_type", .text "core")]

/-- The card set that it describes. -/
def cardSet : CardSet :=
  ⟨"a", "First", "åbc", "core", some ⟨12345, 6, 7, by decide⟩, some 7, true, false, false, some "σ", none⟩

theorem validate_element : validate element = .ok cardSet := by with_unfolding_all rfl

end Sample

theorem replayed_in_late_year :
    ∃ form, CatalogRecord.payload Sample.cardSet = .ok form ∧ validate form = .ok Sample.cardSet := by
  refine (replayed_iff Sample.validate_element).2 ⟨by decide, ?_⟩
  intro code hcode
  cases hcode
  decide

end CardSet

/-! ## Cards -/

namespace Card

/-- Members in which the code of a set is missing describe no card. -/
theorem validate_object_of_no_set {ms : Members} {id name : String}
    (hid : requiredText ms "id" 64 = .ok id) (hname : requiredText ms "name" 255 = .ok name)
    (hset : findRow? "set" ms = none) : validate (.object ms) = .error (.missing "set") := by
  have hmembers : Field.members (.object ms) = .ok ms := rfl
  have hmissing : requiredText ms "set" 16 = .error (.missing "set") := by
    unfold requiredText present?
    rw [hset]
  unfold validate
  simp only [hmembers, hid, hname, hmissing, bind, Except.bind]

/-- A member of a card, of which the code of the set has the key under which it is looked for. -/
def asLookedFor (m : String × Value) : String × Value :=
  if m.1 = "set_code" then ("set", m.2) else m

theorem nodup_keys (c : Card) : (c.members.map (·.1)).Nodup := by
  have hkeys : c.members.map (·.1) = ["id", "name", "set_code", "collector_number", "rarity", "lang",
      "released_at", "oracle_id", "foil", "nonfoil", "digital"] := rfl
  rw [hkeys]
  decide

theorem nodup_keys_asLookedFor (c : Card) : ((c.members.map asLookedFor).map (·.1)).Nodup := by
  have hkeys : (c.members.map asLookedFor).map (·.1) = ["id", "name", "set", "collector_number", "rarity",
      "lang", "released_at", "oracle_id", "foil", "nonfoil", "digital"] := rfl
  rw [hkeys]
  decide

/-- If the code of the set had the key under which it is looked for, the members of a card that an element
described would describe it again exactly if the code is still short enough in small letters. -/
theorem validate_asLookedFor {ms : Members} {c : Card} (h : DescribedBy ms c) :
    validate (.ofMembers (c.members.map asLookedFor)) = .ok c ↔ c.setCode.length ≤ 16 := by
  obtain ⟨again, hobject⟩ : ∃ again, Value.ofMembers (c.members.map asLookedFor) = .object again :=
    ⟨_, rfl⟩
  have hfound {key : String} {x : Value} (hm : (key, x) ∈ c.members.map asLookedFor) :
      findRow? key again = some x := findRow?_of_ofMembers hobject c.nodup_keys_asLookedFor hm
  obtain ⟨code, hcode, hlower⟩ := h.setCode
  have hcodeAgain := requiredText_lower_again hcode
    (hfound (by simp [members, asLookedFor, hlower]))
  rw [← hlower] at hcodeAgain
  rw [hobject, validate_object_eq_ok_iff]
  constructor
  · exact fun hagain => hcodeAgain.1 hagain.setCode
  · intro hshort
    exact {
      id := requiredText_again h.id (hfound (by simp [members, asLookedFor]))
      name := requiredText_again h.name (hfound (by simp [members, asLookedFor]))
      setCode := hcodeAgain.2 hshort
      collectorNumber := requiredText_again h.collectorNumber (hfound (by simp [members, asLookedFor]))
      rarity := requiredText_again h.rarity (hfound (by simp [members, asLookedFor]))
      lang := optionalText_again h.lang (hfound (by simp [members, asLookedFor]))
      releasedAt := optionalDate_again (hfound (by simp [members, asLookedFor]))
      oracleId := optionalText_again h.oracleId (hfound (by simp [members, asLookedFor]))
      foil := flag_again (hfound (by simp [members, asLookedFor]))
      nonfoil := flag_again (hfound (by simp [members, asLookedFor]))
      digital := flag_again (hfound (by simp [members, asLookedFor])) }

/-- The JSON form of a card that an element described is never a card again: the code of its set is missing,
as it is written under another key than the one under which it is looked for.  With that key in its place
the form describes the same card exactly if the code is still short enough in small letters. -/
theorem replay_refused {v : Value} {c : Card} (h : validate v = .ok c) :
    ∃ form, CatalogRecord.payload c = .ok form ∧ validate form = .error (.missing "set") ∧
      (validate (.ofMembers (c.members.map asLookedFor)) = .ok c ↔ c.setCode.length ≤ 16) := by
  obtain ⟨ms, hdescribed⟩ := exists_describedBy h
  obtain ⟨again, hobject⟩ : ∃ again, Value.ofMembers c.members = .object again := ⟨_, rfl⟩
  have hfound {key : String} {x : Value} (hm : (key, x) ∈ c.members) : findRow? key again = some x :=
    findRow?_of_ofMembers hobject c.nodup_keys hm
  have hset : findRow? "set" again = none := findRow?_ofMembers_eq_none hobject (by simp [members])
  refine ⟨.object again, congrArg Except.ok hobject, ?_, validate_asLookedFor hdescribed⟩
  exact validate_object_of_no_set (requiredText_again hdescribed.id (hfound (by simp [members])))
    (requiredText_again hdescribed.name (hfound (by simp [members]))) hset

namespace Sample

/-- An element that is a card. -/
def element : Value := .object [("collector_number", .text "1"), ("id", .text "a"), ("name", .text "First"),
  ("rarity", .text "common"), ("set", .text "X")]

/-- The card that it describes. -/
def card : Card := ⟨"a", "First", "x", "1", "common", none, none, none, false, false, false⟩

theorem validate_element : validate element = .ok card := by with_unfolding_all rfl

end Sample

theorem replay_of_card_refused :
    ∃ form, CatalogRecord.payload Sample.card = .ok form ∧ validate form = .error (.missing "set") := by
  obtain ⟨form, hform, hrefused, -⟩ := replay_refused Sample.validate_element
  exact ⟨form, hform, hrefused⟩

/-- The JSON form of a card need not describe that card again. -/
theorem not_replayed :
    ¬ ∀ (v : Value) (c : Card), validate v = .ok c →
      ∃ form, CatalogRecord.payload c = .ok form ∧ validate form = .ok c := by
  intro hall
  obtain ⟨form, hform, hvalid⟩ := hall _ _ Sample.validate_element
  have hmissing : validate (.ofMembers Sample.card.members) = .error (.missing "set") := by
    with_unfolding_all rfl
  have hsame : Value.ofMembers Sample.card.members = form := Except.ok.inj hform
  rw [← hsame, hmissing] at hvalid
  cases hvalid

end Card

end CatalogImport
