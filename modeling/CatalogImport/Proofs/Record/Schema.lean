import CatalogImport.Proofs.Index
import CatalogImport.Proofs.Record.Field
import CatalogImport.Record.Card
import CatalogImport.Record.CardSet

/-!
# Validation field by field

The fields of a record are declared in a schema: under which key each is looked for and by which rule.  A
rule sees one member of an object and nothing else, and one that is `null` as if it were not there.  Main
statement: elements are validated by nothing but these rules, and of several violations the one of the field
declared first is reported (`validated_field_by_field`).
-/

namespace CatalogImport

open CatalogImport.Json CatalogImport.Field

/-- The field that a violation names; it names none only if the element is not an object. -/
def Violation.field? : Violation → Option String
  | .notAnObject _ => none
  | .missing field => some field
  | .wrongType field _ _ => some field
  | .tooLong field _ _ => some field
  | .notADate field _ => some field

/-- The violation that a validation reports, if it does not accept. -/
def violation? {α : Type} : Except Violation α → Option Violation
  | .ok _ => none
  | .error e => some e

theorem violation?_eq_none_iff {α : Type} {x : Except Violation α} :
    violation? x = none ↔ ∃ a, x = .ok a := by
  cases x with
  | ok a => simp [violation?]
  | error e => simp [violation?]

theorem violation?_eq_some_iff {α : Type} {x : Except Violation α} {e : Violation} :
    violation? x = some e ↔ x = .error e := by
  cases x with
  | ok a => simp [violation?]
  | error e' => simp [violation?]

/-- If what comes afterwards reports the same whatever was found, it counts when nothing was wrong so far. -/
theorem violation?_bind {α β : Type} {x : Except Violation α} {f : α → Except Violation β}
    {rest : Option Violation} (h : ∀ a, violation? (f a) = rest) :
    violation? (x >>= f) = (violation? x).or rest := by
  cases x with
  | ok a => exact h a
  | error e => rfl

/-! ## Members -/

namespace Field

/-- Under the key there is nothing, or `null`. -/
def Absent (ms : Members) (key : String) : Prop :=
  findRow? key ms = none ∨ findRow? key ms = some .null

/-- Under the key there is the same, where `null` counts as nothing. -/
def SameUnder (key : String) (ms ms' : Members) : Prop :=
  findRow? key ms = findRow? key ms' ∨ Absent ms key ∧ Absent ms' key

variable {ms ms' : Members} {key field : String} {most : Nat}

theorem Absent.present?_eq_none (h : Absent ms key) : present? ms key = none := by
  rcases h with h | h
  · unfold present?
    rw [h]
  · exact present?_eq_none_of_null h

theorem SameUnder.present?_eq (h : SameUnder key ms ms') : present? ms key = present? ms' key := by
  rcases h with h | ⟨habsent, habsent'⟩
  · unfold present?
    rw [h]
  · rw [habsent.present?_eq_none, habsent'.present?_eq_none]

/-- Under the other keys there is the same when a member is added or changed. -/
theorem sameUnder_putRow {other : String} (hne : other ≠ key) (v : Value) (ms : Members) :
    SameUnder other (putRow key v ms) ms :=
  .inl (by rw [findRow?_putRow, if_neg hne])

/-- Under the other keys there is the same when a member is removed. -/
theorem sameUnder_filter {other : String} (hne : other ≠ key) (ms : Members) :
    SameUnder other (ms.filter (·.1 ≠ key)) ms :=
  .inl (by rw [findRow?_filter_ne, if_neg hne])

/-- Under every key there is the same when a member that was absent becomes `null`. -/
theorem sameUnder_putRow_null (habsent : Absent ms key) (other : String) :
    SameUnder other (putRow key .null ms) ms := by
  by_cases hother : other = key
  · subst hother
    exact .inr ⟨.inr (by rw [findRow?_putRow, if_pos rfl]), habsent⟩
  · exact sameUnder_putRow hother .null ms

/-! ## Rules -/

/-- How a field is taken out of the members of an object. -/
inductive Rule where
  | requiredText (most : Nat)
  | optionalText (most : Nat)
  | optionalDate
  | optionalCount
  | flag
  deriving DecidableEq

/-- A field of a record: the key under which it is looked for, and the rule for it. -/
structure Declared where
  key : String
  rule : Rule
  deriving DecidableEq

namespace Declared

/-- The violation that the rule for the field reports, if any. -/
def violation? (f : Declared) (ms : Members) : Option Violation :=
  match f.rule with
  | .requiredText most => CatalogImport.violation? (Field.requiredText ms f.key most)
  | .optionalText most => CatalogImport.violation? (Field.optionalText ms f.key most)
  | .optionalDate => CatalogImport.violation? (Field.optionalDate ms f.key)
  | .optionalCount => CatalogImport.violation? (Field.optionalCount ms f.key)
  | .flag => CatalogImport.violation? (Field.flag ms f.key)

/-- The field need not be there. -/
def Optional (f : Declared) : Prop := ∀ most, f.rule ≠ .requiredText most

end Declared

theorem requiredText_congr (h : present? ms field = present? ms' field) (most : Nat) :
    requiredText ms field most = requiredText ms' field most := by
  unfold requiredText
  rw [h]

theorem optionalText_congr (h : present? ms field = present? ms' field) (most : Nat) :
    optionalText ms field most = optionalText ms' field most := by
  unfold optionalText
  rw [h]

theorem optionalDate_congr (h : present? ms field = present? ms' field) :
    optionalDate ms field = optionalDate ms' field := by
  unfold optionalDate
  rw [h]

theorem optionalCount_congr (h : present? ms field = present? ms' field) :
    optionalCount ms field = optionalCount ms' field := by
  unfold optionalCount
  rw [h]

theorem flag_congr (h : present? ms field = present? ms' field) : flag ms field = flag ms' field := by
  unfold flag
  rw [h]

/-- A rule sees what is present under its own key and nothing else. -/
theorem Declared.violation?_congr {f : Declared} (h : present? ms f.key = present? ms' f.key) :
    f.violation? ms = f.violation? ms' := by
  unfold Declared.violation?
  split
  · rw [requiredText_congr h]
  · rw [optionalText_congr h]
  · rw [optionalDate_congr h]
  · rw [optionalCount_congr h]
  · rw [flag_congr h]

/-- A field that need not be there is not missed. -/
theorem Declared.violation?_of_absent {f : Declared} (hoptional : f.Optional) (h : Absent ms f.key) :
    f.violation? ms = none := by
  have hpresent := h.present?_eq_none
  unfold Declared.violation?
  split
  · next hrule => exact absurd hrule (hoptional _)
  · rw [Field.optionalText, hpresent]
    rfl
  · rw [Field.optionalDate, hpresent]
    rfl
  · rw [Field.optionalCount, hpresent]
    rfl
  · rw [Field.flag, hpresent]
    rfl

theorem field?_of_boundedText {v : Value} {e : Violation} (h : boundedText field most v = .error e) :
    e.field? = some field := by
  cases v with
  | text raw =>
    unfold boundedText at h
    dsimp only at h
    split at h
    · cases h
    · split at h
      · cases h
        rfl
      · cases h
  | _ =>
    cases h
    rfl

theorem field?_of_requiredText {e : Violation} (h : requiredText ms field most = .error e) :
    e.field? = some field := by
  unfold requiredText at h
  split at h
  · cases h
    rfl
  · split at h
    · next hbounded =>
      cases h
      exact field?_of_boundedText hbounded
    · cases h
      rfl
    · cases h

theorem field?_of_optionalText {e : Violation} (h : optionalText ms field most = .error e) :
    e.field? = some field := by
  unfold optionalText at h
  split at h
  · cases h
  · exact field?_of_boundedText h

theorem field?_of_optionalDate {e : Violation} (h : optionalDate ms field = .error e) :
    e.field? = some field := by
  unfold optionalDate at h
  split at h
  · cases h
  · split at h
    · cases h
    · cases h
      rfl
  · cases h
    rfl

theorem field?_of_optionalCount {e : Violation} (h : optionalCount ms field = .error e) :
    e.field? = some field := by
  unfold optionalCount at h
  split at h
  · cases h
  · split at h
    · cases h
    · cases h
      rfl

theorem field?_of_flag {e : Violation} (h : flag ms field = .error e) : e.field? = some field := by
  unfold flag at h
  split at h
  · cases h
  · split at h
    · cases h
    · cases h
      rfl

/-- A rule names the key of its own field. -/
theorem Declared.field?_of_violation? {f : Declared} {e : Violation} (h : f.violation? ms = some e) :
    e.field? = some f.key := by
  unfold Declared.violation? at h
  split at h
  · exact field?_of_requiredText (violation?_eq_some_iff.1 h)
  · exact field?_of_optionalText (violation?_eq_some_iff.1 h)
  · exact field?_of_optionalDate (violation?_eq_some_iff.1 h)
  · exact field?_of_optionalCount (violation?_eq_some_iff.1 h)
  · exact field?_of_flag (violation?_eq_some_iff.1 h)

/-! ## Schemas -/

/-- What the fields of a schema report first. -/
def firstViolation? (ms : Members) (schema : List Declared) : Option Violation :=
  schema.findSome? (·.violation? ms)

theorem firstViolation?_cons (ms : Members) (f : Declared) (schema : List Declared) :
    firstViolation? ms (f :: schema) = (f.violation? ms).or (firstViolation? ms schema) := by
  unfold firstViolation?
  rw [List.findSome?_cons]
  cases f.violation? ms <;> rfl

end Field

/-- Elements are validated field by field, by nothing but the rules of a schema. -/
structure ValidatesBy {R : Type} (validate : Value → Except Violation R) (schema : List Declared) :
    Prop where
  /-- Other elements than objects are not accepted. -/
  objects_only : ∀ v, (∀ ms, v ≠ .object ms) → validate v = .error (.notAnObject v.typeName)
  /-- An object is accepted exactly if every rule is content with it. -/
  accepts_iff : ∀ ms, (∃ r, validate (.object ms) = .ok r) ↔ ∀ f ∈ schema, f.violation? ms = none
  /-- Otherwise the violation is reported of the first field whose rule is not. -/
  rejects_iff : ∀ ms e, validate (.object ms) = .error e ↔
    ∃ before f after, schema = before ++ f :: after ∧ (∀ g ∈ before, g.violation? ms = none) ∧
      f.violation? ms = some e
  /-- A violation that is reported names its field. -/
  names_field : ∀ ms, ∀ f ∈ schema, ∀ e, f.violation? ms = some e → e.field? = some f.key
  /-- Each rule sees the member under its own key and nothing else. -/
  own_member : ∀ f ∈ schema, ∀ ms ms', SameUnder f.key ms ms' → f.violation? ms = f.violation? ms'
  /-- Of two objects that have the same under the keys of the schema the same becomes. -/
  same_result : ∀ ms ms', (∀ f ∈ schema, SameUnder f.key ms ms') →
    validate (.object ms) = validate (.object ms')
  /-- Members under other keys may be added and changed. -/
  put_other : ∀ ms key v, (∀ f ∈ schema, f.key ≠ key) →
    validate (.object (putRow key v ms)) = validate (.object ms)
  /-- Members under other keys may be removed. -/
  remove_other : ∀ ms key, (∀ f ∈ schema, f.key ≠ key) →
    validate (.object (ms.filter (·.1 ≠ key))) = validate (.object ms)
  /-- What is absent may be `null`. -/
  null_for_absent : ∀ ms key, Absent ms key →
    validate (.object (putRow key .null ms)) = validate (.object ms)
  /-- A field that need not be there violates no rule when it is absent. -/
  optional_absent : ∀ ms, ∀ f ∈ schema, f.Optional → Absent ms f.key → f.violation? ms = none

/-- A validation goes by a schema when it reports what the schema does and sees what is present under its
keys. -/
theorem validatesBy_of {R : Type} {validate : Value → Except Violation R} {schema : List Declared}
    (hobjects : ∀ v, (∀ ms, v ≠ .object ms) → validate v = .error (.notAnObject v.typeName))
    (hreports : ∀ ms, violation? (validate (.object ms)) = firstViolation? ms schema)
    (hsees : ∀ ms ms', (∀ f ∈ schema, present? ms f.key = present? ms' f.key) →
      validate (.object ms) = validate (.object ms')) : ValidatesBy validate schema := by
  have hsame (ms ms' : Members) (h : ∀ f ∈ schema, SameUnder f.key ms ms') :
      validate (.object ms) = validate (.object ms') := hsees ms ms' fun f hf => (h f hf).present?_eq
  exact {
    objects_only := hobjects
    accepts_iff := fun ms => by
      rw [← violation?_eq_none_iff, hreports, firstViolation?, List.findSome?_eq_none_iff]
    rejects_iff := fun ms e => by
      rw [← violation?_eq_some_iff, hreports, firstViolation?, List.findSome?_eq_some_iff]
      exact ⟨fun ⟨before, f, after, hschema, hf, hbefore⟩ => ⟨before, f, after, hschema, hbefore, hf⟩,
        fun ⟨before, f, after, hschema, hbefore, hf⟩ => ⟨before, f, after, hschema, hf, hbefore⟩⟩
    names_field := fun ms f _ e h => Declared.field?_of_violation? h
    own_member := fun f _ ms ms' h => Declared.violation?_congr h.present?_eq
    same_result := hsame
    put_other := fun ms key v hother => hsame _ _ fun f hf => sameUnder_putRow (hother f hf) v ms
    remove_other := fun ms key hother => hsame _ _ fun f hf => sameUnder_filter (hother f hf) ms
    null_for_absent := fun ms key habsent => hsame _ _ fun f _ => sameUnder_putRow_null habsent f.key
    optional_absent := fun ms f _ hoptional habsent => Declared.violation?_of_absent hoptional habsent }

/-! ## Card sets -/

namespace CardSet

/-- The fields of a card set in the order in which they are declared. -/
def schema : List Declared :=
  [⟨"id", .requiredText 64⟩, ⟨"name", .requiredText 255⟩, ⟨"code", .requiredText 16⟩,
   ⟨"set_type", .requiredText 50⟩, ⟨"released_at", .optionalDate⟩, ⟨"card_count", .optionalCount⟩,
   ⟨"digital", .flag⟩, ⟨"foil_only", .flag⟩, ⟨"nonfoil_only", .flag⟩,
   ⟨"parent_set_code", .optionalText 16⟩, ⟨"icon_svg_uri", .optionalText 512⟩]

theorem violation?_validate (ms : Members) :
    violation? (validate (.object ms)) = firstViolation? ms schema := by
  unfold validate schema
  rw [members_object]
  simp only [firstViolation?_cons]
  change violation? (requiredText ms "id" 64 >>= _) = _
  iterate 11 refine violation?_bind fun _ => ?_
  rfl

theorem validate_congr {ms ms' : Members} (h : ∀ f ∈ schema, present? ms f.key = present? ms' f.key) :
    validate (.object ms) = validate (.object ms') := by
  simp only [schema, List.forall_mem_cons] at h
  obtain ⟨hid, hname, hcode, hsetType, hreleasedAt, hcardCount, hdigital, hfoilOnly, hnonfoilOnly,
    hparent, hicon, -⟩ := h
  unfold validate
  rw [members_object, members_object]
  simp only [bind, Except.bind]
  rw [requiredText_congr hid, requiredText_congr hname, requiredText_congr hcode,
    requiredText_congr hsetType, optionalDate_congr hreleasedAt, optionalCount_congr hcardCount,
    flag_congr hdigital, flag_congr hfoilOnly, flag_congr hnonfoilOnly, optionalText_congr hparent,
    optionalText_congr hicon]

end CardSet

/-! ## Cards -/

namespace Card

/-- The fields of a card in the order in which they are declared. -/
def schema : List Declared :=
  [⟨"id", .requiredText 64⟩, ⟨"name", .requiredText 255⟩, ⟨"set", .requiredText 16⟩,
   ⟨"collector_number", .requiredText 32⟩, ⟨"rarity", .requiredText 32⟩, ⟨"lang", .optionalText 8⟩,
   ⟨"released_at", .optionalDate⟩, ⟨"oracle_id", .optionalText 64⟩, ⟨"foil", .flag⟩, ⟨"nonfoil", .flag⟩,
   ⟨"digital", .flag⟩]

theorem violation?_validate (ms : Members) :
    violation? (validate (.object ms)) = firstViolation? ms schema := by
  unfold validate schema
  rw [members_object]
  simp only [firstViolation?_cons]
  change violation? (requiredText ms "id" 64 >>= _) = _
  iterate 11 refine violation?_bind fun _ => ?_
  rfl

theorem validate_congr {ms ms' : Members} (h : ∀ f ∈ schema, present? ms f.key = present? ms' f.key) :
    validate (.object ms) = validate (.object ms') := by
  simp only [schema, List.forall_mem_cons] at h
  obtain ⟨hid, hname, hset, hnumber, hrarity, hlang, hreleasedAt, horacleId, hfoil, hnonfoil, hdigital,
    -⟩ := h
  unfold validate
  rw [members_object, members_object]
  simp only [bind, Except.bind]
  rw [requiredText_congr hid, requiredText_congr hname, requiredText_congr hset,
    requiredText_congr hnumber, requiredText_congr hrarity, optionalText_congr hlang,
    optionalDate_congr hreleasedAt, optionalText_congr horacleId, flag_congr hfoil, flag_congr hnonfoil,
    flag_congr hdigital]

end Card

/-! ## Elements of both kinds -/

/-- Card sets and cards are validated field by field. -/
theorem validated_field_by_field :
    ValidatesBy CardSet.validate CardSet.schema ∧ ValidatesBy Card.validate Card.schema := by
  constructor
  · refine validatesBy_of (fun v hv => ?_) CardSet.violation?_validate fun _ _ => CardSet.validate_congr
    rw [CardSet.validate, members_of_ne_object hv]
    rfl
  · refine validatesBy_of (fun v hv => ?_) Card.violation?_validate fun _ _ => Card.validate_congr
    rw [Card.validate, members_of_ne_object hv]
    rfl

/-- Of a name that is `null` and a date that is none, the name is reported. -/
theorem validated_sample_misses_name :
    CardSet.validate (.object [("code", .text "KTK"), ("id", .text "a"), ("name", .null),
      ("object", .text "set"), ("released_at", .text "yesterday"), ("set_type", .text "expansion")]) =
        .error (.missing "name") := by
  refine (validated_field_by_field.1.rejects_iff _ _).2
    ⟨[⟨"id", .requiredText 64⟩], ⟨"name", .requiredText 255⟩, CardSet.schema.drop 2, rfl, ?_, rfl⟩
  intro f hf
  obtain rfl := List.mem_singleton.1 hf
  with_unfolding_all rfl

end CatalogImport
