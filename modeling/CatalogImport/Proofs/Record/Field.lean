import CatalogImport.Proofs.Calendar.Date
import CatalogImport.Proofs.Text.Lowercase
import CatalogImport.Record.Field

/-!
# What the rules of fields keep

A rule takes a field out of the members of an object, and what it takes out has another form than what it
found: texts are trimmed, flags and counts may be spelled as texts.  Main statements: whatever a rule has
taken out is taken out again by the same rule when it is put back as it is kept, and a text that is kept in
small letters exactly if it is then short enough (`requiredText_lower_again`, `optionalText_lower_again`).
-/

namespace CatalogImport.Field

open CatalogImport.Json

variable {ms again : Members} {field : String} {most : Nat}

theorem members_object (ms : Members) : members (.object ms) = .ok ms := rfl

theorem members_of_ne_object {v : Value} (hv : ∀ ms, v ≠ .object ms) :
    members v = .error (.notAnObject v.typeName) := by
  cases v with
  | object ms => exact absurd rfl (hv ms)
  | _ => rfl

theorem present?_eq_some {v : Value} (h : findRow? field again = some v) (hv : v ≠ .null) :
    present? again field = some v := by
  unfold present?
  rw [h]
  split
  · next heq => exact absurd (Option.some.inj heq) hv
  · rfl

theorem present?_eq_none_of_null (h : findRow? field again = some .null) :
    present? again field = none := by
  unfold present?
  rw [h]

/-! ## Texts -/

/-- The text is as rules keep texts: it has no blanks around it, is not empty and not too long. -/
structure Kept (most : Nat) (s : String) : Prop where
  trimmed : Text.Trimmed s.toList
  ne_empty : s ≠ ""
  length_le : s.length ≤ most

theorem kept_of_boundedText {s : String} {v : Value} (h : boundedText field most v = .ok (some s)) :
    Kept most s := by
  cases v with
  | text raw =>
    unfold boundedText at h
    dsimp only at h
    split at h
    · cases h
    · next hsome =>
      split at h
      · cases h
      · next hlength =>
        cases h
        have hlist : (String.ofList (Text.trimChars raw.toList)).toList = Text.trimChars raw.toList :=
          String.toList_ofList
        refine ⟨?_, fun hempty => hsome ?_, ?_⟩
        · rw [hlist]
          exact Text.trimmed_trimChars _
        · rw [← hlist, hempty]
          rfl
        · rw [← String.length_toList, hlist]
          exact Nat.le_of_not_lt hlength
  | _ => cases h

/-- A text without blanks around it is kept as it is unless it is too long. -/
theorem boundedText_text {s : String} (htrimmed : Text.Trimmed s.toList) (hne : s ≠ "") :
    boundedText field most (.text s) =
      if most < s.length then .error (.tooLong field most s.length) else .ok (some s) := by
  have hchars : s.toList ≠ [] := fun h => hne (String.toList_inj.1 h)
  unfold boundedText
  simp only [Text.trimChars_eq_self htrimmed, if_neg hchars, String.length_toList, String.ofList_toList]

theorem kept_of_requiredText {s : String} (h : requiredText ms field most = .ok s) : Kept most s := by
  unfold requiredText at h
  split at h
  · cases h
  · split at h
    · cases h
    · cases h
    · next hbounded =>
      cases h
      exact kept_of_boundedText hbounded

theorem requiredText_text {s : String} (hfound : findRow? field again = some (.text s))
    (htrimmed : Text.Trimmed s.toList) (hne : s ≠ "") :
    requiredText again field most =
      if most < s.length then .error (.tooLong field most s.length) else .ok s := by
  unfold requiredText
  rw [present?_eq_some hfound Value.noConfusion]
  dsimp only
  rw [boundedText_text htrimmed hne]
  split
  · next heq =>
    split at heq
    · next hlong =>
      cases heq
      rw [if_pos hlong]
    · cases heq
  · next heq => split at heq <;> cases heq
  · next heq =>
    split at heq
    · cases heq
    · next hshort =>
      cases heq
      rw [if_neg hshort]

/-- A text that must be there is found again as it is kept. -/
theorem requiredText_again {s : String} (h : requiredText ms field most = .ok s)
    (hfound : findRow? field again = some (.text s)) : requiredText again field most = .ok s := by
  obtain ⟨htrimmed, hne, hlength⟩ := kept_of_requiredText h
  rw [requiredText_text hfound htrimmed hne, if_neg (Nat.not_lt.2 hlength)]

/-- A text that must be there and is kept in small letters is found again exactly if it is still short
enough. -/
theorem requiredText_lower_again {s : String} (h : requiredText ms field most = .ok s)
    (hfound : findRow? field again = some (.text (Text.lower s))) :
    (∃ t, requiredText again field most = .ok t ∧ Text.lower s = Text.lower t) ↔
      (Text.lower s).length ≤ most := by
  obtain ⟨htrimmed, hne, -⟩ := kept_of_requiredText h
  rw [requiredText_text hfound (Text.trimmed_lower htrimmed) (mt Text.lower_eq_empty_iff.1 hne)]
  split
  · next hlong =>
    constructor
    · rintro ⟨t, ht, -⟩
      cases ht
    · intro hshort
      exact absurd hlong (Nat.not_lt.2 hshort)
  · next hshort =>
    exact ⟨fun _ => Nat.le_of_not_lt hshort, fun _ => ⟨_, rfl, (Text.lower_lower s).symm⟩⟩

theorem kept_of_optionalText {s : String} (h : optionalText ms field most = .ok (some s)) :
    Kept most s := by
  unfold optionalText at h
  split at h
  · cases h
  · exact kept_of_boundedText h

theorem optionalText_null (hfound : findRow? field again = some .null) :
    optionalText again field most = .ok none := by
  unfold optionalText
  rw [present?_eq_none_of_null hfound]

theorem optionalText_text {s : String} (hfound : findRow? field again = some (.text s))
    (htrimmed : Text.Trimmed s.toList) (hne : s ≠ "") :
    optionalText again field most =
      if most < s.length then .error (.tooLong field most s.length) else .ok (some s) := by
  unfold optionalText
  rw [present?_eq_some hfound Value.noConfusion]
  exact boundedText_text htrimmed hne

/-- A text that may be absent is found again as it is kept. -/
theorem optionalText_again {s : Option String} (h : optionalText ms field most = .ok s)
    (hfound : findRow? field again = some (.ofText? s)) : optionalText again field most = .ok s := by
  cases s with
  | none => exact optionalText_null hfound
  | some s =>
    obtain ⟨htrimmed, hne, hlength⟩ := kept_of_optionalText h
    rw [optionalText_text hfound htrimmed hne, if_neg (Nat.not_lt.2 hlength)]

/-- A text that may be absent and is kept in small letters is found again exactly if it is still short
enough. -/
theorem optionalText_lower_again {s : Option String} (h : optionalText ms field most = .ok s)
    (hfound : findRow? field again = some (.ofText? (s.map Text.lower))) :
    (∃ t, optionalText again field most = .ok t ∧ s.map Text.lower = t.map Text.lower) ↔
      ∀ t, s.map Text.lower = some t → t.length ≤ most := by
  cases s with
  | none =>
    constructor
    · rintro - t ht
      cases ht
    · exact fun _ => ⟨none, optionalText_null hfound, rfl⟩
  | some s =>
    obtain ⟨htrimmed, hne, -⟩ := kept_of_optionalText h
    rw [optionalText_text hfound (Text.trimmed_lower htrimmed) (mt Text.lower_eq_empty_iff.1 hne),
      Option.map_some]
    split
    · next hlong =>
      constructor
      · rintro ⟨t, ht, -⟩
        cases ht
      · intro hshort
        exact absurd hlong (Nat.not_lt.2 (hshort _ rfl))
    · next hshort =>
      constructor
      · rintro - t ht
        cases ht
        exact Nat.le_of_not_lt hshort
      · intro _
        exact ⟨some (Text.lower s), rfl, by rw [Option.map_some, Text.lower_lower]⟩

/-! ## Dates, counts and flags -/

/-- A date is found again, in whatever year of the calendar. -/
theorem optionalDate_again {date : Option Calendar.Date}
    (hfound : findRow? field again = some (.ofText? (date.map (·.text)))) :
    optionalDate again field = .ok date := by
  unfold optionalDate
  cases date with
  | none => rw [present?_eq_none_of_null hfound]
  | some d =>
    have htext : findRow? field again = some (.text d.text) := hfound
    rw [present?_eq_some htext Value.noConfusion]
    dsimp only
    rw [d.trim_text, d.ofText?_text]

theorem lt_of_count? {v : Value} {n : Nat} (h : count? v = some n) : n < Nat.pow 2 32 := by
  unfold count? at h
  split at h
  · split at h
    · next i hbounds =>
      cases h
      exact (Int.toNat_lt hbounds.1).2 hbounds.2
    · cases h
  · exact of_decide_eq_true (Option.filter_eq_some_iff.1 h).2
  · cases h

theorem count?_nat {n : Nat} (h : n < Nat.pow 2 32) : count? (.nat n) = some n := by
  have hbounds : 0 ≤ (n : Int) ∧ (n : Int) < (Nat.pow 2 32 : Nat) :=
    ⟨Int.natCast_nonneg n, Int.ofNat_lt.2 h⟩
  rw [Value.nat, count?, if_pos hbounds, Int.toNat_natCast]

theorem lt_of_optionalCount {n : Nat} (h : optionalCount ms field = .ok (some n)) :
    n < Nat.pow 2 32 := by
  unfold optionalCount at h
  split at h
  · cases h
  · split at h
    · next hcount =>
      cases h
      exact lt_of_count? hcount
    · cases h

theorem optionalCount_of_count? {v : Value} {n : Nat} (hpresent : present? again field = some v)
    (hcount : count? v = some n) : optionalCount again field = .ok (some n) := by
  unfold optionalCount
  rw [hpresent]
  dsimp only
  rw [hcount]

theorem optionalCount_of_count?_eq_none {v : Value} (hpresent : present? again field = some v)
    (hcount : count? v = none) :
    optionalCount again field = .error (.wrongType field "a non-negative integer" v.compact) := by
  unfold optionalCount
  rw [hpresent]
  dsimp only
  rw [hcount]

/-- A count is found again, however it was spelled. -/
theorem optionalCount_again {n : Option Nat} (h : optionalCount ms field = .ok n)
    (hfound : findRow? field again = some (.ofNat? n)) : optionalCount again field = .ok n := by
  cases n with
  | none =>
    unfold optionalCount
    rw [present?_eq_none_of_null hfound]
  | some n =>
    have hpresent : present? again field = some (.nat n) := present?_eq_some hfound Value.noConfusion
    exact optionalCount_of_count? hpresent (count?_nat (lt_of_optionalCount h))

/-- A flag is found again, however it was spelled. -/
theorem flag_again {b : Bool} (hfound : findRow? field again = some (.bool b)) :
    flag again field = .ok b := by
  unfold flag
  rw [present?_eq_some hfound Value.noConfusion]
  rfl

end CatalogImport.Field
