import CatalogImport.Text.Blank
import CatalogImport.Text.Lowercase
import Mathlib.Data.List.Basic

/-!
# Lowercase text is its own lowercase form

The table of case gives every letter a form that the table does not change again, which is checked run by
run (`apart_of_mem_caseRuns`): the forms of one run lie beside the letters of another, or between them.
Only a capital sigma depends on what stands around it, and its lowercase forms do not.  Main statements:
lowering text that has been lowered changes nothing (`lower_lower`), neither the ends of a text nor
whether there is any are changed by it (`trimmed_lower`, `lower_eq_empty_iff`), and a text becomes longer by
the capital I with a dot and by nothing else (`length_lower`).
-/

namespace CatalogImport.Text

/-! ## The table of case -/

namespace CaseRun

/-- The least lowercase form of the run. -/
def lowest (r : CaseRun) : Nat := (r.first + r.shift).toNat

/-- The greatest lowercase form of the run. -/
def highest (r : CaseRun) : Nat := (r.last + r.shift).toNat

/-- Every other code point is in the run, or there is only one. -/
def alternates (r : CaseRun) : Bool := Nat.beq r.step 2 || Nat.beq r.first r.last

/-- No lowercase form of the run is covered by another: they lie below it or above it, or, when every
other code point is in them, between those that it covers. -/
def apart (r q : CaseRun) : Bool :=
  Nat.blt r.highest q.first || Nat.blt q.last r.lowest ||
    (r.alternates && Nat.beq q.step 2 && Nat.beq ((r.lowest + q.first) % 2) 1)

/-- The lowercase forms of the run lie between two code points. -/
def between (r : CaseRun) (low high : Nat) : Bool := Nat.blt low r.lowest && Nat.blt r.highest high

/-- The lowercase forms of the run are characters, and none of them is blank or a capital I with a dot. -/
def formsLetters (r : CaseRun) : Bool :=
  (r.between 64 128 || r.between 160 304 || r.between 304 5760 || r.between 5760 8192 ||
    r.between 8287 12288 || r.between 12288 0xD800 || r.between 0xDFFF 0x110000)

theorem covers_iff {r : CaseRun} {n : Nat} :
    r.covers n = true ↔ (r.first ≤ n ∧ n ≤ r.last) ∧ (n - r.first) % r.step = 0 := by
  simp [covers]

/-- A lowercase form lies between the least and the greatest of its run. -/
theorem lowest_le {r : CaseRun} {n : Nat} (h : r.covers n = true) :
    r.lowest ≤ (n + r.shift).toNat ∧ (n + r.shift).toNat ≤ r.highest := by
  have hcovers := covers_iff.1 h
  unfold lowest highest
  omega

theorem covers_eq_false {r q : CaseRun} {n : Nat} (h : r.covers n = true) (hpos : 0 < r.lowest)
    (hapart : r.apart q = true) : q.covers (n + r.shift).toNat = false := by
  have hbounds := lowest_le h
  have hcovers := covers_iff.1 h
  refine Bool.eq_false_iff.2 fun hq => ?_
  have hqcovers := covers_iff.1 hq
  simp only [apart, alternates, Bool.or_eq_true, Bool.and_eq_true, Nat.blt_eq, Nat.beq_eq] at hapart
  rcases hapart with (hbelow | habove) | ⟨⟨halternates, hstep⟩, hparity⟩
  · omega
  · omega
  · -- the forms have one parity, and what the other run covers has the other
    rw [hstep] at hqcovers
    have hsame : ((n + r.shift).toNat - r.lowest) % 2 = 0 := by
      unfold lowest at hpos ⊢
      rcases halternates with htwo | hone
      · rw [htwo] at hcovers
        omega
      · omega
    omega

end CaseRun

theorem apart_of_mem_caseRuns :
    ∀ r ∈ caseRuns, r.formsLetters = true ∧ ∀ q ∈ caseRuns, r.apart q = true := by
  have hchecked : (caseRuns.all fun r => r.formsLetters && caseRuns.all fun q => r.apart q) = true := by
    decide +kernel
  intro r hr
  have hrun := List.all_eq_true.1 hchecked r hr
  rw [Bool.and_eq_true, List.all_eq_true] at hrun
  exact hrun

/-! ## Characters -/

/-- The character is its own lowercase form, wherever it stands. -/
def Settled (c : Char) : Prop := c ≠ 'Σ' ∧ lowerChar c = [c]

theorem lowerAscii_eq_self {c : Char} (h : ∀ r ∈ caseRuns, r.covers c.toNat = false) :
    lowerAscii c = c := by
  have hcapitals := h ⟨65, 90, 1, 32⟩ List.mem_cons_self
  unfold lowerAscii
  refine if_neg fun hc => ?_
  have hlow : 65 ≤ c.toNat := hc.1
  have hhigh : c.toNat ≤ 90 := hc.2
  have hcovers : CaseRun.covers ⟨65, 90, 1, 32⟩ c.toNat = true :=
    CaseRun.covers_iff.2 ⟨⟨hlow, hhigh⟩, Nat.mod_one _⟩
  rw [hcapitals] at hcovers
  cases hcovers

/-- A character that no run covers is its own lowercase form. -/
theorem settled_of_uncovered {c : Char} (h : ∀ r ∈ caseRuns, r.covers c.toNat = false)
    (hdotted : c ≠ 'İ') : Settled c := by
  constructor
  · rintro rfl
    have hsigma : (caseRuns.all fun r => r.covers 931 == false) = false := by decide +kernel
    have hall : (caseRuns.all fun r => r.covers 931 == false) = true :=
      List.all_eq_true.2 fun r hr => beq_iff_eq.2 (h r hr)
    rw [hsigma] at hall
    cases hall
  · have hfind : caseRuns.find? (·.covers c.toNat) = none :=
      List.find?_eq_none.2 fun r hr => by simp [h r hr]
    unfold lowerChar
    rw [lowerAscii_eq_self h, if_neg hdotted, hfind, ite_self]

theorem toNat_ofNat {n : Nat} (h : n < 0xD800 ∨ 0xDFFF < n ∧ n < 0x110000) : (Char.ofNat n).toNat = n := by
  have hvalid : n.isValidChar := h
  rw [Char.ofNat, dif_pos hvalid]
  rfl

theorem settled_of_ascii {c : Char} (hascii : c.toNat < 128) (hcapital : ¬ ('A' ≤ c ∧ c ≤ 'Z')) :
    Settled c := by
  constructor
  · rintro rfl
    exact absurd hascii (by decide)
  · unfold lowerChar lowerAscii
    rw [if_pos hascii, if_neg hcapital]

/-- The lowercase form of a capital ASCII letter. -/
theorem toNat_lowerAscii {c : Char} (hcapital : 'A' ≤ c ∧ c ≤ 'Z') :
    (lowerAscii c).toNat = c.toNat + 32 ∧ 65 ≤ c.toNat ∧ c.toNat ≤ 90 := by
  have hlow : 65 ≤ c.toNat := hcapital.1
  have hhigh : c.toNat ≤ 90 := hcapital.2
  unfold lowerAscii
  rw [if_pos hcapital, toNat_ofNat (by omega)]
  exact ⟨rfl, hlow, hhigh⟩

theorem isBlank_eq_false_iff {c : Char} :
    isBlank c = false ↔ ¬ (9 ≤ c.toNat ∧ c.toNat ≤ 13 ∨ c.toNat = 32 ∨ c.toNat = 0x85 ∨ c.toNat = 0xA0 ∨
      c.toNat = 0x1680 ∨ 0x2000 ≤ c.toNat ∧ c.toNat ≤ 0x200A ∨ c.toNat = 0x2028 ∨ c.toNat = 0x2029 ∨
      c.toNat = 0x202F ∨ c.toNat = 0x205F ∨ c.toNat = 0x3000) := by
  simp [isBlank, and_assoc]

theorem settled_lowerAscii {c : Char} (hascii : c.toNat < 128) :
    Settled (lowerAscii c) ∧ (isBlank c = false → isBlank (lowerAscii c) = false) := by
  by_cases hcapital : 'A' ≤ c ∧ c ≤ 'Z'
  · obtain ⟨hform, hlow, hhigh⟩ := toNat_lowerAscii hcapital
    refine ⟨settled_of_ascii (by omega) fun h => ?_, fun _ => isBlank_eq_false_iff.2 (by omega)⟩
    have hle : (lowerAscii c).toNat ≤ 90 := h.2
    omega
  · have hsame : lowerAscii c = c := if_neg hcapital
    rw [hsame]
    exact ⟨settled_of_ascii hascii hcapital, id⟩

/-- The forms of a run are settled and not blank. -/
theorem settled_of_covers {r : CaseRun} {n : Nat} (hr : r ∈ caseRuns) (h : r.covers n = true) :
    Settled (Char.ofNat (n + r.shift).toNat) ∧ isBlank (Char.ofNat (n + r.shift).toNat) = false := by
  obtain ⟨hletters, hapart⟩ := apart_of_mem_caseRuns r hr
  have hbounds := CaseRun.lowest_le h
  simp only [CaseRun.formsLetters, CaseRun.between, Bool.or_eq_true, Bool.and_eq_true, Nat.blt_eq]
    at hletters
  have hform : (Char.ofNat (n + r.shift).toNat).toNat = (n + r.shift).toNat := toNat_ofNat (by omega)
  constructor
  · refine settled_of_uncovered (fun q hq => ?_) fun hdotted => ?_
    · rw [hform]
      exact CaseRun.covers_eq_false h (by omega) (hapart q hq)
    · have hsame : (n + r.shift).toNat = 304 := hform.symm.trans (congrArg Char.toNat hdotted)
      omega
  · rw [isBlank_eq_false_iff, hform]
    omega

/-- What becomes of a character is settled, and blank only if the character is. -/
theorem settled_of_mem_lowerChar {c d : Char} (hc : c ≠ 'Σ') (hd : d ∈ lowerChar c) :
    Settled d ∧ (isBlank c = false → isBlank d = false) := by
  unfold lowerChar at hd
  split at hd
  · next hascii =>
    obtain rfl := List.mem_singleton.1 hd
    exact settled_lowerAscii hascii
  · split at hd
    · simp only [List.mem_cons, List.not_mem_nil, or_false] at hd
      rcases hd with rfl | rfl
      · exact ⟨settled_of_ascii (by decide) (by decide), fun _ => by decide⟩
      · exact ⟨⟨by decide, by decide +kernel⟩, fun _ => by decide⟩
    · next hdotted =>
      split at hd
      · next r hfind =>
        obtain rfl := List.mem_singleton.1 hd
        have hcovers : r.covers c.toNat = true := by simpa using List.find?_some hfind
        obtain ⟨hsettled, hblank⟩ := settled_of_covers (List.mem_of_find?_eq_some hfind) hcovers
        exact ⟨hsettled, fun _ => hblank⟩
      · next hfind =>
        obtain rfl := List.mem_singleton.1 hd
        refine ⟨settled_of_uncovered (fun r hr => ?_) hdotted, id⟩
        exact Bool.eq_false_iff.2 (List.find?_eq_none.1 hfind r hr)

theorem lowerChar_ne_nil (c : Char) : lowerChar c ≠ [] := by
  unfold lowerChar
  split
  · exact List.cons_ne_nil _ _
  · split
    · exact List.cons_ne_nil _ _
    · split <;> exact List.cons_ne_nil _ _

/-- A character becomes one character, except for a capital I with a dot. -/
theorem length_lowerChar (c : Char) : (lowerChar c).length = if c = 'İ' then 2 else 1 := by
  unfold lowerChar
  split
  · next hascii =>
    have hdotted : c ≠ 'İ' := by
      rintro rfl
      exact absurd hascii (by decide)
    rw [if_neg hdotted]
    rfl
  · split
    · rfl
    · split <;> rfl

/-! ## Texts -/

/-- What may become of a character in a text: a capital sigma has two lowercase forms. -/
def forms (c : Char) : List Char := if c = 'Σ' then ['ς', 'σ'] else lowerChar c

theorem settled_of_mem_forms {c d : Char} (hd : d ∈ forms c) :
    Settled d ∧ (isBlank c = false → isBlank d = false) := by
  unfold forms at hd
  split at hd
  · simp only [List.mem_cons, List.not_mem_nil, or_false] at hd
    rcases hd with rfl | rfl
    · exact ⟨⟨by decide, by decide +kernel⟩, fun _ => by decide⟩
    · exact ⟨⟨by decide, by decide +kernel⟩, fun _ => by decide⟩
  · next hsigma => exact settled_of_mem_lowerChar hsigma hd

/-- A text is lowered character by character. -/
theorem exists_lowerFrom_cons (before : List Char) (c : Char) (rest : List Char) :
    ∃ ds, lowerFrom before (c :: rest) = ds ++ lowerFrom (c :: before) rest ∧ ds ≠ [] ∧
      ∀ d ∈ ds, d ∈ forms c := by
  rw [lowerFrom]
  unfold forms
  split
  · refine ⟨[_], rfl, List.cons_ne_nil _ _, fun d hd => ?_⟩
    rw [List.mem_singleton.1 hd]
    split
    · exact List.mem_cons_self
    · exact List.mem_cons_of_mem _ List.mem_cons_self
  · exact ⟨lowerChar c, rfl, lowerChar_ne_nil c, fun d hd => hd⟩

theorem settled_of_mem_lowerFrom {before cs : List Char} {d : Char} (hd : d ∈ lowerFrom before cs) :
    Settled d := by
  induction cs generalizing before with
  | nil => cases hd
  | cons c cs ih =>
    obtain ⟨ds, hlower, -, hforms⟩ := exists_lowerFrom_cons before c cs
    rw [hlower] at hd
    rcases List.mem_append.1 hd with hd | hd
    · exact (settled_of_mem_forms (hforms d hd)).1
    · exact ih hd

/-- Text of settled characters is its own lowercase form. -/
theorem lowerFrom_eq_self {before cs : List Char} (h : ∀ c ∈ cs, Settled c) :
    lowerFrom before cs = cs := by
  induction cs generalizing before with
  | nil => rfl
  | cons c cs ih =>
    obtain ⟨hsigma, hsame⟩ := h c List.mem_cons_self
    rw [lowerFrom, if_neg hsigma, hsame, ih fun d hd => h d (List.mem_cons_of_mem c hd)]
    rfl

/-- Text that has been lowered is its own lowercase form. -/
theorem lower_lower (s : String) : lower (lower s) = lower s := by
  unfold lower
  rw [String.toList_ofList, lowerFrom_eq_self fun c hc => settled_of_mem_lowerFrom hc]

theorem lowerFrom_eq_nil_iff {before cs : List Char} : lowerFrom before cs = [] ↔ cs = [] := by
  cases cs with
  | nil => exact ⟨fun _ => rfl, fun _ => rfl⟩
  | cons c cs =>
    obtain ⟨ds, hlower, hds, -⟩ := exists_lowerFrom_cons before c cs
    rw [hlower]
    exact ⟨fun h => absurd (List.append_eq_nil_iff.1 h).1 hds, fun h => by cases h⟩

/-- A text is empty exactly if its lowercase form is. -/
theorem lower_eq_empty_iff {s : String} : lower s = "" ↔ s = "" := by
  have hlower : (lower s).toList = lowerFrom [] s.toList := String.toList_ofList
  have hempty : s.toList = "".toList ↔ s = "" := String.toList_inj
  rw [← String.toList_inj, hlower, ← hempty]
  exact lowerFrom_eq_nil_iff

theorem length_lowerFrom (before cs : List Char) :
    (lowerFrom before cs).length = cs.length + cs.count 'İ' := by
  induction cs generalizing before with
  | nil => rfl
  | cons c cs ih =>
    rw [lowerFrom, List.length_cons, List.count_cons]
    split
    · next hsigma =>
      have hdotted : (c == 'İ') = false := by rw [hsigma]; decide
      rw [List.length_cons, ih, hdotted, if_neg Bool.false_ne_true]
      omega
    · rw [List.length_append, length_lowerChar, ih]
      simp only [beq_iff_eq]
      split <;> omega

/-- In small letters a text has one character more for each capital I with a dot. -/
theorem length_lower (s : String) : (lower s).length = s.length + s.toList.count 'İ' := by
  unfold lower
  rw [String.length_ofList, length_lowerFrom, String.length_toList]

/-- The last character of a text that has been lowered comes from the last one of the text. -/
theorem exists_getLast?_lowerFrom {before cs : List Char} {d : Char}
    (hd : d ∈ (lowerFrom before cs).getLast?) : ∃ c ∈ cs.getLast?, d ∈ forms c := by
  induction cs generalizing before with
  | nil => cases hd
  | cons c cs ih =>
    obtain ⟨ds, hlower, -, hforms⟩ := exists_lowerFrom_cons before c cs
    rw [hlower] at hd
    cases cs with
    | nil =>
      rw [lowerFrom, List.append_nil] at hd
      exact ⟨c, rfl, hforms d (List.mem_of_getLast? hd)⟩
    | cons c' cs =>
      have hne : lowerFrom (c :: before) (c' :: cs) ≠ [] := by
        rw [Ne, lowerFrom_eq_nil_iff]
        exact List.cons_ne_nil _ _
      rw [List.getLast?_append_of_ne_nil _ hne] at hd
      rw [List.getLast?_cons_cons]
      exact ih hd

/-- Lowered text has no blank at either end if the text has none. -/
theorem trimmed_lower {s : String} (h : Trimmed s.toList) : Trimmed (lower s).toList := by
  unfold lower
  rw [String.toList_ofList]
  constructor
  · intro d hd
    cases hs : s.toList with
    | nil =>
      rw [hs] at hd
      cases hd
    | cons c cs =>
      obtain ⟨ds, hlower, hds, hforms⟩ := exists_lowerFrom_cons [] c cs
      rw [hs, hlower, List.head?_append_of_ne_nil _ hds] at hd
      refine (settled_of_mem_forms (hforms d (List.mem_of_head? hd))).2 (h.1 c ?_)
      rw [hs]
      rfl
  · intro d hd
    obtain ⟨c, hc, hform⟩ := exists_getLast?_lowerFrom hd
    exact (settled_of_mem_forms hform).2 (h.2 c hc)

end CatalogImport.Text
