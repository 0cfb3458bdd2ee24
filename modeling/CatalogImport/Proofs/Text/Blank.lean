import CatalogImport.Text.Blank
import Mathlib.Data.List.TakeWhile

/-!
# Text between white space

Trimming takes white space off both ends of a text and nothing else.  Main statements: what is left is what
stands between white space that has none at its own ends (`trimChars_between`, `InBlanks.trimChars_eq`), every text
is such a one between white space (`exists_between`), and nothing is left exactly where there is nothing but white
space (`trimChars_eq_nil_iff`).
-/

namespace CatalogImport.Text

/-- There is nothing but white space. -/
def AllBlank (cs : List Char) : Prop := ∀ c ∈ cs, isBlank c = true

instance (cs : List Char) : Decidable (AllBlank cs) := List.decidableBAll (fun c => isBlank c = true) cs

theorem trimStart_append {bs : List Char} (hbs : AllBlank bs) (cs : List Char) :
    trimStart (bs ++ cs) = trimStart cs := List.dropWhile_append_of_pos hbs

theorem trimStart_eq_nil {cs : List Char} (h : AllBlank cs) : trimStart cs = [] := List.dropWhile_eq_nil_iff.2 h

/-- Trimming leaves what stands between white space. -/
theorem trimChars_between {lead core trail : List Char} (hlead : AllBlank lead) (htrail : AllBlank trail)
    (hcore : Trimmed core) : trimChars (lead ++ core ++ trail) = core := by
  have hreversed : AllBlank trail.reverse := fun c hc => htrail c (List.mem_reverse.1 hc)
  rw [trimChars, List.append_assoc, trimStart_append hlead]
  cases core with
  | nil =>
    rw [List.nil_append, trimStart_eq_nil htrail]
    rfl
  | cons c core =>
    have hstart : trimStart (c :: core ++ trail) = c :: core ++ trail := trimStart_eq_self hcore.1
    have hend : trimStart (c :: core).reverse = (c :: core).reverse := by
      apply trimStart_eq_self
      rw [List.head?_reverse]
      exact hcore.2
    rw [hstart, trimEnd, List.reverse_append, trimStart_append hreversed, hend, List.reverse_reverse]

/-- What trimming leaves stands between white space. -/
theorem exists_between (cs : List Char) :
    ∃ lead trail, AllBlank lead ∧ AllBlank trail ∧ cs = lead ++ trimChars cs ++ trail := by
  have hblank (ds : List Char) : AllBlank (ds.takeWhile isBlank) := fun c hc => List.mem_takeWhile_imp hc
  refine ⟨cs.takeWhile isBlank, ((trimStart cs).reverse.takeWhile isBlank).reverse, hblank cs, ?_, ?_⟩
  · exact fun c hc => hblank _ c (List.mem_reverse.1 hc)
  · rw [List.append_assoc, trimChars, trimEnd, trimStart, ← List.reverse_append, List.takeWhile_append_dropWhile,
      List.reverse_reverse]
    exact List.takeWhile_append_dropWhile.symm

/-- The text is the characters with white space around them, or with none. -/
def InBlanks (core : List Char) (s : String) : Prop :=
  ∃ lead trail, AllBlank lead ∧ AllBlank trail ∧ s.toList = lead ++ core ++ trail

theorem InBlanks.trimChars_eq {core : List Char} {s : String} (h : InBlanks core s) (hcore : Trimmed core) :
    trimChars s.toList = core := by
  obtain ⟨lead, trail, hlead, htrail, hs⟩ := h
  rw [hs, trimChars_between hlead htrail hcore]

theorem trimChars_eq_nil_iff {cs : List Char} : trimChars cs = [] ↔ AllBlank cs := by
  constructor
  · intro h
    obtain ⟨lead, trail, hlead, htrail, hcs⟩ := exists_between cs
    rw [h, List.append_nil] at hcs
    rw [hcs]
    exact List.forall_mem_append.2 ⟨hlead, htrail⟩
  · intro h
    have hnil : Trimmed [] := ⟨by simp, by simp⟩
    simpa using trimChars_between h (List.forall_mem_nil _) hnil

theorem toNat_of_isDigit {c : Char} (h : c.isDigit = true) : 48 ≤ c.toNat ∧ c.toNat ≤ 57 := by
  simpa [Char.isDigit, UInt32.le_iff_toNat_le] using h

theorem isBlank_of_isDigit {c : Char} (h : c.isDigit = true) : isBlank c = false := by
  have hbounds := toNat_of_isDigit h
  simp [isBlank]
  omega

theorem trimmed_of_forall {cs : List Char} (h : ∀ c ∈ cs, isBlank c = false) : Trimmed cs :=
  ⟨fun c hc => h c (List.mem_of_head? hc), fun c hc => h c (List.mem_of_getLast? hc)⟩

theorem trimmed_of_ends {c d : Char} (hc : isBlank c = false) (hd : isBlank d = false) (cs : List Char) :
    Trimmed (c :: cs ++ [d]) := by
  constructor
  · intro b hb
    exact Option.some.inj hb ▸ hc
  · intro b hb
    rw [List.getLast?_concat] at hb
    exact Option.some.inj hb ▸ hd

/-- A text that begins with a character that is not blank, behind white space, still does so when trimmed. -/
theorem head?_trimChars {lead cs : List Char} {c : Char} (hlead : AllBlank lead) (hc : isBlank c = false) :
    (trimChars (lead ++ c :: cs)).head? = some c := by
  have hstart : trimChars (lead ++ c :: cs) = trimChars (c :: cs) := by
    rw [trimChars, trimStart_append hlead, trimChars]
  rw [hstart]
  obtain ⟨spaces, trail, hspaces, htrail, hbetween⟩ := exists_between (c :: cs)
  cases spaces with
  | cons b spaces =>
    have hb : c = b := (List.cons.inj hbetween).1
    have hblank := hspaces b List.mem_cons_self
    rw [← hb, hc] at hblank
    cases hblank
  | nil =>
    cases hcore : trimChars (c :: cs) with
    | nil =>
      rw [hcore, List.nil_append, List.nil_append] at hbetween
      have hblank := htrail c (hbetween ▸ List.mem_cons_self)
      rw [hc] at hblank
      cases hblank
    | cons d core =>
      rw [hcore] at hbetween
      rw [List.head?_cons, (List.cons.inj hbetween).1]

end CatalogImport.Text
