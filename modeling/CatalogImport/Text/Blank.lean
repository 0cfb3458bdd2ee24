/-!
# Blank characters

Unicode white space, and the trimming of text by it.  Main statements: trimming leaves text that
neither starts nor ends with a blank, and trimming such text again changes nothing.
-/

namespace CatalogImport.Text

/-- The character has the Unicode property `White_Space`. -/
def isBlank (c : Char) : Bool :=
  let n := c.toNat
  (9 ≤ n && n ≤ 13) || n == 32 || n == 0x85 || n == 0xA0 || n == 0x1680
    || (0x2000 ≤ n && n ≤ 0x200A) || n == 0x2028 || n == 0x2029 || n == 0x202F || n == 0x205F
    || n == 0x3000

/-- The characters without the blanks in front. -/
def trimStart (cs : List Char) : List Char := cs.dropWhile isBlank

/-- The characters without the blanks at the end. -/
def trimEnd (cs : List Char) : List Char := (trimStart cs.reverse).reverse

/-- The characters between the first and the last that is not blank. -/
def trimChars (cs : List Char) : List Char := trimEnd (trimStart cs)

/-- The text without the blanks at either end. -/
def trim (s : String) : String := String.ofList (trimChars s.toList)

/-- Neither the first nor the last character is blank. -/
def Trimmed (cs : List Char) : Prop :=
  (∀ c ∈ cs.head?, isBlank c = false) ∧ (∀ c ∈ cs.getLast?, isBlank c = false)

theorem head?_trimStart (cs : List Char) : ∀ c ∈ (trimStart cs).head?, isBlank c = false := by
  intro c hc
  have := List.head?_dropWhile_not isBlank cs
  rw [trimStart] at hc
  cases h : (cs.dropWhile isBlank).head? with
  | none => simp [h] at hc
  | some d =>
    rw [h] at this hc
    simp at this hc
    exact hc ▸ this

theorem trimStart_eq_self {cs : List Char} (h : ∀ c ∈ cs.head?, isBlank c = false) :
    trimStart cs = cs := by
  cases cs with
  | nil => rfl
  | cons c r => simp [trimStart, h c (by simp)]

theorem trimStart_suffix (cs : List Char) : trimStart cs <:+ cs := List.dropWhile_suffix _

/-- Trimming leaves no blank at either end. -/
theorem trimmed_trimChars (cs : List Char) : Trimmed (trimChars cs) := by
  constructor
  · intro c hc
    have hpre : trimEnd (trimStart cs) <+: trimStart cs := by
      have := trimStart_suffix (trimStart cs).reverse
      rw [trimEnd, ← List.reverse_suffix, List.reverse_reverse]
      exact this
    apply head?_trimStart cs c
    obtain ⟨t, ht⟩ := hpre
    rw [← ht]
    rw [trimChars] at hc
    cases h : trimEnd (trimStart cs) with
    | nil => simp [h] at hc
    | cons d r => simpa [h] using hc
  · intro c hc
    apply head?_trimStart (trimStart cs).reverse c
    simpa [trimChars, trimEnd] using hc

/-- Trimmed text is its own trimming. -/
theorem trimChars_eq_self {cs : List Char} (h : Trimmed cs) : trimChars cs = cs := by
  rw [trimChars, trimStart_eq_self h.1, trimEnd, trimStart_eq_self, List.reverse_reverse]
  simpa using h.2

end CatalogImport.Text
