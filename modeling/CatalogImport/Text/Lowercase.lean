import CatalogImport.Text.CaseTable

/-!
# Lowercase text

The lowercase form of a text: each character by itself, with two exceptions.  A capital I with a dot
becomes two characters, and a capital sigma that ends a word is written in its final form.
-/

namespace CatalogImport.Text

/-- One of the closed ranges holds the code point. -/
def inRanges (ranges : List (Nat × Nat)) (c : Char) : Bool :=
  ranges.any fun r => r.1 ≤ c.toNat && c.toNat ≤ r.2

/-- The character has an upper, lower or title case. -/
def isCased (c : Char) : Bool := inRanges casedRanges c

/-- The character is looked through when the end of a word is sought. -/
def isCaseIgnorable (c : Char) : Bool := inRanges caseIgnorableRanges c

/-- The capital ASCII letters become small ones, and nothing else changes. -/
def lowerAscii (c : Char) : Char :=
  if 'A' ≤ c ∧ c ≤ 'Z' then Char.ofNat (c.toNat + 32) else c

/-- The lowercase form of a character outside its context. -/
def lowerChar (c : Char) : List Char :=
  if c.toNat < 128 then [lowerAscii c]
  else if c = 'İ' then ['i', '\u0307']
  else
    match caseRuns.find? (·.covers c.toNat) with
    | some run => [Char.ofNat (Int.toNat (c.toNat + run.shift))]
    | none => [c]

/-- Looking outward from a place, past the ignorable characters, the first is a cased one. -/
def meetsCased (cs : List Char) : Bool :=
  match (cs.dropWhile isCaseIgnorable).head? with
  | some c => isCased c
  | none => false

/-- Lowers the rest of a text, given the characters before it with the nearest first. -/
def lowerFrom (before : List Char) : List Char → List Char
  | [] => []
  | c :: rest =>
    if c = 'Σ' then
      (if meetsCased before && !meetsCased rest then 'ς' else 'σ') :: lowerFrom (c :: before) rest
    else lowerChar c ++ lowerFrom (c :: before) rest

/-- The lowercase form of a text. -/
def lower (s : String) : String := String.ofList (lowerFrom [] s.toList)

/-- The text with its capital ASCII letters made small. -/
def lowerAsciiText (s : String) : String := s.map lowerAscii

end CatalogImport.Text
