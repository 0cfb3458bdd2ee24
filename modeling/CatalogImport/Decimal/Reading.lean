import CatalogImport.Decimal.Digits
import CatalogImport.Decimal.Nearest
import CatalogImport.Text.Lowercase

/-!
# Reading a double

A text is read as the double nearest to the decimal it writes.  A sign may come first; then digits
with at most one point among or around them and perhaps an exponent, or a word for an infinite
value or for no number at all.
-/

namespace CatalogImport.Decimal

/-- A row of digits and what follows it. -/
def spanDigits (cs : List Char) : List Char × List Char := cs.span isDigit

/-- The exponent that a text writes, the mark before it already taken. -/
def exponent? (cs : List Char) : Option Int :=
  match cs with
  | '+' :: rest => (natural? rest).map (·)
  | '-' :: rest => (natural? rest).map fun n => -(n : Int)
  | cs => (natural? cs).map (·)

/-- A decimal without a sign, as its significand and exponent. -/
def decimal? (cs : List Char) : Option (Nat × Int) :=
  let (whole, rest) := spanDigits cs
  let (places, rest) := match rest with
    | '.' :: rest => spanDigits rest
    | rest => ([], rest)
  if whole = [] ∧ places = [] then none
  else
    let significand := valueFrom 0 (whole ++ places)
    let shift : Int := -(places.length : Int)
    match rest with
    | [] => some (significand, shift)
    | c :: rest =>
      if c = 'e' ∨ c = 'E' then (exponent? rest).map fun e => (significand, e + shift)
      else none

/-- A double without a sign. -/
def magnitude? (cs : List Char) : Option Float :=
  match String.ofList (cs.map Text.lowerAscii) with
  | "inf" | "infinity" => some (nearest (Nat.pow 10 400) 1)
  | "nan" => some (Float.ofBits 0x7ff8000000000000)
  | _ => (decimal? cs).map fun d => nearestDecimal d.1 d.2

/-- The double that a text writes, sign included. -/
def double? (s : String) : Option Float :=
  match s.toList with
  | '-' :: rest => (magnitude? rest).map (-·)
  | '+' :: rest => magnitude? rest
  | cs => magnitude? cs

end CatalogImport.Decimal
