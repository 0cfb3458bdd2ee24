import CatalogImport.Decimal.Digits
import CatalogImport.Decimal.Shortest

/-!
# How a double is laid out

A layout says between which decimal exponents a number is written plainly, and how it looks there
and elsewhere.  The digits are the shortest that read back.
-/

namespace CatalogImport.Decimal

/-- The decisions of one written form of a double. -/
structure Layout where
  /-- Numbers whose leading digit has an exponent below this one use scientific notation. -/
  plainFrom : Option Int
  /-- Numbers whose leading digit has this exponent or a larger one use scientific notation. -/
  plainBelow : Option Int
  /-- A whole number written plainly ends in a point and a zero. -/
  fraction : Bool
  /-- An exponent that is not negative has a plus sign. -/
  plus : Bool

/-- Digits written around a point that stands `exponent` places right of their end. -/
def plain (digits : List Char) (exponent : Int) (fraction : Bool) : List Char :=
  if 0 ≤ exponent then
    digits ++ List.replicate exponent.toNat '0' ++ if fraction then ['.', '0'] else []
  else
    let places := exponent.natAbs
    if places < digits.length then
      digits.take (digits.length - places) ++ '.' :: digits.drop (digits.length - places)
    else '0' :: '.' :: List.replicate (places - digits.length) '0' ++ digits

/-- Digits written with a point after the first of them, and the exponent of that digit. -/
def scientific (digits : List Char) (leading : Int) (plus : Bool) : List Char :=
  let mantissa := match digits with
    | d :: rest => if rest = [] then [d] else d :: '.' :: rest
    | [] => []
  let sign := if leading < 0 then ['-'] else if plus then ['+'] else []
  mantissa ++ 'e' :: sign ++ Nat.toDigits 10 leading.natAbs

/-- A positive decimal fraction under a layout. -/
def Layout.fractionText (l : Layout) (d : Fraction) : List Char :=
  let digits := Nat.toDigits 10 d.significand
  let leading := d.exponent + digits.length - 1
  let small := l.plainFrom.any (leading < ·)
  let large := l.plainBelow.any (· ≤ leading)
  if small || large then scientific digits leading l.plus
  else plain digits d.exponent l.fraction

/-- A double under a layout. -/
def Layout.text (l : Layout) (x : Float) : String :=
  let sign (negative : Bool) : String := if negative then "-" else ""
  match Shown.ofBits x.toBits.toNat with
  | .nan => "NaN"
  | .infinite negative => sign negative ++ "inf"
  | .zero negative => sign negative ++ if l.fraction then "0.0" else "0"
  | .finite negative size =>
    sign negative ++ String.ofList (l.fractionText size.shortest)

/-- Every digit in its place, whatever the size, and no point after a whole number. -/
def Layout.everyPlace : Layout := ⟨none, none, false, false⟩

/-- A point always, from the fourth place after it to the sixteenth before it. -/
def Layout.pointed : Layout := ⟨some (-4), some 16, true, false⟩

end CatalogImport.Decimal
