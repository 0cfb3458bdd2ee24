import CatalogImport.Decimal.Nearest
import CatalogImport.Json.Value

/-!
# Number literals

The value of a number as it stands in a JSON text.  A whole number that fits 64 bits is an integer.
Any other is a double: the digits that fit 64 bits are kept as a whole number, and that number is
multiplied or divided, in doubles, by the power of ten that puts the point in its place.
-/

namespace CatalogImport.Json

open CatalogImport.Decimal

/-- The parts of a number as it is written; digits are given by their values. -/
structure Literal where
  negative : Bool
  whole : List Nat
  places : List Nat
  /-- The sign of the exponent, `true` for minus, and its digits. -/
  exponent : Option (Bool × List Nat)

/-- The digits kept of a number so far, the power of ten by which they fall short of it, and
whether further digits no longer fit. -/
structure Kept where
  significand : Nat
  power : Int
  full : Bool

/-- Takes a digit before the point. -/
def Kept.whole (k : Kept) (digit : Nat) : Kept :=
  let next := 10 * k.significand + digit
  if k.full ∨ Nat.pow 2 64 ≤ next then { k with power := k.power + 1, full := true }
  else { k with significand := next }

/-- Takes a digit after the point. -/
def Kept.place (k : Kept) (digit : Nat) : Kept :=
  let next := 10 * k.significand + digit
  if k.full ∨ Nat.pow 2 64 ≤ next then { k with full := true }
  else { k with significand := next, power := k.power - 1 }

/-- Divides by a power of ten, in steps that are powers themselves. -/
def scaleDown (x : Float) (power : Nat) : Float :=
  if power ≤ 308 then x / nearest (Nat.pow 10 power) 1
  else if x == 0.0 then x
  else scaleDown (x / nearest (Nat.pow 10 308) 1) (power - 308)
termination_by power

/-- A whole number times a power of ten, in doubles; none when it is out of their range. -/
def scaled (significand : Nat) (power : Int) : Option Float :=
  let x := ofNat significand
  if power < 0 then some (scaleDown x power.natAbs)
  else if 308 < power then (if x == 0.0 then some x else none)
  else
    let y := x * nearest (Nat.pow 10 power.natAbs) 1
    if y.isFinite then some y else none

/-- The number that digits write. -/
def digitsValue (digits : List Nat) : Nat := digits.foldl (10 * · + ·) 0

/-- The digits of an exponent up to the first by which it is too large for 31 bits. -/
def exponentOverflow (digits : List Nat) : Option Nat :=
  ((List.range digits.length).map (· + 1)).find? fun n => Nat.pow 2 31 ≤ digitsValue (digits.take n)

/-- The value of a number; none when it is out of the range of doubles. -/
def Literal.value (l : Literal) : Option Number :=
  let whole := l.whole.foldl Kept.whole ⟨0, 0, false⟩
  let fits := if l.negative then 0 < whole.significand ∧ whole.significand ≤ Nat.pow 2 63 else True
  if l.places = [] ∧ l.exponent = none ∧ whole.full = false ∧ fits then
    some (.integer (if l.negative then -(whole.significand : Int) else whole.significand))
  else
    let all := l.places.foldl Kept.place { whole with full := false }
    let power := match l.exponent with
      | none => all.power
      | some (minus, digits) =>
        if minus then all.power - digitsValue digits else all.power + digitsValue digits
    (scaled all.significand power).map fun x => .double (if l.negative then -x else x)

end CatalogImport.Json
