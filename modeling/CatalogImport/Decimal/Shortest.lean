/-!
# The shortest decimal of a double

A double is read as a multiple of a power of two, and stands for every real that rounds to it.  Of
the decimals in that interval the one with the fewest digits is taken, of those the nearest to the
double itself, and of two equally near ones the even one.
-/

namespace CatalogImport.Decimal

/-- A positive finite double: `multiple * 2 ^ exponent`. -/
structure Dyadic where
  multiple : Nat
  exponent : Int
  /-- The next double below is only half as far away as the next one above. -/
  narrow : Bool

/-- The value that a double of 64 bits shows. -/
inductive Shown where
  | nan
  | infinite (negative : Bool)
  | zero (negative : Bool)
  | finite (negative : Bool) (size : Dyadic)

/-- Reads the fields of a double: sign, exponent and fraction. -/
def Shown.ofBits (bits : Nat) : Shown :=
  let negative := bits / Nat.pow 2 63 % 2 == 1
  let e : Nat := bits / Nat.pow 2 52 % 2048
  let f : Nat := bits % Nat.pow 2 52
  if e = 2047 then (if f = 0 then .infinite negative else .nan)
  else if e = 0 then
    (if f = 0 then .zero negative else .finite negative ⟨f, -1074, false⟩)
  else .finite negative ⟨Nat.pow 2 52 + f, (e : Int) - 1075, f == 0 && e > 1⟩

/-- A decimal fraction: `significand * 10 ^ exponent`. -/
structure Fraction where
  significand : Nat
  exponent : Int

/-- The same fraction without zeros at the end of its significand. -/
def Fraction.stripZeros (d : Fraction) : Fraction :=
  let zeros := ((Nat.toDigits 10 d.significand).reverse.takeWhile (· == '0')).length
  if d.significand = 0 then d
  else ⟨d.significand / Nat.pow 10 zeros, d.exponent + zeros⟩

/-- The reals that round to a double, on a grid of quarters of its unit: their ends, the double
itself, and whether the ends belong to them. -/
structure Rounding where
  low : Nat
  middle : Nat
  high : Nat
  denominator : Nat
  closed : Bool

/-- The interval of the reals that round to a double. -/
def Dyadic.rounding (x : Dyadic) : Rounding :=
  let q := x.exponent - 2
  let scale := if q < 0 then 1 else Nat.pow 2 q.natAbs
  { low := (4 * x.multiple - if x.narrow then 1 else 2) * scale
    middle := 4 * x.multiple * scale
    high := (4 * x.multiple + 2) * scale
    denominator := if q < 0 then Nat.pow 2 q.natAbs else 1
    closed := x.multiple % 2 == 0 }

/-- The decimal exponent of the leading digit of a positive ratio. -/
def leadingExponent (num den : Nat) : Int :=
  if den ≤ num then (Nat.toDigits 10 (num / den)).length - 1
  else
    -- The least power of ten that lifts the ratio to one has about `log₁₀ (den / num)` zeros.
    let guess := (Nat.toDigits 10 (den / num)).length - 1
    if den ≤ num * Nat.pow 10 guess then -(guess : Int) else -(guess : Int) - 1

/-- The decimals of the grid with step `10 ^ k` around a double that round to it: the nearest. -/
def Rounding.onGrid (r : Rounding) (k : Int) : Option Nat :=
  let lift := if k < 0 then Nat.pow 10 k.natAbs else 1
  let step := r.denominator * if k < 0 then 1 else Nat.pow 10 k.natAbs
  let low := r.low * lift
  let middle := r.middle * lift
  let high := r.high * lift
  let inside (d : Nat) : Bool :=
    if r.closed then low ≤ d * step && d * step ≤ high else low < d * step && d * step < high
  let below := middle / step
  match inside below, inside (below + 1) with
  | true, true =>
    let past := 2 * (middle % step)
    some (if past < step then below else if step < past then below + 1 else below + below % 2)
  | true, false => some below
  | false, true => some (below + 1)
  | false, false => none

/-- The shortest decimal that rounds to a double; seventeen digits are always enough. -/
def Dyadic.shortest (x : Dyadic) : Fraction :=
  let r := x.rounding
  let e := leadingExponent r.middle r.denominator
  let found := (List.range 17).findSome? fun (n : Nat) =>
    (r.onGrid (e - n)).map fun d => Fraction.stripZeros ⟨d, e - n⟩
  found.getD ⟨x.multiple, 0⟩

end CatalogImport.Decimal
