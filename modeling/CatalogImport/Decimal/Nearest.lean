/-!
# The double nearest to a ratio

A double of 64 bits is a whole multiple of a power of two; its multiple has at most 53 bits and its
power is never below the 1074th negative one.  A ratio goes to the nearest of them, a tie to the
one whose multiple is even.
-/

namespace CatalogImport.Decimal

/-- The whole number nearest to a ratio, of two equally near ones the even one. -/
def roundHalfEven (num den : Nat) : Nat :=
  let q := num / den
  let r := num % den
  if 2 * r < den then q else if 2 * r > den then q + 1 else q + q % 2

/-- The ratio `num / den` times two to the power `-q`, as numerator and denominator. -/
def scaleRatio (num den : Nat) (q : Int) : Nat × Nat :=
  if q < 0 then (num * Nat.pow 2 q.natAbs, den) else (num, den * Nat.pow 2 q.natAbs)

/-- The power of two that is the unit in the last place of a ratio: the one by which the ratio is a
multiple of 53 bits, or the least power there is. -/
def unitExponent (num den : Nat) : Int :=
  let l : Int := num.log2 - den.log2
  let (n, d) := scaleRatio num den l
  max (-1074) (if d ≤ n then l - 52 else l - 53)

/-- The bits of the double nearest to `num / den`, infinity when none is near enough. -/
def nearestBits (num den : Nat) : Nat :=
  if num = 0 then 0
  else
    let q := unitExponent num den
    let (n, d) := scaleRatio num den q
    let bits := (q + 1074).toNat * Nat.pow 2 52 + roundHalfEven n d
    min bits (2047 * Nat.pow 2 52)

/-- The double nearest to `num / den`. -/
def nearest (num den : Nat) : Float := Float.ofBits (UInt64.ofNat (nearestBits num den))

/-- The double nearest to a decimal fraction.  Fractions whose first digit stands far outside the
range of doubles are settled by that alone. -/
def nearestDecimal (significand : Nat) (exponent : Int) : Float :=
  if significand = 0 then 0.0
  else
    let first : Int := exponent + (Nat.toDigits 10 significand).length
    if first > 400 then nearest (Nat.pow 10 400) 1
    else if first < -400 then 0.0
    else if exponent < 0 then nearest significand (Nat.pow 10 exponent.natAbs)
    else nearest (significand * Nat.pow 10 exponent.natAbs) 1

/-- The double nearest to a whole number. -/
def ofNat (n : Nat) : Float := nearest n 1

end CatalogImport.Decimal
