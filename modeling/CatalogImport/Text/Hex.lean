/-!
# Hexadecimal digits
-/

namespace CatalogImport.Text

/-- Digits of a number in lowercase hexadecimal, without leading zeros. -/
def hexDigits (n : Nat) : String := String.ofList (Nat.toDigits 16 n)

/-- The value of a hexadecimal digit in either case. -/
def hexValue? (b : UInt8) : Option Nat :=
  if 0x30 ≤ b ∧ b ≤ 0x39 then some (b.toNat - 48)
  else if 0x61 ≤ b ∧ b ≤ 0x66 then some (b.toNat - 87)
  else if 0x41 ≤ b ∧ b ≤ 0x46 then some (b.toNat - 55)
  else none

/-- The bytes that pairs of digits write; pairs that are none of digits are left out. -/
def bytesOfHex : List UInt8 → List UInt8
  | a :: b :: rest =>
    match hexValue? a, hexValue? b with
    | some high, some low => UInt8.ofNat (16 * high + low) :: bytesOfHex rest
    | _, _ => bytesOfHex rest
  | _ => []

end CatalogImport.Text
