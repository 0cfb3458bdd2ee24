/-!
# Decimal numerals

Numbers written in the ten digits, with leading zeros up to a width, and numerals read back.
-/

namespace CatalogImport.Decimal

/-- The character is one of the ten ASCII digits. -/
def isDigit (c : Char) : Bool := '0' ≤ c && c ≤ '9'

/-- The value of a digit. -/
def digitValue (c : Char) : Nat := c.toNat - '0'.toNat

/-- The numeral of a number, with no leading zero. -/
def numeral (n : Nat) : String := String.ofList (Nat.toDigits 10 n)

/-- The numeral of an integer, with a minus sign below zero. -/
def signedNumeral (i : Int) : String :=
  if i < 0 then "-" ++ numeral i.natAbs else numeral i.natAbs

/-- The numeral with leading zeros up to a width. -/
def padded (width : Nat) (n : Nat) : String :=
  let ds := Nat.toDigits 10 n
  String.ofList (List.replicate (width - ds.length) '0' ++ ds)

/-- The number that digits write, continuing from a number already read. -/
def valueFrom (start : Nat) (cs : List Char) : Nat :=
  cs.foldl (fun n c => 10 * n + digitValue c) start

/-- The number that a nonempty row of digits writes; leading zeros are fine. -/
def natural? (cs : List Char) : Option Nat :=
  if cs ≠ [] ∧ cs.all isDigit then some (valueFrom 0 cs) else none

/-- A number below `limit`, written in digits that one plus sign may precede. -/
def unsigned? (limit : Nat) (cs : List Char) : Option Nat :=
  let digits := match cs with
    | '+' :: rest => rest
    | cs => cs
  (natural? digits).filter (· < limit)

end CatalogImport.Decimal
