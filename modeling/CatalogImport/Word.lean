/-!
# Sums and differences in 64 bits

Counts have 64 bits.  A sum that they do not hold, and a difference below zero, is none at all: the computation
breaks down there.
-/

namespace CatalogImport.Word

/-- The sum of two numbers, if 64 bits hold it. -/
def add? (m n : Nat) : Option Nat := if m + n < Nat.pow 2 64 then some (m + n) else none

/-- The difference of two numbers, unless it is below zero. -/
def sub? (m n : Nat) : Option Nat := if n ≤ m then some (m - n) else none

end CatalogImport.Word
