import CatalogImport.Decimal.Digits
import CatalogImport.Decimal.Nearest
import CatalogImport.Decimal.Shortest

/-!
# Spans of time

Lengths of time in seconds and nanoseconds, read from a number of seconds and shown in the largest
unit that fits.
-/

namespace CatalogImport.Calendar

open CatalogImport.Decimal

/-- A length of time; there are a thousand million nanoseconds in a second. -/
structure Span where
  seconds : Nat
  nanos : Nat
  deriving DecidableEq

/-- The span of a number of nanoseconds. -/
def Span.ofNanos (n : Nat) : Span := ⟨n / 1000000000, n % 1000000000⟩

/-- The span of a number of milliseconds. -/
def Span.ofMillis (n : Nat) : Span := ⟨n / 1000, n % 1000 * 1000000⟩

/-- All of a span in nanoseconds. -/
def Span.toNanos (s : Span) : Nat := s.seconds * 1000000000 + s.nanos

/-- The whole milliseconds of a span. -/
def Span.wholeMillis (s : Span) : Nat := s.seconds * 1000 + s.nanos / 1000000

/-- Decimal places after a point, without the zeros at their end; nothing when all are zero. -/
def places (width value : Nat) : String :=
  let ds := (padded width value).toList.reverse.dropWhile (· == '0')
  if ds = [] then "" else "." ++ String.ofList ds.reverse

/-- The span in the largest unit of which it has at least one. -/
def Span.text (s : Span) : String :=
  if 0 < s.seconds then numeral s.seconds ++ places 9 s.nanos ++ "s"
  else if 1000000 ≤ s.nanos then numeral (s.nanos / 1000000) ++ places 6 (s.nanos % 1000000) ++ "ms"
  else if 1000 ≤ s.nanos then numeral (s.nanos / 1000) ++ places 3 (s.nanos % 1000) ++ "µs"
  else numeral s.nanos ++ "ns"

/-- The span nearest to a number of seconds, a tie going to the even nanosecond.  There is none below
zero or of more than 64 bits of seconds. -/
def Span.ofSeconds? (x : Float) : Option Span :=
  match Shown.ofBits x.toBits.toNat with
  | .nan | .infinite _ => none
  | .zero _ => some ⟨0, 0⟩
  | .finite true _ => none
  | .finite false size =>
    let (num, den) := scaleRatio size.multiple 1 (-size.exponent)
    let span := Span.ofNanos (roundHalfEven (num * 1000000000) den)
    if span.seconds < Nat.pow 2 64 then some span else none

end CatalogImport.Calendar
