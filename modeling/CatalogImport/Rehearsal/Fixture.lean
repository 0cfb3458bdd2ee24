import CatalogImport.Decimal.Digits
import CatalogImport.Json.Printer

/-!
# Documents to rehearse with

Elements that describe card sets, made from a number, and documents that hold some of them.
-/

namespace CatalogImport.Fixture

open CatalogImport.Decimal CatalogImport.Json

/-- An element that describes the card set with a number. -/
def rawSet (n : Nat) : Value :=
  let code := "t" ++ padded 4 n
  .ofMembers
    [("object", .text "set"),
     ("id", .text ("00000000-0000-4000-8000-" ++ padded 12 n)),
     ("code", .text code),
     ("name", .text ("Test Set " ++ numeral n)),
     ("set_type", .text (if n % 2 = 0 then "expansion" else "core")),
     ("released_at", .text "2021-04-23"),
     ("card_count", .nat 250),
     ("digital", .bool false),
     ("foil_only", .bool false),
     ("nonfoil_only", .bool false),
     ("icon_svg_uri", .text ("https://svgs.example.test/sets/" ++ code ++ ".svg"))]

/-- The elements with the numbers below a bound. -/
def rawSets (count : Nat) : List Value := (List.range count).map rawSet

/-- An element like the card set with a number, but without its name. -/
def namelessSet (n : Nat) : Value :=
  match rawSet n with
  | .object members => .object (members.filter (·.1 ≠ "name"))
  | v => v

/-- A document that holds elements. -/
def document (elements : List Value) : Value :=
  .ofMembers
    [("data", .array elements), ("has_more", .bool false), ("object", .text "list")]

/-- So many elements that describe card sets, without names at certain positions. -/
def someNameless (count : Nat) (nameless : List Nat) : List Value :=
  (List.range count).map fun n => if nameless.contains n then namelessSet n else rawSet n

end CatalogImport.Fixture
