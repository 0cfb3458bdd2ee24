import CatalogImport.Decimal.Digits

/-!
# Violations

Why an element of a document is not a record of the catalog.
-/

namespace CatalogImport

open CatalogImport.Decimal

/-- The rule that an element breaks. -/
inductive Violation where
  /-- The element is not an object but this. -/
  | notAnObject (found : String)
  | missing (field : String)
  | wrongType (field expected found : String)
  /-- The field has more characters than it may have. -/
  | tooLong (field : String) (most actual : Nat)
  /-- The text of the field is no date. -/
  | notADate (field value : String)
  deriving DecidableEq

/-- The violation in words. -/
def Violation.message : Violation → String
  | .notAnObject found => "record must be a JSON object, got " ++ found
  | .missing field => "missing required field '" ++ field ++ "'"
  | .wrongType field expected found =>
    "field '" ++ field ++ "' must be " ++ expected ++ ", got " ++ found
  | .tooLong field most actual =>
    "field '" ++ field ++ "' exceeds " ++ numeral most ++ " characters (" ++ numeral actual ++ ")"
  | .notADate field value =>
    "field '" ++ field ++ "' is not a valid YYYY-MM-DD date: '" ++ value ++ "'"

end CatalogImport
