import CatalogImport.Text.Hex
import CatalogImport.Text.Lowercase
import CatalogImport.Text.PrintTable

/-!
# Quoted text

Text shown between double quotes for a reader of messages: the quote, the backslash and the usual
control characters by a letter, every other character without a form of its own by its code point.
-/

namespace CatalogImport.Text

/-- A character that a reader would not see, or would see on top of the one before it. -/
def isUnseen (c : Char) : Bool := inRanges extendingRanges c || inRanges unprintableRanges c

/-- How a character is written between the quotes. -/
def quoteChar (c : Char) : String :=
  match c with
  | '"' => "\\\""
  | '\\' => "\\\\"
  | '\t' => "\\t"
  | '\n' => "\\n"
  | '\r' => "\\r"
  | '\x00' => "\\0"
  | c =>
    if isUnseen c then "\\u\x7b" ++ hexDigits c.toNat ++ "\x7d" else c.toString

/-- The text between double quotes. -/
def quoted (s : String) : String :=
  "\"" ++ String.join (s.toList.map quoteChar) ++ "\""

end CatalogImport.Text
