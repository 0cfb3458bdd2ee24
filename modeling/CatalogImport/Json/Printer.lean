import CatalogImport.Decimal.Layout
import CatalogImport.Json.Value
import CatalogImport.Text.Quoted

/-!
# Writing JSON

A value is written on one line without blanks, or over several lines with two blanks of indent for
each level.
-/

namespace CatalogImport.Json

open CatalogImport.Decimal

/-- Doubles in JSON have a point or an exponent, and a sign before every exponent; the point alone
serves from the fifth place after it to the sixteenth before it. -/
def numberLayout : Layout := ⟨some (-5), some 16, true, true⟩

/-- The text of a double; one that is infinite or no number at all is written `null`. -/
def doubleText (x : Float) : String := if x.isFinite then numberLayout.text x else "null"

/-- The text of a number. -/
def Number.text : Number → String
  | .integer i => signedNumeral i
  | .double x => doubleText x

/-- How a character is written within a string. -/
def escaped (c : Char) : String :=
  match c with
  | '"' => "\\\""
  | '\\' => "\\\\"
  | '\n' => "\\n"
  | '\r' => "\\r"
  | '\t' => "\\t"
  | '\x08' => "\\b"
  | '\x0c' => "\\f"
  | c =>
    if c.toNat < 32 then
      "\\u" ++ String.ofList (List.replicate (4 - (Text.hexDigits c.toNat).length) '0')
        ++ Text.hexDigits c.toNat
    else c.toString

/-- The text of a string, quotes included. -/
def stringText (s : String) : String :=
  "\"" ++ s.foldl (fun out c => out ++ escaped c) "" ++ "\""

mutual

/-- The value on one line. -/
def Value.compact : Value → String
  | .null => "null"
  | .bool b => if b then "true" else "false"
  | .number n => n.text
  | .text s => stringText s
  | .array items => "[" ++ compactItems items ++ "]"
  | .object members => "\x7b" ++ compactMembers members ++ "\x7d"

/-- Values with commas between them. -/
def compactItems : List Value → String
  | [] => ""
  | [v] => v.compact
  | v :: rest => v.compact ++ "," ++ compactItems rest

/-- Members with commas between them. -/
def compactMembers : List (String × Value) → String
  | [] => ""
  | [(k, v)] => stringText k ++ ":" ++ v.compact
  | (k, v) :: rest => stringText k ++ ":" ++ v.compact ++ "," ++ compactMembers rest

end

/-- The start of a line at a level of indent. -/
def lineStart (level : Nat) : String :=
  "\n" ++ String.ofList (List.replicate (2 * level) ' ')

mutual

/-- The value over several lines, of which the first is at a level of indent. -/
def Value.indented (level : Nat) : Value → String
  | .array [] => "[]"
  | .array items => "[" ++ indentedItems (level + 1) items ++ lineStart level ++ "]"
  | .object [] => "\x7b\x7d"
  | .object members => "\x7b" ++ indentedMembers (level + 1) members ++ lineStart level ++ "\x7d"
  | .null => "null"
  | .bool b => if b then "true" else "false"
  | .number n => n.text
  | .text s => stringText s

/-- Values on lines of their own. -/
def indentedItems (level : Nat) : List Value → String
  | [] => ""
  | [v] => lineStart level ++ v.indented level
  | v :: rest => lineStart level ++ v.indented level ++ "," ++ indentedItems level rest

/-- Members on lines of their own. -/
def indentedMembers (level : Nat) : List (String × Value) → String
  | [] => ""
  | [(k, v)] => lineStart level ++ stringText k ++ ": " ++ v.indented level
  | (k, v) :: rest =>
    lineStart level ++ stringText k ++ ": " ++ v.indented level ++ "," ++ indentedMembers level rest

end

/-- The value over several lines. -/
def Value.pretty (v : Value) : String := v.indented 0

end CatalogImport.Json
