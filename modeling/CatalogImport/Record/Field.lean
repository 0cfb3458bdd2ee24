import CatalogImport.Calendar.Date
import CatalogImport.Json.Printer
import CatalogImport.Record.Violation

/-!
# Field rules

How the fields of a record are taken out of the members of an object.  A member that is `null` counts
as absent for every rule, and members that no rule asks for play no part.
-/

namespace CatalogImport.Field

open CatalogImport.Json

/-- The members of an object. -/
abbrev Members := List (String × Value)

/-- The members of a value, which has to be an object. -/
def members : Value → Except Violation Members
  | .object ms => .ok ms
  | v => .error (.notAnObject v.typeName)

/-- The member under a key, unless it is `null`. -/
def present? (ms : Members) (field : String) : Option Value :=
  match findRow? field ms with
  | some .null => none
  | found => found

/-- A text without the blanks around it, which is `none` when nothing is left and has at most so
many characters. -/
def boundedText (field : String) (most : Nat) : Value → Except Violation (Option String)
  | .text s =>
    let cs := Text.trimChars s.toList
    if cs = [] then .ok none
    else if most < cs.length then .error (.tooLong field most cs.length)
    else .ok (some (String.ofList cs))
  | v => .error (.wrongType field "a string" v.typeName)

/-- A text that must be there and must not be blank. -/
def requiredText (ms : Members) (field : String) (most : Nat) : Except Violation String :=
  match present? ms field with
  | none => .error (.missing field)
  | some v =>
    match boundedText field most v with
    | .error e => .error e
    | .ok none => .error (.missing field)
    | .ok (some s) => .ok s

/-- A text that may be absent; a blank one counts as absent. -/
def optionalText (ms : Members) (field : String) (most : Nat) :
    Except Violation (Option String) :=
  match present? ms field with
  | none => .ok none
  | some v => boundedText field most v

/-- A date written in a text, which may have blanks around it. -/
def optionalDate (ms : Members) (field : String) : Except Violation (Option Calendar.Date) :=
  match present? ms field with
  | none => .ok none
  | some (.text s) =>
    match Calendar.Date.ofText? (Text.trim s) with
    | some date => .ok (some date)
    | none => .error (.notADate field s)
  | some v => .error (.wrongType field "a date string" v.typeName)

/-- The truth value that a JSON value stands for. -/
def truth? : Value → Option Bool
  | .bool b => some b
  | .number (.integer 0) => some false
  | .number (.integer 1) => some true
  | .text s =>
    match Text.lowerAsciiText (Text.trim s) with
    | "true" | "1" | "yes" => some true
    | "false" | "0" | "no" => some false
    | _ => none
  | _ => none

/-- A truth value, which is false when absent. -/
def flag (ms : Members) (field : String) : Except Violation Bool :=
  match present? ms field with
  | none => .ok false
  | some v =>
    match truth? v with
    | some b => .ok b
    | none => .error (.wrongType field "a boolean" v.compact)

/-- The count below `2 ^ 32` that a JSON value stands for, as a number or a numeral. -/
def count? : Value → Option Nat
  | .number (.integer i) => if 0 ≤ i ∧ i < Nat.pow 2 32 then some i.toNat else none
  | .text s => Decimal.unsigned? (Nat.pow 2 32) (Text.trimChars s.toList)
  | _ => none

/-- A count that may be absent. -/
def optionalCount (ms : Members) (field : String) : Except Violation (Option Nat) :=
  match present? ms field with
  | none => .ok none
  | some v =>
    match count? v with
    | some n => .ok (some n)
    | none => .error (.wrongType field "a non-negative integer" v.compact)

end CatalogImport.Field
