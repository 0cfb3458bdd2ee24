import CatalogImport.Json.Value

/-!
# Looking into values

What a value is or has under a key, if it is of the kind that one looks for.  A member that is `null`
counts as none.
-/

namespace CatalogImport.Json.Value

/-- The member under a key. -/
def at? (v : Value) (key : String) : Option Value :=
  match v.member? key with
  | some .null => none
  | found => found

/-- The text that a value is. -/
def text? : Value → Option String
  | .text s => some s
  | _ => none

/-- The whole number that a value is. -/
def int? : Value → Option Int
  | .number (.integer i) => some i
  | _ => none

/-- The count that a value is. -/
def nat? (v : Value) : Option Nat := v.int?.bind fun i => if i < 0 then none else some i.toNat

/-- The truth value that a value is. -/
def bool? : Value → Option Bool
  | .bool b => some b
  | _ => none

/-- The items of an array; other values have none. -/
def items : Value → List Value
  | .array items => items
  | _ => []

/-- The members of an object; other values have none. -/
def members : Value → List (String × Value)
  | .object members => members
  | _ => []

/-- The text under a key. -/
def textAt? (v : Value) (key : String) : Option String := (v.at? key).bind text?

/-- The whole number under a key. -/
def intAt? (v : Value) (key : String) : Option Int := (v.at? key).bind int?

/-- The count under a key. -/
def natAt? (v : Value) (key : String) : Option Nat := (v.at? key).bind nat?

/-- The truth value under a key. -/
def boolAt? (v : Value) (key : String) : Option Bool := (v.at? key).bind bool?

/-- The items of the array under a key. -/
def itemsAt (v : Value) (key : String) : List Value := ((v.at? key).map items).getD []

/-- The texts in the array under a key. -/
def textsAt (v : Value) (key : String) : List String := (v.itemsAt key).filterMap text?

/-- The members of an object with the texts that they are; others count as empty. -/
def textMembers (v : Value) : List (String × String) :=
  v.members.map fun (key, value) => (key, value.text?.getD "")

/-- The members of the object under a key. -/
def membersAt (v : Value) (key : String) : List (String × Value) := ((v.at? key).map members).getD []

end CatalogImport.Json.Value
