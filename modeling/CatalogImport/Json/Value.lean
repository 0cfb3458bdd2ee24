import CatalogImport.Index

/-!
# JSON values

Numbers are integers of 64 bits, signed or not, or doubles; the members of an object stand in the
order of their keys, each key once.
-/

namespace CatalogImport.Json

/-- A number as it was written: whole and in range, or anything else. -/
inductive Number where
  /-- A whole number from the least signed to the greatest unsigned one of 64 bits. -/
  | integer (i : Int)
  | double (x : Float)

/-- A JSON value. -/
inductive Value where
  | null
  | bool (b : Bool)
  | number (n : Number)
  | text (s : String)
  | array (items : List Value)
  | object (members : List (String × Value))

/-- The value has no meaning; it stands for an absent answer. -/
instance : Inhabited Value := ⟨.null⟩

namespace Value

/-- The number of a count. -/
def nat (n : Nat) : Value := .number (.integer n)

/-- The object with these members, of which the last with a key counts. -/
def ofMembers (members : List (String × Value)) : Value :=
  .object (members.foldl (fun rows m => putRow m.1 m.2 rows) [])

/-- The member of an object under a key. -/
def member? (v : Value) (key : String) : Option Value :=
  match v with
  | .object members => findRow? key members
  | _ => none

/-- The word for the kind of a value. -/
def typeName : Value → String
  | .null => "null"
  | .bool _ => "boolean"
  | .number _ => "number"
  | .text _ => "string"
  | .array _ => "array"
  | .object _ => "object"

/-- The value as a text, or `null` when there is none. -/
def ofText? (s : Option String) : Value := (s.map .text).getD .null

/-- The value as a count, or `null` when there is none. -/
def ofNat? (n : Option Nat) : Value := (n.map .nat).getD .null

end Value

end CatalogImport.Json
