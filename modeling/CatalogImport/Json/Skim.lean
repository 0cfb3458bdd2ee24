import CatalogImport.Json.Reader

/-!
# Skimming over JSON values

A value that nobody wants is taken without being read: brackets may be nested to any depth, numbers
may have any size, and strings any bytes.  The brackets that are open are kept in a list, and every
step takes a byte or closes in on one.
-/

namespace CatalogImport.Json

/-- A pair of brackets that has been opened. -/
inductive Bracket where
  | list
  | object
  deriving DecidableEq

/-- What may come next. -/
inductive Awaited where
  /-- A value. -/
  | value
  /-- The first item between the brackets opened last, or their end. -/
  | first
  /-- A comma or the end of the brackets opened last. -/
  | next
  deriving DecidableEq

/-- The byte that closes a pair of brackets. -/
def Bracket.close : Bracket → UInt8
  | .list => byte ']'
  | .object => byte '\x7d'

/-- The fault of a text that ends between brackets. -/
def Bracket.cut : Bracket → Cause
  | .list => .endInList
  | .object => .endInObject

/-- The fault of an item that is followed by neither a comma nor the end of its brackets. -/
def Bracket.noComma : Bracket → Cause
  | .list => .expectedCommaInList
  | .object => .expectedCommaInObject

/-- Takes what stands before a value between brackets: nothing in a list, a key in an object. -/
def skimKey : Bracket → List UInt8 → Except Fault (List UInt8)
  | .list, bytes => .ok bytes
  | .object, bytes =>
    match skipBlanks bytes with
    | [] => .error (.taken .endInObject [])
    | b :: rest =>
      if b = byte '"' then do
        let ((), rest) ← skipString rest
        let ((), rest) ← readColon rest
        return rest
      else .error (.peeked .keyNotString (b :: rest))

/-- Takes a value without brackets. -/
def skimLeaf (b : UInt8) (rest : List UInt8) : Except Fault (List UInt8) :=
  if b = byte 'n' then (·.2) <$> readWord [byte 'u', byte 'l', byte 'l'] rest
  else if b = byte 't' then (·.2) <$> readWord [byte 'r', byte 'u', byte 'e'] rest
  else if b = byte 'f' then (·.2) <$> readWord [byte 'a', byte 'l', byte 's', byte 'e'] rest
  else if b = byte '-' then (·.2) <$> readLiteral .invalidNumber true rest
  else if isDigitByte b then (·.2) <$> readLiteral .invalidNumber false (b :: rest)
  else if b = byte '"' then (·.2) <$> skipString rest
  else .error (.peeked .expectedValue (b :: rest))

/-- One step: what is awaited then and between which brackets, or nothing more, and what is left. -/
def skimStep (awaited : Awaited) (brackets : List Bracket) (bytes : List UInt8) :
    Except Fault (Option (Awaited × List Bracket) × List UInt8) :=
  match awaited, brackets with
  | .value, brackets =>
    match skipBlanks bytes with
    | [] => .error (.taken .endInValue [])
    | b :: rest =>
      if b = byte '[' then .ok (some (.first, .list :: brackets), rest)
      else if b = byte '\x7b' then .ok (some (.first, .object :: brackets), rest)
      else do
        let rest ← skimLeaf b rest
        return (some (.next, brackets), rest)
  | _, [] => .ok (none, bytes)
  | awaited, bracket :: outer =>
    match skipBlanks bytes with
    | [] => .error (.taken bracket.cut [])
    | b :: rest =>
      if b = bracket.close then .ok (some (.next, outer), rest)
      else if awaited = .first then do
        let rest ← skimKey bracket (b :: rest)
        return (some (.value, bracket :: outer), rest)
      else if b = byte ',' then do
        let rest ← skimKey bracket rest
        return (some (.value, bracket :: outer), rest)
      else .error (.peeked bracket.noComma (b :: rest))

/-- Steps until nothing more is awaited. -/
def skimFrom : Nat → Awaited → List Bracket → List UInt8 → Except Fault (List UInt8)
  | 0, _, _, bytes => .error (.taken .endInValue bytes)
  | fuel + 1, awaited, brackets, bytes =>
    match skimStep awaited brackets bytes with
    | .error fault => .error fault
    | .ok (none, rest) => .ok rest
    | .ok (some (awaited, brackets), rest) => skimFrom fuel awaited brackets rest

/-- Takes a value without reading it. -/
def skimValue (bytes : List UInt8) : Except Fault (List UInt8) :=
  skimFrom (2 * bytes.length + 2) .value [] bytes

end CatalogImport.Json
