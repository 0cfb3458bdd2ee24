import CatalogImport.Json.Printer
import CatalogImport.Json.Scan

/-!
# Reading JSON values

Values are read strictly: numbers in range, strings in valid encoding, no comma before a closing
bracket, and brackets nested no deeper than a limit.  The limit is what the recursion runs on, and
within one pair of brackets the bytes are, of which every item takes at least one.
-/

namespace CatalogImport.Json

/-- Whether there is something between two brackets: what closes them, or a first item. -/
inductive More where
  | closed (rest : List UInt8)
  | item (rest : List UInt8)

/-- What follows the bracket that opens a list: its end or its first item. -/
def firstItem (bytes : List UInt8) : Except Fault More :=
  match skipBlanks bytes with
  | [] => .error (.taken .endInList [])
  | b :: rest => .ok (if b = byte ']' then .closed rest else .item (b :: rest))

/-- What follows an item of a list: its end or, after a comma, the next item. -/
def nextItem (bytes : List UInt8) : Except Fault More :=
  match skipBlanks bytes with
  | [] => .error (.taken .endInList [])
  | b :: rest =>
    if b = byte ']' then .ok (.closed rest)
    else if b = byte ',' then
      match skipBlanks rest with
      | [] => .error (.taken .endInValue [])
      | c :: after =>
        if c = byte ']' then .error (.peeked .trailingComma (c :: after))
        else .ok (.item (c :: after))
    else .error (.peeked .expectedCommaInList (b :: rest))

/-- What follows the brace that opens an object: its end or the quote of its first key. -/
def firstMember (bytes : List UInt8) : Except Fault More :=
  match skipBlanks bytes with
  | [] => .error (.taken .endInObject [])
  | b :: rest =>
    if b = byte '\x7d' then .ok (.closed rest)
    else if b = byte '"' then .ok (.item rest)
    else .error (.peeked .keyNotString (b :: rest))

/-- What follows a member of an object: its end or, after a comma, the quote of the next key. -/
def nextMember (bytes : List UInt8) : Except Fault More :=
  match skipBlanks bytes with
  | [] => .error (.taken .endInObject [])
  | b :: rest =>
    if b = byte '\x7d' then .ok (.closed rest)
    else if b = byte ',' then
      match skipBlanks rest with
      | [] => .error (.taken .endInValue [])
      | c :: after =>
        if c = byte '"' then .ok (.item after)
        else if c = byte '\x7d' then .error (.peeked .trailingComma (c :: after))
        else .error (.peeked .keyNotString (c :: after))
    else .error (.peeked .expectedCommaInObject (b :: rest))

/-- Takes the colon between a key and its value. -/
def readColon : Reader Unit := fun bytes =>
  match skipBlanks bytes with
  | [] => .error (.taken .endInObject [])
  | b :: rest =>
    if b = byte ':' then .ok ((), rest) else .error (.peeked .expectedColon (b :: rest))

/-- Takes the rest of a list from an item on; `taken` holds the items before, the last one first. -/
def readItems {α : Type} (item : Reader α) (taken : List α) : Nat → Reader (List α)
  | 0, bytes => .error (.taken .endInList bytes)
  | fuel + 1, bytes => do
    let (value, rest) ← item bytes
    match ← nextItem rest with
    | .closed rest => return ((value :: taken).reverse, rest)
    | .item rest => readItems item (value :: taken) fuel rest

/-- Takes the rest of a list whose bracket has been taken. -/
def readList {α : Type} (item : Reader α) : Reader (List α) := fun bytes => do
  match ← firstItem bytes with
  | .closed rest => return ([], rest)
  | .item rest => readItems item [] bytes.length rest

/-- Takes the rest of an object from within a key on; `taken` holds the members before. -/
def readMembers (item : Reader Value) (taken : List (String × Value)) :
    Nat → Reader (List (String × Value))
  | 0, bytes => .error (.taken .endInObject bytes)
  | fuel + 1, bytes => do
    let (key, rest) ← readString bytes
    let ((), rest) ← readColon rest
    let (value, rest) ← item rest
    match ← nextMember rest with
    | .closed rest => return (putRow key value taken, rest)
    | .item rest => readMembers item (putRow key value taken) fuel rest

/-- Takes the rest of an object whose brace has been taken; of members with one key the last
counts. -/
def readObject (item : Reader Value) : Reader (List (String × Value)) := fun bytes => do
  match ← firstMember bytes with
  | .closed rest => return ([], rest)
  | .item rest => readMembers item [] bytes.length rest

/-- Takes a value in which brackets may be nested to a depth. -/
def readValue (streamed : Bool) : (depth : Nat) → Reader Value
  | depth, bytes =>
    match skipBlanks bytes with
    | [] => .error (.taken .endInValue [])
    | b :: rest =>
      if b = byte 'n' then do
        let ((), rest) ← readWord [byte 'u', byte 'l', byte 'l'] rest
        return (.null, rest)
      else if b = byte 't' then do
        let ((), rest) ← readWord [byte 'r', byte 'u', byte 'e'] rest
        return (.bool true, rest)
      else if b = byte 'f' then do
        let ((), rest) ← readWord [byte 'a', byte 'l', byte 's', byte 'e'] rest
        return (.bool false, rest)
      else if b = byte '-' then do
        let (n, rest) ← readNumber streamed true rest
        return (.number n, rest)
      else if isDigitByte b then do
        let (n, rest) ← readNumber streamed false (b :: rest)
        return (.number n, rest)
      else if b = byte '"' then do
        let (s, rest) ← readString rest
        return (.text s, rest)
      else if b = byte '[' then
        match depth with
        | 0 => .error (.peeked .tooDeep (b :: rest))
        | depth + 1 => do
          let (items, rest) ← readList (readValue streamed depth) rest
          return (.array items, rest)
      else if b = byte '\x7b' then
        match depth with
        | 0 => .error (.peeked .tooDeep (b :: rest))
        | depth + 1 => do
          let (members, rest) ← readObject (readValue streamed depth) rest
          return (.object members, rest)
      else .error (.peeked .expectedValue (b :: rest))

/-- How deep brackets may be nested in a text. -/
def depthLimit : Nat := 127

/-- Nothing but blanks is left. -/
def readEnd (bytes : List UInt8) : Except Fault Unit :=
  match skipBlanks bytes with
  | [] => .ok ()
  | rest => .error (.peeked .trailingCharacters rest)

/-- Reads a whole text held in memory. -/
def readText {α : Type} (read : Reader α) (bytes : List UInt8) : Except Fault α := do
  let (value, rest) ← read bytes
  readEnd rest
  return value

/-- The bytes of a text. -/
def bytesOf (s : String) : List UInt8 := s.toUTF8.toList

/-- The value that a text writes, or what is wrong with the text and where. -/
def Value.parse (s : String) : Except String Value :=
  (readText (readValue false depthLimit) (bytesOf s)).mapError (·.message (bytesOf s))

/-! ## Values of a certain shape -/

/-- What a value is, in the words of a complaint about its shape. -/
def Value.described : Value → String
  | .null => "null"
  | .bool b => "boolean `" ++ (if b then "true" else "false") ++ "`"
  | .number (.integer i) => "integer `" ++ Decimal.signedNumeral i ++ "`"
  | .number (.double x) => "floating point `" ++ doubleText x ++ "`"
  | .text s => "string " ++ Text.quoted s
  | .array _ => "sequence"
  | .object _ => "map"

/-- The complaint that a value is not what was expected. -/
def wrongType (found : Value) (expected : String) : Cause :=
  .shape ("invalid type: " ++ found.described ++ ", expected " ++ expected)

/-- The fault of a value that is not of the expected shape.  A value without brackets is read
first, and may turn out to be no value at all; of a list or an object only the bracket is seen. -/
def shapeFault (streamed : Bool) (expected : String) (bytes : List UInt8) : Fault :=
  match skipBlanks bytes with
  | [] => .taken .endInValue []
  | b :: rest =>
    let bracket (v : Value) : Fault :=
      ⟨wrongType v expected, if streamed then rest.length else rest.length + 1⟩
    if b = byte '[' then bracket (.array [])
    else if b = byte '\x7b' then bracket (.object [])
    else
      match readValue streamed 0 (b :: rest) with
      | .error fault => fault
      | .ok (.number n, rest) =>
        ⟨wrongType (.number n) expected, unseenAfterNumber streamed rest⟩
      | .ok (value, rest) => .taken (wrongType value expected) rest

end CatalogImport.Json
