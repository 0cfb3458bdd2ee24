import CatalogImport.Batch.Result
import CatalogImport.Json.Skim

/-!
# Reading batch results

A batch result is written as an object with five members in any order, each once, or as the array of
the five values.  Members with other keys are skimmed over.
-/

namespace CatalogImport.BatchResult

open CatalogImport.Json

/-! ## Values of one shape -/

/-- Takes a count of 64 bits. -/
def readCount : Reader Nat := fun bytes =>
  match skipBlanks bytes with
  | [] => .error (.taken .endInValue [])
  | b :: rest =>
    if b = byte '-' ∨ isDigitByte b then do
      let (n, rest) ←
        if b = byte '-' then readNumber false true rest else readNumber false false (b :: rest)
      match n with
      | .integer (.ofNat n) => return (n, rest)
      | .integer i =>
        let found := "integer `" ++ Decimal.signedNumeral i ++ "`"
        .error (.taken (.shape ("invalid value: " ++ found ++ ", expected u64")) rest)
      | n => .error (.taken (wrongType (.number n) "u64") rest)
    else .error (shapeFault false "u64" (b :: rest))

/-- Takes a string. -/
def readOneText : Reader String := fun bytes =>
  match skipBlanks bytes with
  | [] => .error (.taken .endInValue [])
  | b :: rest =>
    if b = byte '"' then readString rest else .error (shapeFault false "a string" (b :: rest))

/-- Takes an array of strings. -/
def readTexts : Reader (List String) := fun bytes =>
  match skipBlanks bytes with
  | [] => .error (.taken .endInValue [])
  | b :: rest =>
    if b = byte '[' then readList readOneText rest
    else .error (shapeFault false "a sequence" (b :: rest))

/-! ## The five values -/

/-- The values met so far. -/
structure Partial where
  total : Option Nat
  successful : Option Nat
  failed : Option Nat
  insertedIds : Option (List String)
  errorDetails : Option (List String)

/-- The report, once every value has been met; else the key of the first one missing. -/
def Partial.complete (p : Partial) : Except String BatchResult :=
  match p with
  | ⟨none, _, _, _, _⟩ => .error "total_processed"
  | ⟨_, none, _, _, _⟩ => .error "successful_inserts"
  | ⟨_, _, none, _, _⟩ => .error "failed_inserts"
  | ⟨_, _, _, none, _⟩ => .error "inserted_ids"
  | ⟨_, _, _, _, none⟩ => .error "error_details"
  | ⟨some t, some s, some f, some i, some e⟩ => .ok ⟨t, s, f, i, e⟩

/-- Takes the value of a member that has not been met before. -/
def readOnce {α : Type} (key : String) (old : Option α) (read : Reader α) : Reader (Option α) := fun bytes =>
  match old with
  | some _ =>
    .error (.taken (.shape ("duplicate field `" ++ key ++ "`")) (skipBlanks bytes))
  | none => do
    let ((), rest) ← readColon bytes
    let (value, rest) ← read rest
    return (some value, rest)

/-- Takes the colon and the value of a member. -/
def readField (p : Partial) (key : String) : Reader Partial := fun bytes => do
  match key with
  | "total_processed" =>
    let (v, rest) ← readOnce key p.total readCount bytes
    return ({ p with total := v }, rest)
  | "successful_inserts" =>
    let (v, rest) ← readOnce key p.successful readCount bytes
    return ({ p with successful := v }, rest)
  | "failed_inserts" =>
    let (v, rest) ← readOnce key p.failed readCount bytes
    return ({ p with failed := v }, rest)
  | "inserted_ids" =>
    let (v, rest) ← readOnce key p.insertedIds readTexts bytes
    return ({ p with insertedIds := v }, rest)
  | "error_details" =>
    let (v, rest) ← readOnce key p.errorDetails readTexts bytes
    return ({ p with errorDetails := v }, rest)
  | _ =>
    let ((), rest) ← readColon bytes
    let rest ← skimValue rest
    return (p, rest)

/-- Takes members from within a key on. -/
def readFields (p : Partial) : Nat → Reader Partial
  | 0, bytes => .error (.taken .endInObject bytes)
  | fuel + 1, bytes => do
    let (key, rest) ← readString bytes
    let (p, rest) ← readField p key rest
    match ← nextMember rest with
    | .closed rest => return (p, rest)
    | .item rest => readFields p fuel rest

/-- The report, or the fault that a value is missing. -/
def completeAt (p : Partial) (rest : List UInt8) : Except Fault (BatchResult × List UInt8) :=
  match p.complete with
  | .ok r => .ok (r, rest)
  | .error key => .error (.taken (.shape ("missing field `" ++ key ++ "`")) rest)

/-- The next value of an array; there should be five, and `count` have been met. -/
def nextOfFive {α : Type} (count : Nat) (more : Except Fault More) (read : Reader α) :
    Except Fault (α × List UInt8) := do
  match ← more with
  | .closed rest =>
    let found := "invalid length " ++ Decimal.numeral count
    .error (.taken (.shape (found ++ ", expected struct BatchResult with 5 elements")) rest)
  | .item rest => read rest

/-- Takes the end of an array in which nothing more is wanted. -/
def readListEnd (bytes : List UInt8) : Except Fault (List UInt8) :=
  match skipBlanks bytes with
  | [] => .error (.taken .endInList [])
  | b :: rest =>
    if b = byte ']' then .ok rest
    else if b = byte ',' then
      match skipBlanks rest with
      | [] => .error (.taken .trailingCharacters [])
      | c :: after =>
        .error (.peeked (if c = byte ']' then .trailingComma else .trailingCharacters) (c :: after))
    else .error (.peeked .trailingCharacters (b :: rest))

/-- Takes a report in either form. -/
def read : Reader BatchResult := fun bytes =>
  match skipBlanks bytes with
  | [] => .error (.taken .endInValue [])
  | b :: rest =>
    if b = byte '[' then do
      let (total, rest) ← nextOfFive 0 (firstItem rest) readCount
      let (successful, rest) ← nextOfFive 1 (nextItem rest) readCount
      let (failed, rest) ← nextOfFive 2 (nextItem rest) readCount
      let (insertedIds, rest) ← nextOfFive 3 (nextItem rest) readTexts
      let (errorDetails, rest) ← nextOfFive 4 (nextItem rest) readTexts
      let rest ← readListEnd rest
      return (⟨total, successful, failed, insertedIds, errorDetails⟩, rest)
    else if b = byte '\x7b' then do
      match ← firstMember rest with
      | .closed rest => completeAt ⟨none, none, none, none, none⟩ rest
      | .item rest =>
        let (p, rest) ← readFields ⟨none, none, none, none, none⟩ rest.length rest
        completeAt p rest
    else .error (shapeFault false "struct BatchResult" (b :: rest))

/-- The report that a text writes, or what is wrong with the text and where. -/
def parse (s : String) : Except String BatchResult :=
  (readText read (bytesOf s)).mapError (·.message (bytesOf s))

end CatalogImport.BatchResult
