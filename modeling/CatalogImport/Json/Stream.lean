import CatalogImport.Json.Skim

/-!
# The list within a document

A document is an object, and one of its members is the list whose items are wanted: the first one
with a certain key.  The items are read one after the other; those before a fault are delivered.
Every other member is skimmed over, a later one with the same key too.
-/

namespace CatalogImport.Json

/-- What reading a document came to: whether the member was there, and how many items it had. -/
structure ReadSummary where
  fieldFound : Bool
  items : Nat
  deriving DecidableEq

/-- The items that were read, and how the document ended. -/
structure Streamed where
  items : List Value
  ending : Except Fault ReadSummary

/-- How deep brackets may be nested in an item: those of the document and the list are open. -/
def itemDepth : Nat := depthLimit - 2

/-- Takes the items of a list from one on; `taken` holds those before, the last one first. -/
def streamItems (taken : List Value) :
    Nat → List UInt8 → List Value × Except Fault (List UInt8)
  | 0, bytes => (taken.reverse, .error (.taken .endInList bytes))
  | fuel + 1, bytes =>
    match readValue true itemDepth bytes with
    | .error fault => (taken.reverse, .error fault)
    | .ok (value, rest) =>
      match nextItem rest with
      | .error fault => ((value :: taken).reverse, .error fault)
      | .ok (.closed rest) => ((value :: taken).reverse, .ok rest)
      | .ok (.item rest) => streamItems (value :: taken) fuel rest

/-- Takes a value that has to be a list. -/
def streamList (bytes : List UInt8) : List Value × Except Fault (List UInt8) :=
  match skipBlanks bytes with
  | [] => ([], .error (.taken .endInValue []))
  | b :: rest =>
    if b = byte '[' then
      match firstItem rest with
      | .error fault => ([], .error fault)
      | .ok (.closed rest) => ([], .ok rest)
      | .ok (.item after) => streamItems [] rest.length after
    else ([], .error (shapeFault true "an array of records" (b :: rest)))

/-- Takes the members of the document from within a key on; `found` holds the items of the list,
once it has been met. -/
def streamMembers (field : String) (found : Option (List Value)) :
    Nat → List UInt8 → Option (List Value) × Except Fault (List UInt8)
  | 0, bytes => (found, .error (.taken .endInObject bytes))
  | fuel + 1, bytes =>
    match readString bytes with
    | .error fault => (found, .error fault)
    | .ok (key, rest) =>
      match readColon rest with
      | .error fault => (found, .error fault)
      | .ok ((), rest) =>
        let (found, rest) :=
          if key = field ∧ found = none then
            let (items, rest) := streamList rest
            (some items, rest)
          else (found, skimValue rest)
        match rest with
        | .error fault => (found, .error fault)
        | .ok rest =>
          match nextMember rest with
          | .error fault => (found, .error fault)
          | .ok (.closed rest) => (found, .ok rest)
          | .ok (.item rest) => streamMembers field found fuel rest

/-- Takes the document itself. -/
def streamDocument (field : String) (bytes : List UInt8) :
    Option (List Value) × Except Fault (List UInt8) :=
  match skipBlanks bytes with
  | [] => (none, .error (.taken .endInValue []))
  | b :: rest =>
    if b = byte '\x7b' then
      match firstMember rest with
      | .error fault => (none, .error fault)
      | .ok (.closed rest) => (none, .ok rest)
      | .ok (.item after) => streamMembers field none rest.length after
    else
      let expected := "a JSON object with a `" ++ field ++ "` array"
      (none, .error (shapeFault true expected (b :: rest)))

/-- Reads the list under a key of a document, after which nothing but blanks may follow. -/
def stream (field : String) (bytes : List UInt8) : Streamed :=
  let (found, rest) := streamDocument field bytes
  let items := found.getD []
  { items
    ending := do
      readEnd (← rest)
      return ⟨found.isSome, items.length⟩ }

end CatalogImport.Json
