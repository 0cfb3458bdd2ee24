import CatalogImport.Text.Blank
import CatalogImport.Text.Lowercase

/-!
# Kinds of record

A catalog holds card sets and cards.  Each kind has a key, by which users and files name it, and a
table of its own in a relational store.
-/

namespace CatalogImport

/-- What a document carries. -/
inductive RecordKind where
  | sets
  | cards
  deriving DecidableEq

namespace RecordKind

/-- All kinds there are. -/
def all : List RecordKind := [.sets, .cards]

/-- The word by which the kind is known, also in the names of files and runs. -/
def key : RecordKind → String
  | .sets => "sets"
  | .cards => "cards"

/-- The relational table that holds records of this kind. -/
def table : RecordKind → String
  | .sets => "card_sets"
  | .cards => "cards"

/-- The word with blanks around it removed and its ASCII letters made small. -/
def normalized (s : String) : String := Text.lowerAsciiText (Text.trim s)

/-- The kind that a word names, in the plural or the singular. -/
def ofText? (s : String) : Option RecordKind :=
  match normalized s with
  | "sets" | "set" => some .sets
  | "cards" | "card" => some .cards
  | _ => none

/-- The complaint about a word that names no kind. -/
def unknownMessage (s : String) : String :=
  "Unknown record kind '" ++ normalized s ++ "', expected one of: sets, cards"

end RecordKind

end CatalogImport
