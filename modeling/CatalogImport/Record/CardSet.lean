import CatalogImport.Record.Basic
import CatalogImport.Record.Field

/-!
# Card sets

Expansions, core sets, promotional groups and the like.
-/

namespace CatalogImport

open CatalogImport.Json

/-- A card set. -/
structure CardSet where
  id : String
  name : String
  code : String
  setType : String
  releasedAt : Option Calendar.Date
  cardCount : Option Nat
  digital : Bool
  foilOnly : Bool
  nonfoilOnly : Bool
  parentSetCode : Option String
  iconSvgUri : Option String

namespace CardSet

/-- The card set that an element describes; of several violations the one of the first field counts.
Codes are kept in small letters, and their length is measured before. -/
def validate (v : Value) : Except Violation CardSet := do
  let ms ← Field.members v
  let id ← Field.requiredText ms "id" 64
  let name ← Field.requiredText ms "name" 255
  let code ← Field.requiredText ms "code" 16
  let setType ← Field.requiredText ms "set_type" 50
  let releasedAt ← Field.optionalDate ms "released_at"
  let cardCount ← Field.optionalCount ms "card_count"
  let digital ← Field.flag ms "digital"
  let foilOnly ← Field.flag ms "foil_only"
  let nonfoilOnly ← Field.flag ms "nonfoil_only"
  let parentSetCode ← Field.optionalText ms "parent_set_code" 16
  let iconSvgUri ← Field.optionalText ms "icon_svg_uri" 512
  return {
    id, name, setType, releasedAt, cardCount, digital, foilOnly, nonfoilOnly, iconSvgUri
    code := Text.lower code
    parentSetCode := parentSetCode.map Text.lower }

/-- The fields of a card set as members of an object. -/
def members (s : CardSet) : List (String × Value) :=
  [("id", .text s.id),
   ("name", .text s.name),
   ("code", .text s.code),
   ("set_type", .text s.setType),
   ("released_at", .ofText? (s.releasedAt.map (·.text))),
   ("card_count", .ofNat? s.cardCount),
   ("digital", .bool s.digital),
   ("foil_only", .bool s.foilOnly),
   ("nonfoil_only", .bool s.nonfoilOnly),
   ("parent_set_code", .ofText? s.parentSetCode),
   ("icon_svg_uri", .ofText? s.iconSvgUri)]

instance : CatalogRecord CardSet where
  kind := .sets
  id := (·.id)
  validate := validate
  payload s := .ok (.ofMembers s.members)

end CardSet

end CatalogImport
