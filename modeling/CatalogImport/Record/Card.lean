import CatalogImport.Record.Basic
import CatalogImport.Record.Field

/-!
# Cards

Single printings of a card within a set.
-/

namespace CatalogImport

open CatalogImport.Json

/-- A card as printed in one set. -/
structure Card where
  id : String
  name : String
  setCode : String
  collectorNumber : String
  rarity : String
  lang : Option String
  releasedAt : Option Calendar.Date
  /-- The id shared by all printings of one card. -/
  oracleId : Option String
  foil : Bool
  nonfoil : Bool
  digital : Bool

namespace Card

/-- The card that an element describes; of several violations the one of the first field counts.
The code of the set is kept in small letters, and its length is measured before. -/
def validate (v : Value) : Except Violation Card := do
  let ms ← Field.members v
  let id ← Field.requiredText ms "id" 64
  let name ← Field.requiredText ms "name" 255
  let setCode ← Field.requiredText ms "set" 16
  let collectorNumber ← Field.requiredText ms "collector_number" 32
  let rarity ← Field.requiredText ms "rarity" 32
  let lang ← Field.optionalText ms "lang" 8
  let releasedAt ← Field.optionalDate ms "released_at"
  let oracleId ← Field.optionalText ms "oracle_id" 64
  let foil ← Field.flag ms "foil"
  let nonfoil ← Field.flag ms "nonfoil"
  let digital ← Field.flag ms "digital"
  return {
    id, name, collectorNumber, rarity, lang, releasedAt, oracleId, foil, nonfoil, digital
    setCode := Text.lower setCode }

/-- The fields of a card as members of an object. -/
def members (c : Card) : List (String × Value) :=
  [("id", .text c.id),
   ("name", .text c.name),
   ("set_code", .text c.setCode),
   ("collector_number", .text c.collectorNumber),
   ("rarity", .text c.rarity),
   ("lang", .ofText? c.lang),
   ("released_at", .ofText? (c.releasedAt.map (·.text))),
   ("oracle_id", .ofText? c.oracleId),
   ("foil", .bool c.foil),
   ("nonfoil", .bool c.nonfoil),
   ("digital", .bool c.digital)]

instance : CatalogRecord Card where
  kind := .cards
  id := (·.id)
  validate := validate
  payload c := .ok (.ofMembers c.members)

end Card

end CatalogImport
