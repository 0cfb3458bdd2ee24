import CatalogImport.Record.Basic
import CatalogImport.Record.Field

/-!
# A record that may have no JSON form

A record for rehearsals that is nothing but its id.  When the id starts with an exclamation mark there is
no JSON form of it.
-/

namespace CatalogImport

open CatalogImport.Json

/-- A record that is nothing but its id. -/
structure OddRecord where
  id : String

namespace OddRecord

/-- The record that an element describes. -/
def validate (v : Value) : Except Violation OddRecord := do
  let ms ← Field.members v
  let id ← Field.requiredText ms "id" 64
  return ⟨id⟩

/-- The id as a JSON text, where there is one. -/
def payload (r : OddRecord) : Except String Value :=
  if r.id.toList.head? = some '!' then .error ("odd record " ++ r.id) else .ok (.text r.id)

instance : CatalogRecord OddRecord where
  kind := .sets
  id := (·.id)
  validate := validate
  payload := payload

end OddRecord

end CatalogImport
