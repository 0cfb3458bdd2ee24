import CatalogImport.Proofs.Record.Description

/-!
# Records that a store can keep

A store needs an id and a JSON form of each record.  Main statements: card sets and cards that an element
describes always have both, since the id is a required text, and such a text is never empty.
-/

namespace CatalogImport

open CatalogImport.Json

/-- Every record that an element describes has an id, and a form in which it is handed to a store. -/
class CatalogRecord.Storable (R : Type) [CatalogRecord R] : Prop where
  id_ne_empty : ∀ {v : Value} {r : R}, CatalogRecord.validate v = .ok r → CatalogRecord.id r ≠ ""
  exists_stored : ∀ {v : Value} {r : R}, CatalogRecord.validate v = .ok r →
    ∃ form, CatalogRecord.stored r = .ok form

theorem CardSet.id_ne_empty {v : Value} {s : CardSet} (h : CardSet.validate v = .ok s) : s.id ≠ "" := by
  obtain ⟨ms, hdescribed⟩ := CardSet.exists_describedBy h
  exact (Field.kept_of_requiredText hdescribed.id).ne_empty

theorem Card.id_ne_empty {v : Value} {c : Card} (h : Card.validate v = .ok c) : c.id ≠ "" := by
  obtain ⟨ms, hdescribed⟩ := Card.exists_describedBy h
  exact (Field.kept_of_requiredText hdescribed.id).ne_empty

instance : CatalogRecord.Storable CardSet where
  id_ne_empty := CardSet.id_ne_empty
  exists_stored := fun {_ s} _ => ⟨⟨s.id, .ofMembers s.members⟩, rfl⟩

instance : CatalogRecord.Storable Card where
  id_ne_empty := Card.id_ne_empty
  exists_stored := fun {_ c} _ => ⟨⟨c.id, .ofMembers c.members⟩, rfl⟩

end CatalogImport
