/-!
# Errors of stores

What a store answers when it does not do what it was asked to.
-/

namespace CatalogImport

/-- Why a store did not do it. -/
inductive StoreError where
  /-- There is no record with this id. -/
  | notFound (id : String)
  /-- The store refused. -/
  | rejected (reason : String)
  /-- The store was not reached, or the call did not come to its end. -/
  | transport (reason : String)
  deriving DecidableEq

namespace StoreError

/-- The error in words. -/
def message : StoreError → String
  | .notFound id => "Record '" ++ id ++ "' not found"
  | .rejected reason => "Store rejected request: " ++ reason
  | .transport reason => "Store transport failure: " ++ reason

/-- The record was not found. -/
def isNotFound : StoreError → Bool
  | .notFound _ => true
  | _ => false

end StoreError

end CatalogImport
