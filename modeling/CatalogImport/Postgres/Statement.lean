import CatalogImport.Decimal.Digits

/-!
# Statements for a relational store

The statements that are sent to a server, and their SQL.  Records of a kind lie in one table, each as a
JSON payload under its id.
-/

namespace CatalogImport.Postgres

open CatalogImport.Decimal

/-- A statement that is sent as it stands and gives no rows. -/
inductive Command where
  | createTable (table : String)
  | startTransaction
  | commit
  | rollback
  /-- Marks the place in a transaction from which a record is written. -/
  | savepoint
  /-- Keeps what has been written since the mark. -/
  | release
  /-- Takes back what has been written since the mark. -/
  | rollbackToSavepoint
  deriving DecidableEq

/-- The SQL of a command. -/
def Command.sql : Command → String
  | .createTable table =>
    "CREATE TABLE IF NOT EXISTS " ++ table ++ " (\n    id TEXT PRIMARY KEY,\n"
      ++ "    payload JSONB NOT NULL,\n    updated_at TIMESTAMPTZ NOT NULL DEFAULT now()\n);\n"
  | .startTransaction => "START TRANSACTION"
  | .commit => "COMMIT"
  | .rollback => "ROLLBACK"
  | .savepoint => "SAVEPOINT catalog_record"
  | .release => "RELEASE catalog_record"
  | .rollbackToSavepoint => "ROLLBACK TO catalog_record"

/-- A statement with parameters, which is prepared before it is executed. -/
inductive Statement where
  /-- Writes a payload under an id. -/
  | upsert (table : String)
  /-- The payload under an id. -/
  | selectOne (table : String)
  /-- The payloads of a page in the order of their ids. -/
  | selectPage (table : String)
  deriving DecidableEq

/-- The SQL of a statement. -/
def Statement.sql : Statement → String
  | .upsert table =>
    "INSERT INTO " ++ table ++ " (id, payload, updated_at)\nVALUES ($1, $2, now())\n"
      ++ "ON CONFLICT (id) DO UPDATE\n    SET payload = EXCLUDED.payload,\n"
      ++ "        updated_at = now();\n"
  | .selectOne table => "SELECT payload FROM " ++ table ++ " WHERE id = $1;\n"
  | .selectPage table => "SELECT payload FROM " ++ table ++ " ORDER BY id LIMIT $1 OFFSET $2;\n"

/-- A statement with its parameters. -/
inductive Execution where
  | upsert (table id payload : String)
  | selectOne (table id : String)
  | selectPage (table : String) (limit offset : Nat)
  deriving DecidableEq

namespace Execution

/-- The statement that is executed. -/
def statement : Execution → Statement
  | .upsert table _ _ => .upsert table
  | .selectOne table _ => .selectOne table
  | .selectPage table _ _ => .selectPage table

/-- The parameters as texts. -/
def parameters : Execution → List String
  | .upsert _ id payload => [id, payload]
  | .selectOne _ id => [id]
  | .selectPage _ limit offset => [numeral limit, numeral offset]

end Execution

end CatalogImport.Postgres
