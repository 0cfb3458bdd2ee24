import CatalogImport.Notice
import CatalogImport.Postgres.Statement
import CatalogImport.Program
import CatalogImport.Store.Error

/-!
# The wire to a server

What is asked of a server, and what may come back.  At any time the server may refuse, or the connection
may be lost.
-/

namespace CatalogImport.Postgres

/-- Why a statement did not go through. -/
inductive Trouble where
  /-- The server answered with an error. -/
  | refused
  /-- The connection is gone. -/
  | lost
  deriving DecidableEq

namespace Trouble

/-- The trouble in words. -/
def message : Trouble → String
  | .refused => "db error"
  | .lost => "connection closed"

/-- What the trouble means when the call as a whole did not come to its end. -/
def asTransport (t : Trouble) : StoreError := .transport t.message

/-- What the trouble means when a statement is to blame for it: what the server refuses is refused, and
a lost connection is one. -/
def asStoreError : Trouble → StoreError
  | .refused => .rejected Trouble.refused.message
  | .lost => .transport Trouble.lost.message

end Trouble

/-- What a server says when it is asked for encryption. -/
inductive EncryptionAnswer where
  | declined
  | agreed
  /-- It hangs up. -/
  | hungUp
  deriving DecidableEq

/-- A payload as the server sends it, and whether it says that it is JSON. -/
structure Row where
  text : String
  isJson : Bool
  deriving DecidableEq

/-- A question to a server or about the connection to it. -/
inductive Wire where
  /-- Open a connection. -/
  | dial (host : String) (port : Nat)
  /-- Ask for encryption. -/
  | askEncryption
  /-- Say who one is. -/
  | greet
  /-- Is the connection known to be gone? -/
  | isGone
  | query (c : Command)
  | prepare (s : Statement)
  | execute (e : Execution)
  /-- Something worth a line in the log. -/
  | notice (n : Notice)

/-- The answers to a question. -/
abbrev Wire.Answer : Wire → Type
  | .dial _ _ => Bool
  | .askEncryption => EncryptionAnswer
  | .greet => Except Trouble Unit
  | .isGone => Bool
  | .query _ => Except Trouble Unit
  | .prepare _ => Except Trouble Unit
  | .execute _ => Except Trouble (List Row)
  | .notice _ => Unit

/-- A program that talks to a server. -/
abbrev Talk (α : Type) : Type := Program Wire Wire.Answer α

/-- Asks one question. -/
def wire (q : Wire) : Talk q.Answer := Program.question q

end CatalogImport.Postgres
