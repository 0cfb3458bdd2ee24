import CatalogImport.Postgres.Address
import CatalogImport.Postgres.Wire

/-!
# Connecting to a server

A connection that is to be encrypted if possible is asked for with encryption first, and when that leads
nowhere without it.  No server that agrees to encryption can be reached: there is no certificate to check
it by.
-/

namespace CatalogImport.Postgres

/-- Why there is no connection. -/
inductive ConnectError where
  | invalidAddress
  /-- The address names no place to connect to. -/
  | nowhere
  | unreachable
  /-- Encryption was declined or did not come about. -/
  | encryption
  /-- The server hung up when asked for encryption. -/
  | hungUp
  | trouble (t : Trouble)
  deriving DecidableEq

/-- The error in words. -/
def ConnectError.message : ConnectError → String
  | .invalidAddress => "Invalid connection URL: invalid connection string"
  | .nowhere => "Connection failed: invalid configuration"
  | .unreachable => "Connection failed: error connecting to server"
  | .encryption => "Connection failed: error performing TLS handshake"
  | .hungUp => "Connection failed: error communicating with the server"
  | .trouble t => "Connection failed: " ++ t.message

/-- Introduces oneself over an open connection. -/
def greeted : Talk (Except ConnectError Unit) := do
  return (← wire .greet).mapError .trouble

/-- Goes on over a connection that is to be encrypted, or at least if possible. -/
def encrypted (a : Address) : Talk (Except ConnectError Unit) := do
  if a.direct then return .error .encryption
  match ← wire .askEncryption with
  | .hungUp => return .error .hungUp
  | .agreed => return .error .encryption
  | .declined => if a.encryption = .required then return .error .encryption else greeted

/-- Connects to one place. -/
def connectTo (a : Address) (withEncryption : Bool) (place : String × Nat) :
    Talk (Except ConnectError Unit) := do
  if ← wire (.dial place.1 place.2) then
    if withEncryption then encrypted a else greeted
  else return .error .unreachable

/-- Connects to the first of some places where that is possible; `e` is the error at the one before
them. -/
def connectToFirst (a : Address) (withEncryption : Bool) (e : ConnectError) :
    List (String × Nat) → Talk (Except ConnectError Unit)
  | [] => return .error e
  | place :: rest => do
    match ← connectTo a withEncryption place with
    | .ok () => return .ok ()
    | .error e => connectToFirst a withEncryption e rest

/-- Connects with or without encryption. -/
def connectAs (a : Address) (withEncryption : Bool) : Talk (Except ConnectError Unit) :=
  match a.places? with
  | none => return .error .nowhere
  | some places => connectToFirst a withEncryption .nowhere places

/-- Connects to a server at an address. -/
def connect (address : String) : Talk (Except ConnectError Unit) :=
  match Address.ofText? address with
  | none => return .error .invalidAddress
  | some a =>
    match a.encryption with
    | .never => connectAs a false
    | .required => connectAs a true
    | .preferred => do
      match ← connectAs a true with
      | .ok () => return .ok ()
      | .error _ =>
        wire (.notice .tlsFailed)
        connectAs a false

end CatalogImport.Postgres
