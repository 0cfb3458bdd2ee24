import CatalogImport.Decimal.Digits
import CatalogImport.Json.Reader
import CatalogImport.Text.Blank
import CatalogImport.Text.Hex

/-!
# Addresses of a relational store

Where a server is and how it wants to be spoken to, written as settings `key=value` or as a URL.  Of what
may be written there only the hosts, the ports and the use of encryption matter here; the other settings
are only looked over.
-/

namespace CatalogImport.Postgres

open CatalogImport.Decimal

/-- Whether a connection is to be encrypted. -/
inductive Encryption where
  | never
  | preferred
  | required
  deriving DecidableEq

/-- Where a server is, and whether connections are to be encrypted. -/
structure Address where
  /-- Names of hosts, or directories of sockets. -/
  hosts : List String
  /-- Network addresses, to be used in place of the hosts. -/
  numericHosts : List String
  ports : List Nat
  encryption : Encryption
  /-- Encryption starts without being asked for. -/
  direct : Bool

namespace Address

/-- The address in which nothing is said. -/
def unknown : Address := ⟨[], [], [], .preferred, false⟩

/-- The port used when none is said. -/
def standardPort : Nat := 5432

/-- The places to try in turn, as hosts and ports; there are none when the parts do not match. -/
def places? (a : Address) : Option (List (String × Nat)) :=
  let names := if a.numericHosts = [] then a.hosts else a.numericHosts
  if names = [] then none
  else if a.hosts ≠ [] ∧ a.numericHosts ≠ [] ∧ a.hosts.length ≠ a.numericHosts.length then none
  else if 1 < a.ports.length ∧ a.ports.length ≠ names.length then none
  else
    some (names.mapIdx fun i name =>
      (name, (a.ports[i]?.or a.ports.head?).getD standardPort))

/-! ## Values of settings -/

/-- The text is a whole number of 64 bits with a sign. -/
def isSigned (s : String) : Bool :=
  match s.toList with
  | '-' :: rest => (natural? rest).any (· ≤ Nat.pow 2 63)
  | cs => (unsigned? (Nat.pow 2 63) cs).isSome

/-- The text is a whole number below a bound. -/
def isUnsigned (limit : Nat) (s : String) : Bool := (unsigned? limit s.toList).isSome

/-- The text is one of four numbers of eight bits, without leading zeros. -/
def isByteNumeral (s : String) : Bool :=
  match natural? s.toList with
  | some n => n < 256 && numeral n == s
  | none => false

/-- The text is a network address of four numbers. -/
def isFourNumbers (s : String) : Bool :=
  let parts := s.splitOn "."
  parts.length == 4 && parts.all isByteNumeral

/-- The character is a digit of base sixteen. -/
def isHexDigit (c : Char) : Bool :=
  isDigit c || ('a' ≤ c && c ≤ 'f') || ('A' ≤ c && c ≤ 'F')

/-- How many groups of sixteen bits the colon-separated text writes, if it writes such groups. -/
def groups? (s : String) : Option Nat :=
  if s = "" then some 0
  else
    let parts := s.splitOn ":"
    let isGroup (p : String) : Bool :=
      1 ≤ p.length && p.length ≤ 4 && p.toList.all isHexDigit
    match parts.getLast? with
    | none => none
    | some last =>
      if parts.dropLast.all isGroup then
        if isGroup last then some parts.length
        else if isFourNumbers last then some (parts.length + 1)
        else none
      else none

/-- The text is a network address of eight groups, of which a row of zeros may be left out. -/
def isEightGroups (s : String) : Bool :=
  match s.splitOn "::" with
  | [all] => groups? all == some 8
  | [before, after] =>
    match groups? before, groups? after with
    | some a, some b => a + b ≤ 7 && !before.contains '.'
    | _, _ => false
  | _ => false

/-- A port; nothing at all means the usual one. -/
def port? (s : String) : Option Nat :=
  if s = "" then some standardPort else unsigned? (Nat.pow 2 16) s.toList

/-- The address after one more setting, if there is such a setting with such a value. -/
def withSetting (a : Address) (key value : String) : Option Address :=
  let when_ (ok : Bool) : Option Address := if ok then some a else none
  match key with
  | "user" | "password" | "dbname" | "options" | "application_name" => some a
  | "sslmode" =>
    match value with
    | "disable" => some { a with encryption := .never }
    | "prefer" => some { a with encryption := .preferred }
    | "require" => some { a with encryption := .required }
    | _ => none
  | "sslnegotiation" =>
    match value with
    | "postgres" => some { a with direct := false }
    | "direct" => some { a with direct := true }
    | _ => none
  | "host" => some { a with hosts := a.hosts ++ value.splitOn "," }
  | "hostaddr" =>
    let parts := value.splitOn ","
    if parts.all fun p => isFourNumbers p || isEightGroups p then
      some { a with numericHosts := a.numericHosts ++ parts }
    else none
  | "port" =>
    ((value.splitOn ",").mapM port?).map fun ports => { a with ports := a.ports ++ ports }
  | "connect_timeout" | "tcp_user_timeout" | "keepalives_idle" | "keepalives_interval" =>
    when_ (isSigned value)
  | "keepalives" => when_ (isUnsigned (Nat.pow 2 64) value)
  | "keepalives_retries" => when_ (isUnsigned (Nat.pow 2 32) value)
  | "target_session_attrs" => when_ (["any", "read-write", "read-only"].contains value)
  | "channel_binding" => when_ (["disable", "prefer", "require"].contains value)
  | "load_balance_hosts" => when_ (["disable", "random"].contains value)
  | _ => none

/-! ## Settings written one after the other -/

/-- Characters up to an end, and what follows; a backslash takes the next character as it stands. -/
def takeValue (isEnd : Char → Bool) : List Char → List Char × List Char
  | [] => ([], [])
  | '\\' :: c :: rest =>
    let (value, rest) := takeValue isEnd rest
    (c :: value, rest)
  | ['\\'] => ([], [])
  | c :: rest =>
    if isEnd c then ([], c :: rest)
    else
      let (value, rest) := takeValue isEnd rest
      (c :: value, rest)

/-- The character is an apostrophe. -/
def isApostrophe (c : Char) : Bool := c = '\x27'

/-- A value, between apostrophes or up to a blank, and what follows it. -/
def value? (cs : List Char) : Option (String × List Char) :=
  match cs with
  | first :: rest =>
    if isApostrophe first then
      match takeValue isApostrophe rest with
      | (value, _ :: rest) => some (String.ofList value, rest)
      | (_, []) => none
    else
      match takeValue Text.isBlank cs with
      | ([], _) => none
      | (value, rest) => some (String.ofList value, rest)
  | [] => none

/-- Reads settings until none is left; a text that goes on without a key is not read further. -/
def withSettings (a : Address) : Nat → List Char → Option Address
  | 0, _ => some a
  | fuel + 1, cs =>
    let cs := Text.trimStart cs
    let key := cs.takeWhile fun c => !Text.isBlank c && c != '='
    if key = [] then some a
    else
      match Text.trimStart (cs.drop key.length) with
      | '=' :: rest =>
        match value? (Text.trimStart rest) with
        | some (value, rest) =>
          match a.withSetting (String.ofList key) value with
          | some a => a.withSettings fuel rest
          | none => none
        | none => none
      | _ => none

/-! ## URLs -/

/-- Bytes in which a percent sign and two digits stand for one byte. -/
def percentDecoded : List UInt8 → List UInt8
  | [] => []
  | b :: h :: l :: rest =>
    match if b = 0x25 then (Text.hexValue? h).bind fun h => (Text.hexValue? l).map (16 * h + ·)
        else none with
    | some n => UInt8.ofNat n :: percentDecoded rest
    | none => b :: percentDecoded (h :: l :: rest)
  | b :: rest => b :: percentDecoded rest

/-- The text that a part of a URL stands for. -/
def decoded? (cs : List Char) : Option String :=
  String.fromUTF8? ⟨(percentDecoded (Json.bytesOf (String.ofList cs))).toArray⟩

/-- What stands before the first of some characters, and what follows from there on. -/
def splitBefore (ends : List Char) (cs : List Char) : List Char × List Char :=
  cs.span fun c => !ends.contains c

/-- A host as a part of a URL. -/
def withHost (a : Address) (cs : List Char) : Option Address :=
  (decoded? cs).map fun host => { a with hosts := a.hosts ++ [host] }

/-- A host with its port, if one is said. -/
def withHostAndPort (a : Address) (cs : List Char) : Option Address := do
  let (host, port) ← match cs with
    | '[' :: rest =>
      match splitBefore [']'] rest with
      | (host, _ :: ':' :: port) => some (host, some port)
      | (host, [_]) => some (host, none)
      | _ => none
    | cs =>
      match splitBefore [':'] cs with
      | (host, _ :: port) => some (host, some port)
      | (host, []) => some (host, none)
  let a ← a.withHost host
  let port ← decoded? (port.getD "5432".toList)
  a.withSetting "port" port

/-- The settings behind the question mark of a URL. -/
def withParameters (a : Address) : Nat → List Char → Option Address
  | 0, _ => some a
  | fuel + 1, cs =>
    if cs = [] then some a
    else
      match splitBefore ['='] cs with
      | (_, []) => none
      | (key, _ :: rest) => do
        let key ← decoded? key
        let (value, rest) := splitBefore ['&'] rest
        let a ← if key = "host" then a.withHost value
          else do a.withSetting key (← decoded? value)
        a.withParameters fuel (rest.drop 1)

/-- The address that a URL writes, what names its kind already taken. -/
def ofUrl? (cs : List Char) : Option Address := do
  let afterUser ← match splitBefore ['@'] cs with
    | (_, []) => some cs
    | (credentials, _ :: rest) => (decoded? (splitBefore [':'] credentials).1).map fun _ => rest
  let (hosts, rest) := splitBefore ['/', '?'] afterUser
  let a ← if hosts = [] then some unknown
    else (hosts.splitOn ',').foldlM withHostAndPort unknown
  let rest ← match rest with
    | '/' :: rest =>
      let (name, rest) := splitBefore ['?'] rest
      (decoded? name).map fun _ => rest
    | rest => some rest
  match rest with
  | '?' :: parameters => a.withParameters (parameters.length + 1) parameters
  | _ => some a

/-- The address that a text writes. -/
def ofText? (s : String) : Option Address :=
  let cs := s.toList
  if "postgres://".toList.isPrefixOf cs then ofUrl? (cs.drop 11)
  else if "postgresql://".toList.isPrefixOf cs then ofUrl? (cs.drop 13)
  else unknown.withSettings (cs.length + 1) cs

end Address

end CatalogImport.Postgres
