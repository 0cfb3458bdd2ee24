import CatalogImport.Index
import CatalogImport.Json.Printer
import CatalogImport.Postgres.Connect
import CatalogImport.Postgres.Store
import CatalogImport.Rehearsal.World

/-!
# A server to rehearse with

A server that keeps tables of payloads and answers what a store asks.  It refuses statements, hangs up or
falls silent as its rules say, and remembers what was sent over each connection.  What has not been
committed is put back when a transaction or a connection ends.
-/

namespace CatalogImport.Postgres

open CatalogImport.Decimal

/-- Where in a talk a statement is sent. -/
inductive Station where
  | greeting
  | query
  | preparing
  | executing
  deriving DecidableEq

/-- The word for a station, as it stands before a statement that was sent. -/
def Station.word : Station → String
  | .greeting => "startup"
  | .query => "query"
  | .preparing => "prepare"
  | .executing => "execute"

/-- What a server does when a rule hits. -/
inductive Mishap where
  | refuse
  | hangUp
  /-- The statement is never answered, and whoever sent it is told to stop. -/
  | interrupt
  deriving DecidableEq

/-- Which statements a server does not treat as usual.  Statements that fit are counted; those after the
first `skip`, and at most `times` of them, are hit. -/
structure Rule where
  station : Option Station
  /-- What the SQL begins with. -/
  sqlStart : Option String
  /-- What the first parameter is. -/
  firstParameter : Option String
  skip : Nat
  times : Nat
  mishap : Mishap
  count : Nat

/-- Payloads by ids, by tables. -/
abbrev Tables := Index (Index String)

/-- A transaction that has not ended: the tables as they were at its start and at its mark. -/
structure Transaction where
  start : Tables
  mark : Option Tables

/-- A connection to a server. -/
structure Connection where
  isOpen : Bool
  transaction : Option Transaction
  /-- What was sent, the last statement first. -/
  sent : List (List String)

/-- A server and its connections. -/
structure Server where
  /-- The directory of the socket at which it can be reached. -/
  socketDir : String
  tables : Tables
  rules : List Rule
  encryption : EncryptionAnswer
  /-- It does not say that payloads are JSON. -/
  payloadAsText : Bool
  /-- The connections in the order in which they were opened. -/
  connections : List Connection
  /-- The place of the connection that is talked over. -/
  active : Nat
  /-- Somebody has been told to stop. -/
  hasInterrupted : Bool

namespace Server

/-- A server that cannot be reached. -/
def absent : Server where
  socketDir := ""
  tables := .empty
  rules := []
  encryption := .declined
  payloadAsText := false
  connections := []
  active := 0
  hasInterrupted := false

/-- Changes the connection that is talked over. -/
def modifyActive (s : Server) (f : Connection → Connection) : Server :=
  { s with connections := s.connections.modify s.active f }

/-- The connection that is talked over, if it is open. -/
def line? (s : Server) : Option Connection := (s.connections[s.active]?).filter (·.isOpen)

/-! ## Rules -/

/-- A statement on its way: where it is sent, its SQL, and its parameters. -/
structure Sent where
  station : Station
  sql : String
  parameters : List String

/-- The rule is about such a statement. -/
def Rule.fits (r : Rule) (x : Sent) : Bool :=
  r.station.all (· == x.station)
    && r.sqlStart.all (fun start => start.toList.isPrefixOf x.sql.toList)
    && r.firstParameter.all (fun p => x.parameters.head? == some p)

/-- Goes through rules until one hits, and counts the statement for those that it fits until then. -/
def applyRules (x : Sent) : List Rule → Option Mishap × List Rule
  | [] => (none, [])
  | r :: rest =>
    let (r, hit) :=
      if Rule.fits r x then
        let count := r.count + 1
        ({ r with count }, r.skip < count && count ≤ r.skip + r.times)
      else (r, false)
    if hit then (some r.mishap, r :: rest)
    else
      let (mishap, rest) := applyRules x rest
      (mishap, r :: rest)

/-! ## Rows -/

/-- The rows of earlier tables in the tables of now; a table that was not there then is empty. -/
def putBack (now earlier : Tables) : Tables :=
  now.keys.foldl (fun t name => t.insert name ((earlier.find? name).getD .empty)) .empty

/-- The rows of a table; one that does not exist has none. -/
def rows (s : Server) (table : String) : Index String := (s.tables.find? table).getD .empty

/-- Puts back what a transaction has not committed. -/
def undo (s : Server) : Server :=
  match s.line?.bind (·.transaction) with
  | none => s
  | some t =>
    { s with tables := putBack s.tables t.start }.modifyActive ({ · with transaction := none })

/-- Closes the connection that is talked over. -/
def close (s : Server) : Server := s.undo.modifyActive ({ · with isOpen := false })

/-- Closes all connections. -/
def closeAll (s : Server) : Server :=
  (List.range s.connections.length).foldl (fun s i => { s with active := i }.close) s

/-- Carries out a command. -/
def perform (s : Server) (c : Command) : Server :=
  let withTransaction (f : Transaction → Transaction) : Server :=
    s.modifyActive fun l => { l with transaction := l.transaction.map f }
  match c with
  | .createTable table =>
    if s.tables.contains table then s
    else { s with tables := s.tables.insert table .empty }
  | .startTransaction =>
    s.modifyActive ({ · with transaction := some ⟨s.tables, none⟩ })
  | .commit => s.modifyActive ({ · with transaction := none })
  | .rollback => s.undo
  | .savepoint => withTransaction fun t => { t with mark := some s.tables }
  | .release => withTransaction fun t => { t with mark := none }
  | .rollbackToSavepoint =>
    match (s.line?.bind (·.transaction)).bind (·.mark) with
    | some mark => { s with tables := putBack s.tables mark }
    | none => s

/-- Carries out a statement with parameters: its rows, and the server afterwards. -/
def performExecution (s : Server) : Execution → List Row × Server
  | .upsert table id payload =>
    ([], { s with tables := s.tables.insert table ((s.rows table).insert id payload) })
  | .selectOne table id =>
    ((((s.rows table).find? id).map (⟨·, !s.payloadAsText⟩)).toList, s)
  | .selectPage table limit offset =>
    ((((s.rows table).values.drop offset).take limit).map (⟨·, !s.payloadAsText⟩), s)

/-! ## Answers -/

/-- Receives a statement: notes it, applies the rules, and, if none hits, goes on as usual. -/
def receive {α : Type} (s : Server) (x : Sent) (refused : Server → Server)
    (usual : Server → α × Server) : Program.Reply (Except Trouble α) × Server :=
  match s.line? with
  | none => (.answer (.error .lost), s)
  | some _ =>
    let note := x.station.word :: x.sql :: x.parameters
    let s := s.modifyActive fun l => { l with sent := note :: l.sent }
    let (mishap, rules) := applyRules x s.rules
    let s := { s with rules }
    match mishap with
    | some .refuse => (.answer (.error .refused), refused s)
    | some .hangUp => (.answer (.error .lost), s.close)
    | some .interrupt => (.silence, { s.close with hasInterrupted := true })
    | none =>
      let (answer, s) := usual s
      (.answer (.ok answer), s)

/-- The server after it has refused a command: a transaction that cannot be committed is over. -/
def afterRefusal (c : Command) (s : Server) : Server :=
  match c with
  | .commit => s.undo
  | _ => s

/-- Opens a connection, if the place is that of the server. -/
def accept (s : Server) (host : String) (port : Nat) : Bool × Server :=
  if host = s.socketDir ∧ port = Address.standardPort then
    (true,
      { s with
        connections := s.connections ++ [⟨true, none, []⟩]
        active := s.connections.length })
  else (false, s)

/-- A server with the notices of whoever talks to it, the last one first. -/
structure Desk where
  server : Server
  notices : List Notice

/-- Answers what a store asks. -/
def handler : Program.Handler Wire Wire.Answer Desk
  | .dial host port, d =>
    let (reached, server) := d.server.accept host port
    (.answer reached, { d with server })
  | .askEncryption, d =>
    let server := d.server.modifyActive fun l => { l with sent := ["tls_request"] :: l.sent }
    (.answer server.encryption, { d with server })
  | .greet, d =>
    let (reply, server) := d.server.receive ⟨.greeting, "", []⟩ id (fun s => ((), s))
    (reply, { d with server })
  | .isGone, d => (.answer d.server.line?.isNone, d)
  | .query c, d =>
    let (reply, server) :=
      d.server.receive ⟨.query, c.sql, []⟩ (afterRefusal c) (fun s => ((), s.perform c))
    (reply, { d with server })
  | .prepare x, d =>
    let (reply, server) := d.server.receive ⟨.preparing, x.sql, []⟩ id (fun s => ((), s))
    (reply, { d with server })
  | .execute x, d =>
    let (reply, server) := d.server.receive ⟨.executing, x.statement.sql, x.parameters⟩ id
      (·.performExecution x)
    (reply, { d with server })
  | .notice n, d => (.answer (), { d with notices := n :: d.notices })

/-- Lets somebody talk to a server. -/
def talk {α : Type} (d : Desk) (t : Talk α) : Program.Ending α × Desk := Program.run handler t d

/-- What was sent over each connection, in order. -/
def statements (s : Server) : List (List (List String)) :=
  s.connections.map (·.sent.reverse)

end Server

end CatalogImport.Postgres
