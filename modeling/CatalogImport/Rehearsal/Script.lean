import CatalogImport.Json.Access
import CatalogImport.Rehearsal.Server

/-!
# Scripts of rehearsals

What the actors of a rehearsal do can be written as JSON.  Everything may be left out, and then an actor
does what is usual.
-/

namespace CatalogImport

open CatalogImport.Json

/-- The kind of records with a word, or else a usual one. -/
def RecordKind.ofWord (usual : RecordKind) (word : Option String) : RecordKind :=
  (word.bind fun w => all.find? (·.key == w)).getD usual

/-- The error of a store, by a word for its kind and a message. -/
def StoreError.ofValue (v : Value) : StoreError :=
  let message := (v.textAt? "message").getD ""
  match v.textAt? "err" with
  | some "validation" => .rejected message
  | some "not_found" => .notFound message
  | _ => .transport message

/-- What a store does at a call. -/
def Act.ofValue (v : Value) : Act :=
  if (v.at? "err").isSome then .fail (.ofValue v)
  else if (v.at? "reject").isSome then .reject (v.textsAt "reject")
  else
    match v.at? "report" with
    | some r =>
      let count (key : String) : Nat := (r.natAt? key).getD 0
      .report (count "total") (count "successful") (count "failed")
    | none =>
      if v.boolAt? "stall" = some true then .stall
      else if v.boolAt? "panic" = some true then .breakDown
      else .accept

/-- What a store does at a call, and whether it cancels the import. -/
def Cue.ofValue (v : Value) : Cue := ⟨.ofValue v, (v.boolAt? "cancel").getD false⟩

/-- A store for records of a kind, unless its script names another one. -/
def ScriptedStore.ofValue (kind : RecordKind) (v : Value) : ScriptedStore where
  memory := .empty (.ofWord kind (v.textAt? "kind"))
  script := (v.itemsAt "script").map .ofValue
  afterwards := ((v.at? "then").map .ofValue).getD ⟨.accept, false⟩
  calls := []

/-- A desk whose calls fail, get no answer or bring the caller down, by words. -/
def JournalDesk.ofWords (journal : Journal) (words : List String) : JournalDesk where
  journal := journal
  failing := words.filterMap fun
    | "save" => some .save
    | "load" => some .load
    | "append" => some .append
    | "iter" => some .scan
    | _ => none
  manner :=
    if words.contains "stall" then .silent
    else if words.contains "panic" then .breaking
    else .answering

namespace Postgres

/-- A rule of a server. -/
def Rule.ofValue (v : Value) : Rule where
  station := (v.textAt? "at").bind fun word =>
    [Station.greeting, .query, .preparing, .executing].find? (·.word == word)
  sqlStart := v.textAt? "sql"
  firstParameter := v.textAt? "id"
  skip := (v.natAt? "skip").getD 0
  times := (v.natAt? "times").getD 1
  mishap :=
    if v.boolAt? "close" = some true then .hangUp
    else if (v.at? "signal").isSome then .interrupt
    else .refuse
  count := 0

/-- A server at a socket. -/
def Server.ofValue (socketDir : String) (v : Value) : Server where
  socketDir := socketDir
  tables := .ofList ((v.membersAt "tables").map fun (name, rows) => (name, .ofList rows.textMembers))
  rules := (v.itemsAt "rules").map .ofValue
  encryption := match v.textAt? "ssl" with
    | some "S" => .agreed
    | some "X" => .hungUp
    | _ => .declined
  payloadAsText := (v.boolAt? "payload_as_text").getD false
  connections := []
  active := 0
  hasInterrupted := false

end Postgres

end CatalogImport
