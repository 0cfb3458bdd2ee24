import CatalogImport.Proofs.Index
import CatalogImport.Proofs.Postgres.Session
import CatalogImport.Proofs.Transcript
import CatalogImport.Rehearsal.Server

/-!
# Sessions with the server to rehearse with

The server to rehearse with keeps to the rules of sessions (`Server.handler_keepsTo`), whichever statements
its own rules make it refuse and wherever they make it hang up, as long as none of them keeps it from
answering at all, or from taking a transaction back.
-/

namespace CatalogImport.Postgres

open CatalogImport.Program

/-! ## Rows of tables -/

namespace Tables

/-- The rows of tables by their names. -/
def contents (t : Tables) : Rows := fun name => (t.find? name).getD .empty

/-- All these tables are there now as well. -/
def Persist (earlier now : Tables) : Prop :=
  ∀ name, (earlier.find? name).isSome → (now.find? name).isSome

theorem persist_insert {earlier now : Tables} (h : Persist earlier now) (table : String)
    (rows : Index String) : Persist earlier (now.insert table rows) := by
  intro name hname
  rw [Index.find?_insert]
  split
  · rfl
  · exact h name hname

theorem contents_insert (t : Tables) (table : String) (rows : Index String) (name : String) :
    contents (t.insert table rows) name = if name = table then rows else contents t name := by
  rw [contents, Index.find?_insert]
  split
  · rfl
  · rfl

end Tables

namespace Server

variable {now earlier : Tables}

theorem find?_putBack (name : String) :
    (putBack now earlier).find? name =
      if name ∈ now.keys then some ((earlier.find? name).getD .empty) else none :=
  Index.find?_foldl_insert now.keys _ .empty name

theorem contents_putBack (h : Tables.Persist earlier now) :
    Tables.contents (putBack now earlier) = Tables.contents earlier := by
  funext name
  rw [Tables.contents, find?_putBack, Tables.contents]
  split
  · rfl
  · next hname =>
    have hgone : earlier.find? name = none := by
      rw [← Option.not_isSome_iff_eq_none]
      exact fun hearlier => hname (Index.mem_keys_iff.2 (h name hearlier))
    rw [hgone]

theorem persist_putBack {t : Tables} (h : Tables.Persist t now) :
    Tables.Persist t (putBack now earlier) := by
  intro name hname
  rw [find?_putBack, if_pos (Index.mem_keys_iff.2 (h name hname)), Option.isSome_some]

/-! ## The session -/

/-- A transaction as the one who talks knows it. -/
def pending (t : Transaction) : Pending :=
  ⟨Tables.contents t.start, t.mark.map Tables.contents, false⟩

/-- The transaction over the connection that is talked over. -/
def transaction? (s : Server) : Option Transaction := s.line?.bind (·.transaction)

/-- How things stand with the one who talks. -/
def session (s : Server) : Session where
  isOpen := s.line?.isSome
  rows := Tables.contents s.tables
  pending := s.transaction?.map pending

/-- A rule under which a server still answers, and takes a transaction back when it is asked to. -/
def Rule.IsFair (r : Rule) : Prop :=
  r.mishap ≠ .interrupt ∧
    (r.mishap = .refuse → Rule.fits r ⟨.query, Command.rollback.sql, []⟩ = false)

/-- The tables are still there to which there is a way back. -/
structure WayBack (t : Transaction) (now : Tables) : Prop where
  start : Tables.Persist t.start now
  mark : ∀ m, t.mark = some m → Tables.Persist m now

/-- The rules are fair, and the way back from a transaction is open. -/
structure Sound (s : Server) : Prop where
  rules : ∀ r ∈ s.rules, Rule.IsFair r
  wayBack : ∀ t, s.transaction? = some t → WayBack t s.tables

variable {s s' : Server}

theorem session_congr (hopen : s'.line?.isSome = s.line?.isSome) (htables : s'.tables = s.tables)
    (htransaction : s'.transaction? = s.transaction?) : s'.session = s.session := by
  rw [session, session, hopen, htables, htransaction]

theorem Sound.congr (h : Sound s) (hrules : ∀ r ∈ s'.rules, Rule.IsFair r) (htables : s'.tables = s.tables)
    (htransaction : s'.transaction? = s.transaction?) : Sound s' where
  rules := hrules
  wayBack := by rw [htables, htransaction]; exact h.wayBack

/-- Outside a transaction there is nothing to go back to. -/
theorem sound_of_transaction?_eq_none (hrules : ∀ r ∈ s.rules, Rule.IsFair r)
    (hnone : s.transaction? = none) : Sound s where
  rules := hrules
  wayBack t ht := by rw [hnone] at ht; cases ht

/-! ## Changes of the connection -/

theorem line?_modifyActive {f : Connection → Connection} (hf : ∀ l, (f l).isOpen = l.isOpen) :
    (s.modifyActive f).line? = s.line?.map f := by
  unfold line? modifyActive
  dsimp only
  rw [List.getElem?_modify]
  cases s.connections[s.active]? with
  | none => rfl
  | some l =>
    cases hl : l.isOpen with
    | true => simp [Option.filter, hf, hl]
    | false => simp [Option.filter, hf, hl]

theorem transaction?_modifyActive {f : Connection → Connection} (hf : ∀ l, (f l).isOpen = l.isOpen) :
    (s.modifyActive f).transaction? = s.line?.bind fun l => (f l).transaction := by
  rw [transaction?, line?_modifyActive hf, Option.bind_map]
  rfl

theorem isSome_line?_modifyActive {f : Connection → Connection} (hf : ∀ l, (f l).isOpen = l.isOpen) :
    (s.modifyActive f).line?.isSome = s.line?.isSome := by
  rw [line?_modifyActive hf, Option.isSome_map]

theorem undo_eq_of_some {t : Transaction} (h : s.transaction? = some t) :
    s.undo = { s with tables := putBack s.tables t.start }.modifyActive ({ · with transaction := none }) := by
  have hbind : s.line?.bind (·.transaction) = some t := h
  rw [undo, hbind]

theorem undo_eq_of_none (h : s.transaction? = none) : s.undo = s := by
  have hbind : s.line?.bind (·.transaction) = none := h
  rw [undo, hbind]

theorem transaction?_undo : s.undo.transaction? = none := by
  cases h : s.transaction? with
  | none => rw [undo_eq_of_none h, h]
  | some t =>
    rw [undo_eq_of_some h, transaction?_modifyActive (by exact fun _ => rfl)]
    exact Option.bind_fun_none _

theorem rules_undo : s.undo.rules = s.rules := by
  cases h : s.transaction? with
  | none => rw [undo_eq_of_none h]
  | some t =>
    rw [undo_eq_of_some h]
    rfl

theorem Sound.undo (h : Sound s) : Sound s.undo :=
  sound_of_transaction?_eq_none (by rw [rules_undo]; exact h.rules) transaction?_undo

/-- What has not been committed is put back. -/
theorem session_undo (h : Sound s) : s.undo.session = s.session.rolledBack := by
  cases ht : s.transaction? with
  | none =>
    rw [undo_eq_of_none ht, session, ht]
    rfl
  | some t =>
    have hstart := contents_putBack (h.wayBack t ht).start
    have hnone := transaction?_undo (s := s)
    rw [undo_eq_of_some ht] at hnone ⊢
    rw [session, hnone, isSome_line?_modifyActive (by exact fun _ => rfl), session, ht]
    exact congrArg (Session.mk _ · none) hstart

theorem line?_close : s.close.line? = none := by
  unfold close line? modifyActive
  dsimp only
  rw [List.getElem?_modify]
  cases s.undo.connections[s.undo.active]? with
  | none => rfl
  | some l => simp

theorem transaction?_close : s.close.transaction? = none := by
  rw [transaction?, line?_close]
  rfl

theorem Sound.close (h : Sound s) : Sound s.close :=
  sound_of_transaction?_eq_none h.undo.rules transaction?_close

/-- With the connection goes what has not been committed. -/
theorem session_close (h : Sound s) : s.close.session = s.session.closed := by
  have hundone : s.undo.session.pending = none := by
    rw [session, transaction?_undo]
    rfl
  rw [Session.closed, ← session_undo h, hundone, session, line?_close, transaction?_close]
  rfl

/-! ## Rules -/

/-- The first of some rules does nothing about a statement, or it fits it and something is done. -/
theorem applyRules_cons (x : Sent) (r : Rule) (rules : List Rule) :
    ∃ count,
      applyRules x (r :: rules) =
          ((applyRules x rules).1, { r with count } :: (applyRules x rules).2) ∨
        Rule.fits r x ∧ applyRules x (r :: rules) = (some r.mishap, { r with count } :: rules) := by
  rw [applyRules]
  cases hfits : Rule.fits r x with
  | false =>
    rw [if_neg Bool.false_ne_true]
    exact ⟨r.count, .inl rfl⟩
  | true =>
    rw [if_pos rfl]
    refine ⟨r.count + 1, ?_⟩
    dsimp only
    split
    · exact .inr ⟨rfl, rfl⟩
    · exact .inl rfl

theorem isFair_of_mem_applyRules {x : Sent} {rules : List Rule} (h : ∀ r ∈ rules, Rule.IsFair r) :
    ∀ r ∈ (applyRules x rules).2, Rule.IsFair r := by
  induction rules with
  | nil => exact h
  | cons first rules ih =>
    have hfirst : ∀ count, Rule.IsFair { first with count } := fun _ => h first List.mem_cons_self
    have hrules : ∀ r ∈ rules, Rule.IsFair r := fun r hr => h r (List.mem_cons_of_mem first hr)
    obtain ⟨count, heq | ⟨-, heq⟩⟩ := applyRules_cons x first rules
    · rw [heq]
      exact List.forall_mem_cons.2 ⟨hfirst count, ih hrules⟩
    · rw [heq]
      exact List.forall_mem_cons.2 ⟨hfirst count, hrules⟩

/-- Only a rule that fits a statement does anything about it. -/
theorem exists_of_applyRules {x : Sent} {rules : List Rule} {m : Mishap}
    (h : (applyRules x rules).1 = some m) : ∃ r ∈ rules, Rule.fits r x ∧ r.mishap = m := by
  induction rules with
  | nil => cases h
  | cons first rules ih =>
    obtain ⟨count, heq | ⟨hfits, heq⟩⟩ := applyRules_cons x first rules
    · rw [heq] at h
      obtain ⟨r, hr, hfits⟩ := ih h
      exact ⟨r, List.mem_cons_of_mem first hr, hfits⟩
    · rw [heq] at h
      exact ⟨first, List.mem_cons_self, hfits, Option.some.inj h⟩

/-- A server that has received a statement, before it does anything about it. -/
def noted (s : Server) (x : Sent) : Server :=
  { s.modifyActive (fun l => { l with sent := (x.station.word :: x.sql :: x.parameters) :: l.sent }) with
    rules := (applyRules x s.rules).2 }

theorem isSome_line?_noted (x : Sent) : (s.noted x).line?.isSome = s.line?.isSome :=
  isSome_line?_modifyActive fun _ => rfl

theorem transaction?_noted (x : Sent) : (s.noted x).transaction? = s.transaction? :=
  transaction?_modifyActive fun _ => rfl

theorem Sound.noted (h : Sound s) (x : Sent) : Sound (s.noted x) :=
  h.congr (isFair_of_mem_applyRules h.rules) rfl (transaction?_noted x)

theorem session_noted (x : Sent) : (s.noted x).session = s.session :=
  session_congr (isSome_line?_noted x) rfl (transaction?_noted x)

theorem receive_eq {α : Type} (x : Sent) (refused : Server → Server) (usual : Server → α × Server) :
    s.receive x refused usual =
      if s.line?.isSome then
        match (applyRules x s.rules).1 with
        | some .refuse => (.answer (.error .refused), refused (s.noted x))
        | some .hangUp => (.answer (.error .lost), (s.noted x).close)
        | some .interrupt => (.silence, { (s.noted x).close with hasInterrupted := true })
        | none => (.answer (.ok (usual (s.noted x)).1), (usual (s.noted x)).2)
      else (.answer (.error .lost), s) := by
  unfold receive
  cases s.line? with
  | none => rfl
  | some l => rfl

/-- What holds of the answer to a statement, and of the server afterwards, if it does in each of the ways in
which a statement may end. -/
theorem receive_ends {α : Type} (h : Sound s) {x : Sent} {refused : Server → Server}
    {usual : Server → α × Server} {post : Except Trouble α → Server → Prop}
    (hlost : ∀ s', Sound s' → s'.session = s.session.closed → post (.error .lost) s')
    (hrefused : x ≠ ⟨.query, Command.rollback.sql, []⟩ →
      ∀ s', Sound s' → s'.session = s.session → post (.error .refused) (refused s'))
    (husual : ∀ s', Sound s' → s'.session = s.session → s'.line?.isSome →
      post (.ok (usual s').1) (usual s').2) :
    ∃ answer s', s.receive x refused usual = (.answer answer, s') ∧ post answer s' := by
  have hnoted := h.noted x
  have hsession := session_noted (s := s) x
  rw [receive_eq]
  cases hline : s.line?.isSome with
  | false =>
    have hgone : s.line? = none := Option.not_isSome_iff_eq_none.1 (by rw [hline]; decide)
    refine ⟨_, _, rfl, hlost s h ?_⟩
    rw [session, transaction?, hgone]
    rfl
  | true =>
    rw [if_pos rfl]
    cases hmishap : (applyRules x s.rules).1 with
    | none =>
      refine ⟨_, _, rfl, husual _ hnoted hsession ?_⟩
      rw [isSome_line?_noted, hline]
    | some m =>
      obtain ⟨r, hr, hfits, rfl⟩ := exists_of_applyRules hmishap
      obtain ⟨hanswers, hfair⟩ := h.rules r hr
      cases hm : r.mishap with
      | refuse =>
        -- a fair rule that refuses does not fit what takes a transaction back
        refine ⟨_, _, rfl, hrefused ?_ _ hnoted hsession⟩
        rintro rfl
        rw [hfair hm] at hfits
        cases hfits
      | hangUp =>
        refine ⟨_, _, rfl, hlost _ hnoted.close ?_⟩
        rw [session_close hnoted, hsession]
      | interrupt => exact absurd hm hanswers

/-! ## Statements that go through -/

section

variable {l : Connection} {f : Connection → Connection}

theorem session_modifyActive (hf : ∀ l, (f l).isOpen = l.isOpen) (hl : s.line? = some l) :
    (s.modifyActive f).session =
      { s.session with pending := (f l).transaction.map pending } := by
  rw [session, session, isSome_line?_modifyActive hf, transaction?_modifyActive hf, hl]
  rfl

theorem Sound.modifyActive (h : Sound s) (hf : ∀ l, (f l).isOpen = l.isOpen) (hl : s.line? = some l)
    (hback : ∀ t, (f l).transaction = some t → WayBack t s.tables) : Sound (s.modifyActive f) := by
  refine ⟨h.rules, ?_⟩
  rw [transaction?_modifyActive hf, hl]
  exact hback

end

theorem exists_transaction {p : Pending} (h : s.session.pending = some p) :
    ∃ t, s.transaction? = some t ∧ pending t = p := Option.map_eq_some_iff.1 h

theorem Sound.setTables (h : Sound s) {tables : Tables}
    (hpersist : ∀ t, Tables.Persist t s.tables → Tables.Persist t tables) :
    Sound { s with tables } where
  rules := h.rules
  wayBack t ht := ⟨hpersist _ (h.wayBack t ht).start, fun m hm => hpersist _ ((h.wayBack t ht).mark m hm)⟩

theorem perform_createTable_goes (h : Sound s) (table : String) :
    Sound (s.perform (.createTable table)) ∧ (s.perform (.createTable table)).session = s.session := by
  rw [perform]
  split
  · exact ⟨h, rfl⟩
  · next hnew =>
    refine ⟨h.setTables fun t ht => Tables.persist_insert ht table .empty, ?_⟩
    have hgone : s.tables.find? table = none := Option.not_isSome_iff_eq_none.1 hnew
    refine congrArg (Session.mk _ · _) (funext fun name => ?_)
    rw [Tables.contents_insert]
    split
    · next hname => rw [hname, Tables.contents, hgone, Option.getD_none]
    · rfl

/-- Setting or clearing a mark. -/
theorem setMark_goes (h : Sound s) (hopen : s.line?.isSome) (mark : Option Tables)
    (hmark : ∀ m, mark = some m → Tables.Persist m s.tables) {s' : Server}
    (hs' : s' = s.modifyActive fun l => { l with transaction := l.transaction.map ({ · with mark }) }) :
    Sound s' ∧ ∀ p, s.session.pending = some p →
      s'.session = { s.session with pending := some { p with mark := mark.map Tables.contents } } := by
  subst hs'
  obtain ⟨l, hl⟩ := Option.isSome_iff_exists.1 hopen
  have htransaction : s.transaction? = l.transaction := by
    rw [transaction?, hl]
    rfl
  constructor
  · refine h.modifyActive (by exact fun _ => rfl) hl fun t ht => ?_
    obtain ⟨t₀, ht₀, rfl⟩ := Option.map_eq_some_iff.1 ht
    exact ⟨(h.wayBack t₀ (htransaction.trans ht₀)).start, hmark⟩
  · intro p hp
    obtain ⟨t, ht, rfl⟩ := exists_transaction hp
    rw [session_modifyActive (by exact fun _ => rfl) hl, ← htransaction, ht]
    rfl

theorem perform_rollbackToSavepoint_of_some {mark : Tables}
    (h : s.transaction?.bind (·.mark) = some mark) :
    s.perform .rollbackToSavepoint = { s with tables := putBack s.tables mark } := by
  have hbind : (s.line?.bind (·.transaction)).bind (·.mark) = some mark := h
  rw [perform, hbind]

theorem perform_rollbackToSavepoint_of_none (h : s.transaction?.bind (·.mark) = none) :
    s.perform .rollbackToSavepoint = s := by
  have hbind : (s.line?.bind (·.transaction)).bind (·.mark) = none := h
  rw [perform, hbind]

theorem perform_rollbackToSavepoint_goes (h : Sound s) :
    Sound (s.perform .rollbackToSavepoint) ∧
      s.session.Performs (.query .rollbackToSavepoint) (s.perform .rollbackToSavepoint).session := by
  cases hmark : s.transaction?.bind (·.mark) with
  | none =>
    rw [perform_rollbackToSavepoint_of_none hmark]
    refine ⟨h, fun p m hp hm => ?_⟩
    obtain ⟨t, ht, rfl⟩ := exists_transaction hp
    obtain ⟨mark, hm, -⟩ := Option.map_eq_some_iff.1 hm
    rw [ht, Option.bind_some, hm] at hmark
    cases hmark
  | some mark =>
    rw [perform_rollbackToSavepoint_of_some hmark]
    refine ⟨h.setTables fun t ht => persist_putBack ht, fun p m hp hm => ?_⟩
    obtain ⟨t, ht, rfl⟩ := exists_transaction hp
    obtain ⟨mark', hmark', rfl⟩ := Option.map_eq_some_iff.1 hm
    rw [ht, Option.bind_some, hmark'] at hmark
    cases hmark
    have hrows := contents_putBack ((h.wayBack t ht).mark mark hmark')
    exact (congrArg (Session.mk _ · _) hrows).trans (congrArg (Session.mk _ _) hp)

/-- A command that goes through is carried out as a session says. -/
theorem perform_goes (h : Sound s) (hopen : s.line?.isSome) (c : Command) :
    Sound (s.perform c) ∧ s.session.Performs (.query c) (s.perform c).session := by
  obtain ⟨l, hl⟩ := Option.isSome_iff_exists.1 hopen
  cases c with
  | createTable table => exact perform_createTable_goes h table
  | startTransaction =>
    have hsound : Sound (s.perform .startTransaction) := by
      refine h.modifyActive (by exact fun _ => rfl) hl fun t ht => ?_
      cases ht
      exact ⟨fun _ => id, fun m hm => nomatch hm⟩
    exact ⟨hsound, fun _ => session_modifyActive (by exact fun _ => rfl) hl⟩
  | commit =>
    have hsound : Sound (s.perform .commit) :=
      h.modifyActive (by exact fun _ => rfl) hl fun t ht => nomatch ht
    exact ⟨hsound, fun _ _ => session_modifyActive (by exact fun _ => rfl) hl⟩
  | rollback => exact ⟨h.undo, session_undo h⟩
  | savepoint =>
    obtain ⟨hsound, hsession⟩ := setMark_goes h hopen (some s.tables)
      (by rintro _ ⟨⟩; exact fun _ => id) rfl
    exact ⟨hsound, fun p hp => hsession p hp.1⟩
  | release =>
    obtain ⟨hsound, hsession⟩ := setMark_goes h hopen none (by rintro _ ⟨⟩) rfl
    exact ⟨hsound, fun p hp _ => ⟨none, hsession p hp.1⟩⟩
  | rollbackToSavepoint => exact perform_rollbackToSavepoint_goes h

/-- A statement with parameters that goes through is carried out as a session says. -/
theorem performExecution_goes (h : Sound s) (x : Execution) :
    Sound (s.performExecution x).2 ∧
      s.session.Performs (.execute x) (s.performExecution x).2.session := by
  cases x with
  | selectOne table id => exact ⟨h, rfl⟩
  | selectPage table limit offset => exact ⟨h, rfl⟩
  | upsert table id payload =>
    refine ⟨h.setTables fun t ht => Tables.persist_insert ht table _, fun _ => ?_⟩
    refine congrArg (Session.mk _ · _) (funext fun name => ?_)
    refine (Tables.contents_insert s.tables table _ name).trans ?_
    rw [Rows.write]
    split
    · next hname =>
      subst hname
      rfl
    · rfl

/-! ## Questions -/

theorem query_goes (h : Sound s) (c : Command) :
    ∃ answer s', s.receive ⟨.query, c.sql, []⟩ (afterRefusal c) (fun s => ((), s.perform c)) =
        (.answer answer, s') ∧ Sound s' ∧ s.session.Goes ⟨.query c, answer⟩ s'.session := by
  refine receive_ends h ?_ ?_ ?_
  · exact fun s' hs' hsession => ⟨hs', hsession⟩
  · intro hother s' hs' hsession
    cases c with
    | commit =>
      have hundone : s'.undo.session = s.session.rolledBack := hsession ▸ session_undo hs'
      exact ⟨hs'.undo, hundone⟩
    | rollback => exact absurd rfl hother
    | _ => exact ⟨hs', .inl hsession⟩
  · intro s' hs' hsession hopen
    obtain ⟨hsound, hperforms⟩ := perform_goes hs' hopen c
    rw [← hsession]
    exact ⟨hsound, fun _ => hopen, hperforms⟩

theorem prepare_goes (h : Sound s) (x : Statement) :
    ∃ answer s', s.receive ⟨.preparing, x.sql, []⟩ id (fun s => ((), s)) = (.answer answer, s') ∧
      Sound s' ∧ s.session.Goes ⟨.prepare x, answer⟩ s'.session := by
  refine receive_ends h ?_ ?_ ?_
  · exact fun s' hs' hsession => ⟨hs', hsession⟩
  · exact fun _ s' hs' hsession => ⟨hs', .inl hsession⟩
  · intro s' hs' hsession hopen
    rw [← hsession]
    exact ⟨hs', fun _ => hopen, rfl⟩

theorem execute_goes (h : Sound s) (x : Execution) :
    ∃ answer s', s.receive ⟨.executing, x.statement.sql, x.parameters⟩ id (·.performExecution x) =
        (.answer answer, s') ∧ Sound s' ∧ s.session.Goes ⟨.execute x, answer⟩ s'.session := by
  refine receive_ends h ?_ ?_ ?_
  · exact fun s' hs' hsession => ⟨hs', hsession⟩
  · exact fun _ s' hs' hsession => ⟨hs', .inl hsession⟩
  · intro s' hs' hsession hopen
    obtain ⟨hsound, hperforms⟩ := performExecution_goes hs' x
    rw [← hsession]
    exact ⟨hsound, fun _ => hopen, hperforms⟩

theorem greet_goes (h : Sound s) :
    ∃ answer s', s.receive ⟨.greeting, "", []⟩ id (fun s => ((), s)) = (.answer answer, s') ∧ Sound s' :=
  receive_ends h (fun _ hs' _ => hs') (fun _ _ hs' _ => hs') fun _ hs' _ _ => hs'

/-- A connection that has just been opened has no transaction. -/
theorem Sound.accept (h : Sound s) (host : String) (port : Nat) : Sound (s.accept host port).2 := by
  unfold Server.accept
  split
  · have hnone : ∀ s' : Server, s'.connections = s.connections ++ [⟨true, none, []⟩] →
        s'.active = s.connections.length → s'.transaction? = none := by
      intro s' hconnections hactive
      rw [transaction?, line?, hconnections, hactive, List.getElem?_concat_length]
      rfl
    exact sound_of_transaction?_eq_none h.rules (hnone _ rfl rfl)
  · exact h

/-- The server to rehearse with keeps to the rules of sessions. -/
theorem handler_keepsTo :
    Handler.KeepsTo handler Session.Goes (fun d => d.server.session) fun d => Sound d.server := by
  intro q d hd
  cases q with
  | dial host port => exact ⟨_, _, rfl, hd.accept host port, Session.goes_of_performs rfl trivial⟩
  | askEncryption =>
    refine ⟨_, _, rfl, ?_, Session.goes_of_performs rfl trivial⟩
    exact hd.congr hd.rules rfl (transaction?_modifyActive fun _ => rfl)
  | greet =>
    obtain ⟨answer, s', heq, hs'⟩ := greet_goes hd
    exact ⟨answer, { d with server := s' }, by rw [handler, heq], hs',
      Session.goes_of_performs rfl trivial⟩
  | isGone => exact ⟨_, d, rfl, hd, Session.goes_of_performs rfl rfl⟩
  | query c =>
    obtain ⟨answer, s', heq, hs', hgoes⟩ := query_goes hd c
    exact ⟨answer, { d with server := s' }, by rw [handler, heq], hs', hgoes⟩
  | prepare x =>
    obtain ⟨answer, s', heq, hs', hgoes⟩ := prepare_goes hd x
    exact ⟨answer, { d with server := s' }, by rw [handler, heq], hs', hgoes⟩
  | execute x =>
    obtain ⟨answer, s', heq, hs', hgoes⟩ := execute_goes hd x
    exact ⟨answer, { d with server := s' }, by rw [handler, heq], hs', hgoes⟩
  | notice n =>
    exact ⟨(), { d with notices := n :: d.notices }, rfl, hd, Session.goes_of_performs rfl rfl⟩

end Server

end CatalogImport.Postgres
