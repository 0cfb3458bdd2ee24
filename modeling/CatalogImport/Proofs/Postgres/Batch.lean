import CatalogImport.Proofs.Postgres.Rehearsal
import CatalogImport.Proofs.Postgres.Transaction
import CatalogImport.Proofs.Store.Memory

/-!
# Batches on a server

A batch is written in one transaction, each record from a mark of its own.  Whatever pattern of answers the
server gives, each record is written or not as its own statement went through, and both are reported
(`ventures_writeRecord`), which goes on from record to record (`ventures_foldlM_writeRecord`).  Main statement:
a batch that fails leaves the tables as they were, and one that does not has been written as its report says
(`batch_is_all_or_nothing`).
-/

namespace CatalogImport.Postgres

open CatalogImport.Program

/-! ## What became of records -/

/-- A record with the trouble that there was with it, if it was not taken. -/
structure Verdict where
  record : Stored
  trouble : Option Trouble

namespace Verdict

/-- The statement that writes the record, with its trouble. -/
def execution (table : String) (v : Verdict) : Execution × Option Trouble :=
  (.upsert table v.record.id v.record.payload.compact, v.trouble)

/-- The rows of the tables with the record, if it was taken. -/
def write (table : String) (rows : Rows) (v : Verdict) : Rows :=
  match v.trouble with
  | none => rows.write table v.record.id v.record.payload.compact
  | some _ => rows

/-- The report of a batch with the record. -/
def report (result : BatchResult) (v : Verdict) : BatchResult :=
  match v.trouble with
  | none => result.recordSuccess v.record.id
  | some t => result.recordFailure (v.record.id ++ ": " ++ t.message)

end Verdict

/-- The execution of an exchange, and the trouble with it, if there was any. -/
def execution? : Wire.Exchange → Option (Execution × Option Trouble)
  | ⟨.execute x, answer⟩ => some (x, trouble? ⟨.execute x, answer⟩)
  | _ => none

/-- The rows of the tables after records have been written into one of them. -/
def Rows.writeAll (rows : Rows) (table : String) (records : List Stored) : Rows :=
  records.foldl (fun rows r => rows.write table r.id r.payload.compact) rows

namespace Verdict

/-- The records that were taken. -/
def taken (verdicts : List Verdict) : List Stored :=
  (verdicts.filter (·.trouble.isNone)).map (·.record)

/-- A line for each record that was not taken. -/
def lines (verdicts : List Verdict) : List String :=
  verdicts.filterMap fun v => v.trouble.map fun t => v.record.id ++ ": " ++ t.message

variable (r : Stored) (t : Trouble) (verdicts : List Verdict)

@[simp] theorem taken_cons_none : taken (⟨r, none⟩ :: verdicts) = r :: taken verdicts := rfl

@[simp] theorem taken_cons_some : taken (⟨r, some t⟩ :: verdicts) = taken verdicts := rfl

@[simp] theorem lines_cons_none : lines (⟨r, none⟩ :: verdicts) = lines verdicts := rfl

@[simp] theorem lines_cons_some :
    lines (⟨r, some t⟩ :: verdicts) = (r.id ++ ": " ++ t.message) :: lines verdicts := rfl

/-- The report of a batch is that of its records, counted and listed by what became of them. -/
theorem foldl_report (result : BatchResult) :
    verdicts.foldl report result =
      { total := result.total + verdicts.length
        successful := result.successful + (taken verdicts).length
        failed := result.failed + (lines verdicts).length
        insertedIds := result.insertedIds ++ (taken verdicts).map (·.id)
        errorDetails := result.errorDetails ++ lines verdicts } := by
  induction verdicts generalizing result with
  | nil => simp [taken, lines]
  | cons v verdicts ih =>
    obtain ⟨r, _ | t⟩ := v
    · rw [List.foldl_cons, ih]
      simp [report, BatchResult.recordSuccess, Nat.add_assoc, Nat.add_comm 1]
    · rw [List.foldl_cons, ih]
      simp [report, BatchResult.recordFailure, Nat.add_assoc, Nat.add_comm 1]

/-- Each record is either taken or has its line. -/
theorem length_taken_add_length_lines :
    (taken verdicts).length + (lines verdicts).length = verdicts.length := by
  induction verdicts with
  | nil => rfl
  | cons v verdicts ih =>
    obtain ⟨r, _ | t⟩ := v
    · rw [taken_cons_none, lines_cons_none, List.length_cons, List.length_cons, ← ih]
      omega
    · rw [taken_cons_some, lines_cons_some, List.length_cons, List.length_cons, ← ih]
      omega

theorem foldl_write (table : String) (rows : Rows) :
    verdicts.foldl (write table) rows = rows.writeAll table (taken verdicts) := by
  induction verdicts generalizing rows with
  | nil => rfl
  | cons v verdicts ih =>
    obtain ⟨r, _ | t⟩ := v
    · exact ih _
    · exact ih _

variable {verdicts}

/-- Records without trouble are all taken. -/
theorem taken_of_trouble_eq_none (h : ∀ v ∈ verdicts, v.trouble = none) :
    taken verdicts = verdicts.map (·.record) := by
  rw [taken, List.filter_eq_self.2 fun v hv => by rw [h v hv]; rfl]

theorem lines_of_trouble_eq_none (h : ∀ v ∈ verdicts, v.trouble = none) : lines verdicts = [] :=
  List.filterMap_eq_nil_iff.2 fun v hv => by rw [h v hv]; rfl

end Verdict

/-! ## A batch that has been committed -/

/-- What is found, and what is reported, after a batch has been committed: of the statements that wrote its
records those that went through have had their effect. -/
structure Committed (table : String) (records : List Stored) (before : Rows) (t : List Wire.Exchange)
    (result : BatchResult) (after : Rows) (verdicts : List Verdict) : Prop where
  records_eq : verdicts.map (·.record) = records
  executions : t.filterMap execution? = verdicts.map (·.execution table)
  rows_eq : after = before.writeAll table (Verdict.taken verdicts)
  total : result.total = records.length
  accounted : result.successful + result.failed = result.total
  successful : result.successful = (Verdict.taken verdicts).length
  insertedIds : result.insertedIds = (Verdict.taken verdicts).map (·.id)
  errorDetails : result.errorDetails = Verdict.lines verdicts

variable {s s' : Session} {p : Pending} {table : String}

namespace Committed

variable {records : List Stored} {verdicts : List Verdict} {result : BatchResult} {before after : Rows}
  {t : List Wire.Exchange}

/-- Where no exchange had any trouble, the verdicts on the records have none. -/
theorem trouble_eq_none (h : Committed table records before t result after verdicts)
    (ht : ∀ e ∈ t, trouble? e = none) : ∀ v ∈ verdicts, v.trouble = none := by
  intro v hv
  have hmem : v.execution table ∈ t.filterMap execution? := by
    rw [h.executions]
    exact List.mem_map_of_mem hv
  obtain ⟨⟨q, x⟩, he, hexecution⟩ := List.mem_filterMap.1 hmem
  cases q with
  | execute y =>
    have htrouble := congrArg Prod.snd (Option.some.inj hexecution)
    exact htrouble.symm.trans (ht _ he)
  | _ => cases hexecution

/-- Where no exchange had any trouble, the report is that of a store in memory. -/
theorem result_eq_addMany (h : Committed table records before t result after verdicts)
    (ht : ∀ e ∈ t, trouble? e = none) (hids : ∀ r ∈ records, r.id ≠ "") (store : MemoryStore) :
    result = (store.addMany records).2 := by
  have hnone := h.trouble_eq_none ht
  have htaken : Verdict.taken verdicts = records := by
    rw [Verdict.taken_of_trouble_eq_none hnone, h.records_eq]
  have hsuccessful : result.successful = records.length := by rw [h.successful, htaken]
  have hfailed : result.failed = 0 := by
    have := h.accounted
    have := h.total
    omega
  have hinserted : result.insertedIds = records.map (·.id) := by rw [h.insertedIds, htaken]
  have hlines : result.errorDetails = [] := by
    rw [h.errorDetails, Verdict.lines_of_trouble_eq_none hnone]
  calc result
    _ = ⟨result.total, result.successful, result.failed, result.insertedIds, result.errorDetails⟩ := rfl
    _ = (store.addMany records).2 := by
      rw [h.total, hsuccessful, hfailed, hinserted, hlines, MemoryStore.addMany_snd hids]

/-- Exchanges around those in which the records were written make no difference. -/
theorem of_filterMap_eq {u : List Wire.Exchange}
    (h : Committed table records before t result after verdicts)
    (hu : u.filterMap execution? = t.filterMap execution?) :
    Committed table records before u result after verdicts :=
  { h with executions := hu.trans h.executions }

end Committed

/-! ## Records in a transaction -/

/-- Records have been written, each or not as the verdict on it says, in a transaction that goes on. -/
structure Wrote (table : String) (verdicts : List Verdict) (result : BatchResult) (s : Session)
    (t : List Wire.Exchange) (result' : BatchResult) (s' : Session) : Prop where
  executions : t.filterMap execution? = verdicts.map (·.execution table)
  result_eq : result' = verdicts.foldl Verdict.report result
  rows_eq : s'.rows = verdicts.foldl (Verdict.write table) s.rows
  within : ∃ p, s'.Within p

theorem Wrote.committed {verdicts : List Verdict} {result : BatchResult} {t : List Wire.Exchange}
    (h : Wrote table verdicts .empty s t result s') :
    Committed table (verdicts.map (·.record)) s.rows t result s'.rows verdicts where
  records_eq := rfl
  executions := h.executions
  rows_eq := by rw [h.rows_eq, Verdict.foldl_write]
  total := by
    rw [h.result_eq, Verdict.foldl_report, List.length_map]
    exact Nat.zero_add _
  accounted := by
    rw [h.result_eq, Verdict.foldl_report, ← Verdict.length_taken_add_length_lines verdicts]
    simp [BatchResult.empty]
  successful := by
    rw [h.result_eq, Verdict.foldl_report]
    exact Nat.zero_add _
  insertedIds := by
    rw [h.result_eq, Verdict.foldl_report]
    rfl
  errorDetails := by
    rw [h.result_eq, Verdict.foldl_report]
    rfl

/-- A record is written from a mark of its own, and a transaction that has got so far goes on either way. -/
theorem ventures_writeRecord (h : s.Within p) (result : BatchResult) (r : Stored) :
    Ventures (writeRecord table result r) s fun t result' s' =>
      ∃ v : Verdict, v.record = r ∧ Wrote table [v] result s t result' s' := by
  refine (ventures_savepoint h).bind ?_
  rintro _ _ s₁ ⟨rfl, hrows₁, h₁⟩
  refine (ventures_upsert h₁ table r.id r.payload.compact).bind ?_
  rintro _ (e | rows) s₂ ⟨rfl, h₂⟩
  -- not taken: if the connection is lost, so is the command that goes back, and nothing more is to be shown
  · have hback : s₂.isOpen → ∃ p, s₂.pending = some p ∧ p.mark = some s.rows := by
      intro hopen
      obtain ⟨isAborted, hp⟩ := h₂ hopen
      exact ⟨_, hp, rfl⟩
    refine (ventures_rollbackToSavepoint hback).bind ?_
    rintro _ _ s₃ ⟨rfl, hrows₃, hwithin₃⟩
    refine (ventures_notice .recordRefusedByServer).bind ?_
    rintro _ _ _ ⟨rfl, rfl⟩
    exact ventures_pure ⟨⟨r, some e⟩, rfl, rfl, rfl, hrows₃, hwithin₃⟩
  · obtain ⟨hrows₂, hwithin₂⟩ := h₂
    refine (ventures_release hwithin₂ rfl).bind ?_
    rintro _ _ s₃ ⟨rfl, hrows₃, hwithin₃⟩
    refine ventures_pure ⟨⟨r, none⟩, rfl, rfl, rfl, ?_, hwithin₃⟩
    rw [hrows₃, hrows₂, hrows₁]
    rfl

theorem Wrote.append {verdicts more : List Verdict} {result result₁ result₂ : BatchResult}
    {s₁ s₂ : Session} {t u : List Wire.Exchange} (h : Wrote table verdicts result s t result₁ s₁)
    (h' : Wrote table more result₁ s₁ u result₂ s₂) :
    Wrote table (verdicts ++ more) result s (t ++ u) result₂ s₂ where
  executions := by rw [List.filterMap_append, h.executions, h'.executions, List.map_append]
  result_eq := by rw [h'.result_eq, h.result_eq, List.foldl_append]
  rows_eq := by rw [h'.rows_eq, h.rows_eq, List.foldl_append]
  within := h'.within

theorem ventures_foldlM_writeRecord (h : s.Within p) (result : BatchResult) (records : List Stored) :
    Ventures (records.foldlM (writeRecord table) result) s fun t result' s' =>
      ∃ verdicts : List Verdict, verdicts.map (·.record) = records ∧
        Wrote table verdicts result s t result' s' := by
  induction records generalizing s p result with
  | nil => exact ventures_pure ⟨[], rfl, rfl, rfl, rfl, p, h⟩
  | cons r records ih =>
    -- the transaction that the first record leaves is another one, with the same start
    rw [List.foldlM_cons]
    refine (ventures_writeRecord h result r).bind ?_
    rintro t result₁ s₁ ⟨v, rfl, hv⟩
    obtain ⟨p₁, hp₁⟩ := hv.within
    refine (ih hp₁ result₁).mono ?_
    rintro u result₂ s₂ ⟨verdicts, rfl, hverdicts⟩
    exact ⟨v :: verdicts, rfl, hv.append hverdicts⟩

/-- Records are written in a transaction of their own, when no other is under way. -/
theorem ventures_writeRecords (hidle : s.pending = none) (records : List Stored) :
    Ventures (writeRecords table records) s fun t result s' => (∃ p, s'.Within p) ∧
      ∃ verdicts, Committed table records s.rows t result s'.rows verdicts := by
  refine (ventures_startTransaction hidle).bind ?_
  rintro _ _ s₁ ⟨rfl, hrows₁, p, hp⟩
  refine (ventures_prepare _).bind ?_
  rintro _ _ _ ⟨rfl, rfl⟩
  refine (ventures_foldlM_writeRecord hp .empty records).mono ?_
  rintro t result s' ⟨verdicts, rfl, hwrote⟩
  refine ⟨hwrote.within, verdicts, ?_⟩
  rw [← hrows₁]
  exact hwrote.committed.of_filterMap_eq rfl

/-! ## All or nothing -/

theorem addMany_eq (records : List Stored) :
    addMany table records = (do
      if ← wire .isGone then throw (.transport "connection to Postgres is closed")
      transaction (writeRecords table records)) := rfl

/-- How a batch ends, whatever the answers, over a connection with no transaction under way. -/
theorem ensures_addMany (hidle : s.pending = none) (records : List Stored) :
    (addMany table records).run.Ensures Session.Goes s fun t outcome s' =>
      s'.pending = none ∧
        match outcome with
        | .error _ => t.any breaks = true ∧ s'.rows = s.rows
        | .ok result => t.any breaks = false ∧
            ∃ verdicts, Committed table records s.rows t result s'.rows verdicts := by
  rw [addMany_eq]
  intro gone s₀ hgone
  obtain rfl : s₀ = s := hgone.2
  cases gone with
  | true => exact ⟨hidle, rfl, rfl⟩
  | false =>
    refine (ensures_transaction (fun t result rows => ∃ verdicts,
      Committed table records s₀.rows t result rows verdicts) (ventures_writeRecords hidle records)).mono ?_
    rintro t (e | result) s' ⟨hpending, h⟩
    · obtain ⟨hbroken, hrows⟩ := h
      exact ⟨hpending, hbroken, hrows.trans (Session.committed_of_pending_eq_none hidle)⟩
    · obtain ⟨hunbroken, u, rfl, verdicts, hcommitted⟩ := h
      refine ⟨hpending, hunbroken, verdicts, hcommitted.of_filterMap_eq ?_⟩
      exact List.filterMap_append.trans (List.append_nil _)

/-- Over a server whose sessions go by the rules, and whatever pattern of answers it gives, a batch comes to
its end.  On failure, which means that there was something a call does not survive, no table is changed.
Otherwise the table has been written with the records whose statement went through and the report accounts for
all of them; if there was no trouble at all and each record has an id, it is the report of a store in
memory. -/
theorem batch_is_all_or_nothing {σ : Type} {h : Handler Wire Wire.Answer σ} {session : σ → Session}
    {sound : σ → Prop} (hkeeps : h.KeepsTo Session.Goes session sound) {w : σ} (hw : sound w)
    (hidle : (session w).pending = none) (table : String) (records : List Stored) :
    ∃ outcome w', (addMany table records).run.run h w = (.finished outcome, w') ∧ sound w' ∧
      (session w').pending = none ∧
      let t := (addMany table records).run.transcript h w
      (match outcome with
        | .error _ => t.any breaks = true ∧ (session w').rows = (session w).rows
        | .ok result => t.any breaks = false ∧
            ∃ verdicts, Committed table records (session w).rows t result (session w').rows verdicts) ∧
      (t.any breaks = false → (∀ e ∈ t, trouble? e = none) → (∀ r ∈ records, r.id ≠ "") →
        ∀ store : MemoryStore, outcome = .ok (store.addMany records).2) := by
  obtain ⟨outcome, w', hrun, hw', hpending, hends⟩ := (ensures_addMany hidle records).run hkeeps hw
  refine ⟨outcome, w', hrun, hw', hpending, hends, fun hunbroken htrouble hids store => ?_⟩
  cases outcome with
  | error e =>
    obtain ⟨hbroken, -⟩ := hends
    rw [hbroken] at hunbroken
    cases hunbroken
  | ok result =>
    obtain ⟨-, verdicts, hcommitted⟩ := hends
    rw [hcommitted.result_eq_addMany htrouble hids]

/-- A desk at which a connection is open to a server with one table, and one of its rules. -/
def Server.Desk.opened (rule : Rule) : Server.Desk where
  server := { Server.absent with
    tables := Index.empty.insert "cards" (Index.empty.insert "a" "0")
    rules := [rule]
    connections := [⟨true, none, []⟩] }
  notices := []

theorem Server.sound_opened {rule : Rule} (h : Server.Rule.IsFair rule) :
    (Server.Desk.opened rule).server.Sound :=
  Server.sound_of_transaction?_eq_none (List.forall_mem_singleton.2 h) rfl

/-- Of three records the second is refused, and the others are written. -/
theorem batch_is_all_or_nothing_with_refusal :
    let desk := Server.Desk.opened ⟨some .executing, none, some "b", 0, 1, .refuse, 0⟩
    let records : List Stored := [⟨"a", .null⟩, ⟨"b", .null⟩, ⟨"c", .null⟩]
    let result : BatchResult := ⟨3, 2, 1, ["a", "c"], ["b: db error"]⟩
    let call := (addMany "cards" records).run
    desk.server.Sound ∧ desk.server.session.pending = none ∧
      ∃ desk', call.run Server.handler desk = (.finished (.ok result), desk') ∧
        ∃ verdicts, Committed "cards" records desk.server.session.rows
          (call.transcript Server.handler desk) result desk'.server.session.rows verdicts := by
  intro desk records result call
  have hsound : desk.server.Sound := Server.sound_opened ⟨by decide, fun _ => by decide⟩
  obtain ⟨outcome, desk', hrun, -, -, hends, -⟩ :=
    batch_is_all_or_nothing Server.handler_keepsTo hsound rfl "cards" records
  have houtcome : (call.run Server.handler desk).1 = .finished (.ok result) := rfl
  rw [hrun] at houtcome
  cases houtcome
  exact ⟨hsound, rfl, desk', hrun, hends.2⟩

/-- When the second record is refused only as it is to be kept, the first is not kept either. -/
example :
    let desk := Server.Desk.opened ⟨some .query, none, none, 4, 1, .refuse, 0⟩
    let run := (addMany "cards" [⟨"b", .null⟩, ⟨"a", .null⟩]).run.run Server.handler desk
    run.1 = .finished (.error (.transport "db error")) ∧
      run.2.server.tables.find? "cards" = desk.server.tables.find? "cards" :=
  ⟨rfl, rfl⟩

end CatalogImport.Postgres
