import CatalogImport.Import.Run
import CatalogImport.Proofs.Transcript

/-!
# Histories of imports

The history of an import is the transcript of its questions.  Its gist leaves out what has no bearing on
what becomes of the elements: the clock, ids, notices, files of single batches, other events of the log
than committed batches, and pauses and looking for a cancellation as long as none comes.
-/

namespace CatalogImport

open CatalogImport.Json

/-- What an import asked, with the answers. -/
abbrev History : Type := Program.Transcript Request Request.Answer

/-- A question with its answer. -/
abbrev Exchange : Type := (q : Request) × q.Answer

/-- The question bears on what becomes of the elements of the document, whatever the answer. -/
def Request.matters : Request → Bool
  | .openDocument => true
  | .enter .validating => true
  | .addMany _ => true
  | .progress _ => true
  | .keepRecords _ _ => true
  | .append ⟨_, .committed _ _, _⟩ => true
  | .loadCheckpoint _ => true
  | .saveCheckpoint _ => true
  | _ => false

/-- The answer is that the run was cancelled. -/
def isCancellation : Exchange → Bool
  | ⟨.isCancelled, true⟩ => true
  | ⟨.addMany _, none⟩ => true
  | ⟨.pause _, none⟩ => true
  | ⟨.keepBatch _ _, none⟩ => true
  | _ => false

/-- The exchange bears on what becomes of the elements of the document. -/
def matters (e : Exchange) : Bool := e.1.matters || isCancellation e

@[simp] theorem yields_ask_iff {q : Request} {t : History} {x : q.Answer} :
    (ask q).Yields t x ↔ t = [⟨q, x⟩] := Program.yields_question_iff

@[simp] theorem yields_ask_bind_iff {α : Type} {q : Request} {f : q.Answer → Task α} {t : History}
    {a : α} : (ask q >>= f).Yields t a ↔ ∃ x u, t = ⟨q, x⟩ :: u ∧ (f x).Yields u a :=
  Program.yields_question_bind_iff

/-- The exchanges that matter. -/
def gist (t : History) : History := t.filter matters

@[simp] theorem gist_nil : gist [] = [] := rfl

@[simp] theorem gist_append (t u : History) : gist (t ++ u) = gist t ++ gist u :=
  List.filter_append ..

@[simp] theorem gist_cons (e : Exchange) (t : History) :
    gist (e :: t) = if matters e then e :: gist t else gist t := by
  cases h : matters e <;> simp [gist, h]

theorem gist_cons_of_matters {e : Exchange} {t : History} (h : matters e = true) :
    gist (e :: t) = e :: gist t := List.filter_cons_of_pos h

theorem gist_cons_of_not_matters {e : Exchange} {t : History} (h : matters e = false) :
    gist (e :: t) = gist t :=
  List.filter_cons_of_neg (by simp [h])

theorem mem_gist_iff {e : Exchange} {t : History} : e ∈ gist t ↔ e ∈ t ∧ matters e = true :=
  List.mem_filter

/-! ## Parts of a run that do not matter -/

/-- Logging is asking for the time and handing an event over. -/
theorem log_yields {b : Logbook} {x : Happening} {t : History} {r : Except LogbookError Unit}
    (h : (b.log x).Yields t r) : ∃ moment answer,
      t = [⟨.now, moment⟩, ⟨.append ⟨b.runId, x, moment⟩, answer⟩] ∧
      r = answer.mapError (.log ·.message) := by
  obtain ⟨moment, u, rfl, h₁⟩ := yields_ask_bind_iff.1 h
  obtain ⟨answer, v, rfl, h₂⟩ := yields_ask_bind_iff.1 h₁
  obtain ⟨rfl, rfl⟩ := Program.yields_pure_iff.1 h₂
  exact ⟨moment, answer, rfl, rfl⟩

/-- The event is that a batch has been committed. -/
def Happening.isCommit : Happening → Bool
  | .committed _ _ => true
  | _ => false

theorem gist_log {b : Logbook} {x : Happening} {t : History} {r : Except LogbookError Unit}
    (h : (b.log x).Yields t r) (hx : x.isCommit = false) : gist t = [] := by
  obtain ⟨moment, answer, rfl, -⟩ := log_yields h
  cases x with
  | committed number records => cases hx
  | _ => rfl

/-- What is written into the logbook makes up the gist of recording it. -/
theorem gist_record {logbook : Option Logbook} {n : Notice}
    {write : Logbook → Task (Except LogbookError Unit)} {t : History} {x : Unit}
    (h : (record logbook n write).Yields t x) :
    logbook = none ∧ gist t = [] ∨
      ∃ b r u, logbook = some b ∧ (write b).Yields u r ∧ gist t = gist u := by
  unfold record at h
  cases logbook with
  | none =>
    obtain ⟨rfl, -⟩ := Program.yields_pure_iff.1 h
    exact .inl ⟨rfl, rfl⟩
  | some b =>
    obtain ⟨r, u, v, rfl, hu, hv⟩ := Program.yields_bind_iff.1 h
    refine .inr ⟨b, r, u, rfl, hu, ?_⟩
    cases r with
    | ok _ =>
      obtain ⟨rfl, -⟩ := Program.yields_pure_iff.1 hv
      simp
    | error _ =>
      obtain rfl := yields_ask_iff.1 hv
      rw [gist_append, gist_cons_of_not_matters rfl, gist_nil, List.append_nil]

/-- Logging an event does not matter, unless a batch has been committed. -/
theorem gist_record_log {logbook : Option Logbook} {n : Notice} {x : Logbook → Happening}
    {t : History} {y : Unit} (h : (record logbook n fun b => b.log (x b)).Yields t y)
    (hx : ∀ b, (x b).isCommit = false) : gist t = [] := by
  rcases gist_record h with ⟨-, h⟩ | ⟨b, r, u, -, hu, h⟩
  · exact h
  · rw [h]
    exact gist_log hu (hx b)

/-- The rejected records are kept in one go if there are any and they are kept at all. -/
theorem gist_keepFailed {config : Config} {kind : RecordKind} {failed : List FailedEntry}
    {t : History} {x : Unit} (h : (keepFailed config kind failed).Yields t x) :
    if failed = [] ∨ config.persistFailures = false then gist t = []
    else ∃ answer, gist t = [⟨.keepRecords kind failed, answer⟩] := by
  unfold keepFailed at h
  by_cases hf : failed = [] ∨ config.persistFailures = false
  · rw [if_pos hf]
    rw [if_pos (by simpa using hf)] at h
    obtain ⟨rfl, -⟩ := Program.yields_pure_iff.1 h
    rfl
  · rw [if_neg hf]
    rw [if_neg (by simpa using hf)] at h
    obtain ⟨answer, u, rfl, h₁⟩ := yields_ask_bind_iff.1 h
    refine ⟨answer, ?_⟩
    rw [gist_cons_of_matters rfl]
    cases answer with
    | ok _ =>
      obtain ⟨rfl, -⟩ := Program.yields_pure_iff.1 h₁
      rfl
    | error _ =>
      obtain rfl := yields_ask_iff.1 h₁
      rfl

end CatalogImport
