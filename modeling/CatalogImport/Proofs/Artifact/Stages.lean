import CatalogImport.Proofs.Artifact.Names
import Mathlib.Algebra.GroupWithZero.Nat

/-!
# Stages of a writer

A writer comes from one stage to the next, and what a turn does, to the files and to the writer, is said once for
each stage (`WriterStage.Turn`, `WriterStage.exists_turn`).  From this follows what every turn does: files and
directories come to those that were there (`WriterStage.Turn.entries_subset`), what the writer makes is new
(`WriterStage.Turn.find?_eq_none`), and other files stay as they are (`WriterStage.Turn.find?_eq`).
-/

namespace CatalogImport

/-- The path of a draft with a number. -/
def Draft.path (d : Draft) (dir : String) (n : Nat) : String := joinPath dir (numberedName d.stem n)

/-! ## Files that grow -/

namespace FileTree

variable {t t' : FileTree} {path text : String}

theorem mem_entries_of_find? {key : String} (h : t.files.find? key = some text) : key ∈ t.entries :=
  List.mem_append_left _ (Index.mem_keys_iff.2 (by rw [h, Option.isSome_some]))

/-- Under a path that is not taken there is no file. -/
theorem find?_eq_none_of_taken (h : t.taken path = false) : t.files.find? (plainPath path) = none := by
  refine Option.eq_none_iff_forall_ne_some.2 fun text hfound => ?_
  have htaken : t.taken path = true := taken_iff.2 (.inr (.inr ⟨_, mem_entries_of_find? hfound, .inl rfl⟩))
  exact absurd (h.symm.trans htaken) (by decide)

theorem mem_keys_insert {files : Index String} {key other : String} :
    other ∈ (files.insert key text).keys ↔ other = key ∨ other ∈ files.keys := by
  rw [Index.mem_keys_iff, Index.mem_keys_iff, Index.find?_insert]
  split
  · next heq => simp [heq]
  · next hne => simp [hne]

/-- Files are written at one key. -/
theorem mem_entries_write {key entry : String} :
    entry ∈ FileTree.entries { t with files := t.files.insert key text } ↔ entry = key ∨ entry ∈ t.entries := by
  simp only [entries, List.mem_append, mem_keys_insert, or_assoc]

theorem eq_of_createFolders (h : t.createFolders path = .ok t') :
    t' = { t with folders := plainPath path :: t.folders } := by
  unfold createFolders at h
  split at h
  · cases h
  · split at h
    · cases h
    · split at h
      · cases h
      · exact (Except.ok.inj h).symm

theorem entries_subset_of_createFolders (h : t.createFolders path = .ok t') : t.entries ⊆ t'.entries := by
  rw [eq_of_createFolders h]
  intro entry hentry
  rcases List.mem_append.1 hentry with hfile | hfolder
  · exact List.mem_append_left _ hfile
  · exact List.mem_append_right _ (List.mem_cons_of_mem _ hfolder)

/-- A file is not made for some reason, or because something is there, or it is made where nothing was. -/
theorem createNew_cases (t : FileTree) (path : String) :
    (∃ e ≠ .alreadyThere, ∀ text, t.createNew path text = .error e) ∨
    (t.taken path = true ∧ ∀ text, t.createNew path text = .error .alreadyThere) ∨
    (t.taken path = false ∧ ∀ text,
      t.createNew path text = .ok { t with files := t.files.insert (plainPath path) text }) := by
  unfold createNew
  by_cases hfits : (!pathFits path) = true
  · exact .inl ⟨.nameTooLong, by decide, fun text => if_pos hfits⟩
  · by_cases hblocked : t.blocked path = true
    · exact .inl ⟨.notADirectory, by decide, fun text => by rw [if_neg hfits, if_pos hblocked]⟩
    · by_cases htaken : (t.isFile path || t.isFolder path) = true
      · exact .inr (.inl ⟨htaken, fun text => by rw [if_neg hfits, if_neg hblocked, if_pos htaken]⟩)
      · refine .inr (.inr ⟨Bool.eq_false_iff.2 htaken, fun text => ?_⟩)
        rw [if_neg hfits, if_neg hblocked, if_neg htaken]

/-- A file is made where nothing was. -/
theorem eq_of_createNew (h : t.createNew path text = .ok t') :
    t.taken path = false ∧ t' = { t with files := t.files.insert (plainPath path) text } := by
  rcases t.createNew_cases path with ⟨e, -, hmade⟩ | ⟨-, hmade⟩ | ⟨hfree, hmade⟩
  · rw [hmade] at h
    cases h
  · rw [hmade] at h
    cases h
  · rw [hmade] at h
    exact ⟨hfree, (Except.ok.inj h).symm⟩

theorem entries_subset_of_createNew (h : t.createNew path text = .ok t') : t.entries ⊆ t'.entries := by
  rw [(eq_of_createNew h).2]
  exact fun entry hentry => mem_entries_write.2 (.inr hentry)

/-- That something is there already is said of what is taken. -/
theorem taken_of_createNew (h : t.createNew path text = .error .alreadyThere) : t.taken path = true := by
  rcases t.createNew_cases path with ⟨e, hother, hmade⟩ | ⟨htaken, -⟩ | ⟨-, hmade⟩
  · rw [hmade] at h
    exact absurd (Except.error.inj h) hother
  · exact htaken
  · rw [hmade] at h
    cases h

end FileTree

/-! ## Stages of a writer -/

/-- How far a writer is. -/
inductive WriterStage where
  | beginning
  /-- About to try the name with the number. -/
  | trying (n : Nat)
  /-- The file with the number has been made. -/
  | filling (n : Nat)
  | written (n : Nat)
  | failed (e : FileError)
  /-- The names of all numbers were taken. -/
  | outOfNumbers

namespace WriterStage

/-- What a writer of a draft does at a stage. -/
def writing (dir : String) (d : Draft) : WriterStage → Writing
  | beginning => .asking (writeFile dir d.stem d.text)
  | trying n => .asking (probe dir d.stem d.text (2 ^ 32 - n) n)
  | filling n => .filling (d.path dir n) d.text (.done (.ok (d.path dir n)))
  | written n => .asking (.done (.ok (d.path dir n)))
  | failed e => .asking (.done (.error e))
  | outOfNumbers => .asking (.ask .numberOverflow Empty.elim)

/-- The key of the file that the writer has made. -/
def claim? (dir : String) (d : Draft) : WriterStage → Option String
  | filling n | written n => some (plainPath (d.path dir n))
  | _ => none

/-- What a turn does at each stage, to the files and to the writer. -/
inductive Turn (dir : String) (d : Draft) : FileTree → WriterStage → FileTree → WriterStage → Prop
  | folder {t t' : FileTree} (h : t.createFolders dir = .ok t') : Turn dir d t beginning t' (trying 0)
  | noFolder {t : FileTree} {e : FileError} (h : t.createFolders dir = .error e) :
      Turn dir d t beginning t (failed e)
  | made {t t' : FileTree} {n : Nat} (h : t.createNew (d.path dir n) "" = .ok t') :
      Turn dir d t (trying n) t' (filling n)
  | taken {t : FileTree} {n : Nat} (h : t.createNew (d.path dir n) "" = .error .alreadyThere)
      (hnext : n + 1 < 2 ^ 32) : Turn dir d t (trying n) t (trying (n + 1))
  | allTaken {t : FileTree} {n : Nat} (h : t.createNew (d.path dir n) "" = .error .alreadyThere)
      (hlast : n + 1 = 2 ^ 32) : Turn dir d t (trying n) t outOfNumbers
  | refused {t : FileTree} {n : Nat} {e : FileError} (h : t.createNew (d.path dir n) "" = .error e)
      (hother : e ≠ .alreadyThere) : Turn dir d t (trying n) t (failed e)
  | filled {t : FileTree} {n : Nat} : Turn dir d t (filling n) (t.fill (d.path dir n) d.text) (written n)
  | done {t : FileTree} {n : Nat} : Turn dir d t (written n) t (written n)
  | ended {t : FileTree} {e : FileError} : Turn dir d t (failed e) t (failed e)
  | stuck {t : FileTree} : Turn dir d t outOfNumbers t outOfNumbers

variable {dir : String} {d : Draft} {t t' : FileTree} {st st' : WriterStage}

/-- Names are tried while there are numbers. -/
def HasNumber : WriterStage → Prop
  | trying n => n < 2 ^ 32
  | _ => True

/-- How a writer goes on when a name has been tried. -/
def goOn (path : String) (next : FileTask (Except FileError String)) :
    Except FileError Unit → FileTask (Except FileError String)
  | .ok () => .done (.ok path)
  | .error .alreadyThere => next
  | .error e => .done (.error e)

theorem probe_succ (dir : String) (d : Draft) (left n : Nat) : probe dir d.stem d.text (left + 1) n =
    .ask (.createNew (d.path dir n) d.text) (goOn (d.path dir n) (probe dir d.stem d.text left (n + 1))) := by
  rw [probe]
  simp only [Program.question, Program.ask_bind, Program.done_bind]
  congr 1
  funext x
  rcases x with e | ⟨⟨⟩⟩
  · cases e <;> rfl
  · rfl

/-- While there are numbers, the next name is tried. -/
theorem probe_of_lt (dir : String) (d : Draft) {n : Nat} (hn : n < 2 ^ 32) :
    probe dir d.stem d.text (2 ^ 32 - n) n = .ask (.createNew (d.path dir n) d.text)
      (goOn (d.path dir n) (probe dir d.stem d.text (2 ^ 32 - (n + 1)) (n + 1))) := by
  have hleft : 2 ^ 32 - n = 2 ^ 32 - (n + 1) + 1 := by omega
  rw [hleft, probe_succ]

theorem writeFile_eq (dir stem text : String) : writeFile dir stem text =
    .ask (.createFolders dir) fun
      | .error e => .done (.error e)
      | .ok () => probe dir stem text (2 ^ 32) 0 := by
  rw [writeFile]
  simp only [Program.question, Program.ask_bind, Program.done_bind]
  rfl

/-- Every turn is one of these. -/
theorem exists_turn (dir : String) (d : Draft) (t : FileTree) {st : WriterStage} (hnumber : st.HasNumber) :
    ∃ t' st', Turn dir d t st t' st' ∧ (st.writing dir d).turn t = (t', st'.writing dir d) := by
  cases st with
  | beginning =>
    cases h : t.createFolders dir with
    | ok t' =>
      refine ⟨t', trying 0, .folder h, ?_⟩
      rw [writing, writeFile_eq, Writing.turn, h]
      rfl
    | error e =>
      refine ⟨t, failed e, .noFolder h, ?_⟩
      rw [writing, writeFile_eq, Writing.turn, h]
      rfl
  | trying n =>
    have hlt : n < 2 ^ 32 := hnumber
    rw [writing, probe_of_lt dir d hlt, Writing.turn]
    cases h : t.createNew (d.path dir n) "" with
    | ok t' => exact ⟨t', filling n, .made h, rfl⟩
    | error e =>
      by_cases hthere : e = .alreadyThere
      · subst hthere
        by_cases hnext : n + 1 < 2 ^ 32
        · exact ⟨t, trying (n + 1), .taken h hnext, rfl⟩
        · have hlast : n + 1 = 2 ^ 32 := by omega
          refine ⟨t, outOfNumbers, .allTaken h hlast, ?_⟩
          rw [hlast, Nat.sub_self]
          rfl
      · refine ⟨t, failed e, .refused h hthere, ?_⟩
        cases e with
        | alreadyThere => exact absurd rfl hthere
        | _ => rfl
  | filling n => exact ⟨_, _, .filled, rfl⟩
  | written n => exact ⟨_, _, .done, rfl⟩
  | failed e => exact ⟨_, _, .ended, rfl⟩
  | outOfNumbers => exact ⟨_, _, .stuck, rfl⟩

/-- A writer has come to something when it has written or failed. -/
theorem result?_writing {st : WriterStage} (hnumber : st.HasNumber) {result : Except FileError String}
    (h : (st.writing dir d).result? = some result) :
    (∃ n, st = written n ∧ result = .ok (d.path dir n)) ∨ ∃ e, st = failed e ∧ result = .error e := by
  cases st with
  | beginning =>
    rw [writing, writeFile_eq] at h
    cases h
  | trying n =>
    have hlt : n < 2 ^ 32 := hnumber
    rw [writing, probe_of_lt dir d hlt] at h
    cases h
  | filling n => cases h
  | written n => exact .inl ⟨n, rfl, (Option.some.inj h).symm⟩
  | failed e => exact .inr ⟨e, rfl, (Option.some.inj h).symm⟩
  | outOfNumbers => cases h

namespace Turn

/-- What the writer has made, it keeps. -/
theorem claim?_eq (h : Turn dir d t st t' st') {key : String} (hclaim : st.claim? dir d = some key) :
    st'.claim? dir d = some key := by
  cases h with
  | filled | done => exact hclaim
  | _ => cases hclaim

/-- What it makes is new. -/
theorem find?_eq_none (h : Turn dir d t st t' st') {key : String} (hnew : st.claim? dir d ≠ some key)
    (hclaim : st'.claim? dir d = some key) : t.files.find? key = none := by
  cases h with
  | made hmade =>
    obtain rfl := Option.some.inj hclaim
    exact FileTree.find?_eq_none_of_taken (FileTree.eq_of_createNew hmade).1
  | filled | done => exact absurd hclaim hnew
  | _ => cases hclaim

/-- Other files stay as they are. -/
theorem find?_eq (h : Turn dir d t st t' st') {key : String} (hother : st'.claim? dir d ≠ some key) :
    t'.files.find? key = t.files.find? key := by
  cases h with
  | folder hmade => rw [FileTree.eq_of_createFolders hmade]
  | made hmade =>
    rw [(FileTree.eq_of_createNew hmade).2, Index.find?_insert, if_neg]
    exact fun heq => hother (congrArg some heq.symm)
  | filled =>
    rw [FileTree.fill, Index.find?_insert, if_neg]
    exact fun heq => hother (congrArg some heq.symm)
  | _ => rfl

/-- Files and directories come to those that were there. -/
theorem entries_subset (h : Turn dir d t st t' st') : t.entries ⊆ t'.entries := by
  cases h with
  | folder hmade => exact FileTree.entries_subset_of_createFolders hmade
  | made hmade => exact FileTree.entries_subset_of_createNew hmade
  | filled => exact fun entry hentry => FileTree.mem_entries_write.2 (.inr hentry)
  | _ => exact List.Subset.refl _

/-- Only the directory and the file that the writer has made may come to them. -/
theorem of_mem_entries (h : Turn dir d t st t' st') {entry : String} (hentry : entry ∈ t'.entries) :
    entry ∈ t.entries ∨ entry = plainPath dir ∨ st'.claim? dir d = some entry := by
  cases h with
  | folder hmade =>
    rw [FileTree.eq_of_createFolders hmade] at hentry
    rcases List.mem_append.1 hentry with hfile | hfolder
    · exact .inl (List.mem_append_left _ hfile)
    · exact (List.mem_cons.1 hfolder).elim (fun heq => .inr (.inl heq))
        fun hold => .inl (List.mem_append_right _ hold)
  | made hmade =>
    rw [(FileTree.eq_of_createNew hmade).2] at hentry
    exact (FileTree.mem_entries_write.1 hentry).elim (fun heq => .inr (.inr (congrArg some heq.symm))) .inl
  | filled =>
    exact (FileTree.mem_entries_write.1 hentry).elim (fun heq => .inr (.inr (congrArg some heq.symm))) .inl
  | _ => exact .inl hentry

end Turn

end WriterStage

end CatalogImport
