import CatalogImport.Artifact.Writer

/-!
# Writers at the same time

Several writers write artifacts into one directory at the same time.  They take turns in any order.  In a turn a
writer gets one answer from the files: a directory is made, or a file is, where there was nothing yet.  A file
that has just been made is empty, and its text is written into it in a turn of its own.  A writer that has run
out of numbers does nothing any more.
-/

namespace CatalogImport

/-- The text of a file that has been made is written into it. -/
def FileTree.fill (t : FileTree) (path text : String) : FileTree :=
  { t with files := t.files.insert (plainPath path) text }

/-- There is a file or a directory at the path. -/
def FileTree.taken (t : FileTree) (path : String) : Bool := t.isFile path || t.isFolder path

/-- The paths of all files and of the directories that were made. -/
def FileTree.entries (t : FileTree) : List String := t.files.keys ++ t.folders

/-- What is to be kept in a file: its name, without number and ending, and its text. -/
structure Draft where
  stem : String
  text : String

/-- What a writer is doing. -/
inductive Writing where
  /-- Asking the files for something, or nothing any more. -/
  | asking (task : FileTask (Except FileError String))
  /-- Filling the file that has been made. -/
  | filling (path text : String) (next : FileTask (Except FileError String))

namespace Writing

/-- How a turn leaves the files, and the writer whose turn it was. -/
def turn (t : FileTree) : Writing → FileTree × Writing
  | asking (.done result) => (t, asking (.done result))
  | asking (.ask (.createFolders path) next) =>
    match t.createFolders path with
    | .ok t' => (t', asking (next (.ok ())))
    | .error e => (t, asking (next (.error e)))
  | asking (.ask (.createNew path text) next) =>
    match t.createNew path "" with
    | .ok t' => (t', filling path text (next (.ok ())))
    | .error e => (t, asking (next (.error e)))
  | asking (.ask .numberOverflow next) => (t, asking (.ask .numberOverflow next))
  | filling path text next => (t.fill path text, asking next)

/-- What the writer has come to, once that is so. -/
def result? : Writing → Option (Except FileError String)
  | asking (.done result) => some result
  | _ => none

end Writing

/-- Files, and the writers at work on them. -/
structure SharedFolder where
  files : FileTree
  writings : List Writing

namespace SharedFolder

/-- All writers are to begin. -/
def start (t : FileTree) (dir : String) (drafts : List Draft) : SharedFolder :=
  ⟨t, drafts.map fun d => .asking (writeFile dir d.stem d.text)⟩

/-- The turn of one of the writers, of whom each has a number. -/
def turn (s : SharedFolder) (i : Nat) : SharedFolder :=
  match s.writings[i]? with
  | some w => ⟨(w.turn s.files).1, s.writings.set i (w.turn s.files).2⟩
  | none => s

/-- The turns of writers, one after the other. -/
def run (s : SharedFolder) (turns : List Nat) : SharedFolder := turns.foldl turn s

/-- What a writer has come to, once that is so. -/
def result? (s : SharedFolder) (i : Nat) : Option (Except FileError String) :=
  s.writings[i]?.bind Writing.result?

end SharedFolder

end CatalogImport
