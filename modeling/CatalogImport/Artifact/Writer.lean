import CatalogImport.Artifact.Basic
import CatalogImport.Artifact.FileTree
import CatalogImport.Program

/-!
# Writing artifacts

An artifact never replaces a file.  When its name is taken it gets a number, the least that is free.
The file is made and claimed in one step, so of several writers at most one gets a name.  The number has 32
bits, and there is nothing for the case that all names are taken: adding one to the last number breaks the
writer down, or it wraps to zero unnoticed and the same names are tried for ever.
-/

namespace CatalogImport

open CatalogImport.Decimal

/-- What a writer asks of the file system. -/
inductive FileRequest where
  | createFolders (path : String)
  | createNew (path text : String)
  /-- A number is needed that does not have 32 bits. -/
  | numberOverflow

/-- A directory or a file is made or it is not, and the writer that runs out of numbers gets no answer. -/
abbrev FileRequest.Answer : FileRequest → Type
  | createFolders _ => Except FileError Unit
  | createNew _ _ => Except FileError Unit
  | numberOverflow => Empty

/-- A program that asks the file system. -/
abbrev FileTask (α : Type) := Program FileRequest FileRequest.Answer α

/-- The name of the file with a number. -/
def numberedName (stem : String) (n : Nat) : String :=
  (if n = 0 then stem else stem ++ "_" ++ numeral n) ++ ".json"

/-- Tries names from a number on, of which there are `left`. -/
def probe (dir stem text : String) : (left n : Nat) → FileTask (Except FileError String)
  | 0, _ => .ask .numberOverflow Empty.elim
  | left + 1, n => do
    let path := joinPath dir (numberedName stem n)
    match ← Program.question (FileRequest.createNew path text) with
    | .ok () => return .ok path
    | .error .alreadyThere => probe dir stem text left (n + 1)
    | .error e => return .error e

/-- Writes a file into a directory, which is made if need be, and says under which path.  Numbers
have 32 bits. -/
def writeFile (dir stem text : String) : FileTask (Except FileError String) := do
  match ← Program.question (FileRequest.createFolders dir) with
  | .error e => return .error e
  | .ok () => probe dir stem text (Nat.pow 2 32) 0

/-- Answers a writer from a file tree.  A writer that runs out of numbers breaks down. -/
def FileTree.handler : Program.Handler FileRequest FileRequest.Answer FileTree
  | .createFolders path, t =>
    match t.createFolders path with
    | .ok t => (.answer (.ok ()), t)
    | .error e => (.answer (.error e), t)
  | .createNew path text, t =>
    match t.createNew path text with
    | .ok t => (.answer (.ok ()), t)
    | .error e => (.answer (.error e), t)
  | .numberOverflow, t => (.collapse, t)

/-- Writes an artifact into a file tree. -/
def FileTree.writeArtifact (t : FileTree) (dir stem text : String) :
    Program.Ending (Except FileError String) × FileTree :=
  (writeFile dir stem text).run FileTree.handler t

/-- What is said about an artifact that was not written. -/
def unwrittenMessage (e : FileError) : String := "Failed to write artifact file: " ++ e.message

end CatalogImport
