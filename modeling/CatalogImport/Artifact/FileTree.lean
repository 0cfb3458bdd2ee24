import CatalogImport.Index

/-!
# File trees

Files by their paths, and the directories above them.  Paths are compared without empty components
and without components that are a single dot.
-/

namespace CatalogImport

/-- Why a file or directory was not made or read. -/
inductive FileError where
  | notFound
  | alreadyThere
  | notADirectory
  | isADirectory
  | nameTooLong
  /-- Anything else, in the words of the system. -/
  | other (reason : String)
  deriving DecidableEq

/-- The error in the words of the system, with its number. -/
def FileError.message : FileError → String
  | .notFound => "No such file or directory (os error 2)"
  | .alreadyThere => "File exists (os error 17)"
  | .notADirectory => "Not a directory (os error 20)"
  | .isADirectory => "Is a directory (os error 21)"
  | .nameTooLong => "File name too long (os error 36)"
  | .other reason => reason

/-- The components of a path that lead somewhere. -/
def pathComponents (path : String) : List String :=
  ((path.toList.splitOn '/').map String.ofList).filter fun c => c ≠ "" ∧ c ≠ "."

/-- A path without the components that lead nowhere. -/
def plainPath (path : String) : String :=
  (if path.startsWith "/" then "/" else "") ++ "/".intercalate (pathComponents path)

/-- A path below a directory. -/
def joinPath (dir name : String) : String :=
  if dir = "" ∨ name.startsWith "/" then name
  else if dir.endsWith "/" then dir ++ name
  else dir ++ "/" ++ name

/-- The system takes the path: it has at most 4095 bytes, and each component at most 255. -/
def pathFits (path : String) : Bool :=
  path.utf8ByteSize ≤ 4095 && (pathComponents path).all (·.utf8ByteSize ≤ 255)

/-- The path lies below a directory, at any depth. -/
def isBelow (dir path : String) : Bool :=
  (dir.toList ++ ['/']).isPrefixOf path.toList

/-- Files by their paths, and directories that were made. -/
structure FileTree where
  files : Index String
  folders : List String

namespace FileTree

/-- The tree without files. -/
def empty : FileTree := ⟨.empty, []⟩

/-- There is a file at the path. -/
def isFile (t : FileTree) (path : String) : Bool := t.files.contains (plainPath path)

/-- There is a directory at the path: one that was made, or one with something in it. -/
def isFolder (t : FileTree) (path : String) : Bool :=
  let p := plainPath path
  p == "" || p == "/" || t.folders.contains p
    || t.files.keys.any (isBelow p) || t.folders.any (isBelow p)

/-- A file lies on the way to the path. -/
def blocked (t : FileTree) (path : String) : Bool :=
  t.files.keys.any fun f => isBelow f (plainPath path)

/-- Makes a directory and those above it. -/
def createFolders (t : FileTree) (path : String) : Except FileError FileTree :=
  if !pathFits path then .error .nameTooLong
  else if t.blocked path then .error .notADirectory
  else if t.isFile path then .error .alreadyThere
  else .ok { t with folders := plainPath path :: t.folders }

/-- Makes a file where there is nothing yet. -/
def createNew (t : FileTree) (path text : String) : Except FileError FileTree :=
  if !pathFits path then .error .nameTooLong
  else if t.blocked path then .error .notADirectory
  else if t.isFile path || t.isFolder path then .error .alreadyThere
  else .ok { t with files := t.files.insert (plainPath path) text }

/-- Writes a file, in place of the one that was there. -/
def write (t : FileTree) (path text : String) : Except FileError FileTree :=
  if !pathFits path then .error .nameTooLong
  else if t.blocked path then .error .notADirectory
  else if t.isFolder path then .error .isADirectory
  else
    let above := "/".intercalate (pathComponents path).dropLast
    if (pathComponents path).length ≤ 1 || t.isFolder above then
      .ok { t with files := t.files.insert (plainPath path) text }
    else .error .notFound

/-- The text of a file.  A slash at the end asks for a directory. -/
def read (t : FileTree) (path : String) : Except FileError String :=
  if !pathFits path then .error .nameTooLong
  else
    match t.files.find? (plainPath path) with
    | some text => if path.endsWith "/" then .error .notADirectory else .ok text
    | none =>
      if t.blocked path then .error .notADirectory
      else if path ≠ "" ∧ t.isFolder path then .error .isADirectory
      else .error .notFound

/-- The names and texts of the files directly in a directory. -/
def filesIn (t : FileTree) (dir : String) : List (String × String) :=
  let stem := (if plainPath dir = "" then "" else plainPath dir ++ "/").toList
  t.files.rows.filterMap fun (path, text) =>
    let name := path.toList.drop stem.length
    if stem.isPrefixOf path.toList && !name.contains '/' then some (String.ofList name, text) else none

end FileTree

end CatalogImport
