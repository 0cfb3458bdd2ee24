import CatalogImport.Artifact.FileTree
import CatalogImport.Import.Request

/-!
# Source documents

A source is a file that holds a document.  It is opened before anything is read, and its elements are
then read in order; whoever wants no more of them may stop at any element.
-/

namespace CatalogImport

open CatalogImport.Json

/-- What lies at the path of a source. -/
inductive Place where
  | file (bytes : List UInt8)
  | folder
  /-- Nothing, for this reason. -/
  | absent (e : FileError)

/-- The member of a document that holds the elements. -/
def dataField : String := "data"

/-- Opens the document at a path; it has to be a file. -/
def openSource (field path : String) : Place → Except Cause Reading
  | .absent e => .error (.fileUnusable path ("cannot stat file: " ++ e.message))
  | .folder => .error (.fileUnusable path "not a regular file")
  | .file bytes =>
    let streamed := stream field bytes
    .ok ⟨streamed.items, streamed.ending.mapError fun f => .malformed (f.message bytes)⟩

/-- What lies at a path in a file tree. -/
def FileTree.placeAt (t : FileTree) (path : String) : Place :=
  match t.read path with
  | .ok text => .file (bytesOf text)
  | .error .isADirectory => .folder
  | .error e => .absent e

/-- Takes all elements of a document: they, and how the reading ended. -/
def Reading.takeAll (r : Reading) : List Value × Except SourceError ReadSummary :=
  (r.elements, r.ending)

/-- The notices that go with the end of a reading. -/
def noticesOf (ending : Except SourceError ReadSummary) : List Notice :=
  match ending with
  | .ok summary => if summary.fieldFound then [] else [.noDataArray]
  | .error _ => []

end CatalogImport
