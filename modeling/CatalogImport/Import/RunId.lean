import CatalogImport.Digest.Blake3
import CatalogImport.Record.Kind

/-!
# Run ids

The id under which the import of a file is known when none is given: the same file and kind have the same
id, so that an import can be taken up again.
-/

namespace CatalogImport

/-- The id of importing records of a kind from a file. -/
def runId (kind : RecordKind) (path : String) : String :=
  kind.key ++ "-" ++ String.ofList ((Digest.blake3 path.toUTF8.toList).toList.take 12)

end CatalogImport
