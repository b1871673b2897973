import LinkAtlas.Disk.Walk
import LinkAtlas.Document.Parse
import LinkAtlas.Text.Utf8

namespace LinkAtlas

/-!
# Scans

A scan reads every file of an enumeration. The files may be read in any order: the result is
arranged before it is shown.

Files are told apart by the texts of their paths, as the names on disk are taken to be UTF-8. Files
whose names differ only in octets that are no UTF-8 would have one text, and their order would be
the one in which they are read.

* `Scan` — the documents of a corpus in the order of ids, and why others were left out;
* `Scan.readDocument` — one file as a document;
* `Scan.keepFirst` — of several documents with one id, the first keeps it;
* `Scan.gather` — arranges what the files gave, `Scan.run` — the whole scan;
* `Scan.events` — what is reported meanwhile.
-/

/-- The documents of a corpus before their references are settled. -/
structure Scan where
  root : String
  documents : List Document
  diagnostics : List Diagnostic

namespace Scan

/-- A way to read files. -/
abbrev FileReader := String → Except IoCause (List UInt8)

/-! ### One file -/

/-- The text of a file, or why it has none. -/
def readText (read : FileReader) (root path : String) : Except Diagnostic String :=
  match read path with
  | .error cause => .error (.unreadable (Path.relativeTo root path) (Failure.ofDisk cause).message)
  | .ok bytes =>
    (Text.Utf8.decode bytes).mapError fun fault =>
      .unreadable (Path.relativeTo root path) ("not UTF-8 text: " ++ fault.message)

/-- The document of a file, or why there is none. -/
def readDocument (read : FileReader) (root path : String) : Except Diagnostic Document := do
  Document.ofText root path (← readText read root path)

/-! ### All files -/

/-- The documents of outcomes. -/
def documentsOf (outcomes : List (Except Diagnostic Document)) : List Document :=
  outcomes.filterMap Except.toOption

/-- The diagnostics of outcomes. -/
def diagnosticsOf (outcomes : List (Except Diagnostic Document)) : List Diagnostic :=
  outcomes.filterMap fun
    | .error d => some d
    | .ok _ => none

/-- The documents whose id is not that of the document before, and diagnostics for the others, which
    name the last document that was kept. -/
def keepAfter (kept : Option Document) : List Document → List Document × List Diagnostic
  | [] => ([], [])
  | d :: ds =>
    match kept with
    | some k =>
      -- The documents are sorted by id, so those of one id stand side by side.
      if k.id = d.id then
        let (documents, repeated) := keepAfter (some k) ds
        (documents, .duplicateId d.id d.relPath k.relPath :: repeated)
      else
        let (documents, repeated) := keepAfter (some d) ds
        (d :: documents, repeated)
    | none =>
      let (documents, repeated) := keepAfter (some d) ds
      (d :: documents, repeated)

/-- One document for each id, in the order of ids and locations, and diagnostics for the others. -/
def keepFirst (ds : List Document) : List Document × List Diagnostic :=
  keepAfter none (ds.mergeSort Document.precedes)

/-- Arranges what the files gave. -/
def gather (root : String) (diagnostics : List Diagnostic)
    (outcomes : List (Except Diagnostic Document)) : Scan :=
  let (documents, repeated) := keepFirst (documentsOf outcomes)
  { root := root
    documents := documents
    diagnostics := (diagnostics ++ diagnosticsOf outcomes ++ repeated).mergeSort Diagnostic.le }

/-- Reads the files of an enumeration. -/
def run (read : FileReader) (root : String) (e : Enumeration) : Scan :=
  gather root e.diagnostics (e.files.map (readDocument read root))

/-! ### Events -/

open Log (Event)

/-- What is reported about a file. -/
def fileEvents (read : FileReader) (root path : String) : List Event :=
  .reading path ::
    (match readText read root path with
      | .ok text => Document.events text
      | .error _ => []) ++
    match readDocument read root path with
    | .ok _ => []
    | .error d => [.excluding d]

/-- What is reported about a repeated id. -/
def repeatEvent? : Diagnostic → Option Event
  | .duplicateId id path kept => some (.idRepeated id path kept)
  | _ => none

/-- What is reported during a scan. -/
def events (read : FileReader) (root : String) (e : Enumeration) : List Event :=
  let s := run read root e
  let repeated := (keepFirst (documentsOf (e.files.map (readDocument read root)))).2
  .scanning e.files.length :: e.files.flatMap (fileEvents read root) ++
    repeated.filterMap repeatEvent? ++ [.scanned s.documents.length s.diagnostics.length]

end Scan

end LinkAtlas
