import LinkAtlas.Failure
import LinkAtlas.Health.Score
import LinkAtlas.Resolution.Resolver

namespace LinkAtlas

/-!
# Snapshots

* `Snapshot` — everything that a cycle over a corpus has found;
* `Snapshot.assemble` — catalogs, resolves, arranges and scores documents;
* `Snapshot.toText`, `Snapshot.ofText` — snapshots as JSON text.
-/

/-- What a cycle over a corpus has found. -/
structure Snapshot where
  /-- The content root. -/
  root : String
  documents : List Document
  report : Report
  diagnostics : List Diagnostic
  deriving BEq

namespace Snapshot

/-! ### Assembly -/

/-- Documents in the order of ids. -/
def byId (ds : List Document) : List Document := ds.mergeSort fun a b => a.id ≤ b.id

/-- The resolver for documents below a root. -/
def resolver (isOnDisk : String → Bool) (root : String) (ds : List Document) : Resolver :=
  ⟨Catalog.build root ds, isOnDisk⟩

/-- The snapshot of documents, whose references are settled anew. -/
def assemble (isOnDisk : String → Bool) (root : String) (ds : List Document)
    (diagnostics : List Diagnostic) : Snapshot :=
  let resolved := byId ((resolver isOnDisk root ds).resolveAll ds)
  { root := Path.render root
    documents := resolved
    report := Health.score resolved
    diagnostics := diagnostics }

/-- What is reported while a snapshot is assembled. -/
def events (isOnDisk : String → Bool) (root : String) (ds : List Document) : List Log.Event :=
  let v := resolver isOnDisk root ds
  Catalog.events root ds ++ v.events ds ++ Health.events (byId (v.resolveAll ds))

/-- The first document with an id. -/
def find? (s : Snapshot) (id : String) : Option Document := s.documents.find? (·.id == id)

/-! ### JSON -/

open Json (Value Tree)

/-- The JSON form of a snapshot. -/
def toJson (s : Snapshot) : Value :=
  .object
    [("root", .text s.root), ("nodes", .array (s.documents.map Document.toJson)),
     ("report", s.report.toJson), ("diagnostics", .array (s.diagnostics.map Diagnostic.toJson))]

/-- The JSON text of a snapshot. -/
def toText (s : Snapshot) : String := String.ofList s.toJson.pretty

/-- Reads a snapshot. Its diagnostics may be absent. -/
def ofTree? (t : Tree) : Option Snapshot := do
  let r ← t.record? ["root", "nodes", "report", "diagnostics"]
  return { root := ← r.required? "root" Tree.string?
           documents := ← r.required? "nodes" (Tree.list? Document.ofTree?)
           report := ← r.required? "report" Report.ofTree?
           diagnostics := ← r.withDefault? "diagnostics" [] (Tree.list? Diagnostic.ofTree?) }

/-- Reads the JSON text of a snapshot. -/
def ofText (text : String) : Except Failure Snapshot :=
  match (Tree.parse? text).bind ofTree? with
  | some s => .ok s
  | none => .error .badJson

end Snapshot

end LinkAtlas
