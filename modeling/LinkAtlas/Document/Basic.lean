import LinkAtlas.Document.Kind
import LinkAtlas.Reference.Json

namespace LinkAtlas

/-!
# Documents

* `Document` — a document of the corpus with its references;
* `Document.directory` — the directory it lies in, `Document.validReferences` — its valid references;
* `Document.precedes` — the order by id and then by location;
* `Document.toJson`, `Document.ofTree?` — documents as JSON.
-/

/-- A document of the corpus. -/
structure Document where
  id : String
  kind : Document.Kind
  status : Document.Status
  title : String
  aliases : List String
  /-- The location on disk. -/
  path : String
  /-- The location relative to the content root. -/
  relPath : String
  /-- The digest of the text, in hexadecimal. -/
  contentHash : String
  references : List Reference
  deriving DecidableEq, Repr, Inhabited

namespace Document

/-- What stands before the last slash. -/
def beforeLastSlash (s : List Char) : List Char :=
  ((s.reverse.dropWhile (· != '/')).drop 1).reverse

/-- The directory of a document relative to the content root; empty at the root. -/
def directory (d : Document) : String := String.ofList (beforeLastSlash d.relPath.toList)

/-- The references that are valid. -/
def validReferences (d : Document) : List Reference := d.references.filter (·.isValid)

/-- The document with other references. -/
def withReferences (d : Document) (rs : List Reference) : Document := { d with references := rs }

/-- Whether a document may stand before another in the order by id, then by relative location. -/
def precedes (a b : Document) : Bool :=
  ((compare a.id b.id).then (compare a.relPath b.relPath)).isLE

open Json (Value Tree)

/-- The JSON form of a document. -/
def toJson (d : Document) : Value :=
  .object
    [("id", .text d.id), ("kind", .text d.kind.name), ("status", .text d.status.name),
     ("title", .text d.title), ("aliases", .array (d.aliases.map .text)), ("path", .text d.path),
     ("rel_path", .text d.relPath), ("content_hash", .text d.contentHash),
     ("references", .array (d.references.map Reference.toJson))]

/-- The keys of a document, in order. -/
def keys : List String :=
  ["id", "kind", "status", "title", "aliases", "path", "rel_path", "content_hash", "references"]

/-- Reads a document. Aliases, digest and references may be absent. -/
def ofTree? (t : Tree) : Option Document := do
  let r ← t.record? keys
  return { id := ← r.required? "id" Tree.string?
           kind := ← r.required? "kind" fun t => t.choice?.bind Kind.ofName?
           status := ← r.required? "status" fun t => t.choice?.bind Status.ofName?
           title := ← r.required? "title" Tree.string?
           aliases := ← r.withDefault? "aliases" [] (Tree.list? Tree.string?)
           path := ← r.required? "path" Tree.string?
           relPath := ← r.required? "rel_path" Tree.string?
           contentHash := ← r.withDefault? "content_hash" "" Tree.string?
           references := ← r.withDefault? "references" [] (Tree.list? Reference.ofTree?) }

end Document

end LinkAtlas
