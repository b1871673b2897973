import LinkAtlas.Digest.Sha256
import LinkAtlas.Document.Basic
import LinkAtlas.Failure
import LinkAtlas.Header.Fields
import LinkAtlas.Header.Split
import LinkAtlas.Log.Event
import LinkAtlas.Path.Components
import LinkAtlas.Reference.Extract

namespace LinkAtlas

/-!
# Reading a document

* `Document.ofText` — the document of a text at a location, or why there is none;
* `Document.titleAt`, `Document.kindAt` — title and kind when the header does not give them;
* `Header.events`, `Document.events` — what is reported meanwhile.
-/

open Log (Event)

/-- What is reported while a header is read. -/
def Header.events (s : String) : List Event :=
  match Header.Metadata.read s with
  | .error _ => []
  | .ok m =>
    .parsedHeader m.form ::
      match Header.ofMetadata m with
      | .error _ => []
      | .ok _ => (Header.ignoredFields m).map fun (key, v) => .ignoredField key v

namespace Document

/-- The title of a document without one: its file name without extension. -/
def titleAt (path relPath : String) : String := (Path.stem? path).getD relPath

/-- The kind of a document without one: the nearest directory that names a kind tells it. -/
def kindAt (relPath : String) : Kind :=
  let directories := (Path.splitSlash relPath.toList).dropLast
  (directories.reverse.findSome? fun name => Kind.ofWord? (String.ofList name)).getD .knowledge

/-- The document with a header and a body. -/
def ofHeader (root path text : String) (h : Header) (s : Header.Split) : Document :=
  let relPath := Path.relativeTo root path
  { id := h.id
    kind := h.kind.getD (kindAt relPath)
    status := h.status.getD .active
    title := h.title.getD (titleAt path relPath)
    aliases := h.aliases
    path := Path.render path
    relPath := relPath
    contentHash := Digest.ofText text
    references := Reference.extract h.id s.body s.offset }

/-- Reads a document, which must have a header. -/
def read (root path text : String) : Except Header.Fault Document := do
  let s ← Header.split text.toList
  match s.header with
  | none => .error .absent
  | some block => return ofHeader root path text (← Header.read (String.ofList block)) s

/-- The document of a text at a location. -/
def ofText (root path text : String) : Except Diagnostic Document :=
  (read root path text).mapError fun fault =>
    .invalidHeader (Path.relativeTo root path) (Failure.header fault.message).message

/-- What is reported while a document is read. -/
def events (text : String) : List Event :=
  match Header.split text.toList with
  | .ok ⟨some block, _, _⟩ => Header.events (String.ofList block)
  | _ => []

end Document

end LinkAtlas
