import Std.Data.TreeMap
import LinkAtlas.Document.Basic
import LinkAtlas.Document.Ids
import LinkAtlas.Log.Event
import LinkAtlas.Text.Spelling

namespace LinkAtlas

/-!
# The catalog of a corpus

A catalog finds documents by id, by location, by title or alias, and by title up to spelling.

* `Catalog` — the ids in order, the four look-up tables, and the documents that lost their id to
  another one;
* `Catalog.add` — enters one document, `Catalog.build` — enters a corpus in the order of ids and
  locations, so that of several documents with one id the first location keeps it;
* `Catalog.findById?`, `findByPath?`, `findByAlias`, `findByTitle?` — the look-ups;
* `Catalog.documents` — the documents in the order in which they were entered;
* `Catalog.events` — what is reported while a catalog is built.
-/

/-- A document that lost its id to an earlier one. -/
structure Duplicate where
  id : String
  relPath : String
  /-- The location of the document that keeps the id. -/
  kept : String
  deriving DecidableEq, Repr

/-- The look-up tables of a corpus. -/
structure Catalog where
  /-- The content root. -/
  root : String
  /-- The ids in the order in which their documents were entered. -/
  order : List String
  byId : Std.TreeMap String Document
  /-- Ids by location, relative to the root or not. -/
  byPath : Std.TreeMap String String
  /-- Ids in ascending order by title and alias. -/
  byAlias : Std.TreeMap String (List String)
  /-- Ids by title up to spelling. -/
  byTitle : Std.TreeMap String String
  duplicates : List Duplicate

namespace Catalog

/-- A catalog without documents. -/
def empty (root : String) : Catalog := ⟨root, [], ∅, ∅, ∅, ∅, []⟩

/-! ### Entering documents -/

/-- The locations of a document. -/
def pathsOf (d : Document) : List String := [d.relPath, d.path].filter (· != "")

/-- The names of a document. -/
def namesOf (d : Document) : List String := d.title :: d.aliases

/-- Enters a location, which belongs to the first document that has it. -/
def addPath (id : String) (paths : Std.TreeMap String String) (path : String) :
    Std.TreeMap String String := paths.insertIfNew path id

/-- Enters a name. -/
def addName (id : String) (names : Std.TreeMap String (List String)) (name : String) :
    Std.TreeMap String (List String) := names.alter name fun ids => some (Ids.insert id (ids.getD []))

/-- Enters a title up to spelling, which belongs to the lowest id that has it. -/
def addTitle (id : String) (titles : Std.TreeMap String String) (title : String) :
    Std.TreeMap String String :=
  let key := Text.spellingKey title
  if key = "" then titles
  else titles.alter key fun
    | none => some id
    | some owner => some (if id < owner then id else owner)

/-- Enters a document whose id is new. -/
def insert (c : Catalog) (d : Document) : Catalog :=
  { c with
    order := c.order ++ [d.id]
    byId := c.byId.insert d.id d
    byPath := (pathsOf d).foldl (addPath d.id) c.byPath
    byAlias := (namesOf d).foldl (addName d.id) c.byAlias
    byTitle := addTitle d.id c.byTitle d.title }

/-- Enters a document, or notes that its id is taken. -/
def add (c : Catalog) (d : Document) : Catalog :=
  match c.byId[d.id]? with
  | some kept => { c with duplicates := c.duplicates ++ [⟨d.id, d.relPath, kept.relPath⟩] }
  | none => c.insert d

/-- Documents in the order of ids and locations; the given order decides between equal ones. -/
def arranged (ds : List Document) : List Document := ds.mergeSort Document.precedes

/-- The catalog of a corpus. -/
def build (root : String) (ds : List Document) : Catalog :=
  (arranged ds).foldl add (empty root)

/-! ### Look-ups -/

/-- The document with an id. -/
def findById? (c : Catalog) (id : String) : Option Document := c.byId[id]?

/-- Whether an id is in use. -/
def contains (c : Catalog) (id : String) : Bool := c.byId.contains id

/-- The id of the document at a location. -/
def findByPath? (c : Catalog) (path : String) : Option String := c.byPath[path]?

/-- The ids of all documents with a title or alias, in ascending order. -/
def findByAlias (c : Catalog) (name : String) : List String := (c.byAlias[name]?).getD []

/-- The id that owns a title up to spelling. -/
def findByTitle? (c : Catalog) (title : String) : Option String :=
  let key := Text.spellingKey title
  if key = "" then none else c.byTitle[key]?

/-- The documents in the order of their ids, which ascend in the catalog of a corpus. -/
def documents (c : Catalog) : List Document := c.order.filterMap c.findById?

/-- The number of documents. -/
def size (c : Catalog) : Nat := c.byId.size

/-- Whether there are no documents. -/
def isEmpty (c : Catalog) : Bool := c.byId.isEmpty

/-! ### Events -/

open Log (Event)

/-- What is reported when a document is entered. -/
def notice (c : Catalog) (d : Document) : List Event :=
  match c.byId[d.id]? with
  | some kept => [.idTaken d.id d.relPath kept.relPath]
  | none =>
    match c.findByTitle? d.title with
    | some owner => [.titleShared (Text.spellingKey d.title) owner d.id]
    | none => []

/-- The sizes of a complete catalog. -/
def summary (c : Catalog) : Event :=
  .cataloged c.byId.size c.byPath.size c.byAlias.size c.byTitle.size

/-- What is reported while documents are entered one after the other. -/
def eventsFrom (c : Catalog) : List Document → List Event
  | [] => [c.summary]
  | d :: ds => c.notice d ++ eventsFrom (c.add d) ds

/-- What is reported while the catalog of a corpus is built. -/
def events (root : String) (ds : List Document) : List Event :=
  eventsFrom (empty root) (arranged ds)

end Catalog

end LinkAtlas
