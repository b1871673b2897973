import LinkAtlas.Failure
import LinkAtlas.Path.Components
import LinkAtlas.Toml.Document

namespace LinkAtlas

/-!
# Settings

* `Settings` — which files of which directory are documents;
* `Settings.parse` — reads settings from TOML;
* `Settings.matchesExtension` — whether a file is a document by its name;
* `Settings.toJson`, `Settings.ofTree?` — settings as JSON.
-/

/-- The settings of a scan. -/
structure Settings where
  /-- The content root. -/
  root : String
  /-- The extensions of documents, without the dot. -/
  extensions : List String
  /-- The names of directories that are passed over. -/
  exclude : List String
  /-- The number of documents that are read at once. -/
  workers : Nat
  deriving DecidableEq, Repr

namespace Settings

/-- The settings where nothing is said. -/
def default (root : String) : Settings := ⟨root, ["md"], [], 8⟩

/-- The name of the settings file in a content root. -/
def fileName : String := "docgraph.toml"

/-- The number of workers, at least one. -/
def workerCount (s : Settings) : Nat := max s.workers 1

/-! ### Extensions -/

/-- A text with the capital letters of ASCII made small. -/
def smallAscii (s : List Char) : List Char := s.map Char.toLower

/-- Whether a path ends in the extension of a document; the case of ASCII letters does not matter. -/
def matchesExtension (s : Settings) (path : String) : Bool :=
  match Path.extension? path with
  | some e => s.extensions.any fun ext => smallAscii ext.toList == smallAscii e
  | none => false

/-- An extension without the dots at its start. -/
def bareExtension (ext : String) : String := String.ofList (ext.toList.dropWhile (· == '.'))

/-- Settings with bare extensions, of which there must be one. -/
def validated (s : Settings) : Except Failure Settings :=
  if s.extensions.isEmpty then
    .error (.config "at least one document extension is required")
  else .ok { s with extensions := s.extensions.map bareExtension }

/-! ### TOML -/

open Json (Value Tree)

/-- A text. -/
def text? : Value → Option String
  | .text s => some s
  | _ => none

/-- A list of texts. -/
def texts? : Value → Option (List String)
  | .array items => items.mapM text?
  | _ => none

/-- A natural number. -/
def natural? : Value → Option Nat
  | .int n => if 0 ≤ n then some n.toNat else none
  | _ => none

/-- The value of a key, or what is to be used without it. -/
def fieldOr {α : Type} (fields : List (String × Value)) (key : String) (otherwise : α)
    (read : Value → Option α) : Option α :=
  match fields.lookup key with
  | some v => read v
  | none => some otherwise

/-- The settings that a TOML table gives. -/
def ofFields? (fields : List (String × Value)) : Option Settings := do
  let d := default "."
  return { root := ← fieldOr fields "root" d.root text?
           extensions := ← fieldOr fields "extensions" d.extensions texts?
           exclude := ← fieldOr fields "exclude" d.exclude texts?
           workers := ← fieldOr fields "workers" d.workers natural? }

/-- Reads settings. -/
def parse (content : String) : Except Failure Settings :=
  match (Toml.parse? content).bind ofFields? with
  | some s => s.validated
  | none => .error .badToml

/-! ### JSON -/

/-- The JSON form of settings. -/
def toJson (s : Settings) : Value :=
  .object
    [("root", .text s.root), ("extensions", .array (s.extensions.map .text)),
     ("exclude", .array (s.exclude.map .text)), ("workers", .int s.workers)]

/-- Reads settings, each of which may be absent. -/
def ofTree? (t : Tree) : Option Settings := do
  let r ← t.record? ["root", "extensions", "exclude", "workers"]
  let d := default "."
  return { root := ← r.withDefault? "root" d.root Tree.string?
           extensions := ← r.withDefault? "extensions" d.extensions (Tree.list? Tree.string?)
           exclude := ← r.withDefault? "exclude" d.exclude (Tree.list? Tree.string?)
           workers := ← r.withDefault? "workers" d.workers Tree.nat? }

end Settings

end LinkAtlas
