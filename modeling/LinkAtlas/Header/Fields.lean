import LinkAtlas.Document.Kind
import LinkAtlas.Header.Metadata
import LinkAtlas.Text.Blank

namespace LinkAtlas

/-!
# The fields that the graph takes from a header

* `Header` — id, title, aliases, kind and status;
* `Header.ofMetadata` — takes them from metadata. Only id, title and aliases can be at fault;
* `Header.Hint` — a field that only describes: what cannot be read in it is ignored;
* `Header.read` — reads a header from its text.
-/

/-- What a header says about its document. -/
structure Header where
  id : String
  title : Option String
  aliases : List String
  kind : Option Document.Kind
  status : Option Document.Status
  deriving DecidableEq, Repr

namespace Header

/-! ### Fields that must be well formed -/

/-- A text, without blanks at its ends. -/
def text? (m : Metadata) (key : String) : Except Fault (Option String) :=
  match m.field? key with
  | none => .ok none
  | some (.text s) => .ok (some (Text.trimmed s))
  | some v => .error (.notText key v)

/-- An item of a list of texts. -/
def item (key : String) : Json.Value → Except Fault String
  | .text s => .ok (Text.trimmed s)
  | v => .error (.notTextItem key v)

/-- A text or a list of texts; blank ones are left out. -/
def texts (m : Metadata) (key : String) : Except Fault (List String) :=
  match m.field? key with
  | none => .ok []
  | some (.text s) => .ok ([Text.trimmed s].filter (· != ""))
  | some (.array items) => do return (← items.mapM (item key)).filter (· != "")
  | some v => .error (.notList key v)

/-- The id, which must not be blank. -/
def id? (m : Metadata) : Except Fault String := do
  match ← text? m "id" with
  | some s => if s = "" then .error .noId else .ok s
  | none => .error .noId

/-- The title, else the name; none when it is blank. -/
def title? (m : Metadata) : Except Fault (Option String) := do
  match ← text? m "title" with
  | some s => return some s |>.filter (· != "")
  | none => return (← text? m "name").filter (· != "")

/-! ### Fields that describe -/

/-- A field that only describes, and what could be read in it. -/
structure Hint (α : Type) where
  key : String
  value : Json.Value
  meaning : Option α

/-- The first field that is there, among several keys. -/
def hint? {α : Type} (m : Metadata) (keys : List String) (read : String → Option α) :
    Option (Hint α) :=
  keys.findSome? fun key =>
    (m.field? key).map fun v =>
      { key := key
        value := v
        meaning := match v with
          | .text s => read s
          | _ => none }

/-- What could be read in a field. -/
def Hint.meaning? {α : Type} (h : Option (Hint α)) : Option α := h.bind Hint.meaning

/-- A field in which nothing could be read. -/
def Hint.ignored? {α : Type} (h : Option (Hint α)) : Option (String × Json.Value) :=
  h.bind fun h => if h.meaning.isNone then some (h.key, h.value) else none

/-- The kind of the document. -/
def kindHint? (m : Metadata) : Option (Hint Document.Kind) :=
  hint? m ["type", "kind"] Document.Kind.ofWord?

/-- The status of the document. -/
def statusHint? (m : Metadata) : Option (Hint Document.Status) :=
  hint? m ["status"] Document.Status.ofWord?

/-- The describing fields in which nothing could be read, in order. -/
def ignoredFields (m : Metadata) : List (String × Json.Value) :=
  (Hint.ignored? (kindHint? m)).toList ++ (Hint.ignored? (statusHint? m)).toList

/-! ### All fields -/

/-- The fields that metadata hold. -/
def ofMetadata (m : Metadata) : Except Fault Header := do
  let id ← id? m
  let title ← title? m
  let aliases ← texts m "aliases"
  return { id := id
           title := title
           aliases := aliases
           kind := Hint.meaning? (kindHint? m)
           status := Hint.meaning? (statusHint? m) }

/-- Reads a header. -/
def read (s : String) : Except Fault Header := do ofMetadata (← Metadata.read s)

open Json (Value)

/-- The JSON form of a header. -/
def toJson (h : Header) : Value :=
  .object
    [("id", .text h.id), ("title", (h.title.map Value.text).getD .null),
     ("aliases", .array (h.aliases.map .text)),
     ("kind", (h.kind.map fun k => Value.text k.name).getD .null),
     ("status", (h.status.map fun s => Value.text s.name).getD .null)]

end Header

end LinkAtlas
