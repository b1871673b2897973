import LinkAtlas.Json.Record

namespace LinkAtlas

/-!
# Diagnostics

* `Diagnostic` — why a document was left out, or an entry of a directory;
* `Diagnostic.message` — its text;
* `Diagnostic.le` — the order in which diagnostics are listed: by kind, then field by field;
* `Diagnostic.toJson`, `Diagnostic.ofTree?` — diagnostics as JSON, told apart by their `type`.
-/

/-- Why something was left out of the graph. -/
inductive Diagnostic where
  /-- The file cannot be read, or is no text. -/
  | unreadable (path detail : String)
  /-- The header is missing or of no use. -/
  | invalidHeader (path detail : String)
  /-- The id belongs to the document at `kept`. -/
  | duplicateId (id path kept : String)
  /-- An entry of a directory cannot be visited. -/
  | enumeration (path detail : String)
  deriving DecidableEq, Repr, Inhabited

namespace Diagnostic

/-- The document concerned. -/
def path : Diagnostic → String
  | unreadable p _ | invalidHeader p _ | duplicateId _ p _ | enumeration p _ => p

/-- The text of a diagnostic. -/
def message : Diagnostic → String
  | unreadable p d => p ++ ": unreadable: " ++ d
  | invalidHeader p d => p ++ ": invalid header: " ++ d
  | duplicateId id p kept => p ++ ": duplicate id '" ++ id ++ "' (already used by " ++ kept ++ ")"
  | enumeration p d => p ++ ": could not enumerate: " ++ d

/-- The place of a kind in the order. -/
def rank : Diagnostic → Nat
  | unreadable .. => 0
  | invalidHeader .. => 1
  | duplicateId .. => 2
  | enumeration .. => 3

/-- The fields in the order in which they are compared. -/
def fields : Diagnostic → List String
  | unreadable p d | invalidHeader p d | enumeration p d => [p, d]
  | duplicateId id p kept => [id, p, kept]

/-- The order of diagnostics. -/
def order (a b : Diagnostic) : Ordering :=
  (compare a.rank b.rank).then (compare a.fields b.fields)

/-- Whether one diagnostic may stand before another. -/
def le (a b : Diagnostic) : Bool := (a.order b).isLE

/-- The value of `type`. -/
def typeName : Diagnostic → String
  | unreadable .. => "unreadable"
  | invalidHeader .. => "invalid-header"
  | duplicateId .. => "duplicate-id"
  | enumeration .. => "enumeration"

open Json (Value Tree)

/-- The JSON form of a diagnostic. -/
def toJson (d : Diagnostic) : Value :=
  .object <| ("type", .text d.typeName) ::
    match d with
    | unreadable p m | invalidHeader p m | enumeration p m =>
      [("path", .text p), ("message", .text m)]
    | duplicateId id p kept => [("id", .text id), ("path", .text p), ("kept", .text kept)]

/-- Reads the fields of the diagnostic of a type. -/
def ofFields? (type : String) (t : Tree) : Option Diagnostic :=
  let pair (make : String → String → Diagnostic) : Option Diagnostic := do
    let r ← t.record? ["path", "message"]
    return make (← r.required? "path" Tree.string?) (← r.required? "message" Tree.string?)
  match type with
  | "unreadable" => pair unreadable
  | "invalid-header" => pair invalidHeader
  | "enumeration" => pair enumeration
  | "duplicate-id" => do
    let r ← t.record? ["id", "path", "kept"]
    return duplicateId (← r.required? "id" Tree.string?) (← r.required? "path" Tree.string?)
      (← r.required? "kept" Tree.string?)
  | _ => none

/-- Reads a diagnostic that may hold `depth` more levels of brackets. Every other field of it must be
    a proper value, known or not. In an array the type comes first. -/
def ofTreeWithin? (depth : Nat) : Tree → Option Diagnostic
  | .object fields => do
    let r ← (Tree.object fields).record? ["type"]
    let type ← r.required? "type" Tree.string?
    let rest := fields.filter fun (k, _) => k != some "type"
    let _ ← Tree.fieldValues? depth rest
    ofFields? type (.object rest)
  | .array (.text (some type) :: items) => do
    let _ ← Tree.values? depth items
    ofFields? type (.array items)
  | _ => none

/-- Reads a diagnostic inside the list of a snapshot. -/
def ofTree? (t : Tree) : Option Diagnostic := ofTreeWithin? 124 t

end Diagnostic

end LinkAtlas
