import LinkAtlas.Json.Record
import LinkAtlas.Reference.Basic

namespace LinkAtlas

/-!
# References as JSON

* `Reference.toJson`, `Reference.ofTree?` — a reference; its label is left out when there is none;
* `Outcome.ofTree?` — an outcome;
* `Reference.Kind.ofTree?`, `Strategy.ofTree?` — the names of kinds and strategies.
-/

open Json (Value Tree)

/-- The JSON form of an optional text. -/
def Json.Value.ofText? (s : Option String) : Value :=
  match s with
  | some s => .text s
  | none => .null

/-- Reads the name of a kind. -/
def Reference.Kind.ofTree? (t : Tree) : Option Reference.Kind :=
  t.choice?.bind Reference.Kind.ofName?

/-- Reads the name of a strategy. -/
def Strategy.ofTree? (t : Tree) : Option Strategy := t.choice?.bind Strategy.ofName?

/-- Reads an outcome. -/
def Outcome.ofTree? (t : Tree) : Option Outcome := do
  let r ← t.record? ["strategy", "target"]
  return { strategy := ← r.required? "strategy" Strategy.ofTree?
           target := ← r.optional? "target" Tree.string? }

namespace Reference

/-- The JSON form of a reference. -/
def toJson (r : Reference) : Value :=
  let label := match r.label with
    | some l => [("label", Value.text l)]
    | none => []
  .object <|
    [("source", .text r.source), ("raw_target", .text r.rawTarget), ("kind", .text r.kind.name)] ++
    label ++
    [("line", .int r.line), ("context", .text r.context), ("target", .ofText? r.target),
     ("strategy", .ofText? (r.strategy.map Strategy.name)), ("valid", .bool r.isValid)]

/-- The keys of a reference, in order. -/
def keys : List String :=
  ["source", "raw_target", "kind", "label", "line", "context", "target", "strategy", "valid"]

/-- Reads a reference. Label and outcome may be absent. -/
def ofTree? (t : Tree) : Option Reference := do
  let r ← t.record? keys
  return { source := ← r.required? "source" Tree.string?
           rawTarget := ← r.required? "raw_target" Tree.string?
           kind := ← r.required? "kind" Kind.ofTree?
           label := ← r.withDefault? "label" none (Tree.orNull? Tree.string?)
           line := ← r.required? "line" Tree.nat?
           context := ← r.required? "context" Tree.string?
           target := ← r.withDefault? "target" none (Tree.orNull? Tree.string?)
           strategy := ← r.withDefault? "strategy" none (Tree.orNull? Strategy.ofTree?)
           isValid := ← r.withDefault? "valid" false Tree.bool? }

end Reference

end LinkAtlas
