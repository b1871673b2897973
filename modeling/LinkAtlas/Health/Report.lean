import LinkAtlas.Health.Tally
import LinkAtlas.Health.Tier
import LinkAtlas.Reference.Json

namespace LinkAtlas

/-!
# Health reports

* `LinkIssue` — a reference that led nowhere, or to several documents;
* `Report` — the figures of a corpus;
* `Report.toJson`, `Report.ofTree?` — reports as JSON.
-/

/-- A reference that is no valid edge. -/
structure LinkIssue where
  source : String
  rawTarget : String
  line : Nat
  kind : Reference.Kind
  deriving DecidableEq, Repr

/-- The figures of a corpus. -/
structure Report where
  totalNodes : Nat
  totalEdges : Nat
  validEdges : Nat
  /-- Broken, not settled, or leading out of the corpus. -/
  brokenEdges : Nat
  ambiguousEdges : Nat
  /-- Valid references to code; they are valid edges too. -/
  codeReferenceEdges : Nat
  connectedNodes : Nat
  /-- The ids without a valid edge, in ascending order. -/
  orphans : List String
  linkHealth : Float
  connectivity : Float
  overall : Float
  tier : Tier
  /-- The components of the graph of documents, edges taken in both directions. -/
  componentCount : Nat
  strategyCounts : Tally
  broken : List LinkIssue
  ambiguous : List LinkIssue
  deriving BEq

open Json (Value Tree)

namespace LinkIssue

/-- The issue of a reference. -/
def ofReference (r : Reference) : LinkIssue := ⟨r.source, r.rawTarget, r.line, r.kind⟩

/-- The JSON form of an issue. -/
def toJson (i : LinkIssue) : Value :=
  .object
    [("source", .text i.source), ("raw_target", .text i.rawTarget), ("line", .int i.line),
     ("kind", .text i.kind.name)]

/-- Reads an issue. -/
def ofTree? (t : Tree) : Option LinkIssue := do
  let r ← t.record? ["source", "raw_target", "line", "kind"]
  return { source := ← r.required? "source" Tree.string?
           rawTarget := ← r.required? "raw_target" Tree.string?
           line := ← r.required? "line" Tree.nat?
           kind := ← r.required? "kind" fun t => t.choice?.bind Reference.Kind.ofName? }

end LinkIssue

namespace Report

/-- The keys of a report, in order. -/
def keys : List String :=
  ["total_nodes", "total_edges", "valid_edges", "broken_edges", "ambiguous_edges",
   "code_reference_edges", "connected_nodes", "orphans", "link_health", "connectivity", "overall",
   "tier", "component_count", "strategy_counts", "broken", "ambiguous"]

/-- The JSON form of a report. -/
def toJson (r : Report) : Value :=
  .object
    [("total_nodes", .int r.totalNodes), ("total_edges", .int r.totalEdges),
     ("valid_edges", .int r.validEdges), ("broken_edges", .int r.brokenEdges),
     ("ambiguous_edges", .int r.ambiguousEdges),
     ("code_reference_edges", .int r.codeReferenceEdges),
     ("connected_nodes", .int r.connectedNodes), ("orphans", .array (r.orphans.map .text)),
     ("link_health", .float r.linkHealth), ("connectivity", .float r.connectivity),
     ("overall", .float r.overall), ("tier", .text r.tier.name),
     ("component_count", .int r.componentCount),
     ("strategy_counts", .object (r.strategyCounts.entries.map fun (k, n) => (k, .int n))),
     ("broken", .array (r.broken.map LinkIssue.toJson)),
     ("ambiguous", .array (r.ambiguous.map LinkIssue.toJson))]

/-- Reads a tally. -/
def tally? : Tree → Option Tally
  | .object fields =>
    (fields.mapM fun (f : Option String × Tree) => do
      return (← f.1, ← f.2.nat?)).map Tally.ofEntries
  | _ => none

/-- Reads a report. -/
def ofTree? (t : Tree) : Option Report := do
  let r ← t.record? keys
  let nat (key : String) : Option Nat := r.required? key Tree.nat?
  let float (key : String) : Option Float := r.required? key Tree.float?
  return { totalNodes := ← nat "total_nodes"
           totalEdges := ← nat "total_edges"
           validEdges := ← nat "valid_edges"
           brokenEdges := ← nat "broken_edges"
           ambiguousEdges := ← nat "ambiguous_edges"
           codeReferenceEdges := ← nat "code_reference_edges"
           connectedNodes := ← nat "connected_nodes"
           orphans := ← r.required? "orphans" (Tree.list? Tree.string?)
           linkHealth := ← float "link_health"
           connectivity := ← float "connectivity"
           overall := ← float "overall"
           tier := ← r.required? "tier" fun t => t.choice?.bind Tier.ofName?
           componentCount := ← nat "component_count"
           strategyCounts := ← r.required? "strategy_counts" tally?
           broken := ← r.required? "broken" (Tree.list? LinkIssue.ofTree?)
           ambiguous := ← r.required? "ambiguous" (Tree.list? LinkIssue.ofTree?) }

end Report

end LinkAtlas
