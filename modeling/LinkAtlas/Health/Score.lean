import LinkAtlas.Document.Basic
import LinkAtlas.Document.Ids
import LinkAtlas.Health.Components
import LinkAtlas.Health.Report
import LinkAtlas.Log.Event

namespace LinkAtlas.Health

/-!
# The score of a corpus

* `Standing` — what a reference is in the graph of a corpus, `Standing.of` — its one class;
* `position?`, `isMember` — where the document with an id stands in a corpus, and whether there is one;
* `connectedIds`, `edges` — the ids that valid references connect, and the edges between positions;
* `score` — the report, `events` — what is reported about it.
-/

/-- What a reference is in the graph of a corpus. -/
inductive Standing where
  | ambiguous
  | broken
  /-- Valid, but its target is no document of the corpus. -/
  | outside (target : String)
  /-- Valid and leading to code. -/
  | code
  /-- Valid and leading to a document. -/
  | linked (target : String)
  deriving DecidableEq, Repr

namespace Standing

/-- The class of a reference, given which ids the corpus has. -/
def of (isMember : String → Bool) (r : Reference) : Standing :=
  if r.strategy = some .ambiguous then ambiguous
  else
    match r.target, r.isValid with
    -- The path of a source file is no id, so it is not looked for in the corpus.
    | some target, true =>
      if r.kind = .code then code
      else if isMember target then linked target
      else outside target
    | _, _ => broken

/-- Whether a reference is a valid edge. -/
def isEdge : Standing → Bool
  | code | linked _ => true
  | ambiguous | broken | outside _ => false

/-- Whether a reference counts as broken. -/
def isBroken : Standing → Bool
  | broken | outside _ => true
  | ambiguous | code | linked _ => false

end Standing

/-! ### The corpus -/

/-- The key under which references without a strategy are counted. -/
def unresolvedKey : String := "unresolved"

/-- The key under which a reference is counted. -/
def countKey (r : Reference) : String := (r.strategy.map Strategy.name).getD unresolvedKey

/-- Whether a document of the corpus has an id. -/
def isMember (ds : List Document) (id : String) : Bool := ds.any (·.id == id)

/-- The position of the last document with an id. -/
def position? (ds : List Document) (id : String) : Option Nat :=
  (ds.reverse.findIdx? (·.id == id)).map fun n => ds.length - 1 - n

/-- The references of a corpus with their documents and standings. -/
def standings (ds : List Document) : List (Document × Reference × Standing) :=
  ds.flatMap fun d => d.references.map fun r => (d, r, Standing.of (isMember ds) r)

/-- The ids that a reference connects. Its own document is not connected from outside. -/
def connects (d : Document) : Standing → List String
  | .code => [d.id]
  | .linked target => if target = d.id then [d.id] else [target, d.id]
  | .ambiguous | .broken | .outside _ => []

/-- The ids that valid references connect. -/
def connectedIds (ds : List Document) : List String :=
  (standings ds).flatMap fun (d, _, s) => connects d s

/-- The edges between the positions of documents. -/
def edges (ds : List Document) : List Edge :=
  (standings ds).filterMap fun (d, _, s) =>
    match s with
    | .linked target =>
      match position? ds d.id, position? ds target with
      | some a, some b => some (a, b)
      | _, _ => none
    | _ => none

/-! ### Scores -/

/-- A share in percent; all of nothing is everything. -/
def percentage (part whole : Nat) : Float :=
  if whole = 0 then 100 else 100 * Float.ofNat part / Float.ofNat whole

/-- The weight of valid references in the overall score. -/
def linkWeight : Float := 0.5

/-- The weight of connected documents in the overall score. -/
def connectivityWeight : Float := 0.5

/-- The report on a corpus. -/
def score (ds : List Document) : Report :=
  let all := standings ds
  let connected := connectedIds ds
  let isConnected (d : Document) : Bool := connected.contains d.id
  let valid := (all.filter (·.2.2.isEdge)).length
  let connectedNodes := (ds.filter isConnected).length
  let broken := (all.filter (·.2.2.isBroken)).map fun (_, r, _) => LinkIssue.ofReference r
  let ambiguous := (all.filter (·.2.2 == .ambiguous)).map fun (_, r, _) => LinkIssue.ofReference r
  let linkHealth := percentage valid all.length
  let connectivity := percentage connectedNodes ds.length
  let overall := linkWeight * linkHealth + connectivityWeight * connectivity
  { totalNodes := ds.length
    totalEdges := all.length
    validEdges := valid
    brokenEdges := broken.length
    ambiguousEdges := ambiguous.length
    codeReferenceEdges := (all.filter (·.2.2 == .code)).length
    connectedNodes := connectedNodes
    orphans := Ids.ofList ((ds.filter (! isConnected ·)).map (·.id))
    linkHealth := linkHealth
    connectivity := connectivity
    overall := overall
    tier := .ofScore overall
    componentCount := componentCount ds.length (edges ds)
    strategyCounts := .ofNames (all.map fun (_, r, _) => countKey r)
    broken := broken
    ambiguous := ambiguous }

/-- What is reported while a corpus is scored. -/
def events (ds : List Document) : List Log.Event :=
  let r := score ds
  ((standings ds).filterMap fun (d, _, s) =>
    match s with
    | .outside target => some (.outside d.id target)
    | _ => none) ++
    [.scored r.totalNodes r.validEdges r.totalEdges r.orphans.length r.overall r.tier]

end LinkAtlas.Health
