import LinkAtlas.Catalog
import LinkAtlas.Resolution.Candidate
import LinkAtlas.Resolution.Stage

namespace LinkAtlas

/-!
# Resolution of references

* `Verdict` — what the stages found for a reference, with all that is reported about it;
* `Resolver` — a catalog and the question whether a path exists on disk;
* `Stage.Exits` — the ways in which a stage settles a reference, with what it reports on each,
  `Resolver.events_of_run?` — and nothing else is reported when a stage is run;
* `Resolver.verdict` — the first stage that settles a reference wins;
* `Resolver.resolve` — the outcome for one reference, `Resolver.resolveDocument` and
  `Resolver.resolveAll` — documents with their references settled;
* `Resolver.events` — what is reported meanwhile, `Resolver.events_verdict` — by the stage that
  settles a reference, or about none doing so.
-/

/-- What the stages found. -/
inductive Verdict where
  /-- A stage found a target. -/
  | found (stage : Stage) (target : String)
  /-- Several documents have the name. -/
  | ambiguous (ids : List String)
  /-- The source file at a path does not exist. -/
  | missingCode (path : String)
  /-- A code reference without its mark. -/
  | noCode
  /-- No stage settled the reference. -/
  | nothing
  deriving DecidableEq, Repr

/-- How a stage settles a reference whose target it finds. -/
def Stage.strategy : Stage → Strategy
  | code => .byCode
  | id => .byId
  | path => .byPath
  | exactName => .byAlias
  | title => .byTitle

namespace Verdict

/-- The outcome of a verdict. -/
def outcome : Verdict → Outcome
  | found stage target => .found stage.strategy target
  | ambiguous _ => .ambiguous
  | missingCode _ | noCode | nothing => .broken

open Log (Event)

/-- What is reported about a verdict. -/
def events (d : Document) (r : Reference) : Verdict → List Event
  | found stage _ => [.settled d.id r.rawTarget stage stage.strategy]
  | ambiguous ids =>
    [.ambiguous r.rawTarget r.source r.line ids, .settled d.id r.rawTarget .exactName .ambiguous]
  | missingCode path =>
    [.missingCode d.id r.line path, .settled d.id r.rawTarget .code .broken]
  | noCode => [.settled d.id r.rawTarget .code .broken]
  | nothing => [.broken d.id r.line r.rawTarget]

end Verdict

/-- A catalog, and whether a path exists on disk. -/
structure Resolver where
  catalog : Catalog
  isOnDisk : String → Bool

namespace Resolver

/-! ### Stages -/

/-- What a code reference leads to. -/
def codeVerdict (v : Resolver) (d : Document) (r : Reference) : Verdict :=
  match r.codeParts? with
  | none => .noCode
  | some (path, _) =>
    if (Candidate.ofTarget d path).any fun c => v.isOnDisk (c.onDisk v.catalog.root) then
      .found .code path
    else .missingCode path

/-- The document at one reading of a path. -/
def documentAt? (v : Resolver) : Candidate → Option String
  | .rooted p => v.catalog.findByPath? p
  | .absolute p => if v.isOnDisk p then v.catalog.findByPath? p else none

/-- What a name leads to. -/
def nameVerdict? (v : Resolver) (r : Reference) : Option Verdict :=
  match v.catalog.findByAlias r.rawTarget with
  | [] => none
  | [only] => some (.found .exactName only)
  | ids => some (.ambiguous ids)

/-- What a stage finds; none when it leaves the reference to the next one. -/
def run? (v : Resolver) (d : Document) (r : Reference) : Stage → Option Verdict
  | .code => some (v.codeVerdict d r)
  | .id => (v.catalog.findById? r.rawTarget).map fun found => .found .id found.id
  | .path => ((Candidate.ofTarget d r.rawTarget).findSome? v.documentAt?).map (.found .path)
  | .exactName => v.nameVerdict? r
  | .title => (v.catalog.findByTitle? r.rawTarget).map (.found .title)

end Resolver

open Log (Event)

/-- The ways in which a stage settles a reference: the verdict that it comes to, what it has seen of
    the reference, and what it reports before the reference counts as settled. -/
inductive Stage.Exits (v : Resolver) (d : Document) (r : Reference) :
    Stage → Verdict → List Event → Prop where
  | found (stage : Stage) (target : String) : Exits v d r stage (.found stage target) []
  | ambiguous {ids : List String} (hids : v.catalog.findByAlias r.rawTarget = ids)
      (hseveral : 2 ≤ ids.length) :
      Exits v d r .exactName (.ambiguous ids) [.ambiguous r.rawTarget r.source r.line ids]
  | missingCode {path : String} {symbol : Option String} (hparts : r.codeParts? = some (path, symbol)) :
      Exits v d r .code (.missingCode path) [.missingCode d.id r.line path]
  | noCode (hparts : r.codeParts? = none) : Exits v d r .code .noCode []

namespace Resolver

section Exits

variable {v : Resolver} {d : Document} {r : Reference} {verdict : Verdict}

/-- The stage for source code finds the path, misses it, or has none to look for. -/
theorem exits_codeVerdict : ∃ own, Stage.Exits v d r .code (v.codeVerdict d r) own := by
  unfold codeVerdict
  split
  · rename_i hparts
    exact ⟨_, .noCode hparts⟩
  · rename_i path symbol hparts
    split
    · exact ⟨_, .found .code path⟩
    · exact ⟨_, .missingCode hparts⟩

/-- The stage for names finds one document, or several of them. -/
theorem exits_of_nameVerdict? (h : v.nameVerdict? r = some verdict) :
    ∃ own, Stage.Exits v d r .exactName verdict own := by
  unfold nameVerdict? at h
  split at h
  · exact nomatch h
  · obtain rfl := Option.some.inj h
    exact ⟨_, .found ..⟩
  · rename_i hnone hone
    obtain rfl := Option.some.inj h
    refine ⟨_, .ambiguous rfl ?_⟩
    -- A list that is neither empty nor of one id only has two.
    rcases hids : v.catalog.findByAlias r.rawTarget with _ | ⟨id, _ | ⟨next, rest⟩⟩
    · exact absurd hids hnone
    · exact absurd hids (hone id)
    · simp

/-- Every stage that settles a reference takes one of its exits. -/
theorem exits_of_run? {stage : Stage} (h : v.run? d r stage = some verdict) :
    ∃ own, stage.Exits v d r verdict own := by
  cases stage with
  | code =>
    obtain rfl : v.codeVerdict d r = verdict := Option.some.inj h
    exact exits_codeVerdict
  | id =>
    obtain ⟨k, -, rfl⟩ := Option.map_eq_some_iff.mp h
    exact ⟨_, .found .id k.id⟩
  | path =>
    obtain ⟨id, -, rfl⟩ := Option.map_eq_some_iff.mp h
    exact ⟨_, .found .path id⟩
  | exactName => exact exits_of_nameVerdict? h
  | title =>
    obtain ⟨id, -, rfl⟩ := Option.map_eq_some_iff.mp h
    exact ⟨_, .found .title id⟩

/-- What is reported about a verdict is what its stage reports of its own, and then that this stage
    has settled the reference. -/
theorem events_of_exits {stage : Stage} {own : List Event} (h : stage.Exits v d r verdict own) :
    verdict.events d r =
      own ++ [.settled d.id r.rawTarget stage verdict.outcome.strategy] := by
  cases h <;> rfl

/-- A stage that settles a reference reports exactly what belongs to the exit that it takes. -/
theorem events_of_run? {stage : Stage} (h : v.run? d r stage = some verdict) :
    ∃ own, stage.Exits v d r verdict own ∧ verdict.events d r =
      own ++ [.settled d.id r.rawTarget stage verdict.outcome.strategy] := by
  obtain ⟨own, hexits⟩ := exits_of_run? h
  exact ⟨own, hexits, events_of_exits hexits⟩

end Exits

/-! ### References and documents -/

/-- What the stages find for a reference of a document. -/
def verdict (v : Resolver) (d : Document) (r : Reference) : Verdict :=
  ((Stage.ofKind r.kind).findSome? (v.run? d r)).getD .nothing

/-- About a reference, what the first stage reports that settles it; or else, never for source code,
    that no stage does. -/
theorem events_verdict (v : Resolver) (d : Document) (r : Reference) :
    (∃ stage ∈ Stage.ofKind r.kind, ∃ own, stage.Exits v d r (v.verdict d r) own ∧
      (v.verdict d r).events d r =
        own ++ [.settled d.id r.rawTarget stage (v.verdict d r).outcome.strategy]) ∨
    r.kind ≠ .code ∧ v.verdict d r = .nothing ∧
      (v.verdict d r).events d r = [.broken d.id r.line r.rawTarget] := by
  unfold verdict
  cases hfind : (Stage.ofKind r.kind).findSome? (v.run? d r) with
  | some verdict =>
    obtain ⟨stage, hstage, hrun⟩ := List.exists_of_findSome?_eq_some hfind
    exact .inl ⟨stage, hstage, events_of_run? hrun⟩
  | none =>
    refine .inr ⟨fun hkind => ?_, rfl, rfl⟩
    -- The stage for source code always comes to a verdict.
    have hcode := List.findSome?_eq_none_iff.mp hfind .code (by rw [hkind]; decide)
    exact nomatch hcode

/-- The outcome for a reference of a document. -/
def resolve (v : Resolver) (d : Document) (r : Reference) : Outcome := (v.verdict d r).outcome

/-- A document with all references settled. -/
def resolveDocument (v : Resolver) (d : Document) : Document :=
  d.withReferences (d.references.map fun r => r.settle (v.resolve d r))

/-- Documents with all references settled. -/
def resolveAll (v : Resolver) (ds : List Document) : List Document := ds.map v.resolveDocument

/-- What is reported while documents are resolved. -/
def events (v : Resolver) (ds : List Document) : List Log.Event :=
  ds.flatMap fun d => d.references.flatMap fun r => (v.verdict d r).events d r

end Resolver

end LinkAtlas
