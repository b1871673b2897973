namespace LinkAtlas

/-!
# References between documents

* `Reference.Kind` — the form a reference is written in;
* `Strategy` — how a reference was settled, `Outcome` — the strategy with the target it found;
* `Reference` — one reference of a document, with the outcome of its resolution once there is one;
* `Reference.settle` — records an outcome; `settle_isValid_iff` says when the result is valid;
* `Reference.codeParts?` — path and symbol of a reference to source code.
-/

/-- The form a reference is written in. -/
inductive Reference.Kind where
  /-- `[label](target)` -/
  | plain
  /-- `[[target]]` -/
  | wiki
  /-- `[[target|label]]` -/
  | aliasedWiki
  /-- `[[code:path::symbol]]` -/
  | code
  deriving DecidableEq, Repr, Inhabited

namespace Reference.Kind

/-- All kinds. -/
def all : List Kind := [plain, wiki, aliasedWiki, code]

/-- The name of a kind in reports and snapshots. -/
def name : Kind → String
  | plain => "plain"
  | wiki => "wiki-link"
  | aliasedWiki => "aliased-wiki-link"
  | code => "code-reference"

/-- The kind with a name. -/
def ofName? (s : String) : Option Kind := all.find? (·.name == s)

/-- Whether a kind is one of the two forms between double brackets that name a document. -/
def isWiki : Kind → Bool
  | wiki | aliasedWiki => true
  | plain | code => false

/-- The name of a kind stands for no other kind. -/
theorem ofName?_name (k : Kind) : ofName? k.name = some k := by cases k <;> decide

end Reference.Kind

/-- How a reference was settled. -/
inductive Strategy where
  /-- The target is the id of a document. -/
  | byId
  /-- The target is the location of a document. -/
  | byPath
  /-- The target is the title or an alias of one document. -/
  | byAlias
  /-- The target is the title of a document up to spelling. -/
  | byTitle
  /-- The target is a source file that exists. -/
  | byCode
  /-- The target is the title or an alias of several documents. -/
  | ambiguous
  /-- Nothing was found. -/
  | broken
  deriving DecidableEq, Repr, Inhabited

namespace Strategy

/-- All strategies. -/
def all : List Strategy := [byId, byPath, byAlias, byTitle, byCode, ambiguous, broken]

/-- The name of a strategy in reports and snapshots. -/
def name : Strategy → String
  | byId => "id"
  | byPath => "path"
  | byAlias => "alias"
  | byTitle => "fuzzy"
  | byCode => "code-reference"
  | ambiguous => "ambiguous"
  | broken => "broken"

/-- The strategy with a name. -/
def ofName? (s : String) : Option Strategy := all.find? (·.name == s)

/-- Whether nothing, or no single thing, was found. -/
def isFailure : Strategy → Bool
  | ambiguous | broken => true
  | byId | byPath | byAlias | byTitle | byCode => false

/-- The name of a strategy stands for no other strategy. -/
theorem ofName?_name (s : Strategy) : ofName? s.name = some s := by cases s <;> decide

end Strategy

/-- What became of a reference. -/
structure Outcome where
  strategy : Strategy
  target : Option String
  deriving DecidableEq, Repr, Inhabited

namespace Outcome

/-- A target was found. -/
def found (strategy : Strategy) (target : String) : Outcome := ⟨strategy, some target⟩

/-- Several documents match. -/
def ambiguous : Outcome := ⟨.ambiguous, none⟩

/-- Nothing matches. -/
def broken : Outcome := ⟨.broken, none⟩

end Outcome

/-- One reference from a document. -/
structure Reference where
  /-- The id of the document the reference stands in. -/
  source : String
  /-- The target as it is written, with the mark of a code reference. -/
  rawTarget : String
  kind : Reference.Kind
  /-- The text shown for the reference, when the form has one apart from the target. -/
  label : Option String
  /-- The line of the file, counted from one. -/
  line : Nat
  /-- The line's text, trimmed. -/
  context : String
  target : Option String
  strategy : Option Strategy
  isValid : Bool
  deriving DecidableEq, Repr, Inhabited

namespace Reference

/-- The mark that opens the target of a code reference. -/
def codeMark : List Char := ['c', 'o', 'd', 'e', ':']

/-- The parts of a text before and after the first place where two colons stand. -/
def splitSymbol : List Char → List Char × Option (List Char)
  | [] => ([], none)
  | ':' :: ':' :: rest => ([], some rest)
  | c :: rest =>
    let (path, symbol) := splitSymbol rest
    (c :: path, symbol)

/-- A reference whose target has not been looked for. -/
def unsettled (source rawTarget : String) (kind : Kind) (label : Option String) (line : Nat)
    (context : String) : Reference where
  source := source
  rawTarget := rawTarget
  kind := kind
  label := label
  line := line
  context := context
  target := none
  strategy := none
  isValid := false

/-- The reference with an outcome. A failure has no target, and a reference is valid exactly when it
    has one. -/
def settle (r : Reference) (o : Outcome) : Reference :=
  let target := if o.strategy.isFailure then none else o.target
  { r with target := target, strategy := some o.strategy, isValid := target.isSome }

/-- Whether the reference has an outcome. -/
def isSettled (r : Reference) : Bool := r.strategy.isSome

/-- Path and symbol of a code reference; none for a reference that does not point at code. -/
def codeParts? (r : Reference) : Option (String × Option String) :=
  if r.kind = .code ∧ codeMark.isPrefixOf r.rawTarget.toList then
    let (path, symbol) := splitSymbol (r.rawTarget.toList.drop codeMark.length)
    some (String.ofList path, symbol.map String.ofList)
  else none

/-- A settled reference is valid exactly if it has a target. -/
theorem settle_isValid_iff (r : Reference) (o : Outcome) :
    (r.settle o).isValid = true ↔ (r.settle o).target ≠ none := by
  simp [settle, Option.isSome_iff_ne_none]

end Reference

end LinkAtlas
