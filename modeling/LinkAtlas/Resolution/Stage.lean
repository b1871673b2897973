import LinkAtlas.Reference.Basic

namespace LinkAtlas

/-!
# The stages of a resolution

* `Stage` — the ways to look for the target of a reference, `Stage.all` in the order they are tried;
* `Stage.applies` — the kinds of reference that a stage is for;
* `Stage.ofKind` — the stages of a kind, in order.
-/

/-- A way to look for the target of a reference. -/
inductive Stage where
  /-- A source file that exists. -/
  | code
  /-- The id of a document. -/
  | id
  /-- The location of a document. -/
  | path
  /-- The title or an alias of a document. -/
  | exactName
  /-- The title of a document up to spelling. -/
  | title
  deriving DecidableEq, Repr

namespace Stage

/-- All stages, in the order they are tried. -/
def all : List Stage := [code, id, path, exactName, title]

/-- The name of a stage. -/
def name : Stage → String
  | code => "code"
  | id => "id"
  | path => "path"
  | exactName => "alias"
  | title => "fuzzy"

/-- Whether a stage is for references of a kind. -/
def applies (s : Stage) (k : Reference.Kind) : Bool :=
  match s with
  | code => k == .code
  | id | title => k != .code
  | path => k == .plain || k == .wiki
  | exactName => k.isWiki

/-- The stages of a kind of reference, in order. -/
def ofKind (k : Reference.Kind) : List Stage := all.filter (·.applies k)

/-- A plain reference is looked for by id, by location and by spelling. -/
@[simp] theorem ofKind_plain : ofKind .plain = [id, path, title] := rfl

/-- A wiki reference is looked for by names too. -/
@[simp] theorem ofKind_wiki : ofKind .wiki = [id, path, exactName, title] := rfl

/-- With a label of its own, a wiki reference is not looked for by location. -/
@[simp] theorem ofKind_aliasedWiki : ofKind .aliasedWiki = [id, exactName, title] := rfl

/-- The stage for source code is for no other kind. -/
theorem eq_code_of_mem {k : Reference.Kind} (h : code ∈ ofKind k) : k = .code := by
  cases k <;> first | rfl | exact absurd h (by decide)

end Stage

end LinkAtlas
