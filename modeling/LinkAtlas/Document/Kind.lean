import LinkAtlas.Failure
import LinkAtlas.Text.Blank
import LinkAtlas.Text.Lowercase

namespace LinkAtlas.Document

/-!
# Kind and status of a document

* `Kind`, `Status` — the closed sets, with their names in snapshots;
* `Kind.ofWord?`, `Status.ofWord?` — the lenient reading of a word that an author wrote: blanks at
  its ends and letter case do not matter, and kinds have a plural;
* `Kind.read`, `Status.read` — the same with a failure for any other word.
-/

/-- The kinds of document. -/
inductive Kind where
  | guide
  | architecture
  | reference
  | history
  | knowledge
  deriving DecidableEq, Repr, Inhabited

/-- The stages in the life of a document. -/
inductive Status where
  | draft
  | active
  | deprecated
  | archived
  deriving DecidableEq, Repr, Inhabited

/-- The word that an author wrote, in small letters and without blanks at its ends. -/
def plainWord (s : String) : String := String.ofList (Text.lower (Text.trim s.toList))

namespace Kind

/-- All kinds. -/
def all : List Kind := [guide, architecture, reference, history, knowledge]

/-- The name of a kind. -/
def name : Kind → String
  | guide => "guide"
  | architecture => "architecture"
  | reference => "reference"
  | history => "history"
  | knowledge => "knowledge"

/-- The kind with a name. -/
def ofName? (s : String) : Option Kind := all.find? (·.name == s)

/-- The words for a kind. -/
def words : Kind → List String
  | guide => ["guide", "guides"]
  | architecture => ["architecture", "architectures"]
  | reference => ["reference", "references"]
  | history => ["history", "histories"]
  | knowledge => ["knowledge"]

/-- The kind that a word names. -/
def ofWord? (s : String) : Option Kind := all.find? fun k => k.words.contains (plainWord s)

/-- Reads a kind. -/
def read (s : String) : Except Failure Kind :=
  match ofWord? s with
  | some k => .ok k
  | none => .error (.header ("unknown document kind '" ++ plainWord s ++ "'"))

/-- The name of a kind stands for no other kind. -/
theorem ofName?_name (k : Kind) : ofName? k.name = some k := by cases k <;> decide

end Kind

namespace Status

/-- All stages. -/
def all : List Status := [draft, active, deprecated, archived]

/-- The name of a stage. -/
def name : Status → String
  | draft => "draft"
  | active => "active"
  | deprecated => "deprecated"
  | archived => "archived"

/-- The stage with a name. -/
def ofName? (s : String) : Option Status := all.find? (·.name == s)

/-- The stage that a word names. -/
def ofWord? (s : String) : Option Status := ofName? (plainWord s)

/-- Reads a stage. -/
def read (s : String) : Except Failure Status :=
  match ofWord? s with
  | some v => .ok v
  | none => .error (.header ("unknown document status '" ++ plainWord s ++ "'"))

/-- The name of a status stands for no other status. -/
theorem ofName?_name (s : Status) : ofName? s.name = some s := by cases s <;> decide

end Status

end LinkAtlas.Document
