import LinkAtlas.Header.Fault
import LinkAtlas.Toml.Document
import LinkAtlas.Yaml.Value

namespace LinkAtlas.Header

/-!
# The metadata of a header

* `Form` — the two forms of a header;
* `Metadata` — the fields of a header, keys in ascending order;
* `Metadata.read` — reads a header as YAML, and as TOML when it is no YAML mapping. A header that is
  empty as YAML has no metadata at all.
-/

/-- The form of a header. -/
inductive Form where
  | yaml
  | toml
  deriving DecidableEq, Repr

/-- The name of a form. -/
def Form.name : Form → String
  | yaml => "YAML"
  | toml => "TOML"

/-- The fields of a header. -/
structure Metadata where
  form : Form
  fields : List (String × Json.Value)

namespace Metadata

/-- Reads a header that is no YAML mapping as TOML. -/
def readToml (isOtherYaml : Bool) (s : String) : Except Fault Metadata :=
  match Toml.parse? s with
  | some fields => .ok ⟨.toml, fields⟩
  | none => .error (.unreadable isOtherYaml)

/-- Reads a header. -/
def read (s : String) : Except Fault Metadata :=
  match Yaml.parse? s with
  | some (.object fields) => .ok ⟨.yaml, fields⟩
  | some .null => .error .empty
  | some _ => readToml true s
  | none => readToml false s

/-- The value of a key; null counts as absent. -/
def field? (m : Metadata) (key : String) : Option Json.Value :=
  match m.fields.lookup key with
  | some .null => none
  | v => v

end Metadata

end LinkAtlas.Header
