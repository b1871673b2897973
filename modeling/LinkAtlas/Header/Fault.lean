import LinkAtlas.Json.Value

namespace LinkAtlas.Header

/-!
# Faults of a header

* `Fault` — what may be wrong with the header of a document;
* `Fault.Reasons` — what the readers of the two forms have to say about a text;
* `Fault.text` — the text of a fault, `Fault.message` — the same with the reasons left out.
-/

/-- What is wrong with a header. -/
inductive Fault where
  /-- The document has none. -/
  | absent
  /-- The line that closes it is missing. -/
  | unclosed
  /-- It says nothing. -/
  | empty
  /-- It can be read in neither form. The flag says that it is YAML but no mapping. -/
  | unreadable (isOtherYaml : Bool)
  /-- There is no id, or a blank one. -/
  | noId
  /-- A field is no text. -/
  | notText (key : String) (value : Json.Value)
  /-- A field is neither a text nor a list. -/
  | notList (key : String) (value : Json.Value)
  /-- A field is a list with something else than texts in it. -/
  | notTextItem (key : String) (value : Json.Value)
  deriving Inhabited

/-- What the readers of the two forms say about a text that they cannot read. The words are those of
    the reader at hand. -/
structure Fault.Reasons where
  yaml : String
  toml : String
  deriving DecidableEq, Repr

/-- The text of a fault, for readers that give some reasons. A YAML text that is no mapping is read,
    so what is said about it does not hang on the reader. -/
def Fault.text (reasons : Reasons) : Fault → String
  | absent => "no header block"
  | unclosed => "header block is missing its closing '---' line"
  | empty => "header block is empty"
  | unreadable isOtherYaml =>
    let yaml := if isOtherYaml then "YAML header is not a key/value mapping" else reasons.yaml
    "header is neither YAML (" ++ yaml ++ ") nor TOML (" ++ reasons.toml ++ ")"
  | noId => "missing required field 'id'"
  | notText key v => "field '" ++ key ++ "' must be a string, found " ++ v.toText
  | notList key v => "field '" ++ key ++ "' must be a list of strings, found " ++ v.toText
  | notTextItem key v => "field '" ++ key ++ "' must only contain strings, found " ++ v.toText

/-- The text of a fault with the reasons of the readers left out, which is how failures and
    diagnostics give it. -/
def Fault.message (f : Fault) : String := f.text ⟨"...", "..."⟩

end LinkAtlas.Header
