import LinkAtlas.Decimal.Text
import LinkAtlas.Json.Value
import LinkAtlas.Yaml.Node

namespace LinkAtlas.Yaml

/-!
# The value of a YAML text

* `plainValue?` — what a scalar without quotes and tag means: null, a truth value, an integer, a
  float, or its own text;
* `taggedValue?` — what a scalar with one of the common tags means;
* `Node.value?` — the value of a node, with repetitions put in;
* `parse?` — the value of a text.

Values are at most 128 collections deep, and for each node there are at most one hundred
repetitions. So nodes that hold themselves have no value.
-/

/-! ### Scalars -/

/-- Whether a text is a spelling of null. -/
def isNull (s : List Char) : Bool :=
  s = "null".toList || s = "Null".toList || s = "NULL".toList || s = ['~']

/-- The truth value that a text spells. -/
def bool? (s : List Char) : Option Bool :=
  if s = "true".toList ∨ s = "True".toList ∨ s = "TRUE".toList then some true
  else if s = "false".toList ∨ s = "False".toList ∨ s = "FALSE".toList then some false
  else none

/-- A text without its sign. -/
def unsigned : List Char → List Char
  | '+' :: rest => rest
  | '-' :: rest => rest
  | s => s

/-- Whether a text has only digits, two or more, and a zero first: it is no number. -/
def isZeroPadded (s : List Char) : Bool :=
  match unsigned s with
  | '0' :: rest => ! rest.isEmpty && rest.all Decimal.isDigit
  | _ => false

/-- The natural number that a text spells. -/
def natural? : List Char → Option Nat
  | '0' :: 'x' :: rest => Decimal.ofBase? 16 rest
  | '0' :: 'o' :: rest => Decimal.ofBase? 8 rest
  | '0' :: 'b' :: rest => Decimal.ofBase? 2 rest
  | s => if isZeroPadded s then none else Decimal.ofBase? 10 s

/-- The integer that a text spells. -/
def integer? (s : List Char) : Option Int :=
  match s with
  | '-' :: rest => (natural? rest).map fun n => -(n : Int)
  | s => (natural? (unsigned s)).map Int.ofNat

/-- The double that a text spells. One that is not finite has its own spellings; a value outside
    the range of doubles is none. -/
def float? (s : List Char) : Option Float :=
  let body := match s with
    | '+' :: rest => rest
    | s => s
  if body = ".inf".toList ∨ body = ".Inf".toList ∨ body = ".INF".toList then some (1.0 / 0.0)
  else if s = "-.inf".toList ∨ s = "-.Inf".toList ∨ s = "-.INF".toList then some (-1.0 / 0.0)
  else if s = ".nan".toList ∨ s = ".NaN".toList ∨ s = ".NAN".toList then some (0.0 / 0.0)
  else (Decimal.ofText? s).bind Decimal.toFloat?

/-- The value of a double; null if it is not finite. -/
def floatValue (x : Float) : Json.Value :=
  if (Decimal.magnitude? x).isSome then .float x else .null

/-- The value of an integer, if 64 bits hold it. -/
def integerValue? (n : Int) : Option Json.Value :=
  if -Int.pow 2 63 ≤ n ∧ n < Int.pow 2 64 then some (.int n) else none

/-- The integer that a text spells, if 128 bits hold it. -/
def wideInteger? (s : List Char) : Option Int :=
  (integer? s).filter fun n => -Int.pow 2 127 ≤ n && n < Int.pow 2 128

/-- The value of a scalar without quotes and tag. -/
def plainValue? (s : List Char) : Option Json.Value :=
  if s.isEmpty || isNull s then some .null
  else
    match bool? s with
    | some b => some (.bool b)
    | none =>
      match wideInteger? s with
      -- What is an integer is no float and no text, even when its value does not fit.
      | some n => integerValue? n
      | none =>
        match if isZeroPadded s then none else float? s with
        | some x => some (floatValue x)
        | none => some (.text (String.ofList s))

/-- The name of a common tag. -/
def commonTag (name : String) : List Char := "tag:yaml.org,2002:".toList ++ name.toList

/-- The value of a scalar with a tag. A tag of one's own has no value, an unknown one is a text. -/
def taggedValue? (tag s : List Char) : Option Json.Value :=
  if tag.head? = some '!' then none
  else if tag = commonTag "bool" then (bool? s).map .bool
  else if tag = commonTag "int" then (wideInteger? s).bind integerValue?
  else if tag = commonTag "float" then (float? s).map floatValue
  else if tag = commonTag "null" then if isNull s then some .null else none
  else some (.text (String.ofList s))

/-- The value of a scalar. -/
def scalarValue? (tag : Option (List Char)) (s : List Char) (isPlain : Bool) : Option Json.Value :=
  match tag with
  | some tag => taggedValue? tag s
  | none => if isPlain then plainValue? s else some (.text (String.ofList s))

/-! ### Nodes -/

/-- The nodes with anchors, the last of a number first, and the bound on repetitions. -/
structure Anchors where
  nodes : List (Nat × Node)
  limit : Nat

/-- The most collections that a value may be deep. -/
def maxDepth : Nat := 128

namespace Node

/-- The anchors of a document. -/
def anchors (v : Node) : Anchors := ⟨v.anchored.reverse, 100 * v.size⟩

/-- A step that counts repetitions. -/
abbrev Counting := StateT Nat Option

/-- The node that a repetition stands for. -/
def follow (a : Anchors) : Node → Counting Node
  | .backReference number => do
    let n ← get
    if n < a.limit then
      set (n + 1)
      match a.nodes.lookup number with
      | some v => return v
      | none => failure
    else failure
  | v => return v

/-- The text of a key. -/
def keyText (a : Anchors) (k : Node) : Counting String := do
  match ← follow a k with
  | .scalar _ _ text _ => return String.ofList text
  | _ => failure

/-- Whether a collection has a tag of one's own, so that it has no value. -/
def hasOwnTag (tag : Option (List Char)) : Bool := tag.any fun t => t.head? == some '!'

/-- The value of a node that is at most so many collections deep. -/
def valueWithin (a : Anchors) : Nat → Node → Counting Json.Value
  -- At the bottom of the depth that is allowed only a scalar may stand.
  | 0, v => do
    match ← follow a v with
    | .scalar _ tag text isPlain => (scalarValue? tag text isPlain : Option Json.Value)
    | _ => failure
  | depth + 1, v => do
    match ← follow a v with
    | .scalar _ tag text isPlain => (scalarValue? tag text isPlain : Option Json.Value)
    | .sequence _ tag items =>
      if hasOwnTag tag then failure
      else return .array (← items.mapM (valueWithin a depth))
    | .mapping _ tag pairs =>
      if hasOwnTag tag then failure
      else
        let fields ← pairs.mapM fun (k, v) => do
          return (← keyText a k, ← valueWithin a depth v)
        return .object (Json.Value.sortFields fields)
    | .backReference _ => failure

/-- The value of the node of a document. -/
def value? (v : Node) : Option Json.Value := (valueWithin v.anchors maxDepth v).run' 0

end Node

/-- The value of a text with at most one document. -/
def parse? (s : String) : Option Json.Value := do
  let tokens ← Token.scan? s.toList
  let v ← Node.ofTokens? tokens
  v.value?

end LinkAtlas.Yaml
