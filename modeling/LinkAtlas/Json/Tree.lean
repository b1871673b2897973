import LinkAtlas.Decimal.Binary64
import LinkAtlas.Json.Token
import LinkAtlas.Json.Value

namespace LinkAtlas.Json

/-!
# The tree of a JSON text

* `Tree` — what a text says, with every field of an object in order and repeats kept;
* `Tree.ofTokens?` — the tree of a token list, `Tree.parse?` — the tree of a text;
* `Tree.value?` — the value of a tree whose strings, numbers and depth are all admissible.
-/

/-- The tree of a JSON text. A string or key without a text has half of a surrogate pair in it. -/
inductive Tree where
  | null
  | bool (b : Bool)
  | number (n : Numeral)
  | text (t : Option String)
  | array (items : List Tree)
  | object (fields : List (Option String × Tree))
  deriving Inhabited, Repr

namespace Tree

mutual

/-- The tree at the start of a token list and the rest, with a bound on the steps. -/
def read? : Nat → List Token → Option (Tree × List Token)
  | 0, _ => none
  | fuel + 1, tokens =>
    match tokens with
    | .null :: rest => some (.null, rest)
    | .bool b :: rest => some (.bool b, rest)
    | .number n :: rest => some (.number n, rest)
    | .text t :: rest => some (.text t, rest)
    | .openArray :: .closeArray :: rest => some (.array [], rest)
    | .openArray :: rest =>
      (readItems? fuel rest).map fun (items, rest) => (.array items, rest)
    | .openObject :: .closeObject :: rest => some (.object [], rest)
    | .openObject :: rest =>
      (readFields? fuel rest).map fun (fields, rest) => (.object fields, rest)
    | _ => none

/-- One or more items up to the bracket that closes an array. -/
def readItems? : Nat → List Token → Option (List Tree × List Token)
  | 0, _ => none
  | fuel + 1, tokens =>
    match read? fuel tokens with
    | some (v, .closeArray :: rest) => some ([v], rest)
    | some (v, .comma :: rest) =>
      (readItems? fuel rest).map fun (items, rest) => (v :: items, rest)
    | _ => none

/-- One or more fields up to the brace that closes an object. -/
def readFields? : Nat → List Token → Option (List (Option String × Tree) × List Token)
  | 0, _ => none
  | fuel + 1, tokens =>
    match tokens with
    | .text k :: .colon :: rest =>
      match read? fuel rest with
      | some (v, .closeObject :: rest) => some ([(k, v)], rest)
      | some (v, .comma :: rest) =>
        (readFields? fuel rest).map fun (fields, rest) => ((k, v) :: fields, rest)
      | _ => none
    | _ => none

end

/-- The tree that a token list spells to its end. -/
def ofTokens? (tokens : List Token) : Option Tree :=
  match read? (tokens.length + 1) tokens with
  | some (t, []) => some t
  | _ => none

/-- The tree of a text. -/
def parse? (s : String) : Option Tree := (Token.scan? s.toList).bind ofTokens?

/-- The value of a numeral: an integer when it is written as one and fits 64 bits, else the
    nearest double. A negative zero is a double. -/
def numberValue? (n : Numeral) : Option Value :=
  let i : Int := if n.decimal.negative then -n.decimal.coefficient else n.decimal.coefficient
  if n.whole ∧ -Int.pow 2 63 ≤ i ∧ i < Int.pow 2 64 ∧ ¬ (n.decimal.negative ∧ i = 0) then
    some (.int i)
  else (Decimal.toFloat? n.decimal).map .float

mutual

/-- The value of a tree that may hold `depth` levels of brackets. -/
def value? (depth : Nat) : Tree → Option Value
  | .null => some .null
  | .bool b => some (.bool b)
  | .number n => numberValue? n
  | .text t => t.map .text
  | .array items => if depth = 0 then none else (values? (depth - 1) items).map .array
  | .object fields =>
    if depth = 0 then none
    else (fieldValues? (depth - 1) fields).map fun pairs => .object (Value.sortFields pairs)

/-- The values of a list of trees. -/
def values? (depth : Nat) : List Tree → Option (List Value)
  | [] => some []
  | t :: rest =>
    match value? depth t, values? depth rest with
    | some v, some vs => some (v :: vs)
    | _, _ => none

/-- The values of a list of fields. -/
def fieldValues? (depth : Nat) : List (Option String × Tree) → Option (List (String × Value))
  | [] => some []
  | (k, t) :: rest =>
    match k, value? depth t, fieldValues? depth rest with
    | some k, some v, some vs => some ((k, v) :: vs)
    | _, _, _ => none

end

end Tree

end LinkAtlas.Json
