import LinkAtlas.Decimal.Layout
import LinkAtlas.Json.Text

namespace LinkAtlas.Json

/-!
# JSON values and their texts

* `Value` — a value whose objects keep the order of their fields;
* `Value.compact` — the text without any blank;
* `Value.pretty` — the text with two blanks per level and one item per line;
* `Value.insertField` — a field put at its place among keys in ascending order.
-/

/-- A JSON value. -/
inductive Value where
  | null
  | bool (b : Bool)
  | int (n : Int)
  | float (x : Float)
  | text (s : String)
  | array (items : List Value)
  | object (fields : List (String × Value))
  deriving Inhabited, Repr

/-- Numbers with a fraction: positional from `0.00001` up to sixteen digits before the point,
    `.0` after a whole number, and a sign on every exponent. -/
def numberLayout : Decimal.Layout where
  maxWhole := 16
  maxZeros := 4
  integralTail := ['.', '0']
  plusMark := ['+']

/-- The text of a double; `null` stands for what is not finite. -/
def floatText (x : Float) : List Char :=
  match Decimal.magnitude? x with
  | some m => numberLayout.render (Decimal.shortest (Decimal.isNegative x) m)
  | none => "null".toList

/-- A string between quotes. -/
def quote (s : String) : List Char := '"' :: escape s.toList ++ ['"']

namespace Value

mutual

/-- The text of a value without blanks. -/
def compact : Value → List Char
  | .null => "null".toList
  | .bool true => "true".toList
  | .bool false => "false".toList
  | .int n => Decimal.intText n
  | .float x => floatText x
  | .text s => quote s
  | .array [] => ['[', ']']
  | .array (v :: items) => '[' :: compact v ++ compactItems items ++ [']']
  | .object [] => ['\x7b', '\x7d']
  | .object ((k, v) :: fields) =>
    '\x7b' :: quote k ++ ':' :: compact v ++ compactFields fields ++ ['\x7d']

/-- The items of an array after the first. -/
def compactItems : List Value → List Char
  | [] => []
  | v :: items => ',' :: compact v ++ compactItems items

/-- The fields of an object after the first. -/
def compactFields : List (String × Value) → List Char
  | [] => []
  | (k, v) :: fields => ',' :: quote k ++ ':' :: compact v ++ compactFields fields

end

/-- A line break followed by the indentation of a level. -/
def newline (level : Nat) : List Char := '\n' :: List.replicate (2 * level) ' '

mutual

/-- The text of a value that stands at a level, one item per line. -/
def prettyAt (level : Nat) : Value → List Char
  | .null => "null".toList
  | .bool true => "true".toList
  | .bool false => "false".toList
  | .int n => Decimal.intText n
  | .float x => floatText x
  | .text s => quote s
  | .array [] => ['[', ']']
  | .array (v :: items) =>
    '[' :: newline (level + 1) ++ prettyAt (level + 1) v ++ prettyItems (level + 1) items ++
      newline level ++ [']']
  | .object [] => ['\x7b', '\x7d']
  | .object ((k, v) :: fields) =>
    '\x7b' :: newline (level + 1) ++ quote k ++ ':' :: ' ' :: prettyAt (level + 1) v ++
      prettyFields (level + 1) fields ++ newline level ++ ['\x7d']

/-- The items of an array after the first, each on a line of its own. -/
def prettyItems (level : Nat) : List Value → List Char
  | [] => []
  | v :: items => ',' :: newline level ++ prettyAt level v ++ prettyItems level items

/-- The fields of an object after the first, each on a line of its own. -/
def prettyFields (level : Nat) : List (String × Value) → List Char
  | [] => []
  | (k, v) :: fields =>
    ',' :: newline level ++ quote k ++ ':' :: ' ' :: prettyAt level v ++ prettyFields level fields

end

/-- The text of a value with two blanks per level. -/
def pretty (v : Value) : List Char := prettyAt 0 v

/-- Puts a field at its place among fields with ascending keys; a field of that key is replaced. -/
def insertField (key : String) (v : Value) :
    List (String × Value) → List (String × Value)
  | [] => [(key, v)]
  | (k, w) :: rest =>
    if key < k then (key, v) :: (k, w) :: rest
    else if key = k then (key, v) :: rest
    else (k, w) :: insertField key v rest

/-- The fields of a list of pairs in ascending order of keys; the last value of a key counts. -/
def sortFields (pairs : List (String × Value)) : List (String × Value) :=
  pairs.foldl (fun fields (k, v) => insertField k v fields) []

/-- The compact text as a `String`. -/
def toText (v : Value) : String := String.ofList v.compact

end Value

end LinkAtlas.Json
