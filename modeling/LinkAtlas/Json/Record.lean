import LinkAtlas.Json.Tree

namespace LinkAtlas.Json

/-!
# Reading records from JSON

A record is an object, or an array with the fields in order. Unknown keys are passed over, a known
key may stand there only once.

* `Record` — the fields found for a list of names;
* `Tree.record?` — reads an object or array as a record;
* `Record.required?`, `Record.withDefault?`, `Record.optional?` — the ways a field may be absent;
* `Tree.string?`, `Tree.nat?`, `Tree.float?`, `Tree.bool?`, `Tree.list?`, `Tree.orNull?`,
  `Tree.choice?` — the values of fields.
-/

/-- The fields that were found, and whether they were told apart by their place. -/
structure Record where
  byPlace : Bool
  found : List (String × Tree)

namespace Tree

/-- A text. -/
def string? : Tree → Option String
  | .text t => t
  | _ => none

/-- A truth value. -/
def bool? : Tree → Option Bool
  | .bool b => some b
  | _ => none

/-- A natural number below `2 ^ 64` written without point, exponent or sign. -/
def nat? : Tree → Option Nat
  | .number n =>
    if n.whole ∧ ¬ n.decimal.negative ∧ n.decimal.coefficient < Nat.pow 2 64 then
      some n.decimal.coefficient
    else none
  | _ => none

/-- A number in the range of doubles. -/
def float? : Tree → Option Float
  | .number n => n.decimal.toFloat?
  | _ => none

/-- A value that may be null. -/
def orNull? {α : Type} (read : Tree → Option α) : Tree → Option (Option α)
  | .null => some none
  | t => (read t).map some

/-- A list, each of whose items is readable. -/
def list? {α : Type} (read : Tree → Option α) : Tree → Option (List α)
  | .array items => items.mapM read
  | _ => none

/-- The name of one of several choices: a text, or an object with that key and null. -/
def choice? : Tree → Option String
  | .text t => t
  | .object [(some k, .null)] => some k
  | _ => none

/-- Whether a key stands at most once among fields. -/
def occursOnce (fields : List (Option String × Tree)) (name : String) : Bool :=
  (fields.filter fun (k, _) => k == some name).length ≤ 1

/-- The fields of a record with these names. -/
def record? (names : List String) : Tree → Option Record
  | .object fields =>
    if fields.all (fun (k, _) => k.isSome) && names.all (occursOnce fields) then
      some ⟨false, fields.filterMap fun (k, t) => k.map (·, t)⟩
    else none
  | .array items => if items.length ≤ names.length then some ⟨true, names.zip items⟩ else none
  | _ => none

end Tree

namespace Record

/-- What was found for a field. -/
def field? (r : Record) (name : String) : Option Tree := r.found.lookup name

/-- A field that must be there. -/
def required? {α : Type} (r : Record) (name : String) (read : Tree → Option α) : Option α :=
  (r.field? name).bind read

/-- A field with a value to use when it is not there. -/
def withDefault? {α : Type} (r : Record) (name : String) (default : α) (read : Tree → Option α) :
    Option α :=
  match r.field? name with
  | some t => read t
  | none => some default

/-- A field that may be null, and may be absent from an object but not from an array. -/
def optional? {α : Type} (r : Record) (name : String) (read : Tree → Option α) :
    Option (Option α) :=
  match r.field? name with
  | some t => t.orNull? read
  | none => if r.byPlace then none else some none

end Record

end LinkAtlas.Json
