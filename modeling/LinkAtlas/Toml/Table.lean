import LinkAtlas.Json.Value

namespace LinkAtlas.Toml

/-!
# Tables under construction

* `Origin` — how a table came to be: by its header, by the header of a table in it, or by a dotted
  key;
* `Entry` — what a key holds: a value, a table, or a list of tables;
* `Entries.put?` — sets a dotted key, `Entries.openTable?`, `Entries.openItem?` — take a header;
* `Entries.toJson` — the finished object.

No key is set twice. A header may open a table that so far was only implied by deeper headers; dotted
keys reach only into tables that no header has opened.
-/

/-- How a table came to be. -/
inductive Origin where
  | header
  | implied
  | dotted
  deriving DecidableEq, Repr

/-- What a key holds. The newest table of a list stands first. -/
inductive Entry where
  | value (v : Json.Value)
  | table (origin : Origin) (entries : List (String × Entry))
  | items (newestFirst : List (List (String × Entry)))

/-- The keys of a table. -/
abbrev Entries := List (String × Entry)

mutual

/-- The JSON form of what a key holds. -/
def Entry.toJson : Entry → Json.Value
  | .value v => v
  | .table _ entries => .object (Json.Value.sortFields (fieldsOf entries))
  | .items newestFirst => .array (itemsOf newestFirst).reverse

/-- The JSON forms of keys. -/
def fieldsOf : List (String × Entry) → List (String × Json.Value)
  | [] => []
  | (k, e) :: rest => (k, e.toJson) :: fieldsOf rest

/-- The JSON forms of tables. -/
def itemsOf : List (List (String × Entry)) → List Json.Value
  | [] => []
  | entries :: rest => .object (Json.Value.sortFields (fieldsOf entries)) :: itemsOf rest

end

namespace Entries

/-- The finished object. -/
def toJson (t : Entries) : List (String × Json.Value) := Json.Value.sortFields (fieldsOf t)

/-- Replaces what a key holds by what a function makes of it. -/
def change? (t : Entries) (k : String) (f : Option Entry → Option Entry) : Option Entries :=
  match t with
  | [] => (f none).map fun e => [(k, e)]
  | (l, e) :: rest =>
    if l = k then (f (some e)).map fun e => (l, e) :: rest
    else (change? rest k f).map ((l, e) :: ·)

/-- Changes the table at the end of a path of dotted keys; the function is told how that table
    came to be. -/
def changeDotted? (f : Option Origin → Entries → Option Entries) :
    Option Origin → List String → Entries → Option Entries
  | origin, [], t => f origin t
  | _, k :: path, t =>
    t.change? k fun
      | none => (changeDotted? f (some .dotted) path []).map (.table .dotted)
      -- A dotted key does not extend a table that has a header of its own.
      | some (.table .header _) => none
      | some (.table origin t) =>
        (changeDotted? f (some origin) path t).map (.table origin)
      -- In an array of tables the newest one is meant.
      | some (.items (newest :: older)) =>
        (changeDotted? f (some .header) path newest).map fun t => .items (t :: older)
      | some _ => none

/-- Sets a dotted key that is not there yet. The table it is in must be the one that is open, or
    come from dotted keys. -/
def put? (t : Entries) (path : List String) (v : Json.Value) : Option Entries :=
  match path.getLast? with
  | none => none
  | some k =>
    changeDotted?
      (fun origin t =>
        -- A table that was opened in another way takes no value from a dotted key.
        if origin = none ∨ origin = some .dotted then
          t.change? k fun
            | none => some (.value v)
            | some _ => none
        else none)
      none path.dropLast t

/-- Changes the table at the end of the path of a header; tables on the way are implied. -/
def changeAt? (f : Entries → Option Entries) : List String → Entries → Option Entries
  | [], t => f t
  | k :: path, t =>
    t.change? k fun
      | none => (changeAt? f path []).map (.table .implied)
      | some (.table origin t) => (changeAt? f path t).map (.table origin)
      | some (.items (newest :: older)) =>
        (changeAt? f path newest).map fun t => .items (t :: older)
      | some _ => none

/-- Takes the header of a table. -/
def openTable? (t : Entries) (path : List String) : Option Entries :=
  match path.getLast? with
  | none => none
  | some k =>
    changeAt? (fun t => t.change? k fun
        | none => some (.table .header [])
        | some (.table .implied t) => some (.table .header t)
        | some _ => none)
      path.dropLast t

/-- Takes the header of one more table of a list. -/
def openItem? (t : Entries) (path : List String) : Option Entries :=
  match path.getLast? with
  | none => none
  | some k =>
    changeAt? (fun t => t.change? k fun
        | none => some (.items [[]])
        | some (.items older) => some (.items ([] :: older))
        | some _ => none)
      path.dropLast t

end Entries

end LinkAtlas.Toml
