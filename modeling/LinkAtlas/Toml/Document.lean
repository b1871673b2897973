import LinkAtlas.Decimal.Text
import LinkAtlas.Toml.Moment
import LinkAtlas.Toml.Table

namespace LinkAtlas.Toml

/-!
# TOML documents

* `number` — an integer of 64 bits or a float;
* `value` — any value, with a bound on how deep arrays and tables may be nested;
* `Document.step` — one line or table header;
* `parse?` — the object that a text spells.

What is no finite float is null in the object, and a date or time is an object with one field.
-/

/-! ### Numbers -/

/-- Digits of a class after the first, an underscore allowed before each; the underscores are left
    out. -/
def moreDigits (isDigit : Char → Bool) : List Char → Option (List Char × List Char)
  | [] => some ([], [])
  | '_' :: d :: rest =>
    if isDigit d then (moreDigits isDigit rest).map fun (ds, rest) => (d :: ds, rest) else none
  | d :: rest =>
    if isDigit d then (moreDigits isDigit rest).map fun (ds, rest) => (d :: ds, rest)
    else if d = '_' then none
    else some ([], d :: rest)

/-- Digits of a class, at least one. -/
def someDigits (isDigit : Char → Bool) : Reader (List Char) := do
  match ← get with
  | d :: rest =>
    if isDigit d then
      set rest
      return d :: (← Reader.lift (moreDigits isDigit))
    else failure
  | [] => failure

/-- An integer that 64 bits hold. -/
def ofInt? (n : Int) : Option Json.Value :=
  if -Int.pow 2 63 ≤ n ∧ n < Int.pow 2 63 then some (.int n) else none

/-- An integer in a base other than ten, after its mark. -/
def baseInteger (base : Nat) : Reader Json.Value := do
  let ds ← someDigits fun c => (Decimal.ofBase? base [c]).isSome
  match (Decimal.ofBase? base ds).bind fun n => ofInt? n with
  | some v => return v
  | none => failure

/-- The value of the text of a float. Beyond the range of doubles only a negative one is read. -/
def ofFloat? (s : List Char) : Option Json.Value := do
  let d ← Decimal.ofText? s
  match d.toFloat? with
  | some x => return .float x
  | none => if d.negative then return .null else none

/-- The digits before the point: a zero stands alone. -/
def wholeDigits : Reader (List Char) := do
  if ← Reader.accept "0" then return ['0'] else someDigits Decimal.isDigit

/-- The fraction of a float with its point, if there is one. -/
def fraction : Reader (List Char) := do
  if ← Reader.accept "." then return '.' :: (← someDigits Decimal.isDigit) else return []

/-- The exponent of a float with its mark, if there is one. -/
def exponent : Reader (List Char) := do
  if (← Reader.sees "e") || (← Reader.sees "E") then
    Reader.skip 1
    let sign ← if ← Reader.accept "-" then pure ['-']
      else do
        let _ ← Reader.accept "+"
        pure []
    return 'e' :: sign ++ (← someDigits Decimal.isDigit)
  else return []

/-- Passes the name of a float that is not finite, and says whether it was there. -/
def acceptSpecial : Reader Bool := do
  if ← Reader.accept "inf" then return true else Reader.accept "nan"

/-- A number in base ten or a special float, after its sign. -/
def unsignedNumber (sign : List Char) : Reader Json.Value := do
  if ← acceptSpecial then return .null
  else
    let whole ← wholeDigits
    let fs ← fraction
    let es ← exponent
    -- Without a point and a power it is a whole number.
    let v := if fs.isEmpty && es.isEmpty then
        let n : Int := Decimal.ofDigits whole
        ofInt? (if sign = ['-'] then -n else n)
      else ofFloat? (sign ++ whole ++ fs ++ es)
    match v with
    | some v => return v
    | none => failure

/-- A number. -/
def number : Reader Json.Value := do
  if ← Reader.accept "0x" then baseInteger 16
  else if ← Reader.accept "0o" then baseInteger 8
  else if ← Reader.accept "0b" then baseInteger 2
  else if ← Reader.accept "-" then unsignedNumber ['-']
  else
    let _ ← Reader.accept "+"
    unsignedNumber []

/-! ### Values -/

/-- The key of the object that stands for a date or time. -/
def momentKey : String := "$__toml_private_datetime"

/-- A value that is neither array nor table. -/
def simpleValue (c : Char) : Reader Json.Value := do
  if c = '"' ∨ c = '\'' then return .text (String.ofList (← string))
  else if startsMoment (← get) then
    return .object [(momentKey, .text (String.ofList (← moment)))]
  else if c = '+' ∨ c = '-' ∨ Decimal.isDigit c then number
  else if ← Reader.accept "true" then return .bool true
  else if ← Reader.accept "false" then return .bool false
  else if ← acceptSpecial then return .null
  else failure

mutual

/-- A value that is nested at most so deep, with a bound on the steps. -/
def value : Nat → Nat → Reader Json.Value
  | 0, _ => failure
  | fuel + 1, levels => do
    match ← Reader.peek with
    | none => failure
    | some c =>
      if c = '[' ∨ c = '\x7b' then
        Reader.skip 1
        -- Only brackets and braces count as levels, so a simple value has room at the last one.
        if levels = 0 then failure
        else if c = '[' then
          skipGap
          return .array (← arrayItems fuel (levels - 1))
        else
          skipBlanks
          if ← Reader.accept "\x7d" then return .object []
          else return .object (← inlineEntries fuel (levels - 1) []).toJson
      else simpleValue c

/-- The items of an array up to its bracket, after a gap. -/
def arrayItems : Nat → Nat → Reader (List Json.Value)
  | 0, _ => failure
  | fuel + 1, levels => do
    if ← Reader.accept "]" then return []
    else
      let v ← value fuel levels
      skipGap
      if ← Reader.accept "," then
        -- A comma may stand behind the last item as well.
        skipGap
        return v :: (← arrayItems fuel levels)
      else
        Reader.expect "]"
        return [v]

/-- The keys and values of an inline table up to its brace. -/
def inlineEntries : Nat → Nat → Entries → Reader Entries
  | 0, _, _ => failure
  | fuel + 1, levels, t => do
    let keys ← path
    Reader.expect "="
    skipBlanks
    let v ← value fuel levels
    skipBlanks
    match t.put? keys v with
    | none => failure
    | some t =>
      -- Behind a comma there has to be another entry.
      if ← Reader.accept "," then inlineEntries fuel levels t
      else
        Reader.expect "\x7d"
        return t

end

/-! ### Documents -/

/-- What has been read: the keys so far and the path of the header that is open. -/
structure Document where
  entries : Entries
  header : List String

namespace Document

/-- Reads a header of a table or of one more table of a list. -/
def takeHeader (d : Document) : Reader Document := do
  if ← Reader.accept "[[" then
    let keys ← path
    Reader.expect "]]"
    endLine
    match d.entries.openItem? keys with
    | some t => return ⟨t, keys⟩
    | none => failure
  else
    Reader.expect "["
    let keys ← path
    Reader.expect "]"
    endLine
    match d.entries.openTable? keys with
    | some t => return ⟨t, keys⟩
    | none => failure

/-- Reads a key and its value. -/
def takeEntry (d : Document) : Reader Document := do
  let keys ← path
  Reader.expect "="
  skipBlanks
  let v ← value ((← get).length + 1) maxLevels
  endLine
  match d.entries.changeAt? (·.put? keys v) d.header with
  | some t => return { d with entries := t }
  | none => failure

/-- Reads a line, which may be blank, or a key with a value of several lines. -/
def step (d : Document) : Reader Document := do
  skipBlanks
  match ← Reader.peek with
  | some c =>
    if c = '#' ∨ c = '\n' ∨ c = '\r' then
      endLine
      return d
    else if c = '[' then d.takeHeader
    else d.takeEntry
  | none => return d

/-- Reads all lines, with a bound on their number. -/
def read? : Nat → Document → List Char → Option Document
  | _, d, [] => some d
  | 0, _, _ => none
  | fuel + 1, d, s =>
    match d.step.run s with
    | some (d, rest) => read? fuel d rest
    | none => none

end Document

/-- The object that a text spells. -/
def parse? (s : String) : Option (List (String × Json.Value)) :=
  let s := match s.toList with
    | '\ufeff' :: rest => rest
    | s => s
  (Document.read? (s.length + 1) ⟨[], []⟩ s).map (·.entries.toJson)

end LinkAtlas.Toml
