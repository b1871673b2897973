namespace LinkAtlas.Json

/-!
# Text between quotes

* `escape` — a text as it stands between the quotes of a JSON string;
* `Item` — what a reader meets there: a character, or the code unit of a `\u` escape;
* `readItems?` — the items up to the closing quote, and the rest of the input;
* `joinItems?` — the text the items spell; none when a surrogate stands alone.
-/

/-- The hexadecimal digit of a number below sixteen. -/
def hexDigit (n : Nat) : Char :=
  if n < 10 then Char.ofNat ('0'.toNat + n) else Char.ofNat ('a'.toNat + n - 10)

/-- The value of a hexadecimal digit of either case. -/
def hexValue? (c : Char) : Option Nat :=
  if '0' ≤ c ∧ c ≤ '9' then some (c.toNat - '0'.toNat)
  else if 'a' ≤ c ∧ c ≤ 'f' then some (c.toNat - 'a'.toNat + 10)
  else if 'A' ≤ c ∧ c ≤ 'F' then some (c.toNat - 'A'.toNat + 10)
  else none

/-- The number that four hexadecimal digits spell. -/
def hexUnit? (a b c d : Char) : Option Nat := do
  let w ← hexValue? a
  let x ← hexValue? b
  let y ← hexValue? c
  let z ← hexValue? d
  return ((w * 16 + x) * 16 + y) * 16 + z

/-- One character of a JSON string. Quotes, backslashes and controls are escaped, all else is
    written as it is. -/
def escapeChar (c : Char) : List Char :=
  if c = '"' then ['\\', '"']
  else if c = '\\' then ['\\', '\\']
  else if c = '\n' then ['\\', 'n']
  else if c = '\r' then ['\\', 'r']
  else if c = '\t' then ['\\', 't']
  else if c = '\x08' then ['\\', 'b']
  else if c = '\x0c' then ['\\', 'f']
  else if c.toNat < 0x20 then
    ['\\', 'u', '0', '0', hexDigit (c.toNat / 16), hexDigit (c.toNat % 16)]
  else [c]

/-- A text as it stands between the quotes of a JSON string. -/
def escape (s : List Char) : List Char := s.flatMap escapeChar

/-- What stands between the quotes of a JSON string. -/
inductive Item where
  | char (c : Char)
  | unit (code : Nat)
  deriving DecidableEq, Repr

/-- The character that a one-letter escape stands for. -/
def escaped? (c : Char) : Option Char :=
  if c = '"' then some '"'
  else if c = '\\' then some '\\'
  else if c = '/' then some '/'
  else if c = 'b' then some '\x08'
  else if c = 'f' then some '\x0c'
  else if c = 'n' then some '\n'
  else if c = 'r' then some '\r'
  else if c = 't' then some '\t'
  else none

/-- The items up to the closing quote, and what follows it. -/
def readItems? : List Char → Option (List Item × List Char)
  | [] => none
  | '"' :: rest => some ([], rest)
  -- An escape by number is kept as a unit, since two of them may stand for one character.
  | '\\' :: 'u' :: a :: b :: c :: d :: rest => do
    let code ← hexUnit? a b c d
    let (items, rest) ← readItems? rest
    return (.unit code :: items, rest)
  | '\\' :: e :: rest => do
    let c ← escaped? e
    let (items, rest) ← readItems? rest
    return (.char c :: items, rest)
  -- Control characters have to be escaped.
  | c :: rest =>
    if c.toNat < 0x20 ∨ c = '\\' then none
    else do
      let (items, rest) ← readItems? rest
      return (.char c :: items, rest)

/-- Whether a code unit is the first half of a surrogate pair. -/
def isHighSurrogate (n : Nat) : Bool := 0xD800 ≤ n && n ≤ 0xDBFF

/-- Whether a code unit is the second half of a surrogate pair. -/
def isLowSurrogate (n : Nat) : Bool := 0xDC00 ≤ n && n ≤ 0xDFFF

/-- The text that items spell; none when half of a surrogate pair stands alone. -/
def joinItems? : List Item → Option (List Char)
  | [] => some []
  | .char c :: rest => (joinItems? rest).map (c :: ·)
  | .unit high :: .unit low :: rest =>
    if isHighSurrogate high then
      if isLowSurrogate low then
        (joinItems? rest).map
          (Char.ofNat (0x10000 + (high - 0xD800) * 0x400 + (low - 0xDC00)) :: ·)
      else none
    else if isLowSurrogate high then none
    else (joinItems? (.unit low :: rest)).map (Char.ofNat high :: ·)
  | .unit code :: rest =>
    if isHighSurrogate code || isLowSurrogate code then none
    else (joinItems? rest).map (Char.ofNat code :: ·)

end LinkAtlas.Json
