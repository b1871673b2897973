import LinkAtlas.Decimal.Basic
import LinkAtlas.Yaml.Scalar

namespace LinkAtlas.Yaml

/-!
# The tokens of a YAML stream

* `Token` — indicators, scalars, and the starts and ends that indentation stands for;
* `Scanner` — the cursor with the indentation levels and the places where a key may have started;
* `Token.scan?` — the tokens of a stream; none when the text is no YAML.

A key without a `?` is known to be one only when its `:` is met. Its token is then put in before
the tokens of the key, at the place remembered in a `PendingKey`.
-/

/-- A piece of YAML text that has a meaning of its own, or the start or end of a structure. -/
inductive Token where
  | streamEnd
  | versionDirective (major minor : Nat)
  | tagDirective (handle lead : List Char)
  | documentStart
  | documentEnd
  | blockSequenceStart
  | blockMappingStart
  | blockEnd
  | flowSequenceStart
  | flowSequenceEnd
  | flowMappingStart
  | flowMappingEnd
  | blockEntry
  | flowEntry
  | key
  | value
  | backReference (name : List Char)
  | anchor (name : List Char)
  | tag (handle suffix : List Char)
  | scalar (text : List Char) (isPlain : Bool)
  deriving DecidableEq, Repr

/-- A place where a key without indicator may have started. -/
structure PendingKey where
  /-- A block mapping goes on here, so there must be a key. -/
  required : Bool
  /-- The number of tokens before the key. -/
  place : Nat
  index : Nat
  line : Nat
  column : Nat

/-- The state of a scan. -/
structure Scanner where
  cursor : Cursor
  tokens : Array Token
  /-- The columns of the block collections that are open, innermost first. -/
  indents : List Nat
  /-- The place of a possible key for each open flow collection, innermost first. -/
  flowKeys : List (Option PendingKey)
  /-- The place of a possible key outside of all flow collections. -/
  blockKey : Option PendingKey
  keyAllowed : Bool

/-- The longest key without indicator, in characters. -/
def maxKeyLength : Nat := 1024

namespace Scanner

/-- The scanner at the start of a stream. -/
def start (s : List Char) : Scanner :=
  ⟨⟨s, 0, 0, 0⟩, #[], [], [], none, true⟩

/-- Whether a flow collection is open. -/
def inFlow (s : Scanner) : Bool := ! s.flowKeys.isEmpty

/-- The column of the innermost block collection; none when there is none. -/
def indent (s : Scanner) : Int :=
  match s.indents with
  | n :: _ => n
  | [] => -1

/-- Adds a token. -/
def emit (s : Scanner) (t : Token) : Scanner := { s with tokens := s.tokens.push t }

/-- Moves the cursor. -/
def moveTo (s : Scanner) (c : Cursor) : Scanner := { s with cursor := c }

/-- Passes `n` characters. -/
def skip (s : Scanner) (n : Nat) : Scanner := s.moveTo (s.cursor.skip n)

/-- Says whether a key may start here. -/
def allowKey (s : Scanner) (b : Bool) : Scanner := { s with keyAllowed := b }

/-! ### Keys -/

/-- The possible key of the innermost collection. -/
def currentKey (s : Scanner) : Option PendingKey :=
  match s.flowKeys with
  | k :: _ => k
  | [] => s.blockKey

/-- Sets the possible key of the innermost collection. -/
def setKey (s : Scanner) (k : Option PendingKey) : Scanner :=
  match s.flowKeys with
  | _ :: outer => { s with flowKeys := k :: outer }
  | [] => { s with blockKey := k }

/-- Gives up the possible key; an error where a key is required. -/
def dropKey? (s : Scanner) : Option Scanner :=
  match s.currentKey with
  | some k => if k.required then none else some (s.setKey none)
  | none => some s

/-- Remembers that a key may start here. -/
def saveKey? (s : Scanner) : Option Scanner :=
  if s.keyAllowed then do
    let s ← s.dropKey?
    -- At the column of the open block stands the next key of it, or nothing.
    return s.setKey (some
      { required := ! s.inFlow && s.indent == s.cursor.column
        place := s.tokens.size
        index := s.cursor.index
        line := s.cursor.line
        column := s.cursor.column })
  else some s

/-- A possible key that ends before a place, since keys are short and stay on one line; an error
    where a key is required. -/
def expireKey? (c : Cursor) : Option PendingKey → Option (Option PendingKey)
  | none => some none
  | some k =>
    if k.line < c.line ∨ k.index + maxKeyLength < c.index then
      if k.required then none else some none
    else some (some k)

/-- Gives up the possible keys that end before the cursor. -/
def expireKeys? (s : Scanner) : Option Scanner := do
  let blockKey ← expireKey? s.cursor s.blockKey
  let flowKeys ← s.flowKeys.mapM (expireKey? s.cursor)
  return { s with blockKey := blockKey, flowKeys := flowKeys }

/-! ### Indentation -/

/-- Opens a block collection at a column to the right of the innermost one; its token stands at a
    place among the tokens, or at their end. -/
def openBlock (s : Scanner) (column : Nat) (place : Option Nat) (t : Token) : Scanner :=
  if ! s.inFlow && s.indent < column then
    let tokens := match place with
      | some n => s.tokens.insertIdxIfInBounds n t
      | none => s.tokens.push t
    { s with tokens := tokens, indents := column :: s.indents }
  else s

/-- Closes the block collections to the right of a column. -/
def closeBlocks (s : Scanner) (column : Int) : Scanner :=
  -- Between brackets, indentation closes nothing.
  if s.inFlow then s
  else
    let closed := s.indents.takeWhile fun (n : Nat) => column < (n : Int)
    { s with
      tokens := s.tokens ++ Array.replicate closed.length Token.blockEnd
      indents := s.indents.drop closed.length }

/-! ### Gaps between tokens -/

/-- Passes blanks, comments and line breaks. A line break in a block allows a key. -/
def skipGap : Nat → Scanner → Scanner
  | 0, s => s
  | fuel + 1, s =>
    let s := if s.cursor.column == 0 && s.cursor.rest.head? == some '\ufeff' then s.skip 1 else s
    -- Where a key may start, blanks are indentation, and a tab is none.
    let tabs := s.inFlow || ! s.keyAllowed
    let s := s.moveTo (s.cursor.skipWhile fun c => c == ' ' || (tabs && c == '\t'))
    let s := if s.cursor.rest.head? == some '#' then
        s.moveTo (s.cursor.skipWhile (! isBreak ·))
      else s
    match s.cursor.rest with
    | c :: _ =>
      if isBreak c then
        let s := s.moveTo s.cursor.skipBreak
        skipGap fuel (if s.inFlow then s else s.allowKey true)
      else s
    | [] => s

/-! ### Directives -/

/-- A number of at most nine digits. -/
def versionNumber? (c : Cursor) : Option (Nat × Cursor) :=
  let ds := c.rest.takeWhile Char.isDigit
  if ds.isEmpty ∨ 9 < ds.length then none else some (Decimal.ofDigits ds, c.skip ds.length)

/-- The version of a directive. -/
def version? (c : Cursor) : Option (Token × Cursor) := do
  let (major, c) ← versionNumber? (c.skipWhile isBlank)
  match c.rest with
  | '.' :: _ =>
    let (minor, c) ← versionNumber? (c.skip 1)
    return (.versionDirective major minor, c)
  | _ => none

/-- The handle of a tag: `!`, `!name` or `!name!`. In a directive only the first and the last. -/
def tagHandle? (inDirective : Bool) (c : Cursor) : Option (List Char × Cursor) :=
  match c.rest with
  | '!' :: rest =>
    let name := rest.takeWhile isWordChar
    match rest.drop name.length with
    | '!' :: _ => some ('!' :: name ++ ['!'], c.skip (name.length + 2))
    | _ =>
      if inDirective && ! name.isEmpty then none
      else some ('!' :: name, c.skip (name.length + 1))
  | _ => none

/-- A character of a tag. Brackets and commas belong to tags between angle brackets only. -/
def isTagChar (verbatim : Bool) (c : Char) : Bool :=
  isWordChar c || ";/?:@&=+$.!~*'()".toList.contains c || (verbatim && ",[]".toList.contains c)

/-- The octet of a percent escape. -/
def octet? : List Char → Option Nat
  | '%' :: a :: b :: _ => do return (← Json.hexValue? a) * 16 + (← Json.hexValue? b)
  | _ => none

/-- The number of octets of a character whose first octet is given. -/
def octetCount? (n : Nat) : Option Nat :=
  if n < 0x80 then some 1
  else if 0xC0 ≤ n ∧ n < 0xE0 then some 2
  else if 0xE0 ≤ n ∧ n < 0xF0 then some 3
  else if 0xF0 ≤ n ∧ n < 0xF8 then some 4
  else none

/-- The further octets of a character. -/
def octets? : Nat → Nat → Cursor → Option (Nat × Cursor)
  | 0, acc, c => some (acc, c)
  | n + 1, acc, c =>
    match octet? c.rest with
    | some o => if 0x80 ≤ o ∧ o < 0xC0 then octets? n (acc * 64 + (o - 0x80)) (c.skip 3) else none
    | none => none

/-- A character that is written with percent escapes. -/
def percent? (c : Cursor) : Option (Char × Cursor) := do
  let o ← octet? c.rest
  let n ← octetCount? o
  let lead := if n = 1 then o else if n = 2 then o - 0xC0 else if n = 3 then o - 0xE0 else o - 0xF0
  let (v, c) ← octets? (n - 1) lead (c.skip 3)
  return (Char.ofNat v, c)

/-- The characters of a tag. -/
def tagText? (verbatim : Bool) : Nat → Cursor → List Char → Option (List Char × Cursor)
  | 0, _, _ => none
  | fuel + 1, c, acc =>
    match c.rest with
    | d :: _ =>
      if d = '%' then
        match percent? c with
        | some (x, c) => tagText? verbatim fuel c (acc ++ [x])
        | none => none
      else if isTagChar verbatim d then tagText? verbatim fuel (c.skip 1) (acc ++ [d])
      else some (acc, c)
    | [] => some (acc, c)

/-- A tag directive. -/
def tagDirective? (c : Cursor) : Option (Token × Cursor) := do
  let (handle, c) ← tagHandle? true (c.skipWhile isBlank)
  match c.rest with
  | d :: _ =>
    if ! isBlank d then none
    else
      let c := c.skipWhile isBlank
      let (lead, c) ← tagText? true (c.rest.length + 1) c []
      if lead.isEmpty || ! isBlankEnd c.rest then none
      else return (.tagDirective handle lead, c)
  | [] => none

/-- A directive after its `%`, with the rest of its line. -/
def directive? (c : Cursor) : Option (Token × Cursor) := do
  let name := c.rest.takeWhile isWordChar
  let c := c.skip name.length
  if ! isBlankEnd c.rest then none
  else
    let (t, c) ←
      if name = "YAML".toList then version? c
      else if name = "TAG".toList then tagDirective? c
      else none
    let c := c.skipWhile isBlank
    let c := if c.rest.head? == some '#' then c.skipWhile (! isBreak ·) else c
    if isBreakEnd c.rest then return (t, c.skipBreak) else none

/-! ### Properties of nodes -/

/-- The name of an anchor or alias after its indicator. -/
def anchorName? (c : Cursor) : Option (List Char × Cursor) :=
  let name := c.rest.takeWhile isWordChar
  let after := c.skip name.length
  let ends := match after.rest with
    | [] => true
    | d :: _ => isBlank d || isBreak d || "?:,]\x7d%@\x60".toList.contains d
  if name.isEmpty || ! ends then none else some (name, after)

/-- A tag: its handle and what it adds to it. -/
def tag? (inFlow : Bool) (c : Cursor) : Option (Token × Cursor) := do
  let fuel := c.rest.length + 1
  let (t, c) ← match c.rest with
    | '!' :: '<' :: _ => do
      let (suffix, c) ← tagText? true fuel (c.skip 2) []
      match c.rest with
      | '>' :: _ => if suffix.isEmpty then none else some (Token.tag [] suffix, c.skip 1)
      | _ => none
    | _ => do
      let (handle, c) ← tagHandle? false c
      if 1 < handle.length ∧ handle.getLast? = some '!' then
        let (suffix, c) ← tagText? false fuel c []
        if suffix.isEmpty then none else some (Token.tag handle suffix, c)
      else
        -- No second exclamation mark: the name belongs to what the tag adds to `!`.
        let (suffix, c) ← tagText? false fuel c (handle.drop 1)
        some (if suffix.isEmpty then Token.tag [] ['!'] else Token.tag ['!'] suffix, c)
  if isBlankEnd c.rest || (inFlow && c.rest.head? == some ',') then return (t, c) else none

/-! ### One token -/

/-- Ends the block collections and the possible key before a directive, a document marker or the end
    of the stream. -/
def reset? (s : Scanner) : Option Scanner := do
  return ((← (s.closeBlocks (-1)).dropKey?).allowKey false)

/-- A bracket that opens a flow collection. -/
def openFlow? (s : Scanner) (t : Token) : Option Scanner := do
  let s ← s.saveKey?
  return (({ s with flowKeys := none :: s.flowKeys }.allowKey true).skip 1).emit t

/-- A bracket that closes a flow collection. -/
def closeFlow? (s : Scanner) (t : Token) : Option Scanner := do
  let s ← s.dropKey?
  return (({ s with flowKeys := s.flowKeys.drop 1 }.allowKey false).skip 1).emit t

/-- A comma. -/
def flowEntry? (s : Scanner) : Option Scanner := do
  return (((← s.dropKey?).allowKey true).skip 1).emit .flowEntry

/-- The dash of a block sequence. -/
def blockEntry? (s : Scanner) : Option Scanner := do
  if ! s.inFlow && ! s.keyAllowed then none
  else
    let s := s.openBlock s.cursor.column none .blockSequenceStart
    return (((← s.dropKey?).allowKey true).skip 1).emit .blockEntry

/-- The question mark of a key. -/
def key? (s : Scanner) : Option Scanner := do
  if ! s.inFlow && ! s.keyAllowed then none
  else
    let s := s.openBlock s.cursor.column none .blockMappingStart
    return (((← s.dropKey?).allowKey (! s.inFlow)).skip 1).emit .key

/-- The colon of a value: it makes a key of what may have been one. -/
def value? (s : Scanner) : Option Scanner :=
  match s.currentKey with
  | some k =>
    -- The start of a mapping goes to the same place afterwards, so that it stands before the key.
    let s := { s with tokens := s.tokens.insertIdxIfInBounds k.place Token.key }
    let s := s.openBlock k.column (some k.place) .blockMappingStart
    some ((((s.setKey none).allowKey false).skip 1).emit .value)
  | none =>
    if ! s.inFlow && ! s.keyAllowed then none
    else
      let s := s.openBlock s.cursor.column none .blockMappingStart
      some (((s.allowKey (! s.inFlow)).skip 1).emit .value)

/-- A token that may start a key and does not let another one follow: what `read` makes of the
    text after the first character. -/
def keyed? (s : Scanner) (n : Nat) (read : Cursor → Option (Token × Cursor)) : Option Scanner := do
  let s ← s.saveKey?
  let (t, c) ← read (s.cursor.skip n)
  return ((s.allowKey false).moveTo c).emit t

/-- A scalar without quotes. A line break after it lets a key follow. -/
def plainScalar? (s : Scanner) : Option Scanner := do
  let s ← s.saveKey?
  let (text, c, broken) ← plain? s.inFlow (s.indent + 1).toNat s.cursor
  return ((s.allowKey broken).moveTo c).emit (.scalar text true)

/-- A literal or folded block. -/
def blockScalar? (s : Scanner) (literal : Bool) : Option Scanner := do
  let s ← s.dropKey?
  let (text, c) ← block? literal s.indent (s.cursor.skip 1)
  return ((s.allowKey true).moveTo c).emit (.scalar text false)

/-- Whether a plain scalar may start with a character and what follows it. -/
def startsPlain (inFlow : Bool) (c : Char) (rest : List Char) : Bool :=
  ! (isBlank c || isBreak c || "-?:,[]\x7b\x7d#&*!|>'\"%@\x60".toList.contains c) ||
    (c == '-' && ! (match rest with
      | d :: _ => isBlank d
      | [] => false)) ||
    (! inFlow && (c == '?' || c == ':') && ! isBlankEnd rest)

/-- Reads the token that stands at the cursor. -/
def token? (s : Scanner) (c : Char) (rest : List Char) : Option Scanner :=
  -- Directives and markers count at the start of a line only.
  if s.cursor.column == 0 && c == '%' then do
    let s ← s.reset?
    let (t, c) ← directive? (s.cursor.skip 1)
    return (s.moveTo c).emit t
  else if s.cursor.atMarker then do
    let s ← s.reset?
    return (s.skip 3).emit (if c == '-' then .documentStart else .documentEnd)
  else if c == '[' then s.openFlow? .flowSequenceStart
  else if c == '\x7b' then s.openFlow? .flowMappingStart
  else if c == ']' then s.closeFlow? .flowSequenceEnd
  else if c == '\x7d' then s.closeFlow? .flowMappingEnd
  else if c == ',' then s.flowEntry?
  -- Outside of brackets these three are indicators only before a blank.
  else if c == '-' && isBlankEnd rest then s.blockEntry?
  else if c == '?' && (s.inFlow || isBlankEnd rest) then s.key?
  else if c == ':' && (s.inFlow || isBlankEnd rest) then s.value?
  else if c == '*' then
    s.keyed? 1 fun c => (anchorName? c).map fun (n, c) => (.backReference n, c)
  else if c == '&' then
    s.keyed? 1 fun c => (anchorName? c).map fun (n, c) => (.anchor n, c)
  else if c == '!' then s.keyed? 0 (tag? s.inFlow)
  else if c == '|' && ! s.inFlow then s.blockScalar? true
  else if c == '>' && ! s.inFlow then s.blockScalar? false
  else if c == '\'' then
    s.keyed? 1 fun c => (quoted? false c).map fun (t, c) => (.scalar t false, c)
  else if c == '"' then
    s.keyed? 1 fun c => (quoted? true c).map fun (t, c) => (.scalar t false, c)
  -- All that is left starts a plain scalar, if anything.
  else if startsPlain s.inFlow c rest then s.plainScalar?
  else none

/-- Reads tokens to the end of the stream. -/
def run? : Nat → Scanner → Option (Array Token)
  | 0, _ => none
  | fuel + 1, s => do
    let s := skipGap (s.cursor.rest.length + 1) s
    let s ← s.expireKeys?
    -- What stands further to the left than a block ends it.
    let s := s.closeBlocks s.cursor.column
    match s.cursor.rest with
    | [] => return ((← s.reset?).emit .streamEnd).tokens
    | c :: rest => run? fuel (← s.token? c rest)

end Scanner

/-- The tokens of a stream. -/
def Token.scan? (s : List Char) : Option (List Token) :=
  if s.all isAllowed then ((Scanner.start s).run? (s.length + 1)).map Array.toList else none

end LinkAtlas.Yaml
