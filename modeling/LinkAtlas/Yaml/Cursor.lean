namespace LinkAtlas.Yaml

/-!
# Reading YAML text

* `isAllowed` — the characters a YAML stream may hold;
* `isBreak`, `isBlank`, `isBlankEnd` — line breaks, blanks, and what may follow an indicator;
* `Cursor` — the rest of a stream with its place, and the steps on it.
-/

/-- The characters a YAML stream may hold. -/
def isAllowed (c : Char) : Bool :=
  let n := c.toNat
  n == 0x09 || n == 0x0A || n == 0x0D || (0x20 ≤ n && n ≤ 0x7E) || n == 0x85 ||
    (0xA0 ≤ n && n ≤ 0xD7FF) || (0xE000 ≤ n && n ≤ 0xFFFD) || 0x10000 ≤ n

/-- A line break. -/
def isBreak (c : Char) : Bool :=
  c == '\n' || c == '\r' || c == '\u0085' || c == '\u2028' || c == '\u2029'

/-- A space or a tab. -/
def isBlank (c : Char) : Bool := c == ' ' || c == '\t'

/-- A letter, a digit, `_` or `-`. -/
def isWordChar (c : Char) : Bool := c.isAlphanum || c == '_' || c == '-'

/-- Whether a blank, a line break or the end comes first. -/
def isBlankEnd : List Char → Bool
  | [] => true
  | c :: _ => isBlank c || isBreak c

/-- Whether a line break or the end comes first. -/
def isBreakEnd : List Char → Bool
  | [] => true
  | c :: _ => isBreak c

/-- The rest of a stream and its place. -/
structure Cursor where
  rest : List Char
  /-- Characters read so far. -/
  index : Nat
  line : Nat
  column : Nat

namespace Cursor

/-- The cursor after `n` characters of the same line. -/
def skip (c : Cursor) (n : Nat) : Cursor :=
  ⟨c.rest.drop n, c.index + n, c.line, c.column + n⟩

/-- The cursor after a line break. -/
def skipBreak (c : Cursor) : Cursor :=
  match c.rest with
  | '\r' :: '\n' :: rest => ⟨rest, c.index + 2, c.line + 1, 0⟩
  | _ :: rest => ⟨rest, c.index + 1, c.line + 1, 0⟩
  | [] => c

/-- The text of the line break that comes first: a line feed, or a separator as it is. -/
def breakText (c : Cursor) : List Char :=
  match c.rest with
  | '\u2028' :: _ => ['\u2028']
  | '\u2029' :: _ => ['\u2029']
  | d :: _ => if isBreak d then ['\n'] else []
  | [] => []

/-- The cursor after all characters of a class that come first, none of them a line break. -/
def skipWhile (c : Cursor) (p : Char → Bool) : Cursor := c.skip (c.rest.takeWhile p).length

/-- Whether a document marker stands here: three dashes or dots at the start of a line. -/
def atMarker (c : Cursor) : Bool :=
  c.column == 0 &&
    match c.rest with
    | '-' :: '-' :: '-' :: rest => isBlankEnd rest
    | '.' :: '.' :: '.' :: rest => isBlankEnd rest
    | _ => false

end Cursor

end LinkAtlas.Yaml
