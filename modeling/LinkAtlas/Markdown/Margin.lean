namespace LinkAtlas.Markdown

/-!
# The left margin of a line

Block structure is decided from the left margin: how many columns of blank space and which markers
stand before the content. A tab reaches to the next multiple of four columns, and part of it may
belong to a marker and the rest to the content.

* `Margin` — the text still to be read and the columns of a tab that are left over;
* `Margin.takeSpaces` — consumes up to a number of columns and says how many were missing;
* `isLineBlank`, `dropLine` — questions about the line that a text starts with.
-/

/-- A blank other than a line end. -/
def isInlineBlank (c : Char) : Bool := c == ' ' || c == '\t' || c == '\x0b' || c == '\x0c'

/-- A blank or a line end. -/
def isAsciiBlank (c : Char) : Bool := isInlineBlank c || c == '\n' || c == '\r'

/-- Drops a line end: a line feed, a carriage return or both. Nothing is dropped at the end of the
    text; none when the text goes on. -/
def dropLineEnd? : List Char → Option (List Char)
  | [] => some []
  | '\n' :: rest => some rest
  | '\r' :: '\n' :: rest => some rest
  | '\r' :: rest => some rest
  | _ => none

/-- Drops a line of nothing but blanks with its end; none for any other line. -/
def dropBlankLine? (s : List Char) : Option (List Char) := dropLineEnd? (s.dropWhile isInlineBlank)

/-- Whether the line that a text starts with is blank. -/
def isLineBlank (s : List Char) : Bool := (dropBlankLine? s).isSome

/-- The text after its first line feed. -/
def dropLine (s : List Char) : List Char := (s.dropWhile (· != '\n')).drop 1

/-- The first line of a text with its line feed. -/
def firstLine (s : List Char) : List Char :=
  s.takeWhile (· != '\n') ++ (s.dropWhile (· != '\n')).take 1

/-- Whether the end of a line, or of the text, comes first. -/
def atLineEnd : List Char → Bool
  | [] => true
  | c :: _ => c == '\n' || c == '\r'

/-- How many times a character stands at the start of a text. -/
def countLeading (c : Char) (s : List Char) : Nat := (s.takeWhile (· == c)).length

/-- The margin of a line while it is read. -/
structure Margin where
  /-- What has not been read. -/
  rest : List Char
  /-- Characters read since the last tab, or since the start of the line. -/
  sinceTab : Nat
  /-- Columns of the last tab that nothing has claimed. -/
  pending : Nat

namespace Margin

/-- The margin at the start of a line. -/
def ofLine (s : List Char) : Margin := ⟨s, 0, 0⟩

/-- Consumes up to `n` columns from blanks and tabs when no columns are pending. -/
def takeFrom : List Char → Nat → Nat → Nat × Margin
  | rest, sinceTab, 0 => (0, ⟨rest, sinceTab, 0⟩)
  | ' ' :: rest, sinceTab, n + 1 => takeFrom rest (sinceTab + 1) n
  | '\t' :: rest, sinceTab, n + 1 =>
    let width := 4 - sinceTab % 4
    if width ≤ n then takeFrom rest 0 (n + 1 - width) else (0, ⟨rest, 0, width - (n + 1)⟩)
  | rest, sinceTab, n + 1 => (n + 1, ⟨rest, sinceTab, 0⟩)

/-- Consumes up to `n` columns; the first component counts those that were missing. -/
def takeSpaces (m : Margin) (n : Nat) : Nat × Margin :=
  if n ≤ m.pending then (0, { m with pending := m.pending - n })
  else takeFrom m.rest m.sinceTab (n - m.pending)

/-- Consumes one character that is no blank. -/
def skip (m : Margin) (n : Nat) : Margin := ⟨m.rest.drop n, m.sinceTab + n, m.pending⟩

/-- Consumes all blanks and tabs. -/
def dropSpaces (m : Margin) : Margin :=
  ⟨m.rest.dropWhile fun c => c == ' ' || c == '\t', m.sinceTab, 0⟩

/-- Whether the line ends here. -/
def atEnd (m : Margin) : Bool := atLineEnd m.rest

end Margin

/-! ### Containers -/

/-- What a line may be inside of. -/
inductive Container where
  /-- A block quote, whose lines start with `>`. -/
  | quote
  /-- A list item, whose lines are indented by a number of columns. -/
  | item (indent : Nat)
  deriving DecidableEq, Repr

/-- Consumes the marker of a block quote after at most three columns. -/
def Margin.quoteMarker? (m : Margin) : Option Margin :=
  let m := (m.takeSpaces 3).2
  match m.rest with
  | '>' :: _ => some ((m.skip 1).takeSpaces 1).2
  | _ => none

/-- Consumes what continues the containers on this line, outermost first. The first component counts
    the containers that go on. -/
def Margin.enter (m : Margin) : List Container → Nat × Margin
  | [] => (0, m)
  | .quote :: inner =>
    match m.quoteMarker? with
    | some m => let (n, m) := m.enter inner; (n + 1, m)
    | none => (0, m)
  | .item indent :: inner =>
    let (missing, m') := m.takeSpaces indent
    -- A blank line belongs to the item whatever its indentation.
    if missing = 0 || m'.atEnd then
      let (n, m) := m'.enter inner
      (n + 1, m)
    else (0, m)

end LinkAtlas.Markdown
