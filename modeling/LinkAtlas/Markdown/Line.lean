import LinkAtlas.Decimal.Basic
import LinkAtlas.Markdown.Html

namespace LinkAtlas.Markdown

/-!
# What a line starts

Each function looks at the text from the first character after the margin.

* `ruleEnd?` — a thematic break;
* `heading?` — a heading with number signs;
* `fence?`, `isFenceEnd` — the fences around a code block;
* `underline?` — the line under a heading;
* `Margin.listMarker?` — a list marker with the indentation it gives to its item;
* `interrupts` — whether a line ends the paragraph before it.
-/

/-- The number of break characters on a line that holds nothing else; the line ends at `rest`. -/
def ruleMarks? (mark : Char) : List Char → Option (Nat × List Char)
  | [] => some (0, [])
  | c :: rest =>
    if c = '\n' ∨ c = '\r' then (dropLineEnd? (c :: rest)).map (0, ·)
    else if c = mark then (ruleMarks? mark rest).map fun (n, rest) => (n + 1, rest)
    else if c = ' ' ∨ c = '\t' then ruleMarks? mark rest
    else none

/-- The text after a thematic break. -/
def ruleEnd? : List Char → Option (List Char)
  | [] => none
  | c :: rest =>
    if c = '*' ∨ c = '-' ∨ c = '_' then
      match ruleMarks? c (c :: rest) with
      | some (n, rest) => if 3 ≤ n then some rest else none
      | none => none
    else none

/-- The content of a heading that starts with number signs. -/
def heading? (s : List Char) : Option (List Char) :=
  let n := countLeading '#' s
  if n = 0 ∨ 6 < n then none
  else
    match s.drop n with
    | [] => some []
    | c :: rest => if isAsciiBlank c then some (c :: rest) else none

/-- The character and length of a fence that opens a code block. No backtick may follow a fence of
    backticks. -/
def fence? : List Char → Option (Char × Nat)
  | [] => none
  | c :: rest =>
    if c = '\x60' ∨ c = '~' then
      let n := countLeading c (c :: rest)
      if n < 3 then none
      else if c = '\x60' ∧ ((firstLine (c :: rest)).drop n).contains '\x60' then none
      else some (c, n)
    else none

/-- Whether a line closes a code block opened by a fence. -/
def isFenceEnd (mark : Char) (n : Nat) (s : List Char) : Bool :=
  match s with
  | [] => true
  | _ => n ≤ countLeading mark s &&
      atLineEnd ((s.dropWhile (· == mark)).dropWhile (· == ' '))

/-- The text after a line that makes the paragraph above it a heading. -/
def underline? : List Char → Option (List Char)
  | c :: rest =>
    if c = '=' ∨ c = '-' then dropBlankLine? (rest.dropWhile (· == c)) else none
  | [] => none

/-! ### Lists -/

/-- A list marker: its characters, and the number it shows when it is no bullet. -/
def markerText? : List Char → Option (Nat × Option Nat)
  | [] => none
  | c :: rest =>
    if c = '-' ∨ c = '+' ∨ c = '*' then some (1, none)
    else
      let ds := (c :: rest).takeWhile Decimal.isDigit
      -- Longer numbers are text.
      if ds.isEmpty ∨ 9 < ds.length then none
      else
        match (c :: rest).drop ds.length with
        | d :: _ =>
          if d = '.' ∨ d = ')' then some (ds.length + 1, some (Decimal.ofDigits ds)) else none
        | [] => none

/-- A list marker after `outer` columns: the indentation of its item, and the margin behind it. -/
def Margin.listMarker? (m : Margin) (outer : Nat) : Option (Nat × Margin) :=
  match markerText? m.rest with
  | none => none
  | some (width, number) =>
    -- A line of dashes or stars is a rule before it is an item.
    if number.isNone ∧ (ruleEnd? m.rest).isSome then none
    else
      let (missing, after) := (m.skip width).takeSpaces 1
      if missing = 0 || after.atEnd then
        let indent := outer + width + 1
        if isLineBlank after.rest then some (indent, after)
        -- With five blanks or more behind the marker the item starts with code.
        else
          let (missing, m) := after.takeSpaces 4
          if missing = 0 then some (indent, after) else some (indent + (4 - missing), m)
      else none

/-- Whether a list item starts here that may interrupt a paragraph: an item of the paragraph's own
    container must be a bullet or show one, and must not be followed by a blank line when it starts
    with one. -/
def startsItem (sameContainer : Bool) (s : List Char) : Bool :=
  match markerText? s with
  | none => false
  | some (width, number) =>
    let after := s.drop width
    let parted := match after with
      | [] => true
      | c :: _ => c == ' ' || c == '\t' || c == '\n' || c == '\r'
    let empty := match dropBlankLine? after with
      | some rest => isLineBlank rest
      | none => false
    -- Inside a paragraph only an item that starts with one, or has no number, and is not empty
    -- breaks in.
    parted && (! sameContainer || ((number.isNone || number == some 1) && ! empty))

/-- Whether a line ends the paragraph before it. -/
def interrupts (sameContainer : Bool) (s : List Char) : Bool :=
  atLineEnd s || (ruleEnd? s).isSome || (heading? s).isSome || (fence? s).isSome ||
    s.head? == some '>' || startsItem sameContainer s ||
    (match s with
      | '<' :: rest => (interruptingHtml? rest).isSome
      | _ => false)

end LinkAtlas.Markdown
