import LinkAtlas.Json.Text
import LinkAtlas.Yaml.Cursor

namespace LinkAtlas.Yaml

/-!
# Scalars as they are written

* `Gap` — the blanks and line breaks between two parts of a scalar, and the text they fold to;
* `quoted?` — a scalar between quotes, after its opening quote;
* `plain?` — a scalar without quotes;
* `block?` — a literal or folded block, after its indicator.
-/

/-- Blanks and line breaks inside a scalar. -/
structure Gap where
  /-- Blanks before the first line break. -/
  blanks : List Char
  /-- The first line break. -/
  first : List Char
  /-- The line breaks after the first. -/
  more : List Char
  /-- A line break has been passed. -/
  broken : Bool

namespace Gap

/-- No gap. -/
def empty : Gap := ⟨[], [], [], false⟩

/-- The gap after a line break that an escape has removed. -/
def joined : Gap := ⟨[], [], [], true⟩

/-- What a gap folds to: a single line break becomes a space, further ones stay. -/
def text (g : Gap) : List Char :=
  if ! g.broken then g.blanks
  else if g.first = ['\n'] then if g.more = [] then [' '] else g.more
  else g.first ++ g.more

/-- Passes blanks and line breaks. A tab that stands before column `limit` of a later line is an
    error. -/
def read? (limit : Nat) : Nat → Cursor → Gap → Option (Gap × Cursor)
  | 0, _, _ => none
  | fuel + 1, c, g =>
    match c.rest with
    | [] => some (g, c)
    | d :: _ =>
      if isBlank d then
        if g.broken then
          -- A tab may not indent.
          if d = '\t' ∧ c.column < limit then none else read? limit fuel (c.skip 1) g
        else read? limit fuel (c.skip 1) { g with blanks := g.blanks ++ [d] }
      else if isBreak d then
        if g.broken then
          read? limit fuel c.skipBreak { g with more := g.more ++ c.breakText }
        else read? limit fuel c.skipBreak { g with first := c.breakText, broken := true }
      else some (g, c)

end Gap

/-! ### Between quotes -/

/-- The number that `n` hexadecimal digits spell. -/
def hexNumber? (n : Nat) (s : List Char) : Option Nat :=
  let ds := s.take n
  if ds.length < n then none
  else ds.foldl (fun acc d => do return (← acc) * 16 + (← Json.hexValue? d)) (some 0)

/-- The character of a numeric escape with `n` digits. -/
def hexEscape? (n : Nat) (s : List Char) : Option (Char × Nat) := do
  let v ← hexNumber? n s
  if (0xD800 ≤ v ∧ v ≤ 0xDFFF) ∨ 0x10FFFF < v then none else some (Char.ofNat v, n + 1)

/-- The character of an escape, given what follows the backslash, and the length of the escape. -/
def escape? : List Char → Option (Char × Nat)
  | [] => none
  | c :: rest =>
    match c with
    | '0' => some ('\x00', 1)
    | 'a' => some ('\x07', 1)
    | 'b' => some ('\x08', 1)
    | 't' => some ('\t', 1)
    | '\t' => some ('\t', 1)
    | 'n' => some ('\n', 1)
    | 'v' => some ('\x0b', 1)
    | 'f' => some ('\x0c', 1)
    | 'r' => some ('\r', 1)
    | 'e' => some ('\x1b', 1)
    | ' ' => some (' ', 1)
    | '"' => some ('"', 1)
    | '/' => some ('/', 1)
    | '\\' => some ('\\', 1)
    | 'N' => some ('\u0085', 1)
    | '_' => some ('\u00a0', 1)
    | 'L' => some ('\u2028', 1)
    | 'P' => some ('\u2029', 1)
    | 'x' => hexEscape? 2 rest
    | 'u' => hexEscape? 4 rest
    | 'U' => hexEscape? 8 rest
    | _ => none

/-- The characters up to a blank, a line break or the closing quote. The last component tells that
    an escaped line break was passed. -/
def quotedRun? (double : Bool) : Nat → Cursor → List Char → Option (List Char × Cursor × Bool)
  | 0, _, _ => none
  | fuel + 1, c, acc =>
    match c.rest with
    | [] => some (acc, c, false)
    | d :: rest =>
      if isBlank d || isBreak d then some (acc, c, false)
      else if ! double && d == '\'' then
        match rest with
        -- Two apostrophes stand for one.
        | '\'' :: _ => quotedRun? double fuel (c.skip 2) (acc ++ ['\''])
        | _ => some (acc, c, false)
      else if double && d == '"' then some (acc, c, false)
      else if double && d == '\\' then
        match rest with
        | e :: _ =>
          -- An escaped line break joins the lines without a blank.
          if isBreak e then some (acc, (c.skip 1).skipBreak, true)
          else
            match escape? rest with
            | some (x, n) => quotedRun? double fuel (c.skip (n + 1)) (acc ++ [x])
            | none => none
        | [] => none
      else quotedRun? double fuel (c.skip 1) (acc ++ [d])

/-- A scalar between quotes, after its opening quote: its text and what follows. -/
def quotedFrom? (double : Bool) : Nat → Cursor → List Char → Option (List Char × Cursor)
  | 0, _, _ => none
  | fuel + 1, c, acc =>
    -- A marker ends the document with the quote still open.
    if c.atMarker || c.rest.isEmpty then none
    else
      match quotedRun? double (c.rest.length + 1) c acc with
      | none => none
      | some (acc, c, joined) =>
        if ! joined && c.rest.head? == some (if double then '"' else '\'') then
          some (acc, c.skip 1)
        else
          match Gap.read? 0 (c.rest.length + 1) c (if joined then .joined else .empty) with
          | none => none
          | some (g, c) => quotedFrom? double fuel c (acc ++ g.text)

/-- A scalar between quotes, after its opening quote. -/
def quoted? (double : Bool) (c : Cursor) : Option (List Char × Cursor) :=
  quotedFrom? double (c.rest.length + 1) c []

/-! ### Without quotes -/

/-- An indicator of a flow collection. -/
def isFlowIndicator (c : Char) : Bool :=
  c == ',' || c == '[' || c == ']' || c == '\x7b' || c == '\x7d'

/-- The end of the characters of a plain scalar up to a blank, a line break or what ends the scalar.
    In a flow collection a colon before an indicator is an error. -/
def plainRun? (inFlow : Bool) : Nat → Cursor → List Char → Option (List Char × Cursor)
  | 0, _, _ => none
  | fuel + 1, c, acc =>
    match c.rest with
    | [] => some (acc, c)
    | d :: rest =>
      if isBlank d || isBreak d then some (acc, c)
      -- In brackets a colon may not stand before an indicator.
      else if inFlow && d == ':' &&
          (match rest with
            | e :: _ => isFlowIndicator e || e == '?'
            | [] => false) then none
      else if d == ':' && isBlankEnd rest then some (acc, c)
      else if inFlow && isFlowIndicator d then some (acc, c)
      else plainRun? inFlow fuel (c.skip 1) (acc ++ [d])

/-- A plain scalar whose text so far is `acc`, followed by a gap. The last component tells that the
    scalar is followed by a line break. -/
def plainFrom? (inFlow : Bool) (indent : Nat) :
    Nat → Cursor → List Char → Gap → Option (List Char × Cursor × Bool)
  | 0, _, _, _ => none
  | fuel + 1, c, acc, gap =>
    -- No plain scalar starts with `#`, so here it stands after a gap and opens a comment.
    if c.atMarker || c.rest.head? == some '#' then some (acc, c, gap.broken)
    else
      match plainRun? inFlow (c.rest.length + 1) c [] with
      | none => none
      | some (run, c) =>
        let (acc, gap) := if run.isEmpty then (acc, gap) else (acc ++ gap.text ++ run, .empty)
        match c.rest with
        | [] => some (acc, c, gap.broken)
        | d :: _ =>
          if isBlank d || isBreak d then
            match Gap.read? indent (c.rest.length + 1) c gap with
            | none => none
            | some (gap, c) =>
              if ! inFlow && c.column < indent then some (acc, c, gap.broken)
              else plainFrom? inFlow indent fuel c acc gap
          else some (acc, c, gap.broken)

/-- A scalar without quotes. Its lines are indented by `indent` columns at least. -/
def plain? (inFlow : Bool) (indent : Nat) (c : Cursor) : Option (List Char × Cursor × Bool) :=
  plainFrom? inFlow indent (c.rest.length + 1) c [] .empty

/-! ### Blocks -/

/-- What happens to the line breaks at the end of a block. -/
inductive Chomping where
  | strip
  | clip
  | keep
  deriving DecidableEq, Repr

/-- The header of a block scalar: chomping and, when it is given, the indentation. -/
def blockHeader? (c : Cursor) : Option (Chomping × Option Nat × Cursor) :=
  let chomping? : List Char → Option Chomping
    | '+' :: _ => some .keep
    | '-' :: _ => some .strip
    | _ => none
  let digit? : List Char → Option Nat
    | d :: _ => if d.isDigit then some (d.toNat - '0'.toNat) else none
    | [] => none
  match chomping? c.rest with
  | some chomping =>
    let c := c.skip 1
    match digit? c.rest with
    | some 0 => none
    | some n => some (chomping, some n, c.skip 1)
    | none => some (chomping, none, c)
  | none =>
    match digit? c.rest with
    | some 0 => none
    | some n =>
      let c := c.skip 1
      match chomping? c.rest with
      | some chomping => some (chomping, some n, c.skip 1)
      | none => some (.clip, some n, c)
    | none => some (.clip, none, c)

/-- Passes indentation and empty lines. `indent` is the indentation of the block when it is known;
    `widest` is the widest indentation met so far. -/
def blockBreaks? (indent : Option Nat) :
    Nat → Cursor → Nat → List Char → Option (List Char × Nat × Cursor)
  | 0, _, _, _ => none
  | fuel + 1, c, widest, acc =>
    let blanks := (c.rest.takeWhile (· == ' ')).length
    -- No more blanks are taken than the indentation asks for.
    let c := c.skip (match indent with
      | some n => min blanks (n - c.column)
      | none => blanks)
    let widest := max widest c.column
    let early := match indent with
      | some n => decide (c.column < n)
      | none => true
    match c.rest with
    | d :: _ =>
      if early && d == '\t' then none
      else if isBreak d then blockBreaks? indent fuel c.skipBreak widest (acc ++ c.breakText)
      else some (acc, widest, c)
    | [] => some (acc, widest, c)

/-- The lines of a block that is indented by `indent` columns. `first` is the line break that ends
    the line before, `more` are the empty lines after it, and `wasBlank` tells that the line before
    starts with a blank. The result holds the text and the line breaks after it. -/
def blockLines? (literal : Bool) (indent : Nat) : Nat → Cursor → List Char → List Char → List Char →
    Bool → Option (List Char × List Char × List Char × Cursor)
  | 0, _, _, _, _, _ => none
  | fuel + 1, c, acc, first, more, wasBlank =>
    match c.rest with
    | [] => some (acc, first, more, c)
    | d :: _ =>
      if c.column ≠ indent then some (acc, first, more, c)
      else
        -- Lines are folded only between two that start with text.
        let joint :=
          if ! literal && first == ['\n'] && ! wasBlank && ! isBlank d then
            if more = [] then [' '] else []
          else first
        let line := c.rest.takeWhile (! isBreak ·)
        let after := c.skip line.length
        match blockBreaks? (some indent) (c.rest.length + 1) after.skipBreak 0 [] with
        | none => none
        | some (next, _, c) =>
          blockLines? literal indent fuel c (acc ++ joint ++ more ++ line) after.breakText next
            (isBlank d)

/-- A literal or folded block after its indicator, inside a block indented by `outer` columns. -/
def block? (literal : Bool) (outer : Int) (c : Cursor) : Option (List Char × Cursor) := do
  let (chomping, given, c) ← blockHeader? c
  let c := c.skipWhile isBlank
  let c := if c.rest.head? == some '#' then c.skipWhile (! isBreak ·) else c
  if ! isBreakEnd c.rest then none
  else
    let c := c.skipBreak
    let indent? := given.map fun n => if 0 ≤ outer then outer.toNat + n else n
    let (breaks, widest, c) ← blockBreaks? indent? (c.rest.length + 1) c 0 []
    -- When it is not given, the first line with text tells it, or a wider empty line before.
    let indent := indent?.getD (max (max widest (outer + 1).toNat) 1)
    let (text, first, more, c) ←
      blockLines? literal indent (c.rest.length + 1) c [] [] breaks false
    let text := if chomping = .strip then text else text ++ first
    let text := if chomping = .keep then text ++ more else text
    return (text, c)

end LinkAtlas.Yaml
