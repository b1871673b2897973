import LinkAtlas.Markdown.Html
import LinkAtlas.Text.Lowercase

namespace LinkAtlas.Markdown

/-!
# The parts of a link

* `destination?` — where a link leads, between angle brackets or up to a blank;
* `title?` — a title between quotes or parentheses;
* `label?` — a label up to its closing bracket, in the form in which labels are compared;
* `linkTail?` — what follows the text of an inline link;
* `definition?` — a link reference definition.

The text of several lines comes without the margins of its lines.
-/

/-- How deep parentheses may nest in the destination of an inline link. -/
def maxNesting : Nat := 5

/-- The rest of a destination between angle brackets. -/
def angledEnd? : List Char → Option (List Char)
  | [] => none
  | '>' :: rest => some rest
  | '\\' :: c :: rest => if isAsciiPunctuation c then angledEnd? rest else angledEnd? (c :: rest)
  | c :: rest => if c = '\n' ∨ c = '\r' ∨ c = '<' then none else angledEnd? rest

/-- The rest of a destination without brackets, inside `nest` open parentheses. -/
def bareEnd? (limit : Nat) : Nat → List Char → Option (List Char)
  | nest, [] => if nest = 0 then some [] else none
  | nest, '\\' :: c :: rest =>
    if isAsciiPunctuation c then bareEnd? limit nest rest else bareEnd? limit nest (c :: rest)
  | nest, c :: rest =>
    if c.toNat ≤ 0x20 then if nest = 0 then some (c :: rest) else none
    else if c = '(' then if limit < nest then none else bareEnd? limit (nest + 1) rest
    else if c = ')' then if nest = 0 then some (c :: rest) else bareEnd? limit (nest - 1) rest
    else bareEnd? limit nest rest

/-- What follows a destination. -/
def destination? (limit : Nat) : List Char → Option (List Char)
  | '<' :: rest => angledEnd? rest
  | s => bareEnd? limit 0 s

/-- The rest of a title that ends with `close`; `opened` may not stand in it. -/
def titleEnd? (opened close : Char) : List Char → Option (List Char)
  | [] => none
  | '\\' :: c :: rest =>
    if isAsciiPunctuation c then titleEnd? opened close rest
    else titleEnd? opened close (c :: rest)
  | c :: rest =>
    if c = close then some rest
    else if c = opened then none
    else titleEnd? opened close rest

/-- What follows a title. -/
def title? : List Char → Option (List Char)
  | '"' :: rest => titleEnd? '"' '"' rest
  | '\'' :: rest => titleEnd? '\'' '\'' rest
  | '(' :: rest => titleEnd? '(' ')' rest
  | _ => none

/-- Drops blanks, at most one line end, and blanks again. -/
def dropGap (s : List Char) : List Char :=
  let s := s.dropWhile isInlineBlank
  ((dropLineEnd? s).getD s).dropWhile isInlineBlank

/-- The rest of an inline link after the bracket that closes its text. -/
def linkTail? : List Char → Option (List Char)
  | '(' :: s => do
    let s := dropGap (← destination? maxNesting (dropGap s))
    let s := match title? s with
      | some s => dropGap s
      | none => s
    match s with
    | ')' :: rest => some rest
    | _ => none
  | _ => none

/-! ### Labels -/

/-- Blank runs become one space, letters small, and blanks at the ends go. -/
def foldLabel (s : List Char) : List Char :=
  let words := (s.splitBy fun a b => isAsciiBlank a == isAsciiBlank b).filter
    fun w => ! w.all isAsciiBlank
  [' '].intercalate (words.map fun w => w.flatMap fun c => if c = 'ς' then ['σ'] else Text.lowerChar c)

/-- The longest label. -/
def maxLabel : Nat := 999

/-- The characters of a label up to its closing bracket, and what follows. -/
def labelEnd? : List Char → Option (List Char × List Char)
  | [] => none
  | ']' :: rest => some ([], rest)
  | '[' :: _ => none
  | '\\' :: c :: rest => (labelEnd? rest).map fun (l, rest) => ('\\' :: c :: l, rest)
  | c :: rest => (labelEnd? rest).map fun (l, rest) => (c :: l, rest)

/-- A label after its opening bracket, folded, and what follows its closing bracket. -/
def label? (s : List Char) : Option (List Char × List Char) :=
  match labelEnd? s with
  | some (l, rest) =>
    if l.all isAsciiBlank ∨ maxLabel < l.length then none else some (foldLabel l, rest)
  | none => none

/-! ### Definitions -/

/-- A link reference definition at the start of a paragraph: its label and what follows the line it
    ends on. A title that does not end its line is no part of the definition if it started a line. -/
def definition? : List Char → Option (List Char × List Char)
  | '[' :: s => do
    let (label, s) ← label? s
    match s with
    | ':' :: s =>
      let start := dropGap s
      let s ← destination? 1 start
      if s.length = start.length then none
      else
        let plain := dropBlankLine? s
        let t := dropGap s
        let titled :=
          if t.length = s.length then none else (title? t).bind dropBlankLine?
        -- What looked like a title may belong to the next paragraph.
        match titled.orElse fun _ => plain with
        | some rest => some (label, rest)
        | none => none
    | _ => none
  | _ => none

end LinkAtlas.Markdown
