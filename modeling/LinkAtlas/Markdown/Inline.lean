import LinkAtlas.Markdown.Link

namespace LinkAtlas.Markdown

/-!
# Code spans

Inline structure is read from left to right. Code spans, autolinks and inline HTML bind equally: the
one that starts first wins. The destination of a link and the label of a reference are no place for
a code span, so links are followed too.

* `Placed` — a character and where it stands in the document;
* `codeSpans` — the spans of inline code in the text of one block.
-/

/-- A character and its position in the document. -/
abbrev Placed := Char × Nat

/-- The positions from `start` up to but not including `stop`. -/
structure Span where
  start : Nat
  stop : Nat
  deriving DecidableEq, Repr

/-- Whether a position lies in a span. -/
def Span.contains (s : Span) (n : Nat) : Bool := s.start ≤ n && n < s.stop

/-- A bracket that may open the text of a link or the description of an image. A bracket around a
    link cannot open a link itself. -/
inductive Bracket where
  | link (text : List Placed)
  | image (text : List Placed)
  | inert
  deriving Repr

/-- The number of backticks at the start. -/
def ticks (s : List Placed) : Nat := (s.takeWhile (·.1 == '\x60')).length

/-- The first run of exactly `n` backticks: the position after it, and what follows. `run` counts the
    backticks just passed and `stop` is the position after them. -/
def closingTicks? (n : Nat) : Nat → Nat → List Placed → Option (Nat × List Placed)
  | run, stop, [] => if run = n then some (stop, []) else none
  | run, stop, (c, p) :: rest =>
    if c = '\x60' then closingTicks? n (run + 1) (p + 1) rest
    else if run = n then some (stop, (c, p) :: rest)
    else closingTicks? n 0 stop rest

/-- The characters without their positions. -/
def plainText (s : List Placed) : List Char := s.map Prod.fst

/-- Drops from `s` as many characters as a reader of its text consumed to leave `rest`. -/
def dropTo (s : List Placed) (rest : List Char) : List Placed := s.drop (s.length - rest.length)

/-- Brackets that surround a link open no link. -/
def Bracket.disable : Bracket → Bracket
  | .link _ => .inert
  | b => b

/-- The label that stands between an opening bracket and the closing bracket before `after`. -/
def labelBetween? (opened : List Placed) (after : List Placed) : Option (List Char) :=
  match label? (plainText opened) with
  | some (l, rest) => if rest.length = after.length then some l else none
  | none => none

/-- What follows a link whose text, which starts at `opened`, was closed just before `after`. -/
def linkEnd? (labels : List (List Char)) (opened after : List Placed) : Option (List Placed) :=
  let text := plainText after
  -- First the forms with a destination, then those with a label that is defined somewhere.
  match linkTail? text with
  | some rest => some (dropTo after rest)
  | none =>
    match text with
    | '[' :: ']' :: _ =>
      match labelBetween? opened after with
      | some l => if labels.contains l then some (after.drop 2) else none
      | none => none
    | _ =>
      let second := match text with
        | '[' :: tail => label? tail
        | _ => none
      match second with
      | some (l, rest) => if labels.contains l then some (dropTo after rest) else none
      | none =>
        match labelBetween? opened after with
        | some l => if labels.contains l then some after else none
        | none => none

/-- The code spans of a text, with the brackets that are open, innermost first. `labels` are the
    labels that have a definition. -/
def codeSpansFrom (labels : List (List Char)) : Nat → List Bracket → List Placed → List Span
  | 0, _, _ => []
  | _ + 1, _, [] => []
  | fuel + 1, stack, (c, p) :: rest =>
    let go := codeSpansFrom labels fuel
    /- A run of `n` backticks that starts at `at`, with `after` behind it. -/
    let span (n start : Nat) (after : List Placed) : List Span :=
      match closingTicks? n 0 0 after with
      | some (stop, after) => ⟨start, stop⟩ :: go stack after
      | none => go stack after
    match c with
    | '\\' =>
      match rest with
      | (d, q) :: tail =>
        -- The escaped backtick is text, the others of its run may still open code.
        if d = '\x60' then
          let n := ticks rest
          if n = 1 then go stack tail else span (n - 1) (q + 1) (rest.drop n)
        else if isAsciiPunctuation d then go stack tail
        else go stack rest
      | [] => []
    | '\x60' =>
      let n := ticks rest + 1
      span n p (rest.drop (n - 1))
    | '<' =>
      let text := plainText rest
      match (autolink? text).orElse fun _ => inlineHtml? text with
      | some after => go stack (dropTo rest after)
      | none => go stack rest
    | '!' =>
      match rest with
      | ('[', _) :: tail => go (.image tail :: stack) tail
      | _ => go stack rest
    | '[' => go (.link rest :: stack) rest
    | ']' =>
      match stack with
      | .link text :: outer =>
        -- A link holds no other link, but an image may hold one.
        match linkEnd? labels text rest with
        | some after => go (outer.map Bracket.disable) after
        | none => go outer rest
      | .image text :: outer =>
        match linkEnd? labels text rest with
        | some after => go outer after
        | none => go outer rest
      | .inert :: outer => go outer rest
      | [] => go [] rest
    | _ => go stack rest

/-- The code spans in the text of one block. -/
def codeSpans (labels : List (List Char)) (text : List Placed) : List Span :=
  codeSpansFrom labels (text.length + 1) [] text

end LinkAtlas.Markdown
