import LinkAtlas.Markdown.Block
import LinkAtlas.Path.Lexical
import LinkAtlas.Reference.Basic
import LinkAtlas.Text.Blank
import LinkAtlas.Text.Lines

namespace LinkAtlas.Reference

/-!
# References in the text of a document

References are found line by line, so that malformed text on one line does not hide anything on
another. Code is given as a predicate on positions.

* `isExternal` — whether a target leads out of the corpus;
* `WikiSpan`, `wikiSpans` — the places of the form `[[…]]` on a line;
* `PlainSpan`, `plainSpans` — the places of the form `[…](…)` on a line;
* `ofLine` — the references on one line, `ofBody` those of a whole text;
* `extract` — the references of a Markdown text, where its code is masked.
-/

/-! ### External targets -/

/-- A letter of ASCII up to case: two other characters share their case with one of them. -/
def isSchemeLetter (c : Char) : Bool := c.isAlpha || c == 'ſ' || c == '\u212a'

/-- A character of a scheme after the first. -/
def isSchemeTail (c : Char) : Bool :=
  isSchemeLetter c || c.isDigit || c == '+' || c == '.' || c == '-'

/-- Whether a text starts with a scheme and `://`. -/
def startsWithScheme : List Char → Bool
  | [] => false
  | c :: rest =>
    isSchemeLetter c && [':', '/', '/'].isPrefixOf (rest.dropWhile isSchemeTail)

/-- The schemes that need no slashes. -/
def bareSchemes : List String := ["mailto:", "tel:", "data:"]

/-- Whether a target leads out of the corpus. -/
def isExternal (s : List Char) : Bool :=
  let s := Text.trim s
  startsWithScheme s ||
    bareSchemes.any fun scheme => scheme.toList.isPrefixOf (s.map Char.toLower)

/-! ### The two forms on a line -/

/-- A place `[[inner]]`: where it starts, where it stops, and what stands inside. -/
structure WikiSpan where
  start : Nat
  stop : Nat
  inner : List Char
  deriving DecidableEq, Repr

/-- A place `[label](dest)`, perhaps after a `!`, which makes it an image. -/
structure PlainSpan where
  start : Nat
  stop : Nat
  isImage : Bool
  label : List Char
  dest : List Char
  deriving DecidableEq, Repr

/-- A character that may stand between brackets. -/
def isInner (c : Char) : Bool := c != '[' && c != ']' && c != '\n'

/-- A character that may stand between the parentheses of a destination. -/
def isDest (c : Char) : Bool := c != '(' && c != ')' && c != '\n'

/-- What stands inside the double brackets that a text starts with. -/
def wikiAt? : List Char → Option (List Char)
  | '[' :: '[' :: rest =>
    let inner := rest.takeWhile isInner
    if inner.isEmpty then none
    else
      match rest.drop inner.length with
      | ']' :: ']' :: _ => some inner
      | _ => none
  | _ => none

/-- Label and destination of the plain form that a text starts with. -/
def linkAt? : List Char → Option (List Char × List Char)
  | '[' :: rest =>
    let label := rest.takeWhile isInner
    match rest.drop label.length with
    | ']' :: '(' :: rest =>
      let dest := rest.takeWhile isDest
      match rest.drop dest.length with
      | ')' :: _ => some (label, dest)
      | _ => none
    | _ => none
  | _ => none

/-- The plain form that a text starts with, at a position. -/
def plainAt? (pos : Nat) : List Char → Option PlainSpan
  | '!' :: rest =>
    (linkAt? rest).map fun (label, dest) =>
      ⟨pos, pos + label.length + dest.length + 5, true, label, dest⟩
  | s =>
    (linkAt? s).map fun (label, dest) =>
      ⟨pos, pos + label.length + dest.length + 4, false, label, dest⟩

/-- The wiki forms from a position on, leftmost first and without overlap; `skip` characters belong
    to a form already found. -/
def wikiSpansFrom (pos : Nat) : Nat → List Char → List WikiSpan
  | _, [] => []
  | skip + 1, _ :: rest => wikiSpansFrom (pos + 1) skip rest
  | 0, c :: rest =>
    match wikiAt? (c :: rest) with
    | some inner =>
      ⟨pos, pos + inner.length + 4, inner⟩ :: wikiSpansFrom (pos + 1) (inner.length + 3) rest
    | none => wikiSpansFrom (pos + 1) 0 rest

/-- The wiki forms on a line. -/
def wikiSpans (line : List Char) : List WikiSpan := wikiSpansFrom 0 0 line

/-- The plain forms from a position on, leftmost first and without overlap; `skip` characters belong
    to a form already found. -/
def plainSpansFrom (pos : Nat) : Nat → List Char → List PlainSpan
  | _, [] => []
  | skip + 1, _ :: rest => plainSpansFrom (pos + 1) skip rest
  | 0, c :: rest =>
    match plainAt? pos (c :: rest) with
    | some span => span :: plainSpansFrom (pos + 1) (span.stop - pos - 1) rest
    | none => plainSpansFrom (pos + 1) 0 rest

/-- The plain forms on a line. -/
def plainSpans (line : List Char) : List PlainSpan := plainSpansFrom 0 0 line

/-- Whether a plain form and a wiki form share a character. -/
def PlainSpan.overlaps (p : PlainSpan) (w : WikiSpan) : Bool :=
  w.start < p.stop && p.start < w.stop

/-! ### What a form refers to -/

/-- What a form says, apart from where it stands. -/
structure Mention where
  target : List Char
  kind : Kind
  label : Option (List Char)
  deriving DecidableEq, Repr

/-- The parts of a text before and after its first bar. -/
def splitBar (s : List Char) : List Char × Option (List Char) :=
  let front := s.takeWhile (· != '|')
  match s.drop front.length with
  | _ :: label => (front, some label)
  | [] => (front, none)

/-- What stands between double brackets refers to: the target is left of the first bar. Blank and
    external targets refer to nothing, nor does a code target without a path. -/
def wikiMention? (inner : List Char) : Option Mention :=
  let (front, back) := splitBar inner
  let target := Text.trim front
  let label := back.map Text.trim
  if target = [] ∨ isExternal target then none
  else if codeMark.isPrefixOf target then
    let path := (splitSymbol (target.drop codeMark.length)).1
    if Text.isBlankText path then none
    else some ⟨target, .code, label.filter fun l => ! l.isEmpty⟩
  else some ⟨target, if label.isSome then .aliasedWiki else .wiki, label⟩

/-- The address in a destination: what stands between angle brackets, or else the first word. -/
def address (dest : List Char) : List Char :=
  match Text.trim dest with
  | '<' :: rest => rest.takeWhile (· != '>')
  | s => Text.firstWord s

/-- What the plain form refers to: the address without its fragment. External and empty targets
    refer to nothing. -/
def plainMention? (label dest : List Char) : Option Mention :=
  let dest := address dest
  if isExternal dest then none
  else
    let target := Text.trim (Path.withoutFragment dest)
    if target = [] then none
    else
      let label := Text.trim label
      some ⟨target, .plain, if label = [] then none else some label⟩

/-! ### Lines -/

/-- The longest context, in characters. -/
def contextWidth : Nat := 120

/-- The text shown for a line: trimmed, and cut with an ellipsis when it is too long. -/
def contextOf (line : List Char) : List Char :=
  let s := Text.trim line
  if s.length ≤ contextWidth then s else s.take contextWidth ++ ['…']

/-- The mentions of a line with the positions where they start: first the wiki forms, then the plain
    forms that share no character with a wiki form, masked or not. -/
def mentions (isCode : Nat → Bool) (line : List Char) : List (Nat × Mention) :=
  let wiki := wikiSpans line
  let fromWiki := wiki.filterMap fun w =>
    if isCode w.start then none else (wikiMention? w.inner).map (w.start, ·)
  let fromPlain := (plainSpans line).filterMap fun p =>
    if wiki.any p.overlaps || p.isImage || isCode p.start then none
    else (plainMention? p.label p.dest).map (p.start, ·)
  fromWiki ++ fromPlain

/-- Puts a mention before the first one that does not start earlier. -/
def insertByStart (m : Nat × Mention) : List (Nat × Mention) → List (Nat × Mention)
  | [] => [m]
  | n :: rest => if m.1 ≤ n.1 then m :: n :: rest else n :: insertByStart m rest

/-- Mentions in the order in which they start. -/
def sortByStart (ms : List (Nat × Mention)) : List (Nat × Mention) := ms.foldr insertByStart []

/-- The references on a line, from left to right. -/
def ofLine (source : String) (number : Nat) (isCode : Nat → Bool) (line : List Char) :
    List Reference :=
  let context := String.ofList (contextOf line)
  (sortByStart (mentions isCode line)).map fun (_, m) =>
    unsettled source (String.ofList m.target) m.kind (m.label.map String.ofList) number context

/-- The references on lines that start at a position and have numbers above `before`. -/
def ofLines (source : String) (isCode : Nat → Bool) : Nat → Nat → List (List Char) → List Reference
  | _, _, [] => []
  | before, pos, line :: rest =>
    ofLine source (before + 1) (fun n => isCode (pos + n)) (Text.content line) ++
      ofLines source isCode (before + 1) (pos + line.length) rest

/-- The references of a text whose first line has the number `before + 1`. -/
def ofBody (source : String) (isCode : Nat → Bool) (before : Nat) (body : List Char) :
    List Reference :=
  ofLines source isCode before 0 (Text.lines body)

/-- The references of a Markdown text, those in code left out. -/
def extract (source : String) (body : List Char) (before : Nat) : List Reference :=
  let code := Markdown.codeOf body
  ofBody source (fun n => code.any (·.contains n)) before body

end LinkAtlas.Reference
