import LinkAtlas.Markdown.Line
import LinkAtlas.Markdown.Inline

namespace LinkAtlas.Markdown

/-!
# Block structure

A document is read block by block. What a block leaves is a code block with its span, the text of a
paragraph or heading, or the label of a link reference definition.

* `Cursor` — the rest of a document and where it starts;
* `Block` — what a reader of the document learns from one block;
* `blocks` — the blocks of a document in order.
-/

/-- The rest of a document and its position. -/
structure Cursor where
  rest : List Char
  pos : Nat

/-- The cursor at the start of what is left of its text. -/
def Cursor.to (c : Cursor) (rest : List Char) : Cursor :=
  ⟨rest, c.pos + (c.rest.length - rest.length)⟩

/-- What one block says about code, text and labels. -/
inductive Block where
  | code (span : Span)
  | text (content : List Placed)
  | label (l : List Char)
  deriving Repr

/-- The containers that are open, outermost first, and whether the innermost is a list item whose
    first line was blank. -/
structure Context where
  containers : List Container
  emptyItem : Bool

/-! ### Code -/

/-- The end of a fenced code block: its lines go on until a fence closes it or a container ends. The
    second component is where its span stops, the first where reading goes on. -/
def fencedEnd (containers : List Container) (mark : Char) (n indent : Nat) :
    Nat → Cursor → Cursor × Nat
  | 0, here => (here, here.pos)
  | fuel + 1, here =>
    let (entered, m) := (Margin.ofLine here.rest).enter containers
    if entered < containers.length then (here, here.pos)
    else
      let m := (m.takeSpaces indent).2
      let (missing, close) := m.takeSpaces 4
      -- A fence that closes is indented by three columns at most.
      if 0 < missing && isFenceEnd mark n close.rest then
        let stop := here.to ((close.rest.dropWhile (· == mark)).dropWhile (· == ' '))
        (stop.to ((dropBlankLine? stop.rest).getD stop.rest), stop.pos)
      else fencedEnd containers mark n indent fuel (here.to (dropLine m.rest))

/-- The end of an indented code block whose first line starts at the cursor; blank lines at its end
    are no part of it. `stop` is the end of its last line that is not blank. -/
def indentedEnd (containers : List Container) : Nat → Cursor → Nat → Cursor × Nat
  | 0, here, stop => (here, stop)
  | fuel + 1, here, stop =>
    let blank := isLineBlank here.rest
    let next := here.to (dropLine here.rest)
    let stop := if blank then stop else next.pos
    let (entered, m) := (Margin.ofLine next.rest).enter containers
    let (missing, m) := m.takeSpaces 4
    if next.rest.isEmpty || entered < containers.length || (0 < missing && ! m.atEnd) then
      (next, stop)
    else indentedEnd containers fuel (next.to m.rest) stop

/-! ### HTML -/

/-- Whether a mark stands in a text. -/
def holds (mark s : List Char) : Bool := (after? mark s).isSome

/-- Where reading goes on after an HTML block whose line starts at the cursor. -/
def htmlEnd (containers : List Container) (opening : Opening) : Nat → Cursor → Cursor
  | 0, here => here
  | fuel + 1, here =>
    let next := here.to (dropLine here.rest)
    -- The text goes on only where all containers of its first line go on.
    let (entered, m) := (Margin.ofLine next.rest).enter containers
    if entered < containers.length then next
    else
      match opening with
      | .untilMark mark =>
        if holds mark (firstLine here.rest) || m.rest.isEmpty then next
        else htmlEnd containers opening fuel (next.to m.rest)
      | .untilBlank =>
        if m.atEnd || isLineBlank m.rest then next
        else htmlEnd containers opening fuel (next.to m.rest)

/-! ### Paragraphs -/

/-- The content of the line at a cursor, with a line feed for its end, and the cursor after it. -/
def lineContent (here : Cursor) : List Placed × Cursor :=
  let line := here.rest.takeWhile fun c => c != '\n' && c != '\r'
  let placed := line.zipIdx here.pos
  let after := here.rest.drop line.length
  (placed ++ [('\n', here.pos + line.length)], here.to ((dropLineEnd? after).getD after))

/-- The lines of a paragraph that starts at the cursor. Each comes with the cursor after it; at the
    end stands where reading goes on. -/
def paragraphLines (containers : List Container) :
    Nat → Cursor → List (List Placed × Cursor) × Cursor
  | 0, here => ([], here)
  | fuel + 1, here =>
    let (line, next) := lineContent here
    let (entered, m) := (Margin.ofLine next.rest).enter containers
    -- A line that does not enter all of the containers may still go on with the paragraph, but it
    -- does not underline it.
    let same := entered == containers.length
    let (missing, m) := m.takeSpaces 4
    if 0 < missing && same && (underline? m.rest).isSome then
      ([(line, next)], next.to ((underline? m.rest).getD m.rest))
    else if 0 < missing && interrupts same m.rest then ([(line, next)], next)
    else
      let m := m.dropSpaces
      if m.atEnd then ([(line, next)], next)
      else
        let (more, stop) := paragraphLines containers fuel (next.to m.rest)
        ((line, next) :: more, stop)

/-- The cursor after the line on which `rest` starts, counted from the end of the text of a
    paragraph. -/
def cursorAfter (lines : List (List Placed × Cursor)) (left : Nat) (start : Cursor) : Cursor :=
  match lines with
  | [] => start
  | (_, next) :: more =>
    if left < (more.map fun (l, _) => l.length).sum then cursorAfter more left next else next

/-- A paragraph, a heading underlined by its last line, or a definition and what follows it. -/
def readParagraph (containers : List Container) (here : Cursor) : Block × Cursor :=
  let (lines, stop) := paragraphLines containers (here.rest.length + 1) here
  let text := lines.flatMap Prod.fst
  match definition? (plainText text) with
  | some (label, rest) => (.label label, cursorAfter lines rest.length here)
  | none => (.text text, stop)

/-! ### All blocks -/

/-- Opens the containers whose markers stand in the margin. The third component tells that the line
    ends right after a list marker. -/
def openContainers : Nat → List Container → Margin → List Container × Margin × Bool
  | 0, containers, m => (containers, m, false)
  | fuel + 1, containers, m =>
    -- Four spaces start a code block, where no marker counts.
    let (missing, inner) := m.takeSpaces 4
    if missing = 0 then (containers, m, false)
    else
      match inner.listMarker? (4 - missing) with
      | some (indent, after) =>
        let containers := containers ++ [.item indent]
        if isLineBlank after.rest then (containers, after, true)
        else openContainers fuel containers after
      | none =>
        match inner.quoteMarker? with
        | some after => openContainers fuel (containers ++ [.quote]) after
        | none => (containers, m, false)

/-- A block that is neither a container nor blank, with less than four columns before it. -/
def readLeaf (containers : List Container) (indent : Nat) (here : Cursor) : List Block × Cursor :=
  let fuel := here.rest.length + 1
  let html := match here.rest with
    | '<' :: rest => openingHtml? rest
    | _ => none
  match html with
  | some opening => ([], htmlEnd containers opening fuel here)
  | none =>
    match ruleEnd? here.rest with
    | some rest => ([], here.to rest)
    | none =>
      match heading? here.rest with
      | some content =>
        let (line, next) := lineContent (here.to content)
        ([.text line], next)
      | none =>
        match fence? here.rest with
        | some (mark, n) =>
          let (next, stop) :=
            fencedEnd containers mark n indent fuel (here.to (dropLine here.rest))
          ([.code ⟨here.pos, stop⟩], next)
        | none =>
          let (block, next) := readParagraph containers here
          ([block], next)

/-- The block that starts at a cursor, which is at the start of a line. -/
def readBlock (ctx : Context) (here : Cursor) : List Block × Context × Cursor :=
  let fuel := here.rest.length + 1
  -- Some of the containers go on, and then new ones may open.
  let (entered, m) := (Margin.ofLine here.rest).enter ctx.containers
  let kept := ctx.containers.take entered
  let (containers, m, itemBlank) := openContainers fuel kept m
  match dropBlankLine? m.rest with
  | some rest =>
    /- An item may start with one blank line, not with two. -/
    let waiting := ctx.emptyItem && containers.length == ctx.containers.length &&
      entered == ctx.containers.length
    let still := if waiting then containers.dropLast else containers
    ([], ⟨still, itemBlank⟩, here.to rest)
  | none =>
    let (missing, inner) := m.takeSpaces 4
    let start := here.to inner.rest
    if missing = 0 then
      let (next, stop) := indentedEnd containers fuel start start.pos
      ([.code ⟨start.pos, stop⟩], ⟨containers, false⟩, next)
    else
      let (blocks, next) := readLeaf containers (4 - missing) start
      (blocks, ⟨containers, false⟩, next)

/-- The blocks from a cursor on. -/
def blocksFrom : Nat → Context → Cursor → List Block
  | 0, _, _ => []
  | fuel + 1, ctx, here =>
    if here.rest.isEmpty then []
    else
      let (found, ctx, next) := readBlock ctx here
      found ++ blocksFrom fuel ctx next

/-- The blocks of a document. -/
def blocks (s : List Char) : List Block := blocksFrom (s.length + 1) ⟨[], false⟩ ⟨s, 0⟩

/-! ### Code of a document -/

/-- The spans of all code in a document: code blocks and inline code. -/
def codeOf (s : List Char) : List Span :=
  let found := blocks s
  let labels := found.filterMap fun b => match b with
    | .label l => some l
    | _ => none
  found.flatMap fun b => match b with
    | .code span => [span]
    | .text content => codeSpans labels content
    | .label _ => []

end LinkAtlas.Markdown
