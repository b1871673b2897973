import LinkAtlas.Yaml.Token

namespace LinkAtlas.Yaml

/-!
# The nodes of a YAML document

* `Node` — a scalar, a sequence, a mapping, or the repetition of a node with an anchor;
* `Reader` — a step that takes tokens and knows the anchors so far;
* `Node.ofTokens?` — the node of a stream with one document;
* `Node.anchored`, `Node.size` — the nodes with anchors in order of their start, and the number of
  starts and ends of nodes.

An anchor that is set again counts as no new name, so the number of the next anchor may repeat. The
last node with a number is the one that is meant.
-/

/-- A node. Anchors are numbered by how many names had been seen before them. -/
inductive Node where
  | backReference (number : Nat)
  | scalar (anchor : Option Nat) (tag : Option (List Char)) (text : List Char) (isPlain : Bool)
  | sequence (anchor : Option Nat) (tag : Option (List Char)) (items : List Node)
  | mapping (anchor : Option Nat) (tag : Option (List Char)) (pairs : List (Node × Node))
  deriving Inhabited

namespace Node

/-- The scalar that stands where nothing is written. -/
def empty : Node := .scalar none none [] true

mutual

/-- The nodes with anchors, in the order of their starts. -/
def anchored : Node → List (Nat × Node)
  | .backReference _ => []
  | .scalar a tag text isPlain =>
    (a.map fun n => (n, Node.scalar a tag text isPlain)).toList
  | .sequence a tag items =>
    (a.map fun n => (n, Node.sequence a tag items)).toList ++ anchoredItems items
  | .mapping a tag pairs =>
    (a.map fun n => (n, Node.mapping a tag pairs)).toList ++ anchoredPairs pairs

/-- The nodes with anchors among items. -/
def anchoredItems : List Node → List (Nat × Node)
  | [] => []
  | v :: items => anchored v ++ anchoredItems items

/-- The nodes with anchors among keys and values. -/
def anchoredPairs : List (Node × Node) → List (Nat × Node)
  | [] => []
  | (k, v) :: pairs => anchored k ++ anchored v ++ anchoredPairs pairs

end

mutual

/-- The number of scalars and repetitions, with two for each collection. -/
def size : Node → Nat
  | .backReference _ => 1
  | .scalar .. => 1
  | .sequence _ _ items => 2 + sizeItems items
  | .mapping _ _ pairs => 2 + sizePairs pairs

/-- The size of items. -/
def sizeItems : List Node → Nat
  | [] => 0
  | v :: items => size v + sizeItems items

/-- The size of keys and values. -/
def sizePairs : List (Node × Node) → Nat
  | [] => 0
  | (k, v) :: pairs => size k + size v + sizePairs pairs

end

end Node

/-! ### Directives -/

/-- The tag handles that need no directive. -/
def commonHandles : List (List Char × List Char) :=
  [(['!'], ['!']), (['!', '!'], "tag:yaml.org,2002:".toList)]

/-- What the directives before a document say. -/
structure Directives where
  hasVersion : Bool
  handles : List (List Char × List Char)

namespace Directives

/-- The directives that come first among tokens. A repeated one and a version other than 1.1 and
    1.2 are errors. -/
def read? (d : Directives) : List Token → Option (Directives × List Token)
  | .versionDirective major minor :: rest =>
    if d.hasVersion ∨ major ≠ 1 ∨ (minor ≠ 1 ∧ minor ≠ 2) then none
    else read? { d with hasVersion := true } rest
  | .tagDirective handle lead :: rest =>
    if (d.handles.lookup handle).isSome then none
    else read? { d with handles := (handle, lead) :: d.handles } rest
  | rest => some (d, rest)

/-- The tag that a handle and a suffix stand for. -/
def tag? (d : Directives) (handle suffix : List Char) : Option (List Char) :=
  if handle.isEmpty then some suffix
  else ((d.handles ++ commonHandles).lookup handle).map (· ++ suffix)

end Directives

/-! ### Reading nodes -/

/-- The tokens ahead and the numbers of the anchors so far. -/
structure ReaderState where
  tokens : List Token
  anchors : List (List Char × Nat)

/-- A step that takes tokens. -/
abbrev Reader := StateT ReaderState Option

namespace Reader

/-- The next token. -/
def peek : Reader (Option Token) := do return (← get).tokens.head?

/-- Passes a token. -/
def advance : Reader Unit := modify fun s => { s with tokens := s.tokens.drop 1 }

/-- Whether one of these tokens is next. -/
def sees (ts : List Token) : Reader Bool := do
  match (← get).tokens with
  | t :: _ => return ts.contains t
  | [] => return false

/-- Passes a token if it is next, and says whether it was. -/
def accept (t : Token) : Reader Bool := do
  if ← sees [t] then
    advance
    return true
  else return false

/-- Passes a token that must be next. -/
def expect (t : Token) : Reader Unit := do
  if ! (← accept t) then failure

/-- Gives an anchor its number. -/
def declare (name : List Char) : Reader Nat := do
  let s ← get
  let number := s.anchors.length
  set { s with anchors := (name, number) :: s.anchors.filter fun (n, _) => n != name }
  return number

/-- The number of an anchor that has been set. -/
def numberOf (name : List Char) : Reader Nat := do
  match (← get).anchors.lookup name with
  | some number => return number
  | none => failure

end Reader

/-- The anchor and tag of a node. -/
structure Properties where
  anchor : Option (List Char)
  tag : Option (List Char)

namespace Properties

/-- Reads an anchor, if there is one. -/
def anchor? : Reader (Option (List Char)) := do
  match ← Reader.peek with
  | some (.anchor name) =>
    Reader.advance
    return some name
  | _ => return none

/-- Reads a tag, if there is one. -/
def tag? (d : Directives) : Reader (Option (List Char)) := do
  match ← Reader.peek with
  | some (.tag handle suffix) =>
    Reader.advance
    match d.tag? handle suffix with
    | some tag => return some tag
    | none => failure
  | _ => return none

/-- Reads an anchor and a tag, which may stand in either order. -/
def read (d : Directives) : Reader Properties := do
  match ← anchor? with
  | some name => return ⟨some name, ← tag? d⟩
  | none =>
    let tag ← tag? d
    let anchor ← if tag.isSome then anchor? else pure none
    return ⟨anchor, tag⟩

/-- The number of the anchor. -/
def number (p : Properties) : Reader (Option Nat) :=
  match p.anchor with
  | some name => some <$> Reader.declare name
  | none => return none

end Properties

/-- Where a node stands. -/
inductive Place where
  /-- Inside brackets. -/
  | flow
  /-- An item of a block sequence, or the whole document. -/
  | block
  /-- A key or value of a block mapping, where a sequence needs no indentation. -/
  | pair
  deriving DecidableEq

namespace Node

/-- Reads a node, or takes the empty one if one of these tokens is next. -/
def orEmpty (ts : List Token) (read : Reader Node) : Reader Node := do
  if ← Reader.sees ts then return empty else read

mutual

/-- Reads a node, with a bound on the steps. -/
def read (d : Directives) : Nat → Place → Reader Node
  | 0, _ => failure
  | fuel + 1, place => do
    match ← Reader.peek with
    | some (.backReference name) =>
      Reader.advance
      return .backReference (← Reader.numberOf name)
    | _ =>
      let p ← Properties.read d
      let number ← p.number
      match ← Reader.peek with
      | some (.scalar text isPlain) =>
        Reader.advance
        return .scalar number (p.tag.filter (· != ['!'])) text isPlain
      | some .flowSequenceStart =>
        Reader.advance
        return .sequence number p.tag (← readFlowItems d fuel true)
      | some .flowMappingStart =>
        Reader.advance
        return .mapping number p.tag (← readFlowPairs d fuel true)
      | t =>
        -- The dashes may stand below the key itself, where no token opens a sequence.
        if place = .pair ∧ t = some .blockEntry then
          return .sequence number p.tag (← readLooseItems d fuel)
        else if place ≠ .flow ∧ t = some .blockSequenceStart then
          Reader.advance
          return .sequence number p.tag (← readBlockItems d fuel)
        else if place ≠ .flow ∧ t = some .blockMappingStart then
          Reader.advance
          return .mapping number p.tag (← readBlockPairs d fuel)
        -- An anchor or a tag with nothing behind it belongs to the empty scalar.
        else if p.anchor.isSome || p.tag.isSome then return .scalar number p.tag [] true
        else failure

/-- Reads the items of a block sequence up to its end. -/
def readBlockItems (d : Directives) : Nat → Reader (List Node)
  | 0 => failure
  | fuel + 1 => do
    if ← Reader.accept .blockEntry then
      let v ← orEmpty [.blockEntry, .blockEnd] (read d fuel .block)
      return v :: (← readBlockItems d fuel)
    else
      Reader.expect .blockEnd
      return []

/-- Reads the items of a sequence that is not indented. -/
def readLooseItems (d : Directives) : Nat → Reader (List Node)
  | 0 => failure
  | fuel + 1 => do
    if ← Reader.accept .blockEntry then
      let v ← orEmpty [.blockEntry, .key, .value, .blockEnd] (read d fuel .block)
      return v :: (← readLooseItems d fuel)
    else return []

/-- Reads the keys and values of a block mapping up to its end. -/
def readBlockPairs (d : Directives) : Nat → Reader (List (Node × Node))
  | 0 => failure
  | fuel + 1 => do
    if ← Reader.accept .key then
      -- Key and value may both be left out.
      let k ← orEmpty [.key, .value, .blockEnd] (read d fuel .pair)
      let v ← if ← Reader.accept .value then
          orEmpty [.key, .value, .blockEnd] (read d fuel .pair)
        else pure empty
      return (k, v) :: (← readBlockPairs d fuel)
    else
      Reader.expect .blockEnd
      return []

/-- Reads the items between brackets. A comma stands before each item but the first, and may stand
    before the closing bracket. -/
def readFlowItems (d : Directives) : Nat → Bool → Reader (List Node)
  | 0, _ => failure
  | fuel + 1, first => do
    if ← Reader.accept .flowSequenceEnd then return []
    else
      if ! first then Reader.expect .flowEntry
      -- A pair without braces is an item of its own.
      if ← Reader.accept .key then
        let pair ← readFlowPair d fuel
        return .mapping none none [pair] :: (← readFlowItems d fuel false)
      else if ← Reader.accept .flowSequenceEnd then return []
      else
        let v ← read d fuel .flow
        return v :: (← readFlowItems d fuel false)

/-- Reads the one pair of a mapping without braces, after its key indicator. The token that shows a
    key to be missing is passed over. -/
def readFlowPair (d : Directives) : Nat → Reader (Node × Node)
  | 0 => failure
  | fuel + 1 => do
    if ← Reader.sees [.value, .flowEntry, .flowSequenceEnd] then
      Reader.advance
      return (empty, ← readFlowPairValue d fuel)
    else
      let k ← read d fuel .flow
      return (k, ← readFlowPairValue d fuel)

/-- Reads the value of a mapping without braces. -/
def readFlowPairValue (d : Directives) : Nat → Reader Node
  | 0 => failure
  | fuel + 1 => do
    if ← Reader.accept .value then orEmpty [.flowEntry, .flowSequenceEnd] (read d fuel .flow)
    else return empty

/-- Reads the pairs between braces. -/
def readFlowPairs (d : Directives) : Nat → Bool → Reader (List (Node × Node))
  | 0, _ => failure
  | fuel + 1, first => do
    if ← Reader.accept .flowMappingEnd then return []
    else
      if ! first then Reader.expect .flowEntry
      if ← Reader.accept .key then
        let k ← orEmpty [.value, .flowEntry, .flowMappingEnd] (read d fuel .flow)
        let v ← if ← Reader.accept .value then
            orEmpty [.flowEntry, .flowMappingEnd] (read d fuel .flow)
          else pure empty
        return (k, v) :: (← readFlowPairs d fuel false)
      else if ← Reader.accept .flowMappingEnd then return []
      else
        let k ← read d fuel .flow
        return (k, empty) :: (← readFlowPairs d fuel false)

end

/-! ### Documents -/

/-- The tokens before which a document may be empty. -/
def isAfterContent : Token → Bool
  | .versionDirective .. | .tagDirective .. | .documentStart | .documentEnd | .streamEnd => true
  | _ => false

/-- Whether the first document starts without a marker. -/
def startsBare : Token → Bool
  | .versionDirective .. | .tagDirective .. | .documentStart | .streamEnd => false
  | _ => true

/-- Passes the markers after a document and the end of the stream. -/
def endStream? : List Token → Option Unit
  | .documentEnd :: rest => endStream? rest
  | [.streamEnd] => some ()
  | _ => none

/-- Reads a node and the end of the stream after it. -/
def readWhole? (d : Directives) (tokens : List Token) : Option Node := do
  let (v, s) ← (read d (4 * tokens.length + 4) .block).run ⟨tokens, []⟩
  endStream? s.tokens
  return v

/-- The node of a stream with at most one document. -/
def ofTokens? (tokens : List Token) : Option Node :=
  match tokens with
  | [.streamEnd] => some empty
  | t :: rest =>
    if startsBare t then readWhole? ⟨false, []⟩ (t :: rest)
    else do
      let (d, rest) ← (Directives.mk false []).read? tokens
      match rest with
      | .documentStart :: t :: rest =>
        if isAfterContent t then do
          endStream? (t :: rest)
          return empty
        else readWhole? d (t :: rest)
      | _ => none
  | [] => none

end Node

end LinkAtlas.Yaml
