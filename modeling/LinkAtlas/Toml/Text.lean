import LinkAtlas.Json.Text

namespace LinkAtlas.Toml

/-!
# TOML text: gaps, strings and keys

* `Reader` — a step that takes characters or fails;
* `skipBlanks`, `endLine`, `skipGap` — blanks, the end of a line with its comment, and lines
  between the items of an array;
* `string` — a string between one or three quotation marks or apostrophes;
* `key` — a key, and `path` — keys joined by dots.
-/

/-- A step that takes characters or fails. -/
abbrev Reader := StateT (List Char) Option

namespace Reader

/-- The next character. -/
def peek : Reader (Option Char) := do return (← get).head?

/-- Whether a text comes next. -/
def sees (s : String) : Reader Bool := do return s.toList.isPrefixOf (← get)

/-- Passes `n` characters. -/
def skip (n : Nat) : Reader Unit := modify (·.drop n)

/-- Passes a text if it comes next, and says whether it did. -/
def accept (s : String) : Reader Bool := do
  if ← sees s then
    skip s.length
    return true
  else return false

/-- Passes a text that must come next. -/
def expect (s : String) : Reader Unit := do
  if ! (← accept s) then failure

/-- Takes the characters of a class that come next. -/
def takeWhile (p : Char → Bool) : Reader (List Char) := do
  let s ← get
  set (s.dropWhile p)
  return s.takeWhile p

/-- Applies a function on the text ahead. -/
def lift {α : Type} (f : List Char → Option (α × List Char)) : Reader α := f

end Reader

/-! ### Gaps -/

/-- A tab, or a character that is no control character. -/
def isTextChar (c : Char) : Bool := c == '\t' || (0x20 ≤ c.toNat && c.toNat != 0x7F)

/-- Passes spaces and tabs. -/
def skipBlanks : Reader Unit := do
  let _ ← Reader.takeWhile fun c => c == ' ' || c == '\t'

/-- Passes a comment, if there is one. -/
def skipComment : Reader Unit := do
  if (← Reader.peek) == some '#' then
    let _ ← Reader.takeWhile isTextChar

/-- Passes a line break, if there is one, and says whether it was there. -/
def acceptBreak : Reader Bool := do
  if ← Reader.accept "\n" then return true else Reader.accept "\r\n"

/-- Passes blanks and a comment up to the end of the line. -/
def endLine : Reader Unit := do
  skipBlanks
  skipComment
  if ! (← acceptBreak) && (← Reader.peek).isSome then failure

/-- Passes blanks, comments and line breaks, with a bound on their number. -/
def skipGapWithin : Nat → Reader Unit
  | 0 => return ()
  | fuel + 1 => do
    skipBlanks
    skipComment
    if ← acceptBreak then skipGapWithin fuel

/-- Passes blanks, comments and line breaks. -/
def skipGap : Reader Unit := do skipGapWithin ((← get).length + 1)

/-! ### Strings -/

/-- The character with a number written in hexadecimal digits. -/
def charOfHex? (ds : List Char) : Option Char := do
  let n ← ds.foldlM (fun n d => (Json.hexValue? d).map (16 * n + ·)) 0
  if n < 0xD800 ∨ (0xE000 ≤ n ∧ n < 0x110000) then some (Char.ofNat n) else none

/-- The character that an escape stands for, and the rest. -/
def escape? : List Char → Option (Char × List Char)
  | 'b' :: rest => some ('\x08', rest)
  | 't' :: rest => some ('\t', rest)
  | 'n' :: rest => some ('\n', rest)
  | 'f' :: rest => some ('\x0c', rest)
  | 'r' :: rest => some ('\r', rest)
  | '"' :: rest => some ('"', rest)
  | '\\' :: rest => some ('\\', rest)
  | 'u' :: rest =>
    -- Four digits or eight, and no fewer.
    if rest.length < 4 then none else (charOfHex? (rest.take 4)).map (·, rest.drop 4)
  | 'U' :: rest =>
    if rest.length < 8 then none else (charOfHex? (rest.take 8)).map (·, rest.drop 8)
  | _ => none

/-- The text up to a quotation mark, with a bound on the steps. -/
def basic? : Nat → List Char → Option (List Char × List Char)
  | 0, _ => none
  | _ + 1, [] => none
  | fuel + 1, c :: rest =>
    if c = '"' then some ([], rest)
    else if c = '\\' then do
      let (d, rest) ← escape? rest
      let (t, rest) ← basic? fuel rest
      return (d :: t, rest)
    else if isTextChar c then (basic? fuel rest).map fun (t, rest) => (c :: t, rest)
    else none

/-- The text up to an apostrophe. -/
def literal? : List Char → Option (List Char × List Char)
  | [] => none
  | c :: rest =>
    if c = '\'' then some ([], rest)
    else if isTextChar c then (literal? rest).map fun (t, rest) => (c :: t, rest)
    else none

/-- The text after a backslash at the end of a line, without the blanks and line breaks that
    follow. -/
def continued? (s : List Char) : Option (List Char) :=
  let isGap := fun c => c == ' ' || c == '\t'
  let rec skip : List Char → List Char
    | '\r' :: '\n' :: rest => skip rest
    | '\n' :: rest => skip rest
    | ' ' :: rest => skip rest
    | '\t' :: rest => skip rest
    | rest => rest
  match s.dropWhile isGap with
  -- Behind the line break all blanks and breaks are skipped, also those of empty lines.
  | '\n' :: rest => some (skip rest)
  | '\r' :: '\n' :: rest => some (skip rest)
  | _ => none

/-- The text up to three marks of a kind, over several lines. Two marks more may stand before
    them. Escapes are read where `escapes` says so. -/
def multiline? (mark : Char) (escapes : Bool) : Nat → List Char → Option (List Char × List Char)
  | 0, _ => none
  | _ + 1, [] => none
  | fuel + 1, c :: rest =>
    if c = mark then
      let n := ((c :: rest).takeWhile (· == mark)).length
      if n < 3 then
        (multiline? mark escapes fuel ((c :: rest).drop n)).map fun (t, rest) =>
          (List.replicate n mark ++ t, rest)
      else
        -- Up to two marks may stand before the closing three.
        let n := min n 5
        some (List.replicate (n - 3) mark, (c :: rest).drop n)
    else if escapes && c == '\\' then
      match continued? rest with
      | some rest => multiline? mark escapes fuel rest
      | none => do
        let (d, rest) ← escape? rest
        let (t, rest) ← multiline? mark escapes fuel rest
        return (d :: t, rest)
    -- A carriage return counts with its line break only.
    else if c = '\r' then
      match rest with
      | '\n' :: rest => (multiline? mark escapes fuel rest).map fun (t, rest) => ('\n' :: t, rest)
      | _ => none
    else if isTextChar c || c == '\n' then
      (multiline? mark escapes fuel rest).map fun (t, rest) => (c :: t, rest)
    else none

/-- A string of one line. -/
def lineString : Reader (List Char) := do
  if ← Reader.accept "\"" then Reader.lift fun s => basic? (s.length + 1) s
  else
    Reader.expect "'"
    Reader.lift literal?

/-- A string. -/
def string : Reader (List Char) := do
  if ← Reader.accept "\"\"\"" then
    let _ ← acceptBreak
    Reader.lift fun s => multiline? '"' true (s.length + 1) s
  else if ← Reader.accept "'''" then
    let _ ← acceptBreak
    Reader.lift fun s => multiline? '\'' false (s.length + 1) s
  else lineString

/-! ### Keys -/

/-- A character of a key without quotation marks. -/
def isKeyChar (c : Char) : Bool := c.isAlphanum || c == '_' || c == '-'

/-- A single key. -/
def key : Reader String := do
  match ← Reader.peek with
  | some c =>
    if c = '"' ∨ c = '\'' then return String.ofList (← lineString)
    else
      let name ← Reader.takeWhile isKeyChar
      if name.isEmpty then failure else return String.ofList name
  | none => failure

/-- A key in front of one it leads to is one level; there are fewer than eighty. -/
def maxLevels : Nat := 79

/-- Keys joined by dots, with a bound on their number. -/
def pathWithin : Nat → Reader (List String)
  | 0 => failure
  | fuel + 1 => do
    skipBlanks
    let k ← key
    skipBlanks
    if ← Reader.accept "." then return k :: (← pathWithin fuel) else return [k]

/-- Keys joined by dots. -/
def path : Reader (List String) := pathWithin maxLevels

end LinkAtlas.Toml
