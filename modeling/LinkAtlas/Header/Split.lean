import LinkAtlas.Header.Fault
import LinkAtlas.Text.Blank
import LinkAtlas.Text.Lines

namespace LinkAtlas.Header

/-!
# Header and body of a document

A header stands at the very start of a document between a line `---` and a line `---` or `...`.

* `isFence`, `isClosingFence` — the lines around a header;
* `Split` — header, body, and the number of lines before the body;
* `split` — splits a document; a header without a closing line is a fault.
-/

/-- The line before a header. -/
def isFence (line : List Char) : Bool := Text.trimEnd line == ['-', '-', '-']

/-- The line after a header. -/
def isClosingFence (line : List Char) : Bool := isFence line || Text.trimEnd line == ['.', '.', '.']

/-- The parts of a document. -/
structure Split where
  header : Option (List Char)
  body : List Char
  /-- The number of lines before the body. -/
  offset : Nat
  deriving DecidableEq, Repr

/-- A text without a byte-order mark at its start. -/
def withoutMark : List Char → List Char
  | '\ufeff' :: rest => rest
  | s => s

/-- Splits a text that has no byte-order mark. -/
def splitPlain (s : List Char) : Except Fault Split :=
  match Text.lines s with
  | [] => .ok ⟨none, s, 0⟩
  | first :: rest =>
    if isFence first then
      let block := rest.takeWhile (! isClosingFence ·)
      match rest.drop block.length with
      | [] => .error .unclosed
      | _ :: body => .ok ⟨some block.flatten, body.flatten, block.length + 2⟩
    else .ok ⟨none, s, 0⟩

/-- Splits a document. -/
def split (s : List Char) : Except Fault Split := splitPlain (withoutMark s)

/-- The empty document has no header. -/
@[simp] theorem split_nil : split [] = .ok ⟨none, [], 0⟩ := rfl

end LinkAtlas.Header
