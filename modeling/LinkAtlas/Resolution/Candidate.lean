import LinkAtlas.Document.Basic
import LinkAtlas.Path.Components
import LinkAtlas.Text.Blank

namespace LinkAtlas

/-!
# Readings of a path

A target that may be a path has up to three readings: from the directory of its document, from the
content root, and as an absolute path on disk.

* `Candidate` — one reading, normalized;
* `Candidate.ofTarget` — the readings of a target in the order they are tried;
* `Candidate.onDisk` — where a reading lies on disk.
-/

/-- One reading of a path. -/
inductive Candidate where
  /-- Relative to the content root. -/
  | rooted (path : String)
  /-- Absolute, if it exists. -/
  | absolute (path : String)
  deriving DecidableEq, Repr

namespace Candidate

/-- The target without fragment and without blanks at its ends. -/
def pathText (raw : String) : List Char := Text.trim (Path.withoutFragment raw.toList)

/-- The reading from the directory of a document, for a target that starts with `./` or `../`. -/
def fromDocument? (d : Document) (target : List Char) : Option Candidate :=
  if Path.isDocumentRelative target then
    (Path.resolveChars? d.directory.toList target).map fun p => .rooted (String.ofList p)
  else none

/-- The reading from the content root; slashes at the start stand for the root. -/
def fromRoot? (target : List Char) : Option Candidate :=
  ((Path.normalizeChars? (target.dropWhile (· == '/'))).filter (· != [])).map fun p =>
    .rooted (String.ofList p)

/-- The reading as an absolute path. -/
def fromDisk? (target : List Char) : Option Candidate :=
  if Path.isAbsolute target then
    (Path.normalizeChars? target).map fun p => .absolute (String.ofList p)
  else none

/-- The readings of a target in a document. -/
def ofTarget (d : Document) (raw : String) : List Candidate :=
  let target := pathText raw
  if target = [] then []
  else
    let first := (fromDocument? d target).toList
    first ++ (fromRoot? target).toList.filter (! first.contains ·) ++ (fromDisk? target).toList

/-- Where a reading lies on disk. -/
def onDisk (root : String) : Candidate → String
  | rooted p => Path.joined root p
  | absolute p => p

end Candidate

end LinkAtlas
