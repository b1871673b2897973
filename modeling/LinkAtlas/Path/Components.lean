import LinkAtlas.Path.Lexical

namespace LinkAtlas.Path

/-!
# Paths as component sequences

A location on disk is a sequence of components. Repeated and trailing slashes do not matter, nor
does a `.` after the first component; `..` is kept, because what it means depends on the disk.

A path is a text, so the names on a disk are taken to be UTF-8. A name of other octets has a text in
which these are replaced, and two such names may share it; it is not told here what becomes of it.

* `Part`, `parts` — the components of a path;
* `render` — their text, and `ofParts` the canonical path with given components;
* `ofText` — the path that such a text names on disk;
* `relativeTo` — the text of a path below a directory;
* `joined` — a path read from a directory without normalization;
* `stem?`, `extension?`, `parent?` — the pieces of a path around its last component.
-/

/-- One component of a path. -/
inductive Part where
  /-- The slash that an absolute path starts with. -/
  | root
  /-- A `.` at the very start. -/
  | here
  /-- A `..`. -/
  | up
  | name (s : List Char)
  deriving DecidableEq, Repr

/-- The component that a piece of text between slashes stands for, when it is not the first piece. -/
def innerPart? (s : List Char) : Option Part :=
  if s = [] ∨ s = ['.'] then none
  else if s = ['.', '.'] then some .up
  else some (.name s)

/-- The components of a path. -/
def partsOf (s : List Char) : List Part :=
  match s with
  | '/' :: rest => .root :: (splitSlash rest).filterMap innerPart?
  | _ =>
    match splitSlash s with
    | ['.'] :: rest => .here :: rest.filterMap innerPart?
    | pieces => pieces.filterMap innerPart?

/-- `partsOf` on a `String`. -/
def parts (s : String) : List Part := partsOf s.toList

/-- The text of one component. -/
def Part.text : Part → List Char
  | .root => []
  | .here => ['.']
  | .up => ['.', '.']
  | .name s => s

/-- Components with slashes between them; the root alone is a slash. -/
def ofParts (ps : List Part) : List Char :=
  if ps = [.root] then ['/'] else joinSlash (ps.map Part.text)

/-- The canonical text of a path. -/
def render (s : String) : String := String.ofList (ofParts (parts s))

/-- The character between the components of a path on disk. -/
def separator : Char := '/'

/-- The path on disk that a text with slashes between its components names. -/
def ofText (s : String) : String :=
  String.ofList (s.toList.map fun c => if c = '/' then separator else c)

/-- The components of `path` after those of `dir`; none when it does not lie below `dir`. -/
def below? (dir path : List Part) : Option (List Part) :=
  if dir.isPrefixOf path then some (path.drop dir.length) else none

/-- The canonical text of a path, without the directory if it lies below it. -/
def relativeTo (dir path : String) : String :=
  String.ofList (ofParts ((below? (parts dir) (parts path)).getD (parts path)))

/-- A path read from a directory: an absolute path as it is, any other behind the directory. -/
def joinedChars (dir path : List Char) : List Char :=
  if isAbsolute path || dir.isEmpty then path
  else if dir.getLast? = some '/' then dir ++ path
  else dir ++ '/' :: path

/-- `joinedChars` on `String`s. -/
def joined (dir path : String) : String := String.ofList (joinedChars dir.toList path.toList)

/-! ### The last component -/

/-- The last component, if it is a name. -/
def fileName? (s : String) : Option (List Char) :=
  match (parts s).getLast? with
  | some (.name n) => some n
  | _ => none

/-- A file name cut at its last dot; a dot that starts the name does not count. -/
def splitName (n : List Char) : List Char × Option (List Char) :=
  let tail := (n.reverse.takeWhile (· != '.')).reverse
  let front := n.take (n.length - tail.length - 1)
  if tail.length = n.length ∨ front = [] then (n, none) else (front, some tail)

/-- The file name without its extension. -/
def stem? (s : String) : Option String :=
  (fileName? s).map fun n => String.ofList (splitName n).1

/-- What follows the last dot of the file name. -/
def extension? (s : String) : Option (List Char) := (fileName? s).bind fun n => (splitName n).2

/-- Drops slashes and `.` components at the end of a path that is not only the root. -/
def dropIdle (reversed : List Char) : List Char :=
  match reversed with
  | '/' :: rest => if rest = [] then ['/'] else dropIdle rest
  | '.' :: '/' :: rest => if rest = [] then ['/'] else dropIdle ('/' :: rest)
  | s => s

/-- The path without its last component; none for the root and for the empty path. -/
def parent? (s : String) : Option String :=
  match parts s with
  | [] | [.root] => none
  | _ =>
    let reversed := dropIdle s.toList.reverse
    let rest := reversed.dropWhile (· != '/')
    some (String.ofList (dropIdle rest).reverse)

end LinkAtlas.Path
