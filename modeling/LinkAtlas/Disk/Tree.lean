import LinkAtlas.Failure
import LinkAtlas.Path.Components

namespace LinkAtlas

/-!
# A disk as a tree of folders

* `Disk.Node` — a file, a folder, or a link to a path; `Disk` — the entries of the root folder;
* `Disk.at?` — the node at a place, which is the list of names from the root folder to it;
* `Disk.put`, `Disk.erase` — sets or removes an entry at a place;
* `Disk.locate` — the place that a path leads to, links followed;
* `Disk.contents`, `Disk.exists?`, `Disk.realPath` — questions about a path.
-/

/-- What an entry of a folder is. -/
inductive Disk.Node where
  | file (bytes : List UInt8)
  | folder (entries : List (String × Disk.Node))
  | link (target : String)
  deriving Inhabited

/-- The entries of the root folder. -/
structure Disk where
  entries : List (String × Disk.Node)

namespace Disk

/-- A disk without files. -/
def empty : Disk := ⟨[]⟩

/-! ### Places -/

/-- The node below a folder at a place. -/
def Node.at? : Node → List String → Option Node
  | v, [] => some v
  | .folder entries, name :: rest => (entries.lookup name).bind fun v => v.at? rest
  | _, _ :: _ => none

/-- The node at a place. -/
def at? (d : Disk) (place : List String) : Option Node := (Node.folder d.entries).at? place

/-- Entries with one of them set; it keeps its place, a new one comes last. -/
def putEntry (name : String) (v : Node) : List (String × Node) → List (String × Node)
  | [] => [(name, v)]
  | (other, w) :: rest =>
    if other = name then (name, v) :: rest else (other, w) :: putEntry name v rest

/-- Changes the entries of the folder at a place. -/
def changeAt (f : List (String × Node) → List (String × Node)) :
    List String → List (String × Node) → List (String × Node)
  | [], entries => f entries
  | name :: rest, entries =>
    match entries.lookup name with
    | some (.folder inner) => putEntry name (.folder (changeAt f rest inner)) entries
    | _ => entries

/-- Sets the entry at a place whose folder exists. -/
def put (d : Disk) (place : List String) (v : Node) : Disk :=
  match place.getLast? with
  | some name => ⟨changeAt (putEntry name v) place.dropLast d.entries⟩
  | none => d

/-- Removes the entry at a place. -/
def erase (d : Disk) (place : List String) : Disk :=
  match place.getLast? with
  | some name => ⟨changeAt (·.filter (·.1 != name)) place.dropLast d.entries⟩
  | none => empty

/-! ### Paths -/

/-- How the last component of a path is taken. -/
inductive Aim where
  /-- The entry must exist, and a link is followed. -/
  | through
  /-- The entry must exist, and a link stands for itself. -/
  | entry
  /-- The entry may be new, and a link is followed. -/
  | target
  /-- The entry may be new, and a link stands for itself. -/
  | slot
  deriving DecidableEq

namespace Aim

/-- Whether the last component may be a new name. -/
def allowsNew : Aim → Bool
  | target | slot => true
  | through | entry => false

/-- Whether a link at the end is followed. -/
def follows : Aim → Bool
  | through | target => true
  | entry | slot => false

end Aim

/-- The most links that a path may lead through. -/
def maxLinks : Nat := 40

/-- The place that components lead to from a place, with the number of links left. -/
def locateFrom (d : Disk) (aim : Aim) (links : Nat) (place : List String) (ps : List Path.Part) :
    Except IoCause (List String) :=
  match ps with
  | [] => .ok place
  | p :: rest =>
    match d.at? place with
    | some (.folder entries) =>
      match p with
      | .root => locateFrom d aim links [] rest
      | .here => locateFrom d aim links place rest
      | .up => locateFrom d aim links place.dropLast rest
      | .name s =>
        let name := String.ofList s
        match entries.lookup name with
        | none => if rest = [] ∧ aim.allowsNew then .ok (place ++ [name]) else .error .notFound
        | some (.link target) =>
          -- A link in the middle of a path is always followed.
          if rest = [] ∧ ¬ aim.follows then .ok (place ++ [name])
          else
            match links with
            | 0 => .error .tooManyLinks
            | links + 1 => locateFrom d aim links place (Path.parts target ++ rest)
        | some _ => locateFrom d aim links (place ++ [name]) rest
    | some _ => .error .notDirectory
    | none => .error .notFound
-- The components of a link make the path longer, but then fewer links are left.
termination_by (links, ps.length)

/-- Whether a path can only be a folder, because nothing or a `.` stands after its last slash. -/
def namesFolder (path : String) : Bool :=
  match path.toList.reverse with
  | '/' :: _ => true
  | '.' :: '/' :: _ => true
  | _ => false

/-- The place that a path leads to. -/
def locate (d : Disk) (aim : Aim) (path : String) : Except IoCause (List String) := do
  if path = "" then .error .notFound
  else
    let place ← locateFrom d aim maxLinks [] (Path.parts path)
    match d.at? place with
    | some (.file _) => if namesFolder path then .error .notDirectory else .ok place
    | _ => .ok place

/-- The node that a path leads to. -/
def find (d : Disk) (path : String) : Except IoCause Node := do
  match d.at? (← d.locate .through path) with
  | some v => .ok v
  | none => .error .notFound

/-- Whether a path leads to something. -/
def exists? (d : Disk) (path : String) : Bool := (d.find path).toOption.isSome

/-- The octets of the file that a path leads to. -/
def contents (d : Disk) (path : String) : Except IoCause (List UInt8) := do
  match ← d.find path with
  | .file bytes => .ok bytes
  | _ => .error .isDirectory

/-- The path of a place. -/
def pathOf (place : List String) : String := "/" ++ "/".intercalate place

/-- The path without links, `.` and `..` of what a path leads to. -/
def realPath (d : Disk) (path : String) : Except IoCause String :=
  (d.locate .through path).map pathOf

end Disk

end LinkAtlas
