import LinkAtlas.Disk.Tree

namespace LinkAtlas.Disk

/-!
# Changes of a disk

* `store` — creates or replaces a file, `rename` — moves a file over another entry;
* `makeFolders` — creates a folder with those it lies in;
* `remove` — removes an entry with all below it, `makeLink` — creates a link.
-/

/-- Creates a file in an existing folder, or replaces its octets. -/
def store (d : Disk) (path : String) (bytes : List UInt8) : Except IoCause Disk := do
  let place ← d.locate .target path
  match d.at? place with
  | some (.folder _) => .error .isDirectory
  | some _ => .ok (d.put place (.file bytes))
  | none => if namesFolder path then .error .isDirectory else .ok (d.put place (.file bytes))

/-- Moves an entry that is no folder to a path, over what is there. -/
def rename (d : Disk) (source target : String) : Except IoCause Disk := do
  let origin ← d.locate .entry source
  let place ← d.locate .slot target
  match d.at? origin, d.at? place with
  | some _, some (.folder _) => .error .isDirectory
  | some v, _ => .ok ((d.erase origin).put place v)
  | none, _ => .error .notFound

/-- Creates the folder at a path if there is nothing. -/
def makeFolder (d : Disk) (isLast : Bool) (path : String) : Except IoCause Disk := do
  let place ← d.locate .target path
  match d.at? place with
  | none => .ok (d.put place (.folder []))
  | some (.folder _) => .ok d
  | some _ => .error (if isLast then .alreadyExists else .notDirectory)

/-- Creates the folders at paths one after the other. -/
def makeEach (d : Disk) : List String → Except IoCause Disk
  | [] => .ok d
  | path :: rest => do (← d.makeFolder rest.isEmpty path).makeEach rest

/-- Creates the folder at a path and those it lies in. -/
def makeFolders (d : Disk) (path : String) : Except IoCause Disk :=
  let ps := Path.parts path
  let starts := (List.range ps.length).map fun n => String.ofList (Path.ofParts (ps.take (n + 1)))
  d.makeEach (starts.filter (· != "/"))

/-- Removes what is at a path, a folder with all that is in it. -/
def remove (d : Disk) (path : String) : Except IoCause Disk := do
  return d.erase (← d.locate .entry path)

/-- Creates a link in an existing folder. -/
def makeLink (d : Disk) (path target : String) : Except IoCause Disk := do
  let place ← d.locate .slot path
  match d.at? place with
  | none => .ok (d.put place (.link target))
  | some _ => .error .alreadyExists

end LinkAtlas.Disk
