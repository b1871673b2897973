import LinkAtlas.Diagnostic
import LinkAtlas.Disk.Tree
import LinkAtlas.Path.Order
import LinkAtlas.Settings
import LinkAtlas.Text.Quoted

namespace LinkAtlas

/-!
# The documents of a folder

* `Enumeration` — the files found, and the entries that could not be visited;
* `Disk.filesBelow` — the documents below a folder: hidden entries, excluded folders and links are
  passed over;
* `Disk.enumerate` — the documents below the root of settings, in the order of their paths.
-/

/-- What was found below a content root. -/
structure Enumeration where
  files : List String
  diagnostics : List Diagnostic

namespace Disk

/-- Whether an entry is hidden. -/
def isHidden (name : String) : Bool := name.toList.head? == some '.'

mutual

/-- The documents at and below an entry with a name, in a folder at a path. -/
def filesAt (s : Settings) (path name : String) : Node → List String
  | .file _ =>
    let p := Path.joined path name
    if ! isHidden name && s.matchesExtension p then [p] else []
  | .folder entries =>
    if isHidden name || s.exclude.contains name then []
    else filesBelow s (Path.joined path name) entries
  | .link _ => []

/-- The documents among entries of a folder at a path and below them. -/
def filesBelow (s : Settings) (path : String) : List (String × Node) → List String
  | [] => []
  | (name, v) :: rest => filesAt s path name v ++ filesBelow s path rest

end

/-- The documents below the root of settings. -/
def enumerate (d : Disk) (s : Settings) : Except Failure Enumeration :=
  match d.find s.root with
  | .ok (.folder entries) => .ok ⟨(filesBelow s s.root entries).mergeSort Path.le, []⟩
  | _ => .error (.notFound ("content root " ++ Text.quoted s.root ++ " is not a directory"))

end Disk

end LinkAtlas
