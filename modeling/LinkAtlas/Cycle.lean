import LinkAtlas.Disk.Change
import LinkAtlas.Scan
import LinkAtlas.Snapshot

namespace LinkAtlas

/-!
# Cycles over a disk

* `Settings.fromFile`, `Settings.discover` — settings from a file, or from the file in a content
  root if there is one;
* `Cycle.scan` — scans the content root of settings, `Cycle.run` — makes a snapshot of it;
* `Snapshot.save`, `Snapshot.load` — writes a snapshot to a file and reads it back.

Each has a function for what is reported meanwhile.
-/

open Log (Event)

/-- The text of a file. -/
def Disk.readText (d : Disk) (path : String) : Except Failure String := do
  let bytes ← (d.contents path).mapError Failure.ofDisk
  (Text.Utf8.decode bytes).mapError fun _ => Failure.ofDisk .invalidData

namespace Settings

/-! ### Settings files -/

/-- Settings from a file. A relative root is read from the folder of the file. -/
def fromFile (d : Disk) (path : String) : Except Failure Settings := do
  let s ← parse (← d.readText path)
  if Path.isAbsolute s.root.toList then .ok s
  else .ok { s with root := Path.joined ((Path.parent? path).getD ".") s.root }

/-- The settings file of a content root. -/
def fileIn (root : String) : String := Path.joined root fileName

/-- Settings from the file in a content root, or the settings where nothing is said. -/
def discover (d : Disk) (root : String) : Except Failure Settings :=
  if d.exists? (fileIn root) then fromFile d (fileIn root) else .ok (default root)

/-- What is reported while settings are looked for. -/
def discoverEvents (d : Disk) (root : String) : List Event :=
  if d.exists? (fileIn root) then [.readingSettings (fileIn root)] else [.noSettings]

end Settings

namespace Cycle

/-! ### Scans -/

/-- The content root of settings without links, and what is below it. -/
def enumerate (d : Disk) (s : Settings) : Except Failure (String × Enumeration) := do
  let root ← (d.realPath s.root).mapError Failure.ofDisk
  return (root, ← d.enumerate { s with root := root })

/-- Scans a content root. -/
def scan (d : Disk) (s : Settings) : Except Failure Scan := do
  let (root, e) ← enumerate d s
  return Scan.run d.contents root e

/-- What is reported while a content root is scanned. -/
def scanEvents (d : Disk) (s : Settings) : List Event :=
  match enumerate d s with
  | .ok (root, e) => Scan.events d.contents root e
  | .error _ => []

/-! ### Snapshots -/

/-- The snapshot of a scan. -/
def assemble (d : Disk) (s : Scan) : Snapshot :=
  Snapshot.assemble d.exists? s.root s.documents s.diagnostics

/-- Scans a content root and makes a snapshot of it. -/
def run (d : Disk) (s : Settings) : Except Failure Snapshot := (scan d s).map (assemble d)

/-- What is reported at the end of a cycle. -/
def finished (s : Snapshot) : Event :=
  let r := s.report
  .cycled r.totalNodes r.validEdges r.brokenEdges r.ambiguousEdges r.orphans.length r.overall r.tier
    s.diagnostics.length

/-- What is reported during a cycle. -/
def events (d : Disk) (s : Settings) : List Event :=
  match scan d s with
  | .error _ => []
  | .ok found =>
    scanEvents d s ++ Snapshot.events d.exists? found.root found.documents ++
      [finished (assemble d found)]

end Cycle

namespace Snapshot

/-- The file that a snapshot is written to before it takes its place. -/
def stagingPath (path : String) : String := path ++ ".tmp"

/-- Writes a snapshot beside its place and moves it there. The disk is changed by the first step
    even when the second fails. -/
def save (s : Snapshot) (d : Disk) (path : String) : Disk × Except Failure Unit :=
  match d.store (stagingPath path) (Text.Utf8.encode s.toText) with
  | .error cause => (d, .error (Failure.ofDisk cause))
  | .ok staged =>
    match staged.rename (stagingPath path) path with
    | .error cause => (staged, .error (Failure.ofDisk cause))
    | .ok done => (done, .ok ())

/-- Reads a snapshot from a file. -/
def load (d : Disk) (path : String) : Except Failure Snapshot := do ofText (← d.readText path)

end Snapshot

end LinkAtlas
