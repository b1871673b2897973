import LinkAtlas.Json.Record

namespace LinkAtlas

/-!
# Failures

* `Failure` — the kinds of failure, each with its detail;
* `Failure.kindName` — the name of a kind, `Failure.message` — the text shown to a user;
* `Failure.ofIo`, `Failure.ofDisk` — the failure for an operation on a file that did not succeed;
* `Failure.toJson`, `Failure.ofTree?` — failures as JSON.
-/

/-- Why an operation as a whole did not succeed. -/
inductive Failure where
  | config (detail : String)
  | header (detail : String)
  | io (detail : String)
  | notFound (detail : String)
  | permissionDenied
  | serialization (detail : String)
  deriving DecidableEq, Repr, Inhabited

/-- What can go wrong with a file. -/
inductive IoCause where
  | notFound
  | permissionDenied
  | interrupted
  | alreadyExists
  | invalidData
  | unexpectedEof
  | timedOut
  | isDirectory
  | notDirectory
  | tooManyLinks
  | other
  deriving DecidableEq, Repr

/-- The description of a cause. -/
def IoCause.description : IoCause → String
  | notFound => "entity not found"
  | permissionDenied => "permission denied"
  | interrupted => "operation interrupted"
  | alreadyExists => "entity already exists"
  | invalidData => "invalid data"
  | unexpectedEof => "unexpected end of file"
  | timedOut => "timed out"
  | isDirectory => "is a directory"
  | notDirectory => "not a directory"
  | tooManyLinks => "filesystem loop or indirection limit (e.g. symlink loop)"
  | other => "other error"

namespace Failure

/-- The name of a kind of failure. -/
def kindName : Failure → String
  | config _ => "Config"
  | header _ => "Header"
  | io _ => "Io"
  | notFound _ => "NotFound"
  | permissionDenied => "PermissionDenied"
  | serialization _ => "Serialization"

/-- The text of a failure. -/
def message : Failure → String
  | config s => "Configuration error: " ++ s
  | header s => "Invalid document header: " ++ s
  | io s => "File System error: " ++ s
  | notFound s => "Item Not Found: " ++ s
  | permissionDenied => "You do not have permission to access this resource"
  | serialization s => "(De)Serialization error: " ++ s

/-- The failure for a cause; the detail tells what was not found. -/
def ofIo (cause : IoCause) (detail : String) : Failure :=
  match cause with
  | .notFound => .notFound detail
  | .permissionDenied => .permissionDenied
  | cause => .io ("IOError: " ++ cause.description)

/-- The failure for a cause that a disk reports. -/
def ofDisk (cause : IoCause) : Failure := ofIo cause "No such file or directory (os error 2)"

/-- Text that is not the JSON of what is wanted. -/
def badJson : Failure := .serialization "JSON (de)serialization error: ..."

/-- Text that is not the TOML of what is wanted. -/
def badToml : Failure := .serialization "Toml deserialization error: ..."

/-- A pattern that is not well formed. -/
def badPattern (detail : String) : Failure := .serialization ("Regex parse failed: " ++ detail)

/-- The JSON form of a failure. -/
def toJson (f : Failure) : Json.Value :=
  match f with
  | config s | header s | io s | notFound s | serialization s => .object [(f.kindName, .text s)]
  | permissionDenied => .text f.kindName

/-- Reads a failure. -/
def ofTree? : Json.Tree → Option Failure
  | .object [(some "Config", t)] => t.string?.map config
  | .object [(some "Header", t)] => t.string?.map header
  | .object [(some "Io", t)] => t.string?.map io
  | .object [(some "NotFound", t)] => t.string?.map notFound
  | .object [(some "Serialization", t)] => t.string?.map serialization
  | t => if t.choice? = some "PermissionDenied" then some .permissionDenied else none

end Failure

end LinkAtlas
