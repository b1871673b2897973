import LinkAtlas.Decimal.Layout
import LinkAtlas.Diagnostic
import LinkAtlas.Header.Metadata
import LinkAtlas.Health.Tier
import LinkAtlas.Resolution.Stage
import LinkAtlas.Text.Quoted

namespace LinkAtlas.Log

/-!
# Events

* `Level` — the importance of an event;
* `Event` — what is reported while a graph is built;
* `Event.level`, `Event.text` — how an event is shown.
-/

/-- The importance of an event. -/
inductive Level where
  | trace
  | debug
  | info
  | warn
  deriving DecidableEq, Repr

/-- The name of a level. -/
def Level.name : Level → String
  | trace => "TRACE"
  | debug => "DEBUG"
  | info => "INFO"
  | warn => "WARN"

/-- What is reported while a graph is built. -/
inductive Event where
  /-- A stage settled a reference of a document. -/
  | settled (id rawTarget : String) (stage : Stage) (strategy : Strategy)
  /-- No stage settled a reference. -/
  | broken (id : String) (line : Nat) (rawTarget : String)
  /-- The source file of a code reference does not exist. -/
  | missingCode (id : String) (line : Nat) (path : String)
  /-- Several documents match a reference. -/
  | ambiguous (rawTarget source : String) (line : Nat) (ids : List String)
  /-- A header was read. -/
  | parsedHeader (form : Header.Form)
  /-- A describing field of a header says nothing that is known. -/
  | ignoredField (key : String) (value : Json.Value)
  /-- The id of a document belongs to another one in the catalog. -/
  | idTaken (id path kept : String)
  /-- Two titles are the same up to spelling. -/
  | titleShared (key owner id : String)
  /-- A catalog is complete. -/
  | cataloged (documents paths aliases titles : Nat)
  /-- A valid reference leads to a document that is not in the corpus. -/
  | outside (id target : String)
  /-- A corpus was scored. -/
  | scored (documents valid total orphans : Nat) (overall : Float) (tier : Tier)
  /-- There is no settings file. -/
  | noSettings
  /-- A settings file is read. -/
  | readingSettings (path : String)
  /-- Files were found. -/
  | scanning (files : Nat)
  /-- A document is read. -/
  | reading (path : String)
  /-- A document is left out. -/
  | excluding (d : Diagnostic)
  /-- A document is left out of a scan because of its id. -/
  | idRepeated (id path kept : String)
  /-- A scan is complete. -/
  | scanned (documents excluded : Nat)
  /-- A cycle is complete. -/
  | cycled (documents valid broken ambiguous orphans : Nat) (overall : Float) (tier : Tier)
      (diagnostics : Nat)
  /-- A snapshot was written. -/
  | wroteSnapshot (path : String)

namespace Event

/-- The level of an event. -/
def level : Event → Level
  | settled .. => .trace
  | ambiguous .. | idTaken .. | excluding .. | idRepeated .. => .warn
  | scanned .. | cycled .. => .info
  | _ => .debug

/-- The digits of a number. -/
def digits (n : Nat) : String := String.ofList (Decimal.natText n)

/-- A score and its tier. -/
def scoreText (overall : Float) (tier : Tier) : String :=
  "overall " ++ String.ofList (Decimal.fixedOne overall) ++ " (" ++ tier.name ++ ")"

/-- The text of an event. -/
def text : Event → String
  | settled id raw stage strategy =>
    id ++ " -> '" ++ raw ++ "' settled by " ++ stage.name ++ " stage as " ++ strategy.name
  | broken id line raw =>
    "Broken reference in '" ++ id ++ "' (line " ++ digits line ++ "): '" ++ raw ++ "'"
  | missingCode id line path =>
    "Code reference in '" ++ id ++ "' (line " ++ digits line ++ ") points at missing path '" ++
      path ++ "'"
  | ambiguous raw source line ids =>
    "Ambiguous reference '" ++ raw ++ "' in '" ++ source ++ "' (line " ++ digits line ++ "): " ++
      digits ids.length ++ " nodes match (" ++ ", ".intercalate ids ++ ")"
  | parsedHeader form => "Parsed header as " ++ form.name
  | ignoredField key v =>
    "Ignoring unrecognised header field '" ++ key ++ "': " ++ v.toText
  | idTaken id path kept =>
    "Index: duplicate id '" ++ id ++ "' at " ++ path ++ " ignored (kept " ++ kept ++ ")"
  | titleShared key owner id =>
    "Index: normalized title '" ++ key ++ "' shared by '" ++ owner ++ "' and '" ++ id ++ "'"
  | cataloged documents paths aliases titles =>
    "Index built: " ++ digits documents ++ " nodes, " ++ digits paths ++ " paths, " ++
      digits aliases ++ " alias keys, " ++ digits titles ++ " normalized keys"
  | outside id target =>
    "Valid reference from '" ++ id ++ "' points outside the corpus: '" ++ target ++ "'"
  | scored documents valid total orphans overall tier =>
    "Health: " ++ digits documents ++ " nodes, " ++ digits valid ++ "/" ++ digits total ++
      " valid edges, " ++ digits orphans ++ " orphans, " ++ scoreText overall tier
  | noSettings => "Config file not found, using defaults."
  | readingSettings path => "Reading config from: " ++ Text.quoted path
  | scanning files => "Scanning " ++ digits files ++ " candidate documents"
  | reading path => "Reading " ++ Text.quoted path
  | excluding d => "Excluding document: " ++ d.message
  | idRepeated id path kept =>
    "Duplicate id '" ++ id ++ "' in " ++ path ++ " (already used by " ++ kept ++ ")"
  | scanned documents excluded =>
    "Scanned " ++ digits documents ++ " documents (" ++ digits excluded ++ " excluded)"
  | cycled documents valid bad unclear orphans overall tier diagnostics =>
    "Cycle complete: " ++ digits documents ++ " nodes, " ++ digits valid ++ " valid / " ++
      digits bad ++ " broken / " ++ digits unclear ++ " ambiguous edges, " ++
      digits orphans ++ " orphans, " ++ scoreText overall tier ++ ", " ++ digits diagnostics ++
      " diagnostics"
  | wroteSnapshot path => "Wrote graph snapshot to " ++ Text.quoted path

end Event

end LinkAtlas.Log
