import LinkAtlas.Cycle
import LinkAtlas.Proofs.Growth
import LinkAtlas.Proofs.Schedule
import LinkAtlas.Proofs.Settlement
import LinkAtlas.Proofs.Accounts
import LinkAtlas.Proofs.Lookup
import LinkAtlas.Proofs.Summary
import LinkAtlas.Proofs.Fixpoint
import LinkAtlas.Proofs.Duplicates
import LinkAtlas.Proofs.Reordering
import LinkAtlas.Proofs.Decimal.Bits
import LinkAtlas.Proofs.ExactTitle
import LinkAtlas.Proofs.Decimal.Digits
import LinkAtlas.Proofs.Decimal.ReadBack
import LinkAtlas.Proofs.Json.Numeral
import LinkAtlas.Proofs.Json.Text
import LinkAtlas.Proofs.Json.Token
import LinkAtlas.Proofs.Json.Tree
import LinkAtlas.Proofs.Json.Record
import LinkAtlas.Proofs.RoundTrip
import LinkAtlas.Proofs.PathKeys
import LinkAtlas.Proofs.Directions
import LinkAtlas.Proofs.Classification
import LinkAtlas.Proofs.Components
import LinkAtlas.Proofs.Lines
import LinkAtlas.Proofs.LineReferences
import LinkAtlas.Proofs.LineNumbers
import LinkAtlas.Proofs.WellFormed
import LinkAtlas.Proofs.Anchors
import LinkAtlas.Proofs.Normalization
import LinkAtlas.Proofs.Containment
import LinkAtlas.Proofs.SmallLetters
import LinkAtlas.Proofs.Separators
import LinkAtlas.Proofs.Footprint
import LinkAtlas.Proofs.HeaderCut
import LinkAtlas.Proofs.ScoreOrder
import LinkAtlas.Proofs.Repair
import LinkAtlas.Proofs.TitleFallback
import LinkAtlas.Proofs.Enumeration
import LinkAtlas.Proofs.HeaderForms
import LinkAtlas.Proofs.CarriageReturns
import LinkAtlas.Proofs.PathText
import LinkAtlas.Proofs.FailureLog
