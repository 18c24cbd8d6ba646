import Roster.Avatar
import Roster.Binary.Fault
import Roster.Binary.Reader
import Roster.Binary.Writer
import Roster.Decimal.Digit
import Roster.Decimal.Layout
import Roster.Decimal.Shortest
import Roster.Digest.Blake3
import Roster.Group.Basic
import Roster.Group.Command
import Roster.Group.Equality
import Roster.Group.Fault
import Roster.Group.Inspect
import Roster.Group.Membership
import Roster.Group.Validity
import Roster.GroupId
import Roster.GroupKind
import Roster.Journal
import Roster.Json.Container
import Roster.Json.Fault
import Roster.Json.Field
import Roster.Json.Group
import Roster.Json.Number
import Roster.Json.Numeral
import Roster.Json.Position
import Roster.Json.Reader
import Roster.Json.Scalar
import Roster.Json.Skip
import Roster.Json.Text
import Roster.Json.Token
import Roster.Json.Writer
import Roster.MemberSet
import Roster.Proofs.Binary.Canonical
import Roster.Proofs.Binary.Extension
import Roster.Proofs.Binary.Listing
import Roster.Proofs.Binary.Loading
import Roster.Proofs.Binary.RoundTrip
import Roster.Proofs.Group.Breach
import Roster.Proofs.Group.Congruence
import Roster.Proofs.Group.Demotion
import Roster.Proofs.Group.Edits
import Roster.Proofs.Group.Effects
import Roster.Proofs.Group.History
import Roster.Proofs.Group.Independence
import Roster.Proofs.Group.Invariants
import Roster.Proofs.Group.Observation
import Roster.Proofs.Group.Refusal
import Roster.Proofs.Group.Standing
import Roster.Proofs.Group.Verdict
import Roster.Proofs.GroupId.Order
import Roster.Proofs.GroupId.Spelling
import Roster.Proofs.GroupKind.Label
import Roster.Proofs.Json.Container
import Roster.Proofs.Json.Cut
import Roster.Proofs.Json.Extension
import Roster.Proofs.Json.Loading
import Roster.Proofs.Json.Members
import Roster.Proofs.Json.Numeral
import Roster.Proofs.Json.RoundTrip
import Roster.Proofs.Json.Shape
import Roster.Proofs.Json.Spelling
import Roster.Proofs.Json.Text
import Roster.Proofs.Json.Truncation
import Roster.Proofs.Json.Value
import Roster.Proofs.MemberSet
import Roster.Proofs.Session.Audit
import Roster.Proofs.Session.Removal
import Roster.Proofs.Session.Restore
import Roster.Proofs.Text.Hex
import Roster.Proofs.Text.Pieces
import Roster.Proofs.Text.Uppercase
import Roster.Proofs.Text.Utf8
import Roster.Proofs.Text.Utf8Canonical
import Roster.Proofs.Text.Utf8Order
import Roster.Proofs.Update.Account
import Roster.Proofs.Update.Changes
import Roster.Proofs.Update.Composition
import Roster.Proofs.Update.Congruence
import Roster.Proofs.Update.Difference
import Roster.Proofs.Update.Discretion
import Roster.Proofs.Update.Equality
import Roster.Proofs.Update.History
import Roster.Proofs.Update.Journal
import Roster.Proofs.Update.Notice
import Roster.Proofs.Update.Rendering
import Roster.Proofs.Update.Replay
import Roster.Proofs.Update.Reversal
import Roster.Release
import Roster.Session
import Roster.Text.Blank
import Roster.Text.CodeRange
import Roster.Text.Hex
import Roster.Text.Hidden
import Roster.Text.Quoted
import Roster.Text.Uppercase
import Roster.Text.Utf8
import Roster.Update.Basic
import Roster.Update.Describer
