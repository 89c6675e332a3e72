import Renumber.Catalog.Basic
import Renumber.Catalog.Index
import Renumber.Catalog.Revision
import Renumber.Command.Arguments
import Renumber.Command.Failure
import Renumber.Command.Host
import Renumber.Command.Run
import Renumber.Error
import Renumber.Files.Name
import Renumber.Files.Path
import Renumber.Files.Tree
import Renumber.Header.Basic
import Renumber.Header.Comment
import Renumber.Header.Line
import Renumber.Header.Tally
import Renumber.Header.TokenChoice
import Renumber.Main
import Renumber.Message
import Renumber.Pattern.Assertion
import Renumber.Pattern.Basic
import Renumber.Pattern.Bracket
import Renumber.Pattern.ByteSequence
import Renumber.Pattern.CharSet
import Renumber.Pattern.Escape
import Renumber.Pattern.Expr
import Renumber.Pattern.Flags
import Renumber.Pattern.Footprint
import Renumber.Pattern.NamedSet
import Renumber.Pattern.Program
import Renumber.Pattern.Property
import Renumber.Pattern.Reader
import Renumber.Pattern.Search
import Renumber.Proofs.Catalog.Build
import Renumber.Proofs.Catalog.Construction
import Renumber.Proofs.Catalog.Index
import Renumber.Proofs.Catalog.Partition
import Renumber.Proofs.Catalog.Refusal
import Renumber.Proofs.Command.Alongside
import Renumber.Proofs.Command.Carrying
import Renumber.Proofs.Command.Collecting
import Renumber.Proofs.Command.Course
import Renumber.Proofs.Command.History
import Renumber.Proofs.Command.Inputs
import Renumber.Proofs.Command.Matching
import Renumber.Proofs.Command.OtherDirection
import Renumber.Proofs.Command.Overwriting
import Renumber.Proofs.Command.Performing
import Renumber.Proofs.Command.Stage
import Renumber.Proofs.Command.Transfer
import Renumber.Proofs.Fallible
import Renumber.Proofs.Files.Resolve
import Renumber.Proofs.Files.Tree
import Renumber.Proofs.Files.Twins
import Renumber.Proofs.Files.Walk
import Renumber.Proofs.Header.Alike
import Renumber.Proofs.Header.ClosedForm
import Renumber.Proofs.Header.Failure
import Renumber.Proofs.Header.Fate
import Renumber.Proofs.Header.Line
import Renumber.Proofs.Header.Marker
import Renumber.Proofs.Header.Pieces
import Renumber.Proofs.Header.Presentation
import Renumber.Proofs.Header.Renewal
import Renumber.Proofs.Header.Run
import Renumber.Proofs.Header.SameBuild
import Renumber.Proofs.Header.Selection
import Renumber.Proofs.Header.Streaming
import Renumber.Proofs.Header.Stripping
import Renumber.Proofs.Header.Surroundings
import Renumber.Proofs.Header.TieBreaking
import Renumber.Proofs.Header.TokenChoice
import Renumber.Proofs.Pattern.AssignedNumber
import Renumber.Proofs.Report.Account
import Renumber.Proofs.Report.Events
import Renumber.Proofs.Report.Interruption
import Renumber.Proofs.Report.Lines
import Renumber.Proofs.Resolution.Brackets
import Renumber.Proofs.Resolution.Closest
import Renumber.Proofs.Resolution.Composition
import Renumber.Proofs.Resolution.Counterpart
import Renumber.Proofs.Resolution.Locality
import Renumber.Proofs.Resolution.Ranking
import Renumber.Proofs.Resolution.SameShape
import Renumber.Proofs.Resolution.Scan
import Renumber.Proofs.Resolution.Signature
import Renumber.Proofs.Resolution.Stability
import Renumber.Proofs.Snapshot.Canonical
import Renumber.Proofs.Snapshot.Halves
import Renumber.Proofs.Snapshot.Layout
import Renumber.Proofs.Snapshot.RoundTrip
import Renumber.Proofs.Snapshot.Truncation
import Renumber.Proofs.Snapshot.Validation
import Renumber.Proofs.Text.AsciiByte
import Renumber.Proofs.Text.AssignedNumber
import Renumber.Proofs.Text.ByteCut
import Renumber.Proofs.Text.Grouping
import Renumber.Proofs.Text.Lines
import Renumber.Proofs.Text.Numeral
import Renumber.Proofs.Text.Pieces
import Renumber.Proofs.Wire.Layout
import Renumber.Proofs.Wire.Size
import Renumber.Proofs.Wire.Truncated
import Renumber.Proofs.Wire.Written
import Renumber.Report.Stats
import Renumber.Report.Text
import Renumber.Report.Walk
import Renumber.Resolution.Basic
import Renumber.Resolution.Shape
import Renumber.Resolution.TieBreak
import Renumber.Snapshot.Basic
import Renumber.Snapshot.Revision
import Renumber.Text.Blank
import Renumber.Text.CaseFold
import Renumber.Text.CasedCharacter
import Renumber.Text.Category
import Renumber.Text.Category.Letters
import Renumber.Text.Category.Marks
import Renumber.Text.Category.Numbers
import Renumber.Text.Category.Others
import Renumber.Text.Category.Signs
import Renumber.Text.CodeRange
import Renumber.Text.DecimalDigit
import Renumber.Text.Emoji
import Renumber.Text.Escaped
import Renumber.Text.Identifier
import Renumber.Text.Ideograph
import Renumber.Text.MathCharacter
import Renumber.Text.Numeral
import Renumber.Text.Replace
import Renumber.Text.Script
import Renumber.Text.Script.Basic
import Renumber.Text.Script.FromAdlam
import Renumber.Text.Script.FromHan
import Renumber.Text.Script.FromOgham
import Renumber.Text.Script.Shared
import Renumber.Text.Shown
import Renumber.Text.Span
import Renumber.Text.Utf8
import Renumber.Text.WordCharacter
import Renumber.Wire.Fault
import Renumber.Wire.Field
import Renumber.Wire.Lemmas
import Renumber.Wire.Varint
