import Chronicle.Text.Blank
import Chronicle.Text.Digit
import Chronicle.Text.Quoted
import Chronicle.Decimal.Style
import Chronicle.Table
import Chronicle.Yaml.Value
import Chronicle.Yaml.Fault
import Chronicle.Yaml.Cursor
import Chronicle.Yaml.Token.PlainScalar
import Chronicle.Yaml.Token.QuotedScalar
import Chronicle.Yaml.Token.BlockScalar
import Chronicle.Yaml.Token.Property
import Chronicle.Yaml.Token.Stream
import Chronicle.Yaml.Event
import Chronicle.Yaml.Scalar
import Chronicle.Yaml.Decode
import Chronicle.Record
import Chronicle.Report
import Chronicle.Content.Decode
import Chronicle.Parameter.Store
import Chronicle.Library
import Chronicle.Discovery
import Chronicle.Main
import Chronicle.Proofs.Library.Order
import Chronicle.Proofs.Library.Representation
import Chronicle.Proofs.Library.Failure
import Chronicle.Proofs.Library.Walks
import Chronicle.Proofs.References
import Chronicle.Proofs.InPlace
import Chronicle.Proofs.OwnIds
import Chronicle.Proofs.Content.Reordering
import Chronicle.Proofs.Inheritance.Associativity
import Chronicle.Proofs.Inheritance.Validity
import Chronicle.Proofs.Filling
import Chronicle.Proofs.Parameter.FixedPoint
import Chronicle.Proofs.Parameter.Interruption
import Chronicle.Proofs.Parameter.Merging
import Chronicle.Proofs.Parameter.Recognition
import Chronicle.Proofs.Parameter.Validity
import Chronicle.Proofs.Quoting
import Chronicle.Proofs.Library.Sources
import Chronicle.Proofs.Report.Heading
import Chronicle.Proofs.Text.Trimming
import Chronicle.Proofs.WrittenArguments
import Chronicle.Proofs.History
