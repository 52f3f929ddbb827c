import SearchWire.Codec
import SearchWire.Coverage
import SearchWire.Message.Aggregation
import SearchWire.Message.GroupBy
import SearchWire.Message.Request
import SearchWire.Tree.Descent
import SearchWire.Tree.Equality
import SearchWire.Writer
import SearchWire.Script
import SearchWire.Proofs.Result
import SearchWire.Proofs.Schema.Regular
import SearchWire.Proofs.ColumnValue.Blob
import SearchWire.Proofs.Schema.Leaf
import SearchWire.Proofs.Tree.Defaults
import SearchWire.Proofs.Tree.Written
import SearchWire.Proofs.Tree.ReadBack
import SearchWire.Proofs.Tree.RoundTrip
import SearchWire.Proofs.Tree.Injective
import SearchWire.Proofs.Tree.Canonical
import SearchWire.Proofs.Schema.Required
import SearchWire.Proofs.Tree.Complete
import SearchWire.Proofs.Envelope
import SearchWire.Proofs.Tree.Truncation
import SearchWire.Proofs.Schema.Equality
import SearchWire.Proofs.Tree.Equality
import SearchWire.Proofs.Tree.FieldOrder
import SearchWire.Proofs.ColumnValue.Grammar
import SearchWire.Proofs.Tree.Accepted
import SearchWire.Proofs.Tree.Nodes
import SearchWire.Proofs.Writer
import SearchWire.Proofs.Schema.WireType
import SearchWire.Proofs.Tree.Admitted
import SearchWire.Proofs.Codec
import SearchWire.Proofs.Tree.Missing
import SearchWire.Proofs.Tree.Faults
import SearchWire.Proofs.Tree.ErrorKinds
import SearchWire.Proofs.Tree.Output
import SearchWire.Proofs.Tree.Alternatives
import SearchWire.Proofs.Tree.Decay
import SearchWire.Proofs.Coverage
import SearchWire.Proofs.Tree.Absent
import SearchWire.Proofs.Tree.ErrorPath
import SearchWire.Proofs.Schema.Integer
import SearchWire.Proofs.Tree.DecayRange
import SearchWire.Proofs.Writer.Failure
import SearchWire.Proofs.Writer.Script
import SearchWire.Proofs.Tree.Vector
import SearchWire.Proofs.Wire.Slices
