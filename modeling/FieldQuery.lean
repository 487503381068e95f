import FieldQuery.Compile.Clause
import FieldQuery.Compile.Recording
import FieldQuery.Predicate.Build
import FieldQuery.Predicate.Fingerprint
import FieldQuery.Predicate.Test
import FieldQuery.Proofs.Compile.Meaning
import FieldQuery.Proofs.Value.Order
import FieldQuery.Schema.FieldOrder
import FieldQuery.Stream.Pipeline
import FieldQuery.Wire.Report
import FieldQuery.Proofs.Compile.Agreement
import FieldQuery.Proofs.Compile.Negation
import FieldQuery.Proofs.Predicate.Encoding
import FieldQuery.Proofs.Compile.Outcome
import FieldQuery.Proofs.Predicate.Fingerprint
import FieldQuery.Proofs.Search.Like
import FieldQuery.Proofs.Predicate.Uses
import FieldQuery.Proofs.Compile.Replay
import FieldQuery.Proofs.Compile.Traversal
import FieldQuery.Proofs.Stream.Flow
import FieldQuery.Proofs.Stream.Sort
import FieldQuery.Proofs.Stream.Steps
import FieldQuery.Proofs.Schema.FieldOrder
import FieldQuery.Proofs.Stream.Meaning
import FieldQuery.Proofs.Stream.Observation
import FieldQuery.Proofs.Stream.Reordering
import FieldQuery.Proofs.Double.Rounding
import FieldQuery.Proofs.Predicate.Range
import FieldQuery.Proofs.Predicate.Negation
import FieldQuery.Proofs.Stream.Building
import FieldQuery.Proofs.Stream.FieldSort
import FieldQuery.Proofs.Double.TotalOrder
import FieldQuery.Proofs.Text.Sigma
import FieldQuery.Proofs.Predicate.Folding
import FieldQuery.Proofs.Compile.Decomposition
import FieldQuery.Proofs.Text.Bytes
import FieldQuery.Proofs.Value.Coherence
import FieldQuery.Proofs.Compile.Widening
import FieldQuery.Proofs.Compile.Conversion
import FieldQuery.Proofs.Compile.Policy
import FieldQuery.Proofs.Value.Equality
import FieldQuery.Proofs.Predicate.Offer
import FieldQuery.Proofs.Compile.Equality
import FieldQuery.Proofs.Stream.Pulling
import FieldQuery.Proofs.Compile.Tracing
import FieldQuery.Proofs.Wire.Policy
import FieldQuery.Proofs.Compile.CaseFolding
