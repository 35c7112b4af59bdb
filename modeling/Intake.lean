import Intake.Emission.BusClient
import Intake.Import.BucketWire
import Intake.Import.Handler
import Intake.Store.Delivery
import Intake.Store.Memory
import Intake.Table.Store
import Intake.Table.Wire
import Intake.Proofs.Decimal.Rounding
import Intake.Proofs.Decimal.Range
import Intake.Proofs.Json.Text
import Intake.Proofs.Json.FloatText
import Intake.Proofs.Json.Document
import Intake.Proofs.Text.Utf8
import Intake.Proofs.Text.Order
import Intake.Proofs.Text.Decoding
import Intake.Proofs.Text.Form
import Intake.Proofs.Timestamp.Text
import Intake.Proofs.Uuid.Text
import Intake.Proofs.Json.Layout
import Intake.Proofs.Json.Blind
import Intake.Proofs.Entry.Blind
import Intake.Proofs.Entry.Codec
import Intake.Proofs.Entry.Text
import Intake.Proofs.Entry.Spelling
import Intake.Proofs.Key.Injective
import Intake.Proofs.Key.Partition
import Intake.Proofs.Store.Refusal
import Intake.Proofs.Store.History
import Intake.Proofs.Store.Consistency
import Intake.Proofs.Store.Listing
import Intake.Proofs.Store.Queries
import Intake.Proofs.Agreement
import Intake.Proofs.Traversal
import Intake.Proofs.Paging
import Intake.Proofs.Store.Agreement
import Intake.Proofs.Store.Versions
import Intake.Proofs.Emission.Partition
import Intake.Proofs.Emission.Trace
import Intake.Proofs.Emission.Accounting
import Intake.Proofs.Emission.Agreement
import Intake.Proofs.Emission.Order
import Intake.Proofs.Import.Lines
import Intake.Proofs.Emission.Details
import Intake.Proofs.Store.Deliveries
import Intake.Proofs.Store.Redelivery
import Intake.Proofs.Table.AttributeValue
import Intake.Proofs.Table.Service
import Intake.Proofs.Table.Pages
import Intake.Proofs.Table.Rows
import Intake.Proofs.Table.Mirror
import Intake.Proofs.Table.Agreement
import Intake.Proofs.Import.Persistence
import Intake.Proofs.Import.Gate
import Intake.Proofs.Import.Summary
import Intake.Proofs.Import.Trace
import Intake.Proofs.Import.ReportKey
import Intake.Proofs.Import.Reports
import Intake.Proofs.Import.Refusal
import Intake.Proofs.Import.Overwriting
import Intake.Proofs.Import.Body
import Intake.Proofs.Import.Accounting
import Intake.Proofs.Store.Locality
import Intake.Proofs.Table.Deliveries
import Intake.Proofs.Table.RoundTrip
import Intake.Proofs.Table.Queries
import Intake.Proofs.Key.Shared
import Intake.Proofs.Identifier.Generated
import Intake.Proofs.Identifier.Order
import Intake.Proofs.Key.Derivation
import Intake.Proofs.Text.Upper
import Intake.Proofs.Key.StatusPartition
import Intake.Proofs.Store.Outcome
import Intake.Proofs.Emission.Replies
import Intake.Proofs.Emission.Failures
import Intake.Proofs.Emission.Limits
import Intake.Proofs.Import.Locality
import Intake.Proofs.Import.Listing
