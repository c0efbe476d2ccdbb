import DocumentStore.Delegation
import DocumentStore.Filter.Wire
import DocumentStore.Operation
import DocumentStore.Service
import DocumentStore.Proofs.Catalog
import DocumentStore.Proofs.Condition.Arity
import DocumentStore.Proofs.Condition.Balance
import DocumentStore.Proofs.Condition.Folding
import DocumentStore.Proofs.Condition.Grammar
import DocumentStore.Proofs.Condition.Grouping
import DocumentStore.Proofs.Condition.Listing
import DocumentStore.Proofs.Condition.Machine
import DocumentStore.Proofs.Condition.Modes
import DocumentStore.Proofs.Condition.Padding
import DocumentStore.Proofs.Condition.Printing
import DocumentStore.Proofs.Condition.Reduction
import DocumentStore.Proofs.Condition.Scanning
import DocumentStore.Proofs.Condition.Spelling
import DocumentStore.Proofs.Condition.Trimming
import DocumentStore.Proofs.Condition.Waiting
import DocumentStore.Proofs.Decimal.Grammar
import DocumentStore.Proofs.Decimal.NotANumber
import DocumentStore.Proofs.Decimal.Rounding
import DocumentStore.Proofs.Decimal.Shortest
import DocumentStore.Proofs.Disk.Access
import DocumentStore.Proofs.Disk.Directories
import DocumentStore.Proofs.Filter.Agreement
import DocumentStore.Proofs.Filter.Building
import DocumentStore.Proofs.Filter.Capability
import DocumentStore.Proofs.Filter.Display
import DocumentStore.Proofs.Filter.Equality
import DocumentStore.Proofs.Filter.Observation
import DocumentStore.Proofs.Filter.Shipping
import DocumentStore.Proofs.Filter.Wire
import DocumentStore.Proofs.Json.Compact
import DocumentStore.Proofs.Json.Doubles
import DocumentStore.Proofs.Json.Lexing
import DocumentStore.Proofs.Json.Magnitude
import DocumentStore.Proofs.Json.Numeral
import DocumentStore.Proofs.Json.RoundTrip
import DocumentStore.Proofs.Scalar.Collation
import DocumentStore.Proofs.Scalar.Comparison
import DocumentStore.Proofs.Scalar.Conversion
import DocumentStore.Proofs.Service.Classification
import DocumentStore.Proofs.Service.Refusals
import DocumentStore.Proofs.Service.Reopening
import DocumentStore.Proofs.Service.Requests
import DocumentStore.Proofs.Statement.Clauses
import DocumentStore.Proofs.Statement.Leftmost
import DocumentStore.Proofs.Store.Composition
import DocumentStore.Proofs.Store.CreationDates
import DocumentStore.Proofs.Store.DataFile
import DocumentStore.Proofs.Store.Delegation
import DocumentStore.Proofs.Store.Durability
import DocumentStore.Proofs.Store.Effects
import DocumentStore.Proofs.Store.Finding
import DocumentStore.Proofs.Store.Handles
import DocumentStore.Proofs.Store.Identifiers
import DocumentStore.Proofs.Store.Independence
import DocumentStore.Proofs.Store.Ledger
import DocumentStore.Proofs.Store.Lookup
import DocumentStore.Proofs.Store.Numbers
import DocumentStore.Proofs.Store.Querying
import DocumentStore.Proofs.Store.Reopening
import DocumentStore.Proofs.Store.Saving
import DocumentStore.Proofs.Store.Selection
import DocumentStore.Proofs.Store.Snapshot
import DocumentStore.Proofs.Store.Updating
import DocumentStore.Proofs.Text.Utf16
import DocumentStore.Proofs.Text.Words
