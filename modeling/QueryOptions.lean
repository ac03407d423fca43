import QueryOptions.Main
import QueryOptions.Uuid
import QueryOptions.Proofs.Filter.Building
import QueryOptions.Proofs.Filter.Replay
import QueryOptions.Proofs.Decimal.Numerals
import QueryOptions.Proofs.Filter.Binding
import QueryOptions.Proofs.Filter.Condition
import QueryOptions.Proofs.Filter.Reader
import QueryOptions.Proofs.Filter.Unambiguous
import QueryOptions.Proofs.Params.QueryString
import QueryOptions.Proofs.Query.Failure
import QueryOptions.Proofs.Query.Nesting
import QueryOptions.Proofs.Filter.Balance
import QueryOptions.Proofs.Filter.Reconstruction
import QueryOptions.Proofs.Document.Acceptance
import QueryOptions.Proofs.Document.Refinement
import QueryOptions.Proofs.Filter.InPlace
import QueryOptions.Proofs.Document.Operators
import QueryOptions.Proofs.Query.Selection
import QueryOptions.Proofs.Filter.Growth
import QueryOptions.Proofs.Filter.CountResult
import QueryOptions.Proofs.Params.OnePass
import QueryOptions.Proofs.Decimal.Rounding
import QueryOptions.Proofs.Json.Number
import QueryOptions.Proofs.Json.Record
import QueryOptions.Proofs.Json.Values
import QueryOptions.Proofs.Document.WholeNumbers
import QueryOptions.Proofs.Document.Negation
import QueryOptions.Proofs.Document.Failure
import QueryOptions.Proofs.Defaults.Load
import QueryOptions.Proofs.Query.Request
import QueryOptions.Proofs.Calendar.Timestamp
import QueryOptions.Proofs.Decimal.Plain
import QueryOptions.Proofs.Query.Independence
import QueryOptions.Proofs.Query.Events
import QueryOptions.Proofs.Params.Accumulation
import QueryOptions.Proofs.Query.Spelling
