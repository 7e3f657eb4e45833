import QueryCriteria.Codec.Record
import QueryCriteria.Group.Edit
import QueryCriteria.Group.Sentence
import QueryCriteria.Predicate.Text
import QueryCriteria.Codec.Settings
import QueryCriteria.Value.Reading
import QueryCriteria.Version
import QueryCriteria.Proofs.Group.Condition
import QueryCriteria.Proofs.Operator.Registration
import QueryCriteria.Proofs.Range.CurrentPeriod
import QueryCriteria.Proofs.Range.Resolution
import QueryCriteria.Proofs.Group.Catalog
import QueryCriteria.Proofs.Group.Loading
import QueryCriteria.Proofs.Group.Shown
import QueryCriteria.Proofs.Json.Quoted
import QueryCriteria.Proofs.Text.Digit
import QueryCriteria.Proofs.Json.Document
import QueryCriteria.Proofs.Json.Access
import QueryCriteria.Proofs.Number.Decimal
import QueryCriteria.Proofs.Time.Iso
import QueryCriteria.Proofs.Time.Reversal
import QueryCriteria.Proofs.Codec.Record
import QueryCriteria.Proofs.Group.InEffect
import QueryCriteria.Proofs.Value.Order
import QueryCriteria.Proofs.Range.Fitting
import QueryCriteria.Proofs.Range.PeriodEdges
import QueryCriteria.Proofs.Value.Rank
import QueryCriteria.Proofs.Operator.Comparison
import QueryCriteria.Proofs.Operator.Surplus
import QueryCriteria.Proofs.Group.HalfInterval
import QueryCriteria.Proofs.Group.Aliases
import QueryCriteria.Proofs.Group.Reset
import QueryCriteria.Proofs.Group.Switching
import QueryCriteria.Proofs.Operator.Complement
import QueryCriteria.Proofs.Predicate.Unambiguous
import QueryCriteria.Proofs.Range.Interval
import QueryCriteria.Proofs.Range.Failure
import QueryCriteria.Proofs.Range.TokenReading
