import Criteria.Clause.Serial
import Criteria.Failure
import Criteria.Assembly.Call
import Criteria.Proofs.Assembly.Balance
import Criteria.Proofs.Assembly.ReadingBack
import Criteria.Proofs.Compile.Meaning
import Criteria.Proofs.Compile.Shape
import Criteria.Proofs.Compile.Reach
import Criteria.Proofs.Changes.Finding
import Criteria.Proofs.Compile.Width
import Criteria.Proofs.Compile.Limit
import Criteria.Proofs.Compile.Trace
import Criteria.Proofs.Clause.Fingerprints
import Criteria.Proofs.Assembly.DefaultConnective
import Criteria.Proofs.Compile.JoinedSearch
import Criteria.Proofs.Resolution.NumberOrder
import Criteria.Proofs.Fields.NumberRange
import Criteria.Proofs.Fields.Exclusion
import Criteria.Proofs.Fields.BeginningSearch
import Criteria.Proofs.Changes.TimeDivision
import Criteria.Proofs.Compile.PastNegation
import Criteria.Proofs.Calendar.Precision
import Criteria.Proofs.Assembly.Algebra
import Criteria.Proofs.Changes.Conjunction
import Criteria.Proofs.Resolution.NameLookup
import Criteria.Proofs.Calendar.DisplayedDate
import Criteria.Proofs.Calendar.IndexReading
