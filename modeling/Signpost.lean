import Signpost.Agent
import Signpost.Audit
import Signpost.Binary64.Basic
import Signpost.Binary64.Shortest
import Signpost.Cache
import Signpost.Cache.Key
import Signpost.Calendar.Clock
import Signpost.Calendar.Moment
import Signpost.Check.Checked
import Signpost.Check.Fault
import Signpost.Check.Scalar
import Signpost.Condition.Basic
import Signpost.Condition.Evaluation
import Signpost.Condition.Kind
import Signpost.Condition.Stored
import Signpost.Condition.TimeRange
import Signpost.Event
import Signpost.Json.Basic
import Signpost.Json.Octets
import Signpost.Json.Printer
import Signpost.Json.Reader
import Signpost.Manage
import Signpost.Net.Destination
import Signpost.Net.Ipv4
import Signpost.Net.Ipv6
import Signpost.Net.Url
import Signpost.Payload.Entries
import Signpost.Payload.Given
import Signpost.Payload.Requests
import Signpost.Proofs.AddressSpellings
import Signpost.Proofs.Arrivals
import Signpost.Proofs.AuditIndifference
import Signpost.Proofs.AuditedChanges
import Signpost.Proofs.BrowserHosts
import Signpost.Proofs.CacheEntries
import Signpost.Proofs.CacheTransparency
import Signpost.Proofs.Calendar
import Signpost.Proofs.CaseAndBlanks
import Signpost.Proofs.CheckedConditions
import Signpost.Proofs.ClockTexts
import Signpost.Proofs.Coherence
import Signpost.Proofs.ConditionsReread
import Signpost.Proofs.CountsBeside
import Signpost.Proofs.Credits
import Signpost.Proofs.Evaluability
import Signpost.Proofs.EvaluationOrder
import Signpost.Proofs.EventDelivery
import Signpost.Proofs.EventStream
import Signpost.Proofs.FailClosed
import Signpost.Proofs.FailedTasks
import Signpost.Proofs.FailureStreaks
import Signpost.Proofs.Fallible
import Signpost.Proofs.FirstMatch
import Signpost.Proofs.Flights
import Signpost.Proofs.ForeignEntries
import Signpost.Proofs.HostText
import Signpost.Proofs.JsonNumbers
import Signpost.Proofs.JsonSettled
import Signpost.Proofs.JsonStrings
import Signpost.Proofs.JsonText
import Signpost.Proofs.KeptRows
import Signpost.Proofs.LenientLoading
import Signpost.Proofs.LocalTimes
import Signpost.Proofs.LowerCase
import Signpost.Proofs.ManagementRuns
import Signpost.Proofs.ManagementSteps
import Signpost.Proofs.MappedSpellings
import Signpost.Proofs.MatchCounts
import Signpost.Proofs.Numerals
import Signpost.Proofs.NumericHosts
import Signpost.Proofs.NumericSpellings
import Signpost.Proofs.OverlappingTasks
import Signpost.Proofs.OwnerIsolation
import Signpost.Proofs.PartialUpdates
import Signpost.Proofs.RecalledRules
import Signpost.Proofs.Redaction
import Signpost.Proofs.RedirectStages
import Signpost.Proofs.Requests
import Signpost.Proofs.Rounding
import Signpost.Proofs.RowCounts
import Signpost.Proofs.RuleLimit
import Signpost.Proofs.StaleEntries
import Signpost.Proofs.Stopping
import Signpost.Proofs.StoreAnswers
import Signpost.Proofs.StoreFailures
import Signpost.Proofs.StoredLoading
import Signpost.Proofs.StoredRoundTrip
import Signpost.Proofs.TallyEntries
import Signpost.Proofs.Tasks
import Signpost.Proofs.TextComparisons
import Signpost.Proofs.TextPieces
import Signpost.Proofs.TimeWindows
import Signpost.Proofs.Traffic
import Signpost.Proofs.Transactions
import Signpost.Proofs.TrimmedText
import Signpost.Proofs.Weekdays
import Signpost.Proofs.WellFormedRows
import Signpost.Proofs.WrittenUrls
import Signpost.Proofs.ZoneNames
import Signpost.Refusal
import Signpost.Requester
import Signpost.RuleEvent
import Signpost.Schedule
import Signpost.Service.Basic
import Signpost.Service.Listing
import Signpost.Service.Management
import Signpost.Service.Redirection
import Signpost.Service.Upkeep
import Signpost.Settings
import Signpost.Share
import Signpost.Store.Basic
import Signpost.Store.Database
import Signpost.Store.Failure
import Signpost.Store.Filter
import Signpost.Store.Outage
import Signpost.Store.Plan
import Signpost.Store.Query
import Signpost.Store.Row
import Signpost.Tally
import Signpost.Template
import Signpost.Text.Blank
import Signpost.Text.Case
import Signpost.Text.Case.Table
import Signpost.Text.Cut
import Signpost.Text.Digit
import Signpost.Text.Numeral
import Signpost.Text.Percent
import Signpost.Text.Printable
import Signpost.Text.Quoted
import Signpost.Text.Utf8
import Signpost.UnitOfWork
import Signpost.Visit
import Signpost.Visitor
import Signpost.Web.Exchange
import Signpost.Web.Handler
import Signpost.Web.Health
import Signpost.Web.Route
import Signpost.Zone.Basic
import Signpost.Zone.History
import Signpost.Zone.Names
import Signpost.Zone.Table.East
import Signpost.Zone.Table.Middle
import Signpost.Zone.Table.West
