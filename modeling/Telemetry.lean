import Telemetry.Backend.Kind
import Telemetry.Backend.Selection
import Telemetry.Binary64.Basic
import Telemetry.Client.Basic
import Telemetry.Client.Chain
import Telemetry.Client.Expansion
import Telemetry.Client.Factory
import Telemetry.Client.Session
import Telemetry.Clock
import Telemetry.Decimal.Layout
import Telemetry.Decimal.Reader
import Telemetry.Decimal.Shortest
import Telemetry.Duration
import Telemetry.Error
import Telemetry.Executor
import Telemetry.Export.Announcement
import Telemetry.Export.Endpoint
import Telemetry.Export.Exposition
import Telemetry.Export.Path
import Telemetry.Export.Plaintext
import Telemetry.Export.Series
import Telemetry.Export.Xdr
import Telemetry.Json.Basic
import Telemetry.Logging
import Telemetry.Meter.Basic
import Telemetry.Meter.Id
import Telemetry.Meter.LongTasks
import Telemetry.Meter.Timings
import Telemetry.OrderedMap
import Telemetry.Pattern.Basic
import Telemetry.Pattern.Bracket
import Telemetry.Pattern.Escape
import Telemetry.Pattern.Flags
import Telemetry.Pattern.Matching
import Telemetry.Pattern.Property
import Telemetry.Pattern.Reader
import Telemetry.Pattern.Size
import Telemetry.Proofs.Decimal.Interval
import Telemetry.Proofs.Decimal.Positional
import Telemetry.Proofs.Decimal.Shortest
import Telemetry.Proofs.Exposition.Families
import Telemetry.Proofs.Exposition.Page
import Telemetry.Proofs.Exposition.ReadBack
import Telemetry.Proofs.Exposition.Reader
import Telemetry.Proofs.Exposition.Samples
import Telemetry.Proofs.Exposition.Uniqueness
import Telemetry.Proofs.OrderedMap
import Telemetry.Proofs.Registry.Identity
import Telemetry.Proofs.Registry.Run
import Telemetry.Proofs.Route.Agreement
import Telemetry.Proofs.Route.Table
import Telemetry.Proofs.Server.Agreement
import Telemetry.Proofs.Tags
import Telemetry.Proofs.Text.Lines
import Telemetry.Publishing.Loop
import Telemetry.Publishing.Messages
import Telemetry.Publishing.Publisher
import Telemetry.Publishing.Session
import Telemetry.Reading
import Telemetry.Registry.Basic
import Telemetry.Registry.Description
import Telemetry.Registry.Search
import Telemetry.Route.Path
import Telemetry.Route.Patterns
import Telemetry.Route.Table
import Telemetry.Route.Template
import Telemetry.Server.Router
import Telemetry.Server.Session
import Telemetry.Server.Timing
import Telemetry.Session.Basic
import Telemetry.Settings.Basic
import Telemetry.Settings.Value
import Telemetry.Startup.Basic
import Telemetry.Startup.Plan
import Telemetry.Tags
import Telemetry.Text.Age
import Telemetry.Text.Blank
import Telemetry.Text.Break
import Telemetry.Text.ByteRows
import Telemetry.Text.CaseVariants
import Telemetry.Text.Category
import Telemetry.Text.CodePoints
import Telemetry.Text.Composition
import Telemetry.Text.Direction
import Telemetry.Text.Joining
import Telemetry.Text.LowerCase
import Telemetry.Text.Mark
import Telemetry.Text.Newest
import Telemetry.Text.Property
import Telemetry.Text.Quoted
import Telemetry.Text.Script
import Telemetry.Text.ScriptExtension
import Telemetry.Text.Shown
import Telemetry.Text.Split
import Telemetry.Text.Utf8
import Telemetry.Timed.Basic
import Telemetry.Timed.Task
import Telemetry.Url.Basic
import Telemetry.Url.Domain
import Telemetry.Url.DomainForm
import Telemetry.Url.Host
import Telemetry.Url.Path
import Telemetry.Url.Percent
import Telemetry.Url.Punycode
import Telemetry.Url.Reader
import Telemetry.Web.FaultNames
import Telemetry.Web.RequestTags
import Telemetry.Web.TypeName
import Telemetry.Proofs.Meter.LongTasks
import Telemetry.Proofs.Registry.Growth
import Telemetry.Proofs.Registry.Registration
import Telemetry.Proofs.Registry.Accounting
import Telemetry.Proofs.Registry.Holding
import Telemetry.Proofs.Timed.Starting
import Telemetry.Proofs.Timed.Recording
import Telemetry.Proofs.Server.Timing
import Telemetry.Proofs.Server.Bracketing
import Telemetry.Proofs.Registry.Observation
import Telemetry.Proofs.Client.Conduct
import Telemetry.Proofs.Client.Timing
import Telemetry.Proofs.Reading
import Telemetry.Proofs.Path.Alphabet
import Telemetry.Proofs.Plaintext.Lines
import Telemetry.Proofs.Decimal.Range
import Telemetry.Proofs.Xdr.Reader
import Telemetry.Proofs.Announcement.ReadBack
import Telemetry.Proofs.Decimal.Numeral
import Telemetry.Proofs.Json.Reader
import Telemetry.Proofs.Json.ReadBack
import Telemetry.Proofs.Series.Payload
import Telemetry.Proofs.Text.Blank
import Telemetry.Proofs.Settings.Value
import Telemetry.Proofs.Settings.Checks
import Telemetry.Proofs.Settings.Loading
import Telemetry.Proofs.Backend.Selection
import Telemetry.Proofs.Registry.Enumeration
import Telemetry.Proofs.Registry.Totals
import Telemetry.Proofs.Registry.Commutation
import Telemetry.Proofs.Server.Precedence
import Telemetry.Proofs.Meter.Timings
import Telemetry.Proofs.Meter.Mean
import Telemetry.Proofs.Binary64.Order
import Telemetry.Proofs.Meter.Quantiles
import Telemetry.Proofs.Meter.Ranks
import Telemetry.Proofs.Registry.Timers
import Telemetry.Proofs.Registry.QuantileGauges
import Telemetry.Proofs.Exposition.Admission
import Telemetry.Proofs.Path.Levels
import Telemetry.Proofs.Exposition.Clashes
import Telemetry.Proofs.Exposition.Labels
import Telemetry.Proofs.Binary64.Thousandths
import Telemetry.Proofs.Registry.Names
import Telemetry.Proofs.Registry.Searching
import Telemetry.Proofs.Client.Expansion
import Telemetry.Proofs.Route.Precedence
import Telemetry.Proofs.Route.Parts
import Telemetry.Proofs.Route.Instances
import Telemetry.Proofs.Settings.Durations
import Telemetry.Proofs.Client.Instrumenting
import Telemetry.Proofs.Startup.Phases
import Telemetry.Proofs.Startup.CommonTags
import Telemetry.Proofs.Timed.Sparing
import Telemetry.Proofs.Timed.Task
import Telemetry.Registry.Builder
import Telemetry.Settings.Builder
import Telemetry.Proofs.Tags.Vector
import Telemetry.Proofs.Tags.Hashing
import Telemetry.Proofs.Tags.Gathering
import Telemetry.Proofs.Tags.Layers
import Telemetry.Proofs.Settings.TagLists
import Telemetry.Proofs.Settings.Fields
import Telemetry.Proofs.Web.TypeName
import Telemetry.Proofs.Web.Spelling
