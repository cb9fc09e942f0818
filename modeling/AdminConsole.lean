import AdminConsole.Bundle.Fetch
import AdminConsole.Bundle.Join
import AdminConsole.Bundle.Loader
import AdminConsole.Bundle.Registry
import AdminConsole.Bundle.Run
import AdminConsole.CommandLine.Arguments
import AdminConsole.CommandLine.Program
import AdminConsole.CommandLine.Usage
import AdminConsole.Console.Start
import AdminConsole.Cookie
import AdminConsole.Diagnostics.Basic
import AdminConsole.Diagnostics.Injection
import AdminConsole.Dictionary
import AdminConsole.Domain.Basic
import AdminConsole.Domain.Composition
import AdminConsole.Domain.Direction
import AdminConsole.Domain.Joiner
import AdminConsole.Domain.Mapping
import AdminConsole.Domain.Punycode
import AdminConsole.Idle.Tracker
import AdminConsole.Idle.Watchdog
import AdminConsole.Json.Basic
import AdminConsole.Json.Numeral
import AdminConsole.Json.Printer
import AdminConsole.Json.Reader
import AdminConsole.Json.Token
import AdminConsole.Logging.Filter
import AdminConsole.Logging.Setup
import AdminConsole.Logging.ValuePattern
import AdminConsole.Main
import AdminConsole.Navigation.Location
import AdminConsole.Navigation.Navigator
import AdminConsole.Number.Decimal
import AdminConsole.Number.Integer
import AdminConsole.Number.Shortest
import AdminConsole.Origin.Address
import AdminConsole.Origin.Basic
import AdminConsole.Pattern.Basic
import AdminConsole.Pattern.Capture
import AdminConsole.Pattern.Match
import AdminConsole.Proofs.Bundle.Answers
import AdminConsole.Proofs.Bundle.Coherence
import AdminConsole.Proofs.Bundle.Deliveries
import AdminConsole.Proofs.Bundle.FailedLoads
import AdminConsole.Proofs.Bundle.FaithfulRuns
import AdminConsole.Proofs.Bundle.Fetches
import AdminConsole.Proofs.Bundle.Growth
import AdminConsole.Proofs.Bundle.LoadTraffic
import AdminConsole.Proofs.Bundle.Openings
import AdminConsole.Proofs.Bundle.Outcomes
import AdminConsole.Proofs.Bundle.Polling
import AdminConsole.Proofs.Bundle.Requests
import AdminConsole.Proofs.Bundle.RunHistories
import AdminConsole.Proofs.Bundle.Settlements
import AdminConsole.Proofs.Bundle.SingleFlight
import AdminConsole.Proofs.Bundle.Turns
import AdminConsole.Proofs.Console.FailedStart
import AdminConsole.Proofs.Console.Start
import AdminConsole.Proofs.Diagnostics.Containment
import AdminConsole.Proofs.Diagnostics.History
import AdminConsole.Proofs.Diagnostics.Reports
import AdminConsole.Proofs.Dictionary.Lookup
import AdminConsole.Proofs.Idle.Countdown
import AdminConsole.Proofs.Idle.Interactions
import AdminConsole.Proofs.Idle.NextChange
import AdminConsole.Proofs.Idle.Timeline
import AdminConsole.Proofs.Keyed
import AdminConsole.Proofs.Navigation.Equipped
import AdminConsole.Proofs.Navigation.Failures
import AdminConsole.Proofs.Navigation.FullLocations
import AdminConsole.Proofs.Navigation.JointTraffic
import AdminConsole.Proofs.Navigation.LatestWins
import AdminConsole.Proofs.Navigation.Resolved
import AdminConsole.Proofs.Navigation.Traffic
import AdminConsole.Proofs.Number.WrittenIntegers
import AdminConsole.Proofs.Pattern.Canonical
import AdminConsole.Proofs.Pattern.Composition
import AdminConsole.Proofs.Pattern.Concatenation
import AdminConsole.Proofs.Pattern.Grammar
import AdminConsole.Proofs.Pattern.LeftmostGreedy
import AdminConsole.Proofs.Pattern.Reading
import AdminConsole.Proofs.Pattern.Readings
import AdminConsole.Proofs.Pattern.Segments
import AdminConsole.Proofs.Pattern.Separated
import AdminConsole.Proofs.Pattern.Spellings
import AdminConsole.Proofs.Pattern.Symbols
import AdminConsole.Proofs.Result
import AdminConsole.Proofs.Route.Acceptance
import AdminConsole.Proofs.Route.Built
import AdminConsole.Proofs.Route.Declarations
import AdminConsole.Proofs.Route.DeclaredQuery
import AdminConsole.Proofs.Route.DefaultPath
import AdminConsole.Proofs.Route.GuardCalls
import AdminConsole.Proofs.Route.Guarded
import AdminConsole.Proofs.Route.Hops
import AdminConsole.Proofs.Route.Inheritance
import AdminConsole.Proofs.Route.Lineage
import AdminConsole.Proofs.Route.LinkOutcomes
import AdminConsole.Proofs.Route.LinkRoundTrip
import AdminConsole.Proofs.Route.LocationRoundTrip
import AdminConsole.Proofs.Route.Locations
import AdminConsole.Proofs.Route.MalformedUrls
import AdminConsole.Proofs.Route.Order
import AdminConsole.Proofs.Route.Outcomes
import AdminConsole.Proofs.Route.Preferred
import AdminConsole.Proofs.Route.QueryRoundTrip
import AdminConsole.Proofs.Route.QuerySpellings
import AdminConsole.Proofs.Route.Ranking
import AdminConsole.Proofs.Route.Rivals
import AdminConsole.Proofs.Route.Schema
import AdminConsole.Proofs.Session.JointPolling
import AdminConsole.Proofs.Session.JointTraffic
import AdminConsole.Proofs.Session.LoadTraffic
import AdminConsole.Proofs.Session.NavigationTraffic
import AdminConsole.Proofs.Session.Uses
import AdminConsole.Proofs.Session.Warnings
import AdminConsole.Proofs.Settings.ConstantDurations
import AdminConsole.Proofs.Settings.Overrides
import AdminConsole.Proofs.Site.AlwaysResolves
import AdminConsole.Proofs.Site.ForeignPages
import AdminConsole.Proofs.Site.LinksLeadBack
import AdminConsole.Proofs.Site.SignedOut
import AdminConsole.Proofs.Site.Survey
import AdminConsole.Proofs.Site.Unambiguous
import AdminConsole.Proofs.Text.AnyCase
import AdminConsole.Proofs.Text.PercentRoundTrip
import AdminConsole.Proofs.Text.Splitting
import AdminConsole.Route.Definition
import AdminConsole.Route.Error
import AdminConsole.Route.Guard
import AdminConsole.Route.Link
import AdminConsole.Route.Metadata
import AdminConsole.Route.Params
import AdminConsole.Route.Resolution
import AdminConsole.Route.Script
import AdminConsole.Route.Shown
import AdminConsole.Route.Table
import AdminConsole.Route.Typed
import AdminConsole.Session.Basic
import AdminConsole.Session.Clock
import AdminConsole.Settings.Basic
import AdminConsole.Settings.Constants
import AdminConsole.Settings.Environment
import AdminConsole.Settings.File
import AdminConsole.Settings.Folder
import AdminConsole.Settings.Reader
import AdminConsole.Site.Bundles
import AdminConsole.Site.Guards
import AdminConsole.Site.Routes
import AdminConsole.Text.Assigned
import AdminConsole.Text.Blank
import AdminConsole.Text.CodeRange
import AdminConsole.Text.Cut
import AdminConsole.Text.Hex
import AdminConsole.Text.Letter
import AdminConsole.Text.Lowercase
import AdminConsole.Text.Mark
import AdminConsole.Text.Percent
import AdminConsole.Text.Printable
import AdminConsole.Text.Quoted
import AdminConsole.Toml.Basic
import AdminConsole.Toml.Quoted
import AdminConsole.Toml.Reader
import AdminConsole.Toml.Scalar
