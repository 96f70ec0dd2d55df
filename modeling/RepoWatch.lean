import RepoWatch.Cache
import RepoWatch.Channel.Multicast
import RepoWatch.Channel.Outlet
import RepoWatch.CommandLine.Arguments
import RepoWatch.CommandLine.Help
import RepoWatch.CommandLine.Number
import RepoWatch.CommandLine.Options
import RepoWatch.CommandLine.Session
import RepoWatch.Decimal.Shortest
import RepoWatch.Failure
import RepoWatch.Feed.Follower
import RepoWatch.Feed.Hub
import RepoWatch.Feed.Outlets
import RepoWatch.Feed.Publication
import RepoWatch.Fetch.Environment
import RepoWatch.Fetch.Guard
import RepoWatch.Fetch.Plan
import RepoWatch.Fetch.Retry
import RepoWatch.Fetch.Stack
import RepoWatch.Graphql.Body
import RepoWatch.Graphql.Client
import RepoWatch.Graphql.Exchange
import RepoWatch.Journal
import RepoWatch.Json.Basic
import RepoWatch.Json.Cursor
import RepoWatch.Json.Double
import RepoWatch.Json.Numeral
import RepoWatch.Json.Reader
import RepoWatch.Json.Skip
import RepoWatch.Json.Writer
import RepoWatch.Main
import RepoWatch.Payload.Commits
import RepoWatch.Payload.Decoder
import RepoWatch.Payload.Detail
import RepoWatch.Payload.FromText
import RepoWatch.Payload.Quota
import RepoWatch.Payload.Repositories
import RepoWatch.Proofs.Cache.Entries
import RepoWatch.Proofs.Cache.History
import RepoWatch.Proofs.Channel.Audience
import RepoWatch.Proofs.Channel.Multicast
import RepoWatch.Proofs.Channel.Readers
import RepoWatch.Proofs.Channel.Subscribers
import RepoWatch.Proofs.Failure
import RepoWatch.Proofs.Feed.Calls
import RepoWatch.Proofs.Feed.Cancellation
import RepoWatch.Proofs.Feed.Current
import RepoWatch.Proofs.Feed.Emissions
import RepoWatch.Proofs.Feed.Exactness
import RepoWatch.Proofs.Feed.Fetch
import RepoWatch.Proofs.Feed.Flow
import RepoWatch.Proofs.Feed.Followers
import RepoWatch.Proofs.Feed.Forwarding
import RepoWatch.Proofs.Feed.Images
import RepoWatch.Proofs.Feed.Logs
import RepoWatch.Proofs.Feed.Queue
import RepoWatch.Proofs.Feed.Registry
import RepoWatch.Proofs.Feed.Responses
import RepoWatch.Proofs.Feed.Service
import RepoWatch.Proofs.Fetch.Attempts
import RepoWatch.Proofs.Fetch.Chronicle
import RepoWatch.Proofs.Fetch.Course
import RepoWatch.Proofs.Fetch.Turns
import RepoWatch.Proofs.Graphql.Data
import RepoWatch.Proofs.Graphql.Reasons
import RepoWatch.Proofs.Graphql.Verdict
import RepoWatch.Proofs.Graphql.Wholeness
import RepoWatch.Proofs.Json.Canonical
import RepoWatch.Proofs.Json.Equality
import RepoWatch.Proofs.Json.Thinned
import RepoWatch.Proofs.Keyed
import RepoWatch.Proofs.Payload.Chain
import RepoWatch.Proofs.Payload.Grammar
import RepoWatch.Proofs.Payload.Nulls
import RepoWatch.Proofs.Payload.Spelling
import RepoWatch.Proofs.Query.Keys
import RepoWatch.Proofs.Query.Text
import RepoWatch.Proofs.Schedule.Attention
import RepoWatch.Proofs.Schedule.Departure
import RepoWatch.Proofs.Schedule.Histories
import RepoWatch.Proofs.Schedule.Jobs
import RepoWatch.Proofs.Text.Marks
import RepoWatch.Proofs.Text.Search
import RepoWatch.Proofs.Time.Days
import RepoWatch.Proofs.Time.Elapsed
import RepoWatch.Proofs.Time.Reset
import RepoWatch.Proofs.Time.Written
import RepoWatch.Proofs.Watch.Advance
import RepoWatch.Proofs.Watch.Chronology
import RepoWatch.Proofs.Watch.Convergence
import RepoWatch.Proofs.Watch.Departure
import RepoWatch.Proofs.Watch.Events
import RepoWatch.Proofs.Watch.Ledger
import RepoWatch.Proofs.Watch.Life
import RepoWatch.Proofs.Watch.Protocol
import RepoWatch.Proofs.Watch.Reemission
import RepoWatch.Proofs.Watch.Reports
import RepoWatch.Proofs.Watch.Script
import RepoWatch.Proofs.Watch.Shown
import RepoWatch.Proofs.Watch.Stores
import RepoWatch.Proofs.World.Basic
import RepoWatch.Proofs.World.Deeds
import RepoWatch.Proofs.World.Holders
import RepoWatch.Proofs.World.Moves
import RepoWatch.Proofs.World.Spares
import RepoWatch.Proofs.World.Trace
import RepoWatch.Proofs.World.Views
import RepoWatch.Query.Basic
import RepoWatch.Query.Document
import RepoWatch.Query.Request
import RepoWatch.Schedule.Basic
import RepoWatch.Schedule.Startup
import RepoWatch.Text.Blank
import RepoWatch.Text.Quoted
import RepoWatch.Text.Search
import RepoWatch.Text.Unshown
import RepoWatch.Time.Calendar
import RepoWatch.Time.Instant
import RepoWatch.Time.Span
import RepoWatch.Time.Timestamp
import RepoWatch.Watch.Basic
import RepoWatch.Watch.Event
import RepoWatch.Web.Address
import RepoWatch.Web.Host
import RepoWatch.Web.Percent
import RepoWatch.Web.Punycode
