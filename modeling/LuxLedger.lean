import LuxLedger.Relational.Truth
import LuxLedger.Relational.Rows
import LuxLedger.Relational.Statement
import LuxLedger.Relational.Interleaving
import LuxLedger.Relational.Update
import LuxLedger.Schema.Tables
import LuxLedger.Schema.Capacity
import LuxLedger.Schema.Lineage
import LuxLedger.Schema.Holds
import LuxLedger.Schema.Statements
import LuxLedger.Schema.Edits
import LuxLedger.Schema.Sessions
import LuxLedger.Credit.Counters
import LuxLedger.Credit.Chain
import LuxLedger.Credit.Steps
import LuxLedger.Credit.WellFormed
import LuxLedger.Credit.OtherTenants
import LuxLedger.Credit.EditSteps
import LuxLedger.Credit.Sums
import LuxLedger.Credit.CapacityFold
import LuxLedger.Credit.Snapshots
import LuxLedger.Credit.Concurrency
import LuxLedger.Credit.Attribution
import LuxLedger.Credit.HoldAccounting
import LuxLedger.Credit.Expiry
import LuxLedger.Credit.Reversal
import LuxLedger.Credit.GrantReversal
import LuxLedger.Credit.LiveReserve
import LuxLedger.Credit.Backing
import LuxLedger.Credit.AssetIdentity
import LuxLedger.Credit.HoldLegs
import LuxLedger.Credit.SettledHistory
import LuxLedger.Credit.Funding
import LuxLedger.Migration.InitialSchema
import LuxLedger.Migration.InitialStatements
import LuxLedger.Migration.ValidatorGenerations
import LuxLedger.Migration.GrantCapability
import LuxLedger.Migration.AmountRewrite
import LuxLedger.Javascript.Text
import LuxLedger.Javascript.CodeUnits
import LuxLedger.Javascript.BigInt
import LuxLedger.Javascript.Base64Url
import LuxLedger.Foundation.WindowLog
import LuxLedger.Foundation.Numeral
import LuxLedger.Foundation.KeysetPages
import LuxLedger.Http.FixedWindowLimiter
import LuxLedger.Http.RateLimitQuota
import LuxLedger.Http.AccessToken
import LuxLedger.Http.Routes
import LuxLedger.Http.Server
import LuxLedger.Http.Guards
import LuxLedger.Http.ErrorHandler
import LuxLedger.Http.TokenLifetime
import LuxLedger.Web.Money
import LuxLedger.Web.StatementCsv
import LuxLedger.Web.CsvGrammar
import LuxLedger.Web.CsvRoundTrip
import LuxLedger.Web.CsvLines
import LuxLedger.Demo.HoldListing
import LuxLedger.Foundation.Awaited
import LuxLedger.Demo.Services
import LuxLedger.Demo.Seed
import LuxLedger.Demo.SeedResume
import LuxLedger.Demo.Sandbox
import LuxLedger.Demo.SandboxReplace
import LuxLedger.Demo.SandboxSessions
import LuxLedger.Web.SandboxConsole
import LuxLedger.Foundation.CursorPages
import LuxLedger.Web.TransactionList
import LuxLedger.Credit.ReservationGuards
import LuxLedger.Javascript.JsonValue
import LuxLedger.Web.RequestJournal
import LuxLedger.Foundation.ShellWords
import LuxLedger.Web.CurlCommand
import LuxLedger.Foundation.KeyedStore
import LuxLedger.Foundation.Exposition
import LuxLedger.Http.Metrics
import LuxLedger.Http.MetricsPage
import LuxLedger.Http.MetricsReport
import LuxLedger.Foundation.Reader
import LuxLedger.Javascript.TypeSyntax
import LuxLedger.Javascript.TypeReading
import LuxLedger.Javascript.TypeValues
import LuxLedger.Contract.Schema
import LuxLedger.Contract.Validation
import LuxLedger.Contract.Generator
import LuxLedger.Contract.NullText
import LuxLedger.Contract.Translation
import LuxLedger.Contract.Declarations
import LuxLedger.Contract.NullAlternatives
import LuxLedger.Contract.GeneratedTypes
import LuxLedger.Relational.Agreement
import LuxLedger.Relational.Simulation
import LuxLedger.Relational.Progress
import LuxLedger.Relational.Apportion
import LuxLedger.Schema.RowSecurity
import LuxLedger.Credit.TenantReads
import LuxLedger.Credit.TenantRows
import LuxLedger.Credit.RowSecurity
import LuxLedger.Credit.TenantRuns
import LuxLedger.Credit.VersionGuards
import LuxLedger.Credit.Purse
import LuxLedger.Credit.FreeCapacity
import LuxLedger.Credit.Postings
import LuxLedger.Credit.Payouts
import LuxLedger.Credit.Reservations
import LuxLedger.Credit.Voiding
import LuxLedger.Credit.Capturing
import LuxLedger.Credit.Issuing
import LuxLedger.Credit.PurseRuns
import LuxLedger.Http.ServerRuns
import LuxLedger.Javascript.Utf16
import LuxLedger.Http.ResponseMetrics
import LuxLedger.Foundation.Binary64
import LuxLedger.Javascript.NumericText
import LuxLedger.Http.Environment
import LuxLedger.Http.Configurations
import LuxLedger.Http.Deployments
import LuxLedger.Foundation.Urlencoded
import LuxLedger.Web.PageLoading
import LuxLedger.Foundation.LatestRequest
import LuxLedger.Web.Workspace
