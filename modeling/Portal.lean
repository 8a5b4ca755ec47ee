import Portal.Accounts.Auth
import Portal.Accounts.Pages
import Portal.Admin.ChangeList
import Portal.Admin.Pages
import Portal.Admin.Registry
import Portal.Audit.Admin
import Portal.Audit.Display
import Portal.Audit.Entry
import Portal.Audit.Events
import Portal.Audit.Handler
import Portal.Audit.Middleware
import Portal.Audit.Operations
import Portal.Billing.Views
import Portal.Blog.Basic
import Portal.Blog.Forms
import Portal.Blog.Views
import Portal.Channels.Consumers
import Portal.Channels.Groups
import Portal.Channels.Layer
import Portal.Channels.Socket
import Portal.Clock
import Portal.Command.Arguments
import Portal.Command.Checks
import Portal.Command.Database
import Portal.Command.Help
import Portal.Command.Logs
import Portal.Command.Migrate
import Portal.Command.Output
import Portal.Command.Plugins
import Portal.Command.Program
import Portal.Command.Realtime
import Portal.Command.Run
import Portal.Config.Apps
import Portal.Config.Settings
import Portal.Console.AuditCalls
import Portal.Console.Calls
import Portal.Console.Commands
import Portal.Console.DatabaseCalls
import Portal.Console.Input
import Portal.Console.Keywords
import Portal.Console.Manage
import Portal.Console.Methods
import Portal.Console.PluginCalls
import Portal.Console.Records
import Portal.Console.ScriptSteps
import Portal.Console.Session
import Portal.Console.SettingsStep
import Portal.Console.SiteCalls
import Portal.Console.Sockets
import Portal.Console.Web
import Portal.Console.Wire
import Portal.Dashboard.Views
import Portal.Database.Cursor
import Portal.Database.Maintenance
import Portal.Decimal
import Portal.Digest.Md5
import Portal.Digest.Sha256
import Portal.Forms.Basic
import Portal.Forms.Input
import Portal.Json.Basic
import Portal.Json.Literal
import Portal.Json.Read
import Portal.Json.Write
import Portal.Landing.Views
import Portal.Main
import Portal.Markup.Layout
import Portal.Markup.Markdown
import Portal.Markup.References
import Portal.Markup.Tokens
import Portal.Migrations.Basic
import Portal.Migrations.Catalog
import Portal.Migrations.Plan
import Portal.Migrations.State
import Portal.Migrations.Statements
import Portal.Notifications.Basic
import Portal.Plugins.Basic
import Portal.Plugins.Registry
import Portal.Proofs.Addresses
import Portal.Proofs.Answers
import Portal.Proofs.AuditTrail
import Portal.Proofs.Delivery
import Portal.Proofs.Lifecycle
import Portal.Proofs.LogTexts
import Portal.Proofs.Listing
import Portal.Proofs.LogStore
import Portal.Proofs.Mentions
import Portal.Proofs.RequestLog
import Portal.Proofs.Steps
import Portal.Proofs.StoreUpdate
import Portal.Proofs.TaskAccess
import Portal.Proofs.TaskDisclosure
import Portal.Proofs.Webhook
import Portal.Proofs.WrittenRows
import Portal.Proofs.CommentForest
import Portal.Proofs.HandlerRows
import Portal.Proofs.LogStats
import Portal.Proofs.Slugs
import Portal.Proofs.FormValues
import Portal.Proofs.CompletionTimes
import Portal.Proofs.CrawlPaths
import Portal.Proofs.Subscriptions
import Portal.Proofs.PluginRegistry
import Portal.Proofs.PluginUrls
import Portal.Proofs.QueryReport
import Portal.Proofs.TableSizes
import Portal.Proofs.CrawlClosure
import Portal.Proofs.NotificationIsolation
import Portal.Proofs.LogCleanup
import Portal.Proofs.MissingSettings
import Portal.Records.Basic
import Portal.Records.Describe
import Portal.Records.Query
import Portal.Records.Save
import Portal.Scripts.Agent
import Portal.Scripts.Basic
import Portal.Scripts.Crawl
import Portal.Scripts.SampleData
import Portal.Scripts.Setup
import Portal.Sql.Binary64
import Portal.Sql.Datum
import Portal.Sql.Eval
import Portal.Sql.Exec
import Portal.Sql.Functions
import Portal.Sql.Lexer
import Portal.Sql.Parser
import Portal.Sql.Syntax
import Portal.Sql.Tables
import Portal.Store.Basic
import Portal.Store.Catalog
import Portal.Store.Columns
import Portal.Store.Routing
import Portal.Store.Schema
import Portal.Store.Value
import Portal.Tasks.Forms
import Portal.Tasks.Views
import Portal.Text.AsciiFold
import Portal.Text.Double
import Portal.Text.Numeral
import Portal.Text.Percent
import Portal.Text.Similar
import Portal.Text.Slug
import Portal.Text.Wrap
import Portal.Web.Address
import Portal.Web.Csrf
import Portal.Web.Http
import Portal.Web.Reverse
import Portal.Web.Routes
import Portal.Web.Site
import Portal.Web.View
import Portal.World
import Portal.Proofs.ConfigLoad
import Portal.Proofs.LoggedCalls
import Portal.Proofs.SkipSettings
import Portal.Proofs.SampleRerun
import Portal.Proofs.TaskCascade
import Portal.Proofs.ColouredLevels
import Portal.Proofs.ConventionTasks
import Portal.Proofs.BlogListings
import Portal.Proofs.ShareRequests
import Portal.Proofs.TaskSharing
