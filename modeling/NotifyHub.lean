import NotifyHub.Lifecycle.Moves
import NotifyHub.Lifecycle.Coherence
import NotifyHub.Lifecycle.Acceptance
import NotifyHub.Lifecycle.Rescue
import NotifyHub.Lifecycle.Hands
import NotifyHub.Lifecycle.Cancellation
import NotifyHub.Lifecycle.EnqueueOnce
import NotifyHub.Lifecycle.StatusOrder
import NotifyHub.Lifecycle.Idempotency
import NotifyHub.Lifecycle.Envelope
import NotifyHub.Isolation.Notifications
import NotifyHub.TemplateRepository
import NotifyHub.Isolation.Templates
import NotifyHub.Lib.Offsets
import NotifyHub.Worker.Pool
import NotifyHub.Worker.Loop
import NotifyHub.Worker.CommitOrder
import NotifyHub.Pipeline.Outcome
import NotifyHub.Realtime.Hub
import NotifyHub.Pipeline.Persistence
import NotifyHub.Lib.Rounding
import NotifyHub.Lib.Window
import NotifyHub.RateLimit.Service
import NotifyHub.RateLimit.Window
import NotifyHub.Lib.Separator
import NotifyHub.RateLimit.Isolation
import NotifyHub.Lib.Fields
import NotifyHub.TemplateUpdates
import NotifyHub.Worker.Ordering
import NotifyHub.Lib.Table
import NotifyHub.Stores.Storage
import NotifyHub.Stores.DeadLetterRepository
import NotifyHub.Stores.DeviceTokenRepository
import NotifyHub.Stores.InAppRepository
import NotifyHub.Stores.PreferenceRepository
import NotifyHub.Stores.WebhookRepository
import NotifyHub.Isolation.Stores
import NotifyHub.Realtime.Stream
import NotifyHub.Realtime.Reconnect
import NotifyHub.Pipeline.FrequencyCap
import NotifyHub.Lifecycle.Publication
import NotifyHub.Lib.Trace
import NotifyHub.Lifecycle.Punctuality
import NotifyHub.Worker.Drain
import NotifyHub.Worker.Replay
import NotifyHub.Lib.Retry
import NotifyHub.Pipeline.Course
import NotifyHub.Pipeline.Infrastructure
import NotifyHub.Pipeline.Retries
import NotifyHub.Pipeline.Metrics
import NotifyHub.WebhookService
import NotifyHub.Pipeline.Webhooks
import NotifyHub.InboxPages
import NotifyHub.InboxTraversal
import NotifyHub.RateLimit.Log
import NotifyHub.QuietHours
import NotifyHub.PreferenceUpserts
import NotifyHub.Lifecycle.EmptyKeys
import NotifyHub.PageArithmetic
import NotifyHub.Lib.Lines
import NotifyHub.TemplateLoader
import NotifyHub.WebhookWorker
import NotifyHub.WebhookFanout
import NotifyHub.Lib.References
import NotifyHub.WebhookProcessing
import NotifyHub.BulkSend
import NotifyHub.AbsentRows
import NotifyHub.ApiSchema
import NotifyHub.Lib.Ddl
import NotifyHub.Migrations
import NotifyHub.Providers
import NotifyHub.Lib.Feed
import NotifyHub.Realtime.Registry
import NotifyHub.Realtime.Subscribers
import NotifyHub.Lib.Glob
import NotifyHub.Realtime.Routing
import NotifyHub.ReadState
import NotifyHub.DeviceTokens
import NotifyHub.Pipeline.InboxDelivery
import NotifyHub.Api.Accounts
import NotifyHub.Api.WsToken
import NotifyHub.Stores.Core
import NotifyHub.Api.Handlers
import NotifyHub.Api.Effects
import NotifyHub.Api.Server
import NotifyHub.Api.Requests
import NotifyHub.Api.Throttling
import NotifyHub.Lifecycle.Effort
import NotifyHub.Lifecycle.Delivered
import NotifyHub.WebhookRegistry
import NotifyHub.Lib.Digits
import NotifyHub.Lib.Calendar
import NotifyHub.Lib.Json
import NotifyHub.Lib.JsonObjects
import NotifyHub.Wire
