import EventGateway.Api.Chunks
import EventGateway.Auth.Sharing
import EventGateway.Configuration.Startup
import EventGateway.Consumers.Deregistration
import EventGateway.Domain.ConsumerLifecycle
import EventGateway.Domain.EventMemory
import EventGateway.Health.Endpoints
import EventGateway.Journey.Alone
import EventGateway.Journey.Replays
import EventGateway.Kafka.Attempts
import EventGateway.Kafka.Switches
import EventGateway.RateLimit.RacingBound
import EventGateway.RateLimit.Stopping
import EventGateway.Registry.Lifetime
import EventGateway.Registry.Validation
import EventGateway.Replay.Count
import EventGateway.Replay.EmptyFilter
import EventGateway.Replay.Latest
import EventGateway.Resilience.Admission
import EventGateway.Resilience.Notifications
import EventGateway.Resilience.Retry
import EventGateway.Server.Accounting
import EventGateway.Server.Production
import EventGateway.Server.Session
import EventGateway.Subscription.Feeding
import EventGateway.Subscription.FetchErrors
import EventGateway.Subscription.Filtering
import EventGateway.Subscription.Settings
import EventGateway.Subscription.Stops
import EventGateway.System.Identifiers
import EventGateway.Transform.Cache
import EventGateway.Transform.Identity
