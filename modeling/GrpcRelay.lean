import GrpcRelay.Lib.Credit
import GrpcRelay.Lib.DashMap
import GrpcRelay.Lib.Episodes
import GrpcRelay.Lib.Float64
import GrpcRelay.Lib.History
import GrpcRelay.Lib.Index
import GrpcRelay.Lib.Json
import GrpcRelay.Lib.Linearize
import GrpcRelay.Lib.Locals
import GrpcRelay.Lib.Monitor
import GrpcRelay.Lib.Replica
import GrpcRelay.Lib.RotatingWindow
import GrpcRelay.Lib.Rounding
import GrpcRelay.Lib.Runs
import GrpcRelay.Lib.SingleFlight
import GrpcRelay.Lib.SlidingWindow
import GrpcRelay.Lib.Tickets
import GrpcRelay.Lib.Timed
import GrpcRelay.Proto
import GrpcRelay.Validator
import GrpcRelay.Auth
import GrpcRelay.RateLimiter
import GrpcRelay.Buckets
import GrpcRelay.FloatBuckets
import GrpcRelay.Budgets
import GrpcRelay.Windows
import GrpcRelay.Bandwidth
import GrpcRelay.Refusals
import GrpcRelay.Stream
import GrpcRelay.State
import GrpcRelay.System
import GrpcRelay.Controller
import GrpcRelay.Device
import GrpcRelay.Step
import GrpcRelay.Moves
import GrpcRelay.Custody
import GrpcRelay.Contract
import GrpcRelay.Responses
import GrpcRelay.Answers
import GrpcRelay.Progress
import GrpcRelay.Disconnects
import GrpcRelay.Timeouts
import GrpcRelay.Authorization
import GrpcRelay.Identity
import GrpcRelay.Isolation
import GrpcRelay.Forwarding
import GrpcRelay.Forwarders
import GrpcRelay.Dangling
import GrpcRelay.CachedResults
import GrpcRelay.Failures
import GrpcRelay.Successes
import GrpcRelay.Atomic
import GrpcRelay.Sessions
import GrpcRelay.Owners
import GrpcRelay.Coherence
import GrpcRelay.EventLog
import GrpcRelay.Registry
import GrpcRelay.Handlings
import GrpcRelay.Router
import GrpcRelay.Admission
import GrpcRelay.Reaping
import GrpcRelay.RouterCalls
import GrpcRelay.RouterOrder
import GrpcRelay.RouterRuns
import GrpcRelay.RouterLinear
import GrpcRelay.Streams
import GrpcRelay.Interleaved
import GrpcRelay.Uninterrupted
import GrpcRelay.LongRuns
import GrpcRelay.Leaks
import GrpcRelay.RequestLimit
import GrpcRelay.Cleanup
import GrpcRelay.Bracketing
import GrpcRelay.Unary
import GrpcRelay.Discovery
import GrpcRelay.Ownership
import GrpcRelay.Revocation
import GrpcRelay.DeviceClient
import GrpcRelay.DeviceHandlers
import GrpcRelay.Reconnects
import GrpcRelay.ControllerClient
import GrpcRelay.Matching
import GrpcRelay.Mqtt
import GrpcRelay.Publications
import GrpcRelay.PublishOrder
import GrpcRelay.Announcements
import GrpcRelay.Fleet
import GrpcRelay.Exchange
import GrpcRelay.Backoff
import GrpcRelay.Splitting
import GrpcRelay.BrokerAddress
import GrpcRelay.Observability
import GrpcRelay.AuditLog
import GrpcRelay.AuditRetention
import GrpcRelay.AuditAge
import GrpcRelay.AuditEvents
import GrpcRelay.AuditLogger
import GrpcRelay.AuditTrail
import GrpcRelay.LoopTrail
import GrpcRelay.Alerting
import GrpcRelay.AlertEpisodes
import GrpcRelay.AlertConditions
