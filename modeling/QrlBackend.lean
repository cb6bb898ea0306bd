import QrlBackend.Accounting
import QrlBackend.Acks
import QrlBackend.Acts
import QrlBackend.AddressCase
import QrlBackend.Admission
import QrlBackend.Atomicity
import QrlBackend.Attempts
import QrlBackend.Attendance
import QrlBackend.AuditGate
import QrlBackend.AuditOrder
import QrlBackend.Base64
import QrlBackend.BoundedJson
import QrlBackend.Budgets
import QrlBackend.CacheIsolation
import QrlBackend.Callbacks
import QrlBackend.Capacity
import QrlBackend.ChannelManager
import QrlBackend.ChannelRuns
import QrlBackend.ClientIp
import QrlBackend.Closing
import QrlBackend.Configuration
import QrlBackend.Confinement
import QrlBackend.Conservation
import QrlBackend.Containment
import QrlBackend.Cooldowns
import QrlBackend.Core
import QrlBackend.Effects
import QrlBackend.Engine
import QrlBackend.Evidence
import QrlBackend.Failover
import QrlBackend.FixedWindow
import QrlBackend.Flow
import QrlBackend.Gateways
import QrlBackend.GetLogs
import QrlBackend.HealthMonitor
import QrlBackend.HealthReports
import QrlBackend.HexText
import QrlBackend.HistoryContacts
import QrlBackend.Holdings
import QrlBackend.Hosts
import QrlBackend.InertContent
import QrlBackend.Integrity
import QrlBackend.IpfsProxy
import QrlBackend.JoinTurns
import QrlBackend.JsMap
import QrlBackend.Json
import QrlBackend.KeyBinding
import QrlBackend.Ledger
import QrlBackend.Lifetimes
import QrlBackend.Lodging
import QrlBackend.Membership
import QrlBackend.Numerals
import QrlBackend.ObjectHeap
import QrlBackend.Ordering
import QrlBackend.PinnedCalls
import QrlBackend.PinnedIdentity
import QrlBackend.Poller
import QrlBackend.Presence
import QrlBackend.Protocol
import QrlBackend.QrlAddress
import QrlBackend.RateLimits
import QrlBackend.Readiness
import QrlBackend.ReadySet
import QrlBackend.RecentKeys
import QrlBackend.Recovery
import QrlBackend.Refusals
import QrlBackend.RelayServer
import QrlBackend.Replay
import QrlBackend.ReportedFailures
import QrlBackend.RequestRules
import QrlBackend.Reservations
import QrlBackend.Roles
import QrlBackend.RoutingEffects
import QrlBackend.RpcAnswers
import QrlBackend.RpcRefusals
import QrlBackend.RpcRoutes
import QrlBackend.RpcSecurity
import QrlBackend.RpcService
import QrlBackend.RpcTurns
import QrlBackend.RpcVetting
import QrlBackend.Runs
import QrlBackend.Scenes
import QrlBackend.Seats
import QrlBackend.Separation
import QrlBackend.ServerErrors
import QrlBackend.Shrinks
import QrlBackend.Slots
import QrlBackend.SocketCounts
import QrlBackend.StableSort
import QrlBackend.Starvation
import QrlBackend.Stats
import QrlBackend.Stranding
import QrlBackend.Streams
import QrlBackend.Tallies
import QrlBackend.TextDecoder
import QrlBackend.TombstoneOrder
import QrlBackend.Tombstones
import QrlBackend.TurnCalls
import QrlBackend.Turns
import QrlBackend.TxHistory
import QrlBackend.Upgrades
import QrlBackend.Upstream
import QrlBackend.UrlSerializer
import QrlBackend.ViewRuns
import QrlBackend.Views
import QrlBackend.Waiting
import QrlBackend.WebUrl
import QrlBackend.Wire
