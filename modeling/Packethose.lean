import Packethose.Lib.Runs
import Packethose.Lib.Tables
import Packethose.Lib.Octets
import Packethose.Lib.Numerals
import Packethose.Lib.Units
import Packethose.Lib.Ledger
import Packethose.Lib.Outcomes
import Packethose.Lib.Counting
import Packethose.Lib.Meters
import Packethose.Lib.Streams
import Packethose.Lib.Splices
import Packethose.Lib.Scan
import Packethose.Lib.Commands
import Packethose.Lib.Buckets
import Packethose.Lib.Channels
import Packethose.Lib.Base64
import Packethose.Lib.Hex
import Packethose.Lib.Descriptors
import Packethose.Lib.Json
import Packethose.Netip
import Packethose.Users
import Packethose.UserLists
import Packethose.Pool
import Packethose.PoolDerive
import Packethose.PoolInvariant
import Packethose.PoolHistory
import Packethose.PoolCandidates
import Packethose.ServerConfig
import Packethose.PoolReservations
import Packethose.PoolInfrastructure
import Packethose.PoolWalk
import Packethose.Handshake
import Packethose.HandshakeMessages
import Packethose.HandshakeCodec
import Packethose.HandshakeAgreement
import Packethose.FrameAead
import Packethose.LaneSend
import Packethose.Envelopes
import Packethose.Sessions
import Packethose.SessionEffects
import Packethose.SessionPools
import Packethose.Routing
import Packethose.Authorization
import Packethose.Quota
import Packethose.QuotaAccounting
import Packethose.QuotaReload
import Packethose.ServerReload
import Packethose.AnnouncedRows
import Packethose.AnnouncedLanes
import Packethose.RefusedConnections
import Packethose.Reaper
import Packethose.Replay
import Packethose.LaneFrames
import Packethose.LaneReceive
import Packethose.LaneRoundTrip
import Packethose.LaneLengths
import Packethose.TunDevice
import Packethose.Dispatch
import Packethose.SessionQueues
import Packethose.LaneIntegrity
import Packethose.LaneTampering
import Packethose.LaneGrammar
import Packethose.LaneLifecycle
import Packethose.Tunnel
import Packethose.Supervisor
import Packethose.Backoff
import Packethose.FileConfig
import Packethose.KeyText
import Packethose.HotReload
import Packethose.Nftables
import Packethose.Installer
import Packethose.Reinstall
import Packethose.Restarts
import Packethose.Accounting
import Packethose.ClientStats
import Packethose.Relay
import Packethose.Isolation
import Packethose.ServerFlags
import Packethose.AcceptLoop
import Packethose.SingleServer
import Packethose.ClientLanes
import Packethose.RateLimit
import Packethose.LimiterPruning
import Packethose.Permits
import Packethose.SessionCensus
import Packethose.Metrics
import Packethose.Netstack
import Packethose.TcpRelay
import Packethose.UdpFlows
import Packethose.FlowHoldings
import Packethose.FlowDelivery
import Packethose.ProxyStop
import Packethose.UdpBatch
import Packethose.TunQueues
