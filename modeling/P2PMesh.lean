import P2PMesh.NoiseNonces
import P2PMesh.NoiseRecovery
import P2PMesh.RouteEcmp
import P2PMesh.RelayIdentity
import P2PMesh.RelayAuthentication
import P2PMesh.RelayLimits
import P2PMesh.RelayRoutes
import P2PMesh.Overlay
import P2PMesh.Base.Delivery
import P2PMesh.OverlayDispatch
import P2PMesh.OverlayPolicy
import P2PMesh.OverlayProgress
import P2PMesh.DistanceVectorInfinity
import P2PMesh.DistanceVectorHoldDown
import P2PMesh.DistanceVectorMesh
import P2PMesh.Base.LeastCost
import P2PMesh.DistanceVectorConvergence
import P2PMesh.Babel
import P2PMesh.BabelSelection
import P2PMesh.BabelFeasibility
import P2PMesh.BabelAcceptance
import P2PMesh.Gossip
import P2PMesh.Base.Register
import P2PMesh.GossipMerge
import P2PMesh.GossipRumors
import P2PMesh.GossipHistory
import P2PMesh.Turn
import P2PMesh.TurnLedger
import P2PMesh.TurnExpiry
import P2PMesh.TurnAccounts
import P2PMesh.Base.ShortestPath
import P2PMesh.Topology
import P2PMesh.TopologyPath
import P2PMesh.TopologyGraph
import P2PMesh.Base.Registry
import P2PMesh.Signaling
import P2PMesh.SignalingEndpoint
import P2PMesh.SignalingNode
import P2PMesh.SignalingReconnect
import P2PMesh.Auth
import P2PMesh.AuthSessions
import P2PMesh.SignalingMaps
import P2PMesh.AuthRevocation
import P2PMesh.AuthRefresh
import P2PMesh.AuthLockout
import P2PMesh.AclStore
import P2PMesh.AclPersistence
import P2PMesh.AclMembership
import P2PMesh.AclInterchange
import P2PMesh.Base.Tally
import P2PMesh.SignalingCluster
import P2PMesh.SignalingCounters
import P2PMesh.SignalingDelivery
import P2PMesh.SignalingViews
import P2PMesh.SignalingIsolation
import P2PMesh.PunchingOutcome
import P2PMesh.Stun
import P2PMesh.IpamUniqueness
import P2PMesh.IpamDevices
import P2PMesh.IceAgent
import P2PMesh.Connectivity
import P2PMesh.UsageQuota
import P2PMesh.Base.Custody
import P2PMesh.UsageRetention
import P2PMesh.DeviceRegistry
import P2PMesh.Base.SlidingWindow
import P2PMesh.RateLimitWindow
import P2PMesh.Raft
import P2PMesh.Multipath
import P2PMesh.Base.DnsWire
import P2PMesh.DnsQuery
import P2PMesh.MeshDns
import P2PMesh.DnsAuthenticity
import P2PMesh.HttpGateway
import P2PMesh.RelayService
import P2PMesh.RelayRegistration
import P2PMesh.Base.Ipv6Text
import P2PMesh.Base.PythonText
import P2PMesh.NatTraversal
import P2PMesh.Base.Periods
import P2PMesh.Billing
import P2PMesh.TrafficReports
import P2PMesh.AclEdits
import P2PMesh.RouteInvariant
import P2PMesh.PeerMaps
import P2PMesh.TunnelInbound
import P2PMesh.MultiPathManager
import P2PMesh.SignalingAdmission
import P2PMesh.SignalingMessages
import P2PMesh.AuthCutoff
import P2PMesh.IpamSequential
import P2PMesh.SignalingEviction
import P2PMesh.Base.OpenedWindow
import P2PMesh.RateLimitMemory
import P2PMesh.UsageAdmission
import P2PMesh.TrafficPartition
import P2PMesh.DnsResponse
import P2PMesh.DnsQuestion
import P2PMesh.Base.XorMetric
import P2PMesh.Kademlia
import P2PMesh.KademliaClosest
import P2PMesh.IcePairs
import P2PMesh.IceRoles
import P2PMesh.Base.History
import P2PMesh.Base.Counter
import P2PMesh.Base.CheckedRead
import P2PMesh.Base.FixedWindow
import P2PMesh.Base.TableSum
import P2PMesh.Base.Fifo
import P2PMesh.ConnectivityRecord
import P2PMesh.DnsBounds
import P2PMesh.StunLimits
import P2PMesh.PathMetrics
import P2PMesh.MultipathScheduler
import P2PMesh.MultipathLifeCycle
import P2PMesh.FastPath
import P2PMesh.IceChecks
import P2PMesh.IceCheckedPair
import P2PMesh.IceCheckAccounts
import P2PMesh.IceSession
import P2PMesh.Base.Catalogue
import P2PMesh.Base.TimedTable
import P2PMesh.Base.Negotiation
import P2PMesh.Base.ShiftXor
import P2PMesh.SmartRelay
import P2PMesh.SmartRelayIndexes
import P2PMesh.SmartRelaySelection
import P2PMesh.MultipathValidation
import P2PMesh.MultipathCongestion
import P2PMesh.PqcNegotiation
import P2PMesh.IoBuffers
import P2PMesh.IoUringEngine
import P2PMesh.Rss
import P2PMesh.PathSelection
import P2PMesh.PathSelectionRuns
import P2PMesh.Base.TwoPhase
import P2PMesh.TopologyCalls
import P2PMesh.MeshTunnel
import P2PMesh.TunnelTraffic
import P2PMesh.Devices
import P2PMesh.DeviceIsolation
import P2PMesh.DeviceRows
import P2PMesh.CandidateExchange
import P2PMesh.CandidateAnswers
