import Rpl.DiscoverySimulation
import Rpl.VersionHistory
import Rpl.BaseDodag
import Rpl.LoopAvoidance
import Rpl.DaoRelay
import Rpl.DaoOrder
import Rpl.DaoAttribution
import Rpl.RouteAgreement
import Rpl.PacketInfoOption
import Rpl.ForwardingError
import Rpl.TemporaryDodags
import Rpl.HopByHopStamping
import Rpl.SourceRoute
import Rpl.ParentEdge
import Rpl.RankCeiling
import Rpl.UpwardPeers
import Rpl.P2pReplyRun
import Rpl.RejoinBar
import Rpl.Lifetimes
import Rpl.AskedRoutes
import Rpl.DiscoveryState
import Rpl.StoppedDiscovery
import Rpl.DiscoveryOptions
import Rpl.TopologyClimb
import Rpl.PacketInfoEdit
import Rpl.LimitTest
import Rpl.RecvRpl
import Rpl.DaoAllOrNothing
import Rpl.ReplyReencoding
import Rpl.DaoRefresh
import Rpl.PathSequenceRun
import Rpl.LinkMetric
import Rpl.RouteFreshness
import Rpl.DaoSerialize
import Rpl.DaoAggregation
import Rpl.RouteDiscoveryOption
import Rpl.AckMatching
import Rpl.TargetRecord
import Rpl.CandidateRoutes
import Rpl.LinkEstimate
import Rpl.TrickleRuns
import Rpl.RoutingHeaderReading
import Rpl.ReplyCycles
import Rpl.ReplyBatch
import Rpl.Stranded
import Rpl.Pairing
import Rpl.StoringDelivery
import Rpl.DaoPropagation
import Rpl.ParentGraph
import Rpl.Wire
import Rpl.DiscoveredRoutes
import Rpl.P2pReturn
import Rpl.NonStoringDelivery
import Rpl.SourceRouteConvergence
