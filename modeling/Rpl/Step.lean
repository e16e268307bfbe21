import Rpl.Forwarding
import Rpl.Lib.TransitionSystem

/-!
# The node as a transition system

Everything that makes the routing protocol run: a received message, a timer that
fires, a call of its interface, a change of the IPv6 layer below it, and time
passing.  A timer fires at the time it was set for, since time does not pass it.
-/

namespace Rpl

open Std

/-! ## Timers -/

/-- The timers of a node. -/
inductive TimerName
  | dis
  | firstSolicitation
  | trickleTransmit (key : DodagKey)
  | trickleInterval (key : DodagKey)
  | dao (key : DodagKey)
  | daoRetry (key : DodagKey)
  | globalRepair (key : DodagKey)
  | aodvExpiry (key : DodagKey)
  | p2pExpiry (key : DodagKey)
  | droRetry (key : DodagKey)
  | droCollect (key : DodagKey)
  deriving DecidableEq, Repr

namespace DodagMembership

/-- The timers of a membership. -/
def timers (dodag : DodagMembership) : List Timer :=
  [dodag.dioTrickle.transmitTimer, dodag.dioTrickle.intervalTimer, dodag.daoEvent,
    dodag.daoRetryEvent, dodag.globalRepairEvent, dodag.aodv.expiry, dodag.p2p.expiry,
    dodag.p2p.droRetryEvent, dodag.p2p.droCollectEvent]

end DodagMembership

namespace Node

/-- The timer of a membership, not running when there is no membership. -/
def timerOf (n : Node) (key : DodagKey) (timer : DodagMembership → Timer) : Timer :=
  (n.dodags[key]?).bind timer

/-- A timer of the node. -/
def timer (n : Node) : TimerName → Timer
  | .dis => n.disTimer
  | .firstSolicitation => n.firstSolicitation
  | .trickleTransmit key => n.timerOf key (·.dioTrickle.transmitTimer)
  | .trickleInterval key => n.timerOf key (·.dioTrickle.intervalTimer)
  | .dao key => n.timerOf key (·.daoEvent)
  | .daoRetry key => n.timerOf key (·.daoRetryEvent)
  | .globalRepair key => n.timerOf key (·.globalRepairEvent)
  | .aodvExpiry key => n.timerOf key (·.aodv.expiry)
  | .p2pExpiry key => n.timerOf key (·.p2p.expiry)
  | .droRetry key => n.timerOf key (·.p2p.droRetryEvent)
  | .droCollect key => n.timerOf key (·.p2p.droCollectEvent)

/-- `TransmitEvent`: the DIO goes out unless enough consistent ones were heard. -/
def trickleTransmit (n : Node) (key : DodagKey) : Node :=
  match n.dodags[key]? with
  | none => n
  | some dodag =>
    let n := n.modifyDodag key fun dodag =>
      { dodag with dioTrickle := dodag.dioTrickle.transmitEvent }
    if dodag.dioTrickle.transmits then n.dioTrickleFire key else n

/-- `IntervalEvent`. -/
def trickleInterval (n : Node) (key : DodagKey) : Node :=
  n.modifyDodag key fun dodag => { dodag with dioTrickle := dodag.dioTrickle.intervalEvent n.now }

/-- What `daoEvent` is for: a Storing root purges, any other member advertises. -/
def daoEventFire (n : Node) (key : DodagKey) : Node :=
  match n.dodags[key]? with
  | none => n
  | some dodag =>
    if dodag.isRoot then n.purgeDownwardRoutesTimerExpire key else n.daoTimerExpire key

/-- A timer fires: it no longer runs, and its function is called. -/
def fire (n : Node) : TimerName → Node
  | .dis => ({ n with disTimer := none }).disTimerExpire
  | .firstSolicitation => ({ n with firstSolicitation := none }).disTimerExpire
  | .trickleTransmit key => n.trickleTransmit key
  | .trickleInterval key => n.trickleInterval key
  | .dao key => (n.modifyDodag key fun dodag => { dodag with daoEvent := none }).daoEventFire key
  | .daoRetry key =>
    (n.modifyDodag key fun dodag => { dodag with daoRetryEvent := none }).daoRetry key
  | .globalRepair key =>
    (n.modifyDodag key fun dodag => { dodag with globalRepairEvent := none }).globalRepairFire key
  | .aodvExpiry key =>
    (n.modifyAodv key fun aodv => { aodv with expiry := none }).aodvInstanceExpired key
  | .p2pExpiry key =>
    (n.modifyP2p key fun p2p => { p2p with expiry := none }).p2pInstanceExpired key
  | .droRetry key => (n.modifyP2p key fun p2p => { p2p with droRetryEvent := none }).p2pDroRetry key
  | .droCollect key =>
    (n.modifyP2p key fun p2p => { p2p with droCollectEvent := none }).p2pDroCollectExpire key

/-! ## Received messages -/

/-- `RecvRpl`: this node's own messages are not taken in. -/
def recvRpl (n : Node) (heard : Reception) (message : RplMessage) : Node :=
  if heard.sender = n.ipv6.getLinkLocalAddress heard.interface then n
  else
    match message with
    | .dis => n.handleDis heard.sender heard.interface heard.toMulticast
    | .dio dio => n.handleDio dio heard
    | .dao dao => n.handleDao dao heard.sender heard.interface
    | .daoAck ack => n.handleDaoAck ack
    | .p2pDro dro => n.handleP2pDro dro
    | .p2pDroAck ack => n.handleP2pDroAck ack

end Node

/-! ## Events -/

/-- What can happen to a node. -/
inductive Event
  | receive (heard : Reception) (message : RplMessage)
  | fire (timer : TimerName)
  /-- Time passes. -/
  | tick (later : Time)
  | discoverRoute (target : Ipv6Address) (hopByHop : Bool)
  | discoverP2pRoute (target : Ipv6Address) (hopByHop : Bool)
  | createLocalDodag (instanceId mop : UInt8)
  | setAsRoot
  | dadSuccess (address : Ipv6Address)
  | startInterface (interface : Nat)
  | stopInterface (interface : Nat)
  /-- The IPv6 layer's addresses change. -/
  | readdress (interfaces : List Ipv6Interface)
  /-- A packet of this node's is routed. -/
  | routeOutput (destination : Ipv6Address) (oif : Option Nat)
  | notifyRankInconsistency (instanceId : UInt8)
  | notifyForwardingError (instanceId : UInt8) (destination : Ipv6Address)
  deriving DecidableEq, Repr

namespace Node

/-- The node after an event. -/
def apply (n : Node) : Event → Node
  | .receive heard message => n.recvRpl heard message
  | .fire timer => n.fire timer
  | .tick later => { n with now := later }
  | .discoverRoute target hopByHop => (n.discoverRoute target hopByHop).2
  | .discoverP2pRoute target hopByHop => (n.discoverP2pRoute target hopByHop).2
  | .createLocalDodag instanceId mop => ((n.createLocalDodag instanceId mop).map Prod.snd).getD n
  | .setAsRoot => { n with isRoot := true, disTimer := none }
  | .dadSuccess address => n.handleDadSuccess address
  | .startInterface interface => n.startInterface interface
  | .stopInterface interface => n.stopInterface interface
  | .readdress interfaces => { n with ipv6 := { n.ipv6 with interfaces := interfaces } }
  | .routeOutput destination oif => n.afterRouteOutput destination oif
  | .notifyRankInconsistency instanceId => n.notifyRankInconsistency instanceId
  | .notifyForwardingError instanceId destination => n.notifyForwardingError instanceId destination

/-- What has to hold for an event to happen: a message comes in on an interface RPL runs on,
a timer fires when it is due, time goes forward and not past a timer, and RPL is not started
on the loopback, which has no link-local address. -/
def Enabled (n : Node) : Event → Prop
  | .receive heard _ => heard.interface ∈ n.sockets
  | .fire timer => n.timer timer = some n.now
  | .tick later => n.now ≤ later ∧ ∀ timer at_, n.timer timer = some at_ → later ≤ at_
  | .startInterface interface => interface ≠ 0
  | _ => True

/-- A node before `DoInitialize` has heard anything: no membership, nothing retained. -/
structure Initial (n : Node) : Prop where
  dodags : n.dodags = ∅
  hasBaseDodag : n.hasBaseDodag = false
  retainedPathSequence : n.retainedPathSequence = ∅
  retainedRank : n.retainedRank = ∅
  hopByHopRoutes : n.hopByHopRoutes = ∅
  aodvRoutes : n.aodvRoutes = ∅
  p2pRoutes : n.p2pRoutes = ∅
  history : n.history = []
  loopback : 0 ∉ n.sockets

/-- A node that has just started RPL on interface 1. -/
def started (ipv6 : Ipv6L3Protocol) : Node := { ipv6 := ipv6, sockets := {1} }

theorem started_initial (ipv6 : Ipv6L3Protocol) : (started ipv6).Initial where
  dodags := rfl
  hasBaseDodag := rfl
  retainedPathSequence := rfl
  retainedRank := rfl
  hopByHopRoutes := rfl
  aodvRoutes := rfl
  p2pRoutes := rfl
  history := rfl
  loopback := by
    change (0 : Nat) ∉ ({1} : ExtTreeSet Nat)
    decide +kernel

end Node

/-- The routing protocol of one node. -/
def nodeSystem : TransitionSystem Node Event where
  initial := Node.Initial
  enabled := Node.Enabled
  next := Node.apply

theorem Node.run_apply {good : Node → Event → Prop} {n : Node} {e : Event}
    (run : nodeSystem.Run good n) (enabled : n.Enabled e) (condition : good n e) :
    nodeSystem.Run good (n.apply e) :=
  run.step enabled condition

/-! ## A leaf and its neighbour -/

namespace Node

/-- fe80::2 on interface 1. -/
def leafIpv6 : Ipv6L3Protocol :=
  .ofInterfaces
    [{}, { addresses :=
      [{ address := 0xfe800000000000000000000000000002#128, scope := .linkLocal }] }]

/-- A started node listens on its interface. -/
theorem started_listens (ipv6 : Ipv6L3Protocol) : 1 ∈ (started ipv6).sockets := by
  change (1 : Nat) ∈ ({1} : ExtTreeSet Nat)
  decide +kernel

/-- The node hears a DIO from fe80::1 on interface 1. -/
def hears (dio : DioHeader) : Event :=
  .receive { sender := 0xfe800000000000000000000000000001#128, interface := 1 } (.dio dio)

theorem started_run (ipv6 : Ipv6L3Protocol) {good : Node → Event → Prop} :
    nodeSystem.Run good (started ipv6) :=
  .start (started_initial ipv6)

theorem run_hears {good : Node → Event → Prop} {n : Node} {dio : DioHeader}
    (run : nodeSystem.Run good n) (listens : 1 ∈ n.sockets) (condition : good n (hears dio)) :
    nodeSystem.Run good (n.apply (hears dio)) :=
  run_apply run listens condition

end Node

end Rpl
