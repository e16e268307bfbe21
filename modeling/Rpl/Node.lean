import Rpl.Membership

/-!
# The state of a node

`Node` is `RplRoutingProtocol` itself: its attributes, the IPv6 layer below it,
its memberships with the base DODAG among them, what it retains of memberships
it has left, and the route tables its discoveries fill.  `outputs` records what
the node does that others can see, and `history` the Versions it enters, the
ranks it takes and the DODAGs it leaves, as it logs them.  No function of the
protocol reads either.
-/

namespace Rpl

open Std

/-! ## Attributes -/

/-- The `TypeId` attributes of `RplRoutingProtocol` at their defaults, with the random stream
its DIO Trickle timers draw from. `m_lifetimeUnit` is not one of them: nothing sets it, so it
is `defaultLifetimeUnit` throughout. -/
structure Attributes where
  disInterval : Time := seconds 30
  dioIntervalMin : Time := milliSeconds (2 ^ dioIntervalMinDefault.toNat)
  dioIntervalDoublings : UInt8 := dioIntervalDoublingsDefault
  dioRedundancy : UInt8 := dioRedundancyDefault
  minHopRankIncrease : UInt16 := minHopRankIncDefault
  ocp : UInt16 := ocpOf0
  mop : UInt8 := mopNonStoring
  enableLql : Bool := false
  daoInterval : Time := seconds 60
  daoAckTimeout : Time := seconds 5
  daoRetries : UInt8 := 3
  pathLifetime : UInt8 := defaultLifetime
  rootPrefix : Ipv6Address := anyAddress
  rootPrefixLength : UInt8 := 64
  aodvDioIntervalMin : Time := milliSeconds 128
  aodvDioIntervalDoublings : UInt8 := 4
  aodvDioRedundancy : Int := 1
  aodvMaxRankIncrease : Int := -1
  aodvTrickleRankOnlyReset : Bool := false
  aodvGratuitousRrep : Bool := false
  aodvGratuitousRrepOnce : Bool := true
  aodvGratuitousRrepRelay : Bool := true
  aodvRankLimit : UInt8 := 8
  aodvLifetime : UInt8 := 1
  aodvRejoinReenable : Time := seconds 900
  aodvForceAsymmetric : Bool := false
  p2pDioIntervalMin : Time := milliSeconds 128
  p2pDioIntervalDoublings : UInt8 := 4
  p2pDioRedundancy : UInt8 := 1
  p2pMaxRank : UInt8 := 8
  p2pLifetime : UInt8 := 2
  p2pNumRoutes : UInt8 := 0
  p2pDroCollectWindow : Time := milliSeconds 256
  p2pDroAckRequested : Bool := true
  p2pDroAckWaitTime : Time := seconds 1
  p2pDroMaxRetransmissions : UInt8 := 3
  globalRepairInterval : Time := timeMax
  /-- What a DIO Trickle timer draws from, by its DODAG and the time it is started: the one stream
  of `AssignStreams`, or without that a stream of its own. -/
  dioTrickleStream : DodagKey → Time → Nat → Nat := fun _ _ _ => 0

/-! ## Node-level records -/

/-- `RetainedRank`: the lowest rank held in a DODAG Version the node has left. -/
structure RetainedRank where
  version : UInt8
  lowestRank : UInt16
  expires : Time
  deriving DecidableEq, Repr

/-- `RETAINED_VERSIONS`. -/
def retainedVersions : Nat := 4

/-- `P2pInstanceUse`: when an RPLInstanceID last served a P2P-RPL discovery. -/
structure P2pInstanceUse where
  started : Time
  targetStarted : ExtTreeMap Ipv6Address Time := ∅

/-- `AodvRoute`: a source route an AODV-RPL discovery found. -/
structure AodvRoute where
  hops : List Ipv6Address
  rreqInstanceId : UInt8 := 0
  destSeqNo : UInt8 := 0
  expire : Time
  deriving DecidableEq, Repr

/-- `P2pRoute`: a source route a P2P-RPL discovery found. -/
structure P2pRoute where
  hops : List Ipv6Address
  instanceId : UInt8 := 0
  expire : Time
  deriving DecidableEq, Repr

/-- `HopByHopRoute`: the next hop of a route set up hop by hop. -/
structure HopByHopRoute where
  instanceId : UInt8 := 0
  dodagId : Ipv6Address
  nextHop : Ipv6Address
  expire : Time
  seqNo : UInt8 := 0
  deriving DecidableEq, Repr

/-- What a node does that can be observed from outside it. -/
inductive Output
  /-- A message handed to the IPv6 layer. -/
  | sent (interface : Nat) (source destination : Ipv6Address) (message : RplMessage)
  /-- `DiscoveryTargetReached`. -/
  | discoveryTargetReached (key : DodagKey)
  deriving DecidableEq, Repr

/-- A turn in the history of a node's memberships. -/
inductive Milestone
  /-- The node became a member of a DODAG Version, by a first join, a rejoin or a
  migration; `retained` are the unexpired records it then held of Versions left. -/
  | joined (key : DodagKey) (time : Time) (version mop : UInt8) (retained : List RetainedRank)
  /-- A membership that is not a root's took a rank. -/
  | ranked (key : DodagKey) (rank : UInt16)
  /-- A membership ended, with Imax as it then was. -/
  | left (key : DodagKey) (time imax : Time)
  deriving DecidableEq, Repr

/-! ## The node -/

/-- `RplRoutingProtocol`. -/
structure Node where
  now : Time := 0
  attributes : Attributes := {}
  ipv6 : Ipv6L3Protocol
  /-- `m_ifcToSocket`: the interfaces RPL runs on. -/
  sockets : ExtTreeSet Nat := ∅
  isRoot : Bool := false
  disTimer : Timer := none
  disRefreshPending : Bool := false
  /-- The first solicitation `DoInitialize` schedules. -/
  firstSolicitation : Timer := none
  jitter : RandomStream := {}
  p2pRouteSelector : RandomStream := {}
  dodags : ExtTreeMap DodagKey DodagMembership := ∅
  retainedPathSequence : ExtTreeMap DodagKey UInt8 := ∅
  retainedRank : ExtTreeMap DodagKey (List RetainedRank) := ∅
  hasBaseDodag : Bool := false
  baseDodagKey : DodagKey := ⟨0, anyAddress⟩
  aodvSeqNo : UInt8 := 0
  aodvRejoinBlocked : ExtTreeMap DodagKey Time := ∅
  aodvRouteStateUntil : ExtTreeMap UInt8 Time := ∅
  p2pInstanceUse : ExtTreeMap UInt8 P2pInstanceUse := ∅
  p2pStopMemory : ExtTreeMap DodagKey Time := ∅
  aodvRoutes : ExtTreeMap Ipv6Address AodvRoute := ∅
  p2pRoutes : ExtTreeMap Ipv6Address P2pRoute := ∅
  hopByHopRoutes : ExtTreeMap Ipv6Address HopByHopRoute := ∅
  /-- Newest first, as is `history`. -/
  outputs : List Output := []
  history : List Milestone := []

namespace Node

/-! ## Memberships -/

/-- A node that is in one DODAG, its base DODAG, and runs RPL on interface 1. -/
def inDodag (ipv6 : Ipv6L3Protocol) (dodag : DodagMembership) : Node :=
  { ipv6 := ipv6
    sockets := {1}
    dodags := (∅ : ExtTreeMap DodagKey DodagMembership).insert dodag.key dodag
    hasBaseDodag := true
    baseDodagKey := dodag.key }

@[simp] theorem inDodag_dodags_self (ipv6 : Ipv6L3Protocol) (dodag : DodagMembership) :
    (inDodag ipv6 dodag).dodags[dodag.key]? = some dodag :=
  ExtTreeMap.getElem?_insert_self

/-- `GetBaseDodag`. -/
def getBaseDodag (n : Node) : Option DodagMembership :=
  if n.hasBaseDodag then n.dodags[n.baseDodagKey]? else none

/-- `IsJoined`. -/
def isJoined (n : Node) : Bool := n.getBaseDodag.isSome

/-- A membership rewritten in place; nothing happens when it is not held. -/
def modifyDodag (n : Node) (key : DodagKey) (f : DodagMembership → DodagMembership) : Node :=
  { n with dodags := n.dodags.modify key f }

/-- The place of a membership rewritten. -/
def modifyPlace (n : Node) (key : DodagKey) (f : DodagPlace → DodagPlace) : Node :=
  n.modifyDodag key fun dodag => { dodag with toDodagPlace := f dodag.toDodagPlace }

def setDodag (n : Node) (key : DodagKey) (dodag : DodagMembership) : Node :=
  { n with dodags := n.dodags.insert key dodag }

def log (n : Node) (output : Output) : Node := { n with outputs := output :: n.outputs }

def mark (n : Node) (milestone : Milestone) : Node :=
  { n with history := milestone :: n.history }

/-- A value of `m_jitter` between zero and one second, and the node after the draw. -/
def drawJitter (n : Node) : Time × Node :=
  let draw := n.jitter.getValue 0 (seconds 1)
  (draw.1, { n with jitter := draw.2 })

/-! ## Addresses -/

def getGlobalAddress (n : Node) : Ipv6Address := n.ipv6.getGlobalAddress

/-- `GetGlobalAddressIn`: the node's address under the DODAG's prefix. -/
def getGlobalAddressIn (n : Node) (dodag : DodagMembership) : Ipv6Address :=
  match dodag.prefixInfo with
  | none => n.getGlobalAddress
  | some info => n.ipv6.getGlobalAddressUnder info.network info.prefixLength

/-- `GetGlobalAddressOnInterface`. -/
def getGlobalAddressOnInterface (n : Node) (dodag : DodagMembership) (interface : Nat) :
    Ipv6Address :=
  ((n.ipv6.addressesOf interface).find? fun a =>
      Ipv6L3Protocol.usableGlobal a &&
        dodag.prefixInfo.all fun info =>
          Ipv6Address.prefixMatch info.prefixLength a.address info.network).map
    Ipv6InterfaceAddress.address |>.getD anyAddress

/-! ## Sending -/

/-- `SendRplMessageOn`: only on an interface RPL runs on, from the address the IPv6 layer
selects. -/
def sendRplMessageOn (n : Node) (interface : Nat) (message : RplMessage)
    (destination : Ipv6Address) : Node :=
  if interface ∈ n.sockets then
    n.log (.sent interface
      (n.ipv6.sourceAddressSelection n.ipv6.interfaces interface destination) destination message)
  else n

/-- `SendRplMessageMulticast`. -/
def sendRplMessageMulticast (n : Node) (message : RplMessage) (destination : Ipv6Address) : Node :=
  n.sockets.toList.foldl (fun n interface => n.sendRplMessageOn interface message destination) n

/-- `SendRplMessageUnicast`: on the first interface RPL runs on. -/
def sendRplMessageUnicast (n : Node) (message : RplMessage) (destination : Ipv6Address) : Node :=
  match n.sockets.toList.head? with
  | none => n
  | some interface => n.sendRplMessageOn interface message destination

/-- `SendDis`. -/
def sendDis (n : Node) (destination : Ipv6Address) : Node :=
  n.sendRplMessageMulticast .dis destination

/-- `DisTimerExpire`. -/
def disTimerExpire (n : Node) : Node :=
  let n := { n with disRefreshPending := false }
  if n.isJoined then n
  else { n.sendDis allNodesMulticast with disTimer := some (n.now + n.attributes.disInterval) }

/-! ## Creating a DODAG -/

/-- The membership of a DODAG this node is the root of. -/
def rootMembership (n : Node) (key : DodagKey) (mop : UInt8) : DodagMembership :=
  { instanceId := key.instanceId
    dodagId := key.dodagId
    isRoot := true
    mop := mop
    grounded := true
    rank := n.attributes.minHopRankIncrease
    ocp := n.attributes.ocp
    minHopRankIncrease := n.attributes.minHopRankIncrease
    dioIntervalMin := n.attributes.dioIntervalMin
    dioIntervalDoublings := n.attributes.dioIntervalDoublings
    dioRedundancy := n.attributes.dioRedundancy
    daoEvent :=
      if mop = mopStoringNoMulticast then some (n.now + n.attributes.daoInterval) else none
    dioTrickle :=
      (TrickleTimer.setParameters { rng := ⟨n.attributes.dioTrickleStream key n.now, 0⟩ }
        n.attributes.dioIntervalMin n.attributes.dioIntervalDoublings
        n.attributes.dioRedundancy).start n.now
    globalRepairEvent :=
      if mop ≠ mopP2pRouteDiscovery ∧ n.attributes.globalRepairInterval ≠ timeMax then
        some (n.now + n.attributes.globalRepairInterval)
      else none }

/-- `CreateDodagMembership`. The first DODAG that is not temporary becomes the base DODAG.
The source asserts that no membership is held under the key; where one is, the program
stops there, and nothing more happens here. -/
def createDodagMembership (n : Node) (key : DodagKey) (mop : UInt8) : Option Node :=
  if n.dodags.contains key then none
  else
    let n := n.setDodag key (n.rootMembership key mop)
    if !n.hasBaseDodag && mop ≠ mopP2pRouteDiscovery then
      some { n with hasBaseDodag := true, baseDodagKey := key }
    else some n

/-- A local RPLInstanceID with its D flag cleared, any other as it is. -/
def clearDFlag (instanceId : UInt8) : UInt8 :=
  if instanceId &&& localInstanceFlag ≠ 0 then instanceId &&& ~~~localInstanceDFlag
  else instanceId

/-- `CreateLocalDodag`: the node after it, and the key of the DODAG formed; nothing without
a global address to root one at. -/
def createLocalDodag (n : Node) (instanceId mop : UInt8) : Option (DodagKey × Node) :=
  let address := n.getGlobalAddress
  if address.isAny then none
  else
    let key : DodagKey := ⟨clearDFlag instanceId, address⟩
    (n.createDodagMembership key mop).map fun n => (key, n)

/-- `HandleDadSuccess`: a root forms its DODAG on its first address. -/
def handleDadSuccess (n : Node) (address : Ipv6Address) : Node :=
  if address.isLinkLocal then n
  else if n.isRoot then
    if n.isJoined then n
    else
      let key : DodagKey := ⟨defaultInstance, address⟩
      match n.createDodagMembership key n.attributes.mop with
      | none => n
      | some n =>
        n.modifyDodag key fun dodag =>
          { dodag with
            prefixInfo := some
              { network := n.attributes.rootPrefix
                prefixLength := n.attributes.rootPrefixLength
                onLink := true
                autonomous := true
                validLifetime := prefixValidLifetimeDefault
                preferredLifetime := prefixPreferredLifetimeDefault } }
  else n

end Node

end Rpl
