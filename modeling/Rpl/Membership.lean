import Rpl.Header
import Rpl.TrickleTimer
import Rpl.Lib.OrderedMap

/-!
# A DODAG membership

What a node holds for one DODAG it is in: the identity and the parameters of the
DODAG, the neighbours heard in it and which of them is preferred, the state of
its DAO exchange, the two kinds of downward table, and the discovery state of a
temporary DODAG.  Memberships are keyed by RPLInstanceID and DODAGID.
-/

namespace Rpl

open Std

/-! ## Keys -/

/-- `DodagKey`, ordered as the pair it is in the source. -/
structure DodagKey where
  instanceId : UInt8
  dodagId : Ipv6Address
  deriving DecidableEq, Repr

instance : Ord DodagKey :=
  ⟨compareLex (compareOn DodagKey.instanceId) (compareOn DodagKey.dodagId)⟩

instance : TransOrd DodagKey :=
  inferInstanceAs
    (TransCmp (compareLex (compareOn DodagKey.instanceId) (compareOn DodagKey.dodagId)))

instance : LawfulEqOrd DodagKey where
  compare_self {a} := by
    change (compareLex (compareOn DodagKey.instanceId) (compareOn DodagKey.dodagId)) a a = .eq
    simp [compareLex, compareOn]
  eq_of_compare {a b} h := by
    change (compareLex (compareOn DodagKey.instanceId) (compareOn DodagKey.dodagId)) a b = .eq at h
    simp only [compareLex_eq_eq, compareOn, LawfulEqOrd.compare_eq_iff_eq] at h
    cases a
    cases b
    simpa using h

/-! ## Neighbours and downward routes -/

/-- `Parent`: a neighbour heard in the DODAG. -/
structure Parent where
  address : Ipv6Address
  interface : Nat := 0
  rank : UInt16 := infiniteRank
  dtsn : UInt8 := 0
  lastHeard : Time := 0
  freshness : UInt8 := 0
  etx : UInt16 := etxFixedPoint
  pathEtx : UInt16 := 0
  lql : UInt8 := lqlUndetermined
  deriving DecidableEq, Repr

/-- `TopologyEntry`: one parent link of a Non-Storing root's topology. -/
structure TopologyEntry where
  parent : Ipv6Address
  pathSequence : UInt8 := 0
  expire : Time
  deriving DecidableEq, Repr

/-- `DownwardRoute`: a Storing router's next hop toward a target. -/
structure DownwardRoute where
  nextHop : Ipv6Address
  interface : Nat := 0
  pathSequence : UInt8 := 0
  pathLifetime : UInt8 := 0
  expire : Time
  deriving DecidableEq, Repr

/-! ## Discovery state -/

/-- `AodvRreqState`: the AODV-RPL side of a temporary DODAG. -/
structure AodvRreqState where
  symmetric : Bool := true
  origSeqNo : UInt8 := 0
  rankLimit : UInt8 := 0
  lifetimeField : UInt8 := 0
  hopByHop : Bool := false
  target : Ipv6Address := anyAddress
  targets : List Ipv6Address := []
  targetSeqNos : ExtTreeMap Ipv6Address UInt8 := ∅
  targetsSeeded : Bool := false
  addressVector : List Ipv6Address := []
  isOrigin : Bool := false
  isTarget : Bool := false
  isRrepInstance : Bool := false
  gratuitousRrepSent : ExtTreeSet Ipv6Address := ∅
  unicastRreqRelayed : ExtTreeSet Ipv6Address := ∅
  pairedInstanceId : UInt8 := 0
  origNode : Ipv6Address := anyAddress
  rrepHandled : ExtTreeSet Ipv6Address := ∅
  expiry : Timer := none

/-- `P2pCandidate`: a route a P2P mode DIO carried, with the neighbour it came from. -/
structure P2pCandidate where
  sender : Ipv6Address
  route : List Ipv6Address
  deriving DecidableEq, Repr

/-- `P2pState`: the P2P-RPL side of a temporary DODAG. -/
structure P2pState where
  isOrigin : Bool := false
  isTarget : Bool := false
  target : Ipv6Address := anyAddress
  additionalTargets : List Ipv6Address := []
  maxRank : UInt8 := 0
  lifetimeField : UInt8 := 0
  numRoutes : UInt8 := 0
  reply : Bool := true
  hopByHop : Bool := false
  stopped : Bool := false
  addressVector : List Ipv6Address := []
  candidateRoutes : List P2pCandidate := []
  candidateRank : UInt16 := infiniteRank
  alternateRoutes : List (List Ipv6Address) := []
  droCollectEvent : Timer := none
  droCollecting : Bool := false
  routeStored : Bool := false
  expiry : Timer := none
  lastRepliedAddressVector : List Ipv6Address := []
  droSequence : UInt8 := 0
  droAckPending : Bool := false
  droRetriesLeft : UInt8 := 0
  droRetryEvent : Timer := none

/-! ## The membership -/

/-- The part of `DodagMembership` that says where in the DODAG the node is: which Version of
which DODAG it belongs to, with which parameters, which neighbours it hears there, and the
parent and the rank it has taken. -/
structure DodagPlace where
  instanceId : UInt8 := defaultInstance
  dodagId : Ipv6Address := anyAddress
  isRoot : Bool := false
  version : UInt8 := 0
  rank : UInt16 := infiniteRank
  mop : UInt8 := mopNonStoring
  ocp : UInt16 := ocpOf0
  pathEtx : UInt16 := 0
  minHopRankIncrease : UInt16 := minHopRankIncDefault
  maxRankIncrease : UInt16 := maxRankIncDefault
  lowestRankThisVersion : UInt16 := infiniteRank
  dioIntervalMin : Time := milliSeconds (2 ^ dioIntervalMinDefault.toNat)
  dioIntervalDoublings : UInt8 := dioIntervalDoublingsDefault
  parents : ExtTreeMap Ipv6Address Parent := ∅
  preferredParent : Ipv6Address := anyAddress

namespace DodagPlace

def key (dodag : DodagPlace) : DodagKey := ⟨dodag.instanceId, dodag.dodagId⟩

/-- The entry of the preferred parent in the neighbour table. -/
def preferredEntry (dodag : DodagPlace) : Option Parent := dodag.parents[dodag.preferredParent]?

/-- A DODAG that exists for one route discovery only. -/
def isTemporary (dodag : DodagPlace) : Bool := dodag.mop = mopP2pRouteDiscovery

/-- Storing mode. -/
def storing (dodag : DodagPlace) : Bool := dodag.mop = mopStoringNoMulticast

end DodagPlace

/-- `DodagMembership`. -/
structure DodagMembership extends DodagPlace where
  dtsn : UInt8 := 0
  grounded : Bool := false
  preference : UInt8 := 0
  dioRedundancy : UInt8 := dioRedundancyDefault
  prefixInfo : Option PrefixInfo := none
  dioTrickle : TrickleTimer := {}
  daoSequence : UInt8 := 0
  pathSequence : UInt8 := 0
  daoRetriesLeft : UInt8 := 0
  daoAckPending : Bool := false
  daoRefreshPending : Bool := false
  daoEvent : Timer := none
  daoRetryEvent : Timer := none
  globalRepairEvent : Timer := none
  topology : ExtTreeMap Ipv6Address TopologyEntry := ∅
  downwardRoutes : ExtTreeMap Ipv6Address DownwardRoute := ∅
  aodv : AodvRreqState := {}
  p2p : P2pState := {}

end Rpl
