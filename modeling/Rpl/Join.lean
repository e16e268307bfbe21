import Rpl.Selection

/-!
# Joining a DODAG, and what a DIO says of its sender

`JoinDodag` makes the membership a DIO describes, with what is retained of an
earlier one.  A DIO for a DODAG already held may move it to another Version, by
leaving and joining again, and updates the entry of the neighbour that sent it.
-/

namespace Rpl

open Std

def DioHeader.key (dio : DioHeader) : DodagKey := ⟨dio.instanceId, dio.dodagId⟩

/-- What reaches `HandleDio` besides the header: the sender, the interface, the link quality
the packet's tags give, and whether it was multicast. -/
structure Reception where
  sender : Ipv6Address
  interface : Nat
  lqi : Option UInt8 := none
  lql : UInt8 := lqlUndetermined
  toMulticast : Bool := true
  deriving DecidableEq, Repr

namespace Node

/-! ## Joining -/

/-- The records of Versions of this DODAG the node has left, the expired ones left out. -/
def unexpiredRecords (n : Node) (key : DodagKey) : List RetainedRank :=
  (n.retainedRank[key]?.getD []).filter fun record => n.now < record.expires

/-- L at the start of a membership of a Version: what the last record of it says, if any. -/
def retainedLowestRank (n : Node) (key : DodagKey) (version : UInt8) : UInt16 :=
  (((n.unexpiredRecords key).filter (·.version = version)).getLast?.map
    RetainedRank.lowestRank).getD infiniteRank

/-- What `JoinDodag` sets before it reads the DIO's options. -/
def newMembership (n : Node) (dio : DioHeader) : DodagMembership :=
  { instanceId := dio.instanceId
    dodagId := dio.dodagId
    isRoot := false
    version := dio.version
    mop := dio.mop
    grounded := dio.grounded
    preference := dio.preference
    rank := infiniteRank
    pathEtx := 0
    pathSequence := n.retainedPathSequence[dio.key]?.getD 0
    lowestRankThisVersion := n.retainedLowestRank dio.key dio.version }

/-- The parameters of the DODAG Configuration option, the exponents of the Trickle interval
clamped. -/
def withDagConf (dodag : DodagMembership) (conf : DagConfiguration) : DodagMembership :=
  { dodag with
    ocp := conf.ocp
    minHopRankIncrease := conf.minHopRankIncrease
    maxRankIncrease := conf.maxRankIncrease
    dioIntervalMin := milliSeconds (2 ^ (min conf.intervalMin dioIntervalExponentMax).toNat)
    dioIntervalDoublings := min conf.intervalDoublings dioIntervalExponentMax
    dioRedundancy := conf.redundancy }

/-- The defaults of RFC 6997 for a P2P mode DIO without a DODAG Configuration option. -/
def withP2pDefaults (dodag : DodagMembership) : DodagMembership :=
  { dodag with
    ocp := ocpOf0
    dioIntervalMin := milliSeconds (2 ^ 6)
    dioIntervalDoublings := 20
    dioRedundancy := 1
    maxRankIncrease := 0
    minHopRankIncrease := 256 }

/-- The parameters of the DODAG as the DIO gives them. -/
def withParameters (dodag : DodagMembership) (dio : DioHeader) : DodagMembership :=
  match dio.dagConf with
  | some conf => withDagConf dodag conf
  | none => if dio.p2pRdo.isSome then withP2pDefaults dodag else dodag

/-- The membership a DIO describes, its Trickle timer started. -/
def joinedMembership (n : Node) (dio : DioHeader) : DodagMembership :=
  let dodag := { withParameters (n.newMembership dio) dio with prefixInfo := dio.prefixInfo }
  { dodag with
    dioTrickle :=
      (TrickleTimer.setParameters { rng := ⟨n.attributes.dioTrickleStream dio.key n.now, 0⟩ }
        dodag.dioIntervalMin dodag.dioIntervalDoublings dodag.dioRedundancy).start n.now }

/-- The address an autonomous prefix gives the interface the DIO came in on. -/
def autoconfigure (n : Node) (dio : DioHeader) (interface : Nat) : Node :=
  match dio.prefixInfo with
  | none => n
  | some info =>
    if info.autonomous then
      { n with
        ipv6 := { n.ipv6 with
          interfaces := n.ipv6.addAutoconfiguredAddress n.ipv6.interfaces
            { interface := interface
              network := info.network
              prefixLength := info.prefixLength
              onLink := info.onLink
              validLifetime := info.validLifetime
              preferredLifetime := info.preferredLifetime } } }
    else n

/-- `JoinDodag`. A DODAG that is not temporary becomes the base DODAG when there is none,
and ends the solicitation. -/
def joinDodag (n : Node) (dio : DioHeader) (interface : Nat) : Node :=
  let key := dio.key
  let temporary : Bool := dio.mop = mopP2pRouteDiscovery
  let joined := .joined key n.now dio.version dio.mop (n.unexpiredRecords key)
  let n := (n.setDodag key (n.joinedMembership dio)).mark joined
  let n := n.autoconfigure dio interface
  let n :=
    if !n.hasBaseDodag && !temporary then { n with hasBaseDodag := true, baseDodagKey := key }
    else n
  if temporary then n else { n with disTimer := none, disRefreshPending := false }

/-! ## Entering the Version a DIO is for -/

/-- Rule 6: the DIO is for a Version older than one the node left and still remembers. -/
def barsVersion (n : Node) (dio : DioHeader) : Bool :=
  (n.unexpiredRecords dio.key).any fun record =>
    sequenceCompare dio.version record.version = .less

/-- The DIO moves a membership held to its own Version: it is newer, or cannot be compared
and comes from nearer the root. -/
def migrates (dodag : DodagPlace) (dio : DioHeader) : Bool :=
  match sequenceCompare dio.version dodag.version with
  | .greater => true
  | .notComparable => dio.rank ≠ infiniteRank && dio.rank < dodag.rank
  | _ => false

/-- A temporary DODAG takes a newer Version in place. -/
def adoptVersion (n : Node) (dio : DioHeader) (dodag : DodagMembership) : Node :=
  if sequenceNewer dio.version dodag.version then
    (n.modifyPlace dio.key fun place => { place with version := dio.version }).mark
      (.joined dio.key n.now dio.version dodag.mop (n.unexpiredRecords dio.key))
  else n

/-- The node after it has entered the DODAG Version the DIO is for, or nothing when the DIO
is ignored. -/
def enterVersion (n : Node) (dio : DioHeader) (interface : Nat) : Option Node :=
  match n.dodags[dio.key]? with
  | none => if n.barsVersion dio then none else some (n.joinDodag dio interface)
  | some dodag =>
    if dio.version = dodag.version then some n
    else if dodag.isTemporary then some (n.adoptVersion dio dodag)
    else if migrates dodag.toDodagPlace dio then
      some ((n.leaveDodag dio.key false).joinDodag dio interface)
    else none

/-! ## The sender's entry -/

/-- The neighbour entry of a DIO's sender after the DIO. -/
def heardParent (now : Time) (dio : DioHeader) (heard : Reception) (entry : Parent) : Parent :=
  let entry :=
    { entry with
      address := heard.sender
      interface := heard.interface
      rank := dio.rank
      dtsn := dio.dtsn
      lastHeard := now
      freshness := min (entry.freshness + 1) freshnessMax }
  let entry := { entry.updateLinkEtx (linkEtxFromPacket heard.lqi) with lql := heard.lql }
  match dio.metricContainer with
  | some pathEtx => { entry with pathEtx := pathEtx }
  | none => entry

/-- The preferred parent asks for DAOs with a newer DTSN. -/
def bumpedDtsn (dodag : DodagPlace) (dio : DioHeader) (sender : Ipv6Address) : Bool :=
  sender = dodag.preferredParent &&
    (dodag.parents[sender]?).any fun entry => sequenceNewer dio.dtsn entry.dtsn

/-- The sender's entry is made or refreshed, and a DTSN increment of the preferred parent
passed on. -/
def updateParent (n : Node) (dio : DioHeader) (heard : Reception) : Node :=
  match n.dodags[dio.key]? with
  | none => n
  | some dodag =>
    let entry := dodag.parents[heard.sender]?.getD { address := anyAddress }
    let updated := { dodag with
      parents := dodag.parents.insert heard.sender (heardParent n.now dio heard entry) }
    if bumpedDtsn dodag.toDodagPlace dio heard.sender && !dodag.isTemporary then
      (n.setDodag dio.key { updated with dtsn := sequenceIncrement dodag.dtsn }).scheduleDaoRefresh
        dio.key
    else n.setDodag dio.key updated

/-- A DIO with INFINITE_RANK: its sender is no neighbour in that DODAG any more. -/
def handlePoison (n : Node) (key : DodagKey) (sender : Ipv6Address) : Node :=
  match n.dodags[key]? with
  | none => n
  | some dodag =>
    let n := if sender = dodag.preferredParent then n.sendNoPathDao key sender else n
    (n.modifyPlace key fun place => { place with parents := place.parents.erase sender }
      ).selectAndReset key

/-- The Trickle bookkeeping of a discovery DIO: an improved rank starts the timer over, and a
DIO from no farther than this node, and not from its parent, counts as consistent. -/
def selectTemporary (n : Node) (dio : DioHeader) (sender : Ipv6Address) : Node :=
  match n.dodags[dio.key]? with
  | none => n
  | some before =>
    let n := (n.selectPreferredParent dio.key).2
    match n.dodags[dio.key]? with
    | none => n
    | some after =>
      if after.rank < before.rank then n.resetTrickle dio.key
      else if sender ≠ before.preferredParent ∧ dio.rank ≤ after.rank then
        n.modifyDodag dio.key fun dodag =>
          { dodag with dioTrickle := dodag.dioTrickle.consistencyHit }
      else n

/-- The Trickle bookkeeping of every other DIO. -/
def selectOrdinary (n : Node) (dio : DioHeader) : Node :=
  match n.dodags[dio.key]? with
  | none => n
  | some dodag =>
    let n :=
      if dodag.rank = infiniteRank then n
      else
        n.modifyDodag dio.key fun dodag =>
          { dodag with dioTrickle := dodag.dioTrickle.consistencyHit }
    n.selectAndReset dio.key

/-- Parent selection after a DIO, with the Trickle bookkeeping of its kind. -/
def selectAfterDio (n : Node) (dio : DioHeader) (sender : Ipv6Address) : Node :=
  if dio.p2pRdo.isSome ||
      (n.attributes.aodvTrickleRankOnlyReset && (dio.rreq.isSome || dio.rrep.isSome)) then
    n.selectTemporary dio sender
  else n.selectOrdinary dio

end Node

end Rpl
