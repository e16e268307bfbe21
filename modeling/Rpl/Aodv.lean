import Rpl.Discovery

/-!
# AODV-RPL

The handling of RREQ-DIOs and RREP-DIOs: what is refused before a membership is
touched, the state an RREQ-Instance keeps, the reply by unicast along a symmetric
path or as an RREP-Instance of its own, and the relaying of replies toward the
OrigNode.
-/

namespace Rpl

open Std

/-- The DAGRank of a rank. Its division is guarded by an assertion in the source; where that
fails the program stops, and there is no DAGRank. -/
def dagRank (rank minHopRankIncrease : UInt16) : Option Nat :=
  if minHopRankIncrease = 0 then none else some (rank.toNat / minHopRankIncrease.toNat)

/-- The rank limit of a discovery keeps this node out: a router may not reach the limit, the
node the discovery is for may. -/
def refusesByRankLimit (rank minHopRankIncrease : UInt16) (limit : UInt8) (sought : Bool) : Bool :=
  limit ≠ 0 &&
    match dagRank rank minHopRankIncrease with
    | none => true
    | some advertised =>
      limit.toNat ≤ advertised ||
        if sought then limit.toNat < advertised + 1 else limit.toNat ≤ advertised + 1

namespace Node

/-- The MinHopRankIncrease a limit test divides by. -/
def limitMinHopRankIncrease (n : Node) (dio : DioHeader) : UInt16 :=
  (dio.dagConf.map DagConfiguration.minHopRankIncrease).getD n.attributes.minHopRankIncrease

/-! ## Refusals -/

/-- `ShouldRefuseAodvInstance`. -/
def shouldRefuseAodvInstance (n : Node) (key : DodagKey) : Bool :=
  (n.rejoinBar key).isSome || n.ipv6.isOwnAddress key.dodagId

/-- The address vector already runs through this node. -/
def inVector (n : Node) (addressVector : List Ipv6Address) : Bool :=
  addressVector.any n.ipv6.isOwnAddress

/-- `ShouldRefuseAodvRreq`. -/
def shouldRefuseAodvRreq (n : Node) (dio : DioHeader) : Bool :=
  let rreq := dio.getRreq
  dio.arts.isEmpty ||
    n.shouldRefuseAodvInstance dio.key ||
    (if rreq.hopByHop then
      (n.findHopByHopRoute dio.dodagId).any fun stored =>
        sequenceNewer stored.seqNo rreq.origSeqNo
    else n.inVector rreq.addressVector) ||
    refusesByRankLimit dio.rank (n.limitMinHopRankIncrease dio) rreq.rankLimit
      (dio.arts.any fun art => n.ipv6.isOwnAddress art.target)

/-- `ShouldRefuseAodvRrep`. -/
def shouldRefuseAodvRrep (n : Node) (dio : DioHeader) : Bool :=
  let rrep := dio.getRrep
  n.shouldRefuseAodvInstance dio.key ||
    dio.arts.isEmpty ||
    n.inVector rrep.addressVector ||
    refusesByRankLimit dio.rank (n.limitMinHopRankIncrease dio) rrep.rankLimit
      (n.ipv6.isOwnAddress dio.getArt.target)

/-! ## Sending along a discovery -/

/-- The discovery state of a membership rewritten. -/
def modifyAodv (n : Node) (key : DodagKey) (f : AodvRreqState → AodvRreqState) : Node :=
  n.modifyDodag key fun dodag => { dodag with aodv := f dodag.aodv }

/-- `SendAodvRrepTo` and `SendAodvRreqTo`: a DIO by unicast to a neighbour known by its
global address. -/
def sendAodvTo (n : Node) (dodag : DodagMembership) (dio : DioHeader) (nextHop : Ipv6Address) :
    Node :=
  let linkLocal := linkLocalOf nextHop
  let interface := n.interfaceForNeighbour dodag linkLocal
  let interface := if interface = 0 then n.firstSocket else interface
  if interface = 0 then n else n.sendRplMessageOn interface (.dio dio) linkLocal

/-- The base of an RREP-DIO sent by unicast. -/
def rrepBase (n : Node) (instanceId : UInt8) (dodagId : Ipv6Address) : DioHeader :=
  { instanceId := instanceId
    version := 0
    rank := n.attributes.minHopRankIncrease
    mop := mopP2pRouteDiscovery
    grounded := true
    dtsn := 0
    dodagId := dodagId }

/-- `SendAodvGratuitousRrep`. -/
def sendAodvGratuitousRrep (n : Node) (dodag : DodagMembership) (key : DodagKey)
    (target : Ipv6Address) (targetSeqNo : UInt8) (upwardNextHop : Ipv6Address) : Node :=
  n.sendAodvTo dodag
    { n.rrepBase key.instanceId target with
      rrep := some
        { gratuitous := true
          hopByHop := dodag.aodv.hopByHop
          lifetime := dodag.aodv.lifetimeField
          rankLimit := dodag.aodv.rankLimit
          delta := 0 }
      arts := [{ destSeqNo := targetSeqNo, target := key.dodagId }] }
    upwardNextHop

/-- `RelayAodvRreqOnCachedRoute`: the RREQ goes on by unicast along the cached route, once
for each target, and this router no longer asks for that target. -/
def relayAodvRreqOnCachedRoute (n : Node) (key : DodagKey) (dio : DioHeader)
    (cachedNextHop : Ipv6Address) : Node :=
  match n.dodags[key]? with
  | none => n
  | some dodag =>
    if !n.attributes.aodvGratuitousRrepRelay || !dodag.aodv.hopByHop ||
        dodag.aodv.unicastRreqRelayed.contains dodag.aodv.target then n
    else
      let n := n.modifyAodv key fun aodv =>
        { aodv with unicastRreqRelayed := aodv.unicastRreqRelayed.insert aodv.target }
      if cachedNextHop.isAny then n
      else
        (n.sendAodvTo dodag dio cachedNextHop).modifyAodv key fun aodv =>
          { aodv with targets := aodv.targets.erase aodv.target }

/-! ## Answering as TargNode -/

/-- `AdvanceAodvSeqNoForRrep`: zero is skipped, it stands for an unknown number. -/
def advanceAodvSeqNoForRrep (n : Node) : Node :=
  let next := sequenceIncrement n.aodvSeqNo
  { n with aodvSeqNo := if next = 0 then sequenceIncrement next else next }

/-- `FindAodvRrepInstance`. -/
def findAodvRrepInstance (n : Node) (origNode : Ipv6Address) (rreqInstanceId : UInt8) :
    Option DodagKey :=
  (OrderedMap.first (fun _ dodag => dodag.aodv.isRrepInstance && dodag.aodv.origNode = origNode &&
    dodag.aodv.pairedInstanceId = rreqInstanceId) n.dodags).map Prod.fst

/-- The RPLInstanceIDs an RREP-Instance can be paired under, in order of Delta. -/
def pairableInstanceIds (rreqInstanceId : UInt8) : List UInt8 :=
  ((List.range (aodvDeltaMax.toNat + 1)).map fun delta => rreqInstanceId + UInt8.ofNat delta).filter
    fun candidate => candidate &&& localInstanceDFlag = 0

/-- The RPLInstanceID for the RREP-Instance answering an RREQ-Instance. -/
def allocateRrepInstanceId (n : Node) (rreqInstanceId : UInt8)
    (ownAddress rootAddress : Ipv6Address) : Option UInt8 :=
  allocateInstanceId (pairableInstanceIds rreqInstanceId)
    (fun candidate => n.isJoinedTo candidate ownAddress || n.isJoinedTo candidate rootAddress)
    (fun candidate =>
      ((n.rejoinBar ⟨candidate, rootAddress⟩).or (n.rejoinBar ⟨candidate, ownAddress⟩)).or
        (n.p2pIdBarred candidate))

/-- The state of an RREP-Instance at the TargNode that roots it. -/
def targNodeRrepState (n : Node) (rreq : AodvRreqState) (rreqKey : DodagKey)
    (ownAddress : Ipv6Address) (aodv : AodvRreqState) : AodvRreqState :=
  { aodv with
    isRrepInstance := true
    pairedInstanceId := rreqKey.instanceId
    origNode := rreqKey.dodagId
    origSeqNo := n.aodvSeqNo
    rankLimit := rreq.rankLimit
    lifetimeField := rreq.lifetimeField
    target := ownAddress
    isOrigin := false
    isTarget := true
    hopByHop := rreq.hopByHop
    addressVector := [] }

/-- `StartAodvRrepInstance`. -/
def startAodvRrepInstance (n : Node) (rreqDodag : DodagMembership) (rreqKey : DodagKey) : Node :=
  let ownAddress := n.getGlobalAddressIn rreqDodag
  if ownAddress.isAny ||
      (n.findAodvRrepInstance rreqKey.dodagId rreqKey.instanceId).isSome then n
  else
    match n.allocateRrepInstanceId rreqKey.instanceId ownAddress n.getGlobalAddress with
    | none => n
    | some rrepInstanceId =>
      match n.createLocalDodag rrepInstanceId mopP2pRouteDiscovery with
      | none => n
      | some (rrepKey, created) =>
        let n := created.advanceAodvSeqNoForRrep
        let rooted := n.modifyDodag rrepKey fun dodag =>
          restartTrickle n.now (withAodvParameters n.attributes
            { dodag with
              aodv := n.targNodeRrepState rreqDodag.aodv rreqKey ownAddress dodag.aodv })
        rooted.armAodvExpiry rrepKey

/-- The next hop of an RREP sent by TargNode: the upward route it has just stored, or the
entry before its own in the address vector. The source asserts that there is one. -/
def rrepNextHop (n : Node) (dodag : DodagMembership) (key : DodagKey) : Option Ipv6Address :=
  if dodag.aodv.hopByHop then
    (n.findHopByHopRouteIn key key.dodagId).map HopByHopRoute.nextHop
  else
    match dodag.aodv.addressVector.reverse with
    | [] => none
    | [_] => some key.dodagId
    | _ :: previous :: _ => some previous

/-- `SendAodvRrep`: by unicast along a symmetric path, else as an RREP-Instance. -/
def sendAodvRrep (n : Node) (key : DodagKey) : Node :=
  match n.dodags[key]? with
  | none => n
  | some dodag =>
    if !dodag.aodv.symmetric then n.startAodvRrepInstance dodag key
    else
      let ownAddress := n.getGlobalAddressIn dodag
      if ownAddress.isAny then n
      else
        let n := n.advanceAodvSeqNoForRrep
        match n.rrepNextHop dodag key with
        | none => n
        | some nextHop =>
          n.sendAodvTo dodag
            { n.rrepBase key.instanceId ownAddress with
              rrep := some
                { gratuitous := false
                  hopByHop := dodag.aodv.hopByHop
                  lifetime := dodag.aodv.lifetimeField
                  rankLimit := dodag.aodv.rankLimit
                  delta := 0
                  addressVector := dodag.aodv.addressVector }
              arts := [{ destSeqNo := n.aodvSeqNo, target := key.dodagId }] }
            nextHop

end Node

end Rpl
