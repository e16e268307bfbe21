import Rpl.P2p

/-!
# Receiving P2P-RPL messages

`HandleP2pRdo` runs after a P2P mode DIO's neighbour has been recorded and a
parent selected.  `HandleP2pDro` completes a discovery at its Origin and relays
the reply at the router it names next; a Stop flag is acted on wherever the
message ends up.
-/

namespace Rpl

open Std

namespace Node

/-! ## P2P mode DIO -/

/-- The further routes a P2P mode DIO asks a Target for; none for a hop-by-hop route. -/
def askedRoutes (rdo : P2pRdoOption) : UInt8 := if rdo.hopByHop then 0 else rdo.numRoutes

/-- The routes a P2P mode DIO carries, kept as candidates and, at a Target, as alternates. -/
def recordP2pRoutes (n : Node) (dodag : DodagMembership) (rdo : P2pRdoOption)
    (heard : Reception) : DodagMembership :=
  let dodag := n.recordP2pCandidateRoute dodag rdo heard
  if dodag.p2p.isTarget && 0 < askedRoutes rdo then
    n.recordP2pAlternateRoute dodag rdo (askedRoutes rdo) heard.interface
  else dodag

/-- The copies of a P2P mode DIO that are passed over once their route is recorded. -/
def ignoresP2pRdo (n : Node) (dodag : DodagMembership) (sender : Ipv6Address) : Bool :=
  !dodag.p2p.addressVector.isEmpty &&
    ((dodag.p2p.isTarget && !n.hasOtherP2pTargets dodag) || sender ≠ dodag.preferredParent)

/-- What a P2P mode DIO says of the discovery. -/
def withP2pRdo (n : Node) (dio : DioHeader) (p2p : P2pState) : P2pState :=
  let rdo := dio.getP2pRdo
  { p2p with
    target := rdo.target
    maxRank := rdo.maxRankOrNh
    lifetimeField := rdo.lifetime
    numRoutes := askedRoutes rdo
    reply := rdo.reply
    hopByHop := rdo.hopByHop
    isTarget := p2p.isTarget || n.matchesP2pTarget dio
    additionalTargets := dio.targets.map TargetOption.target }

/-- The membership's own address vector: the DIO's, with this node's address on the
interface added; the temporary DAG is left when it does not fit one option. Whether the
handling goes on. -/
def takeP2pVector (n : Node) (key : DodagKey) (rdo : P2pRdoOption) (interface : Nat) :
    Bool × Node :=
  match n.dodags[key]? with
  | none => (false, n)
  | some dodag =>
    let ownAddress := n.getGlobalAddressOnInterface dodag interface
    if ownAddress.isAny then (false, n)
    else
      let vector := rdo.addressVector ++ [ownAddress]
      if p2pMaxAddressVectorEntries (p2pRdoCompr rdo.target vector key.dodagId) < vector.length then
        (false, n.leaveDodag key false)
      else
        (true, n.modifyP2p key fun p2p =>
          { p2p with
            addressVector := vector
            alternateRoutes := p2p.alternateRoutes.filter (· ≠ vector) })

/-- A Target answers a route it has not answered over last. -/
def replyAsTarget (n : Node) (key : DodagKey) : Node :=
  match n.dodags[key]? with
  | none => n
  | some dodag =>
    if dodag.p2p.isTarget && dodag.p2p.reply &&
        dodag.p2p.addressVector ≠ dodag.p2p.lastRepliedAddressVector then n.startReply key
    else n

/-- `HandleP2pRdo`. -/
def handleP2pRdo (n : Node) (dio : DioHeader) (heard : Reception) : Node :=
  let key := dio.key
  let rdo := dio.getP2pRdo
  match n.dodags[key]? with
  | none => n
  | some dodag =>
    if dodag.p2p.isOrigin then n
    else
      let dodag := n.recordP2pRoutes dodag rdo heard
      let n := n.setDodag key dodag
      if n.ignoresP2pRdo dodag heard.sender then n
      else
        let p2p := n.withP2pRdo dio dodag.p2p
        let n := (n.modifyP2p key fun _ => p2p).armP2pExpiry key
        let n :=
          if !dodag.p2p.isTarget && p2p.isTarget then n.log (.discoveryTargetReached key) else n
        let (goesOn, n) := n.takeP2pVector key rdo heard.interface
        if goesOn then (n.armP2pExpiry key).replyAsTarget key else n

/-! ## P2P-DRO -/

/-- The route a P2P-DRO gives the Origin: kept unless the one this discovery stored before
is shorter. -/
def storeP2pRoute (n : Node) (key : DodagKey) (dodag : DodagMembership) (rdo : P2pRdoOption) :
    Node :=
  let hops := rdo.addressVector ++ [rdo.target]
  let shorterHeld := dodag.p2p.routeStored &&
    (n.p2pRoutes[rdo.target]?).any fun existing => existing.hops.length < hops.length
  let n :=
    if shorterHeld then n
    else
      { n with
        p2pRoutes := n.p2pRoutes.insert rdo.target
          { hops := hops
            instanceId := dodag.instanceId
            expire := n.now + n.attributes.routeLifetime } }
  n.modifyP2p key fun p2p => { p2p with routeStored := true }

/-- The acknowledgement of a P2P-DRO that asks for one. -/
def acknowledgeP2pDro (n : Node) (dro : P2pDroHeader) (target : Ipv6Address) : Node :=
  if dro.ackRequested then
    n.sendRplMessageUnicast
      (.p2pDroAck
        { instanceId := dro.instanceId, sequence := dro.sequence, dodagId := dro.dodagId })
      target
  else n

/-- `HandleP2pDro` at the Origin, but for the Stop flag. -/
def completeP2pRoute (n : Node) (key : DodagKey) (dodag : DodagMembership) (dro : P2pDroHeader)
    (rdo : P2pRdoOption) : Node :=
  if rdo.hopByHop then
    let nextHop := rdo.addressVector.head?.getD rdo.target
    match n.storeHopByHopRoute key rdo.target nextHop n.attributes.routeLifetime none true with
    | (false, _) => n
    | (true, n) => n.acknowledgeP2pDro dro rdo.target
  else (n.storeP2pRoute key dodag rdo).acknowledgeP2pDro dro rdo.target

/-- This router is the one a P2P-DRO names next, and is named only once. -/
def namedNext (n : Node) (rdo : P2pRdoOption) : Bool :=
  match rdo.maxRankOrNh.toNat with
  | 0 => false
  | index + 1 =>
    (rdo.addressVector[index]?).any n.ipv6.isOwnAddress &&
      rdo.addressVector.countP n.ipv6.isOwnAddress ≤ 1

/-- The hop-by-hop route a relayed P2P-DRO sets up, toward the Target; nothing when it
conflicts with one held. -/
def storeDroRoute (n : Node) (key : DodagKey) (rdo : P2pRdoOption) : Option Node :=
  if rdo.hopByHop then
    let nextHop := (rdo.addressVector[rdo.maxRankOrNh.toNat]?).getD rdo.target
    match n.storeHopByHopRoute key rdo.target nextHop n.attributes.routeLifetime none true with
    | (true, n) => some n
    | (false, _) => none
  else some n

/-- `HandleP2pDro` at a router, but for the Stop flag: relayed with NH one less when this
router is named next and the vector fits its own encoding. -/
def relayP2pDro (n : Node) (key : DodagKey) (dro : P2pDroHeader) (rdo : P2pRdoOption) : Node :=
  if !n.namedNext rdo then n
  else
    match n.storeDroRoute key rdo with
    | none => n
    | some n =>
      let compr := p2pRdoCompr rdo.target rdo.addressVector dro.dodagId
      if p2pMaxAddressVectorEntries compr < rdo.addressVector.length then n
      else
        n.sendRplMessageMulticast
          (.p2pDro { dro with p2pRdo := some { rdo with maxRankOrNh := rdo.maxRankOrNh - 1 } })
          allNodesMulticast

/-- `HandleP2pDro`. -/
def handleP2pDro (n : Node) (dro : P2pDroHeader) : Node :=
  let key : DodagKey := ⟨dro.instanceId, dro.dodagId⟩
  match dro.p2pRdo, n.dodags[key]? with
  | some rdo, some dodag =>
    if !dodag.isTemporary || dodag.p2p.target.isAny then n
    else if dodag.p2p.isOrigin then
      if rdo.target ≠ dodag.p2p.target then n
      else (n.completeP2pRoute key dodag dro rdo).recordP2pStop key dro.stop
    else (n.relayP2pDro key dro rdo).recordP2pStop key dro.stop
  | _, _ => n

/-- `HandleP2pDroAck`. -/
def handleP2pDroAck (n : Node) (ack : P2pDroAckHeader) : Node :=
  let key : DodagKey := ⟨ack.instanceId, ack.dodagId⟩
  match n.dodags[key]? with
  | none => n
  | some dodag =>
    if dodag.p2p.isTarget && dodag.p2p.droAckPending && ack.sequence = dodag.p2p.droSequence then
      n.modifyP2p key fun p2p => { p2p with droRetryEvent := none, droAckPending := false }
    else n

end Node

end Rpl
