import Rpl.Aodv

/-!
# Receiving AODV-RPL messages

`HandleAodvRreq` and `HandleAodvRrepInstance` run after the DIO's neighbour has
been recorded and a parent selected; `HandleAodvRrep` takes a reply relayed by
unicast, which joins nothing.
-/

namespace Rpl

open Std

namespace Node

/-! ## RREQ-DIO -/

/-- The RREQ's content has been taken before: a copy counts again only from the preferred
parent, or on a chain of unicast relays. -/
def rreqProcessed (aodv : AodvRreqState) (rreq : RreqOption) : Bool :=
  if rreq.hopByHop then aodv.targetsSeeded else !aodv.addressVector.isEmpty

/-- The copies of an RREQ that are passed over. -/
def ignoresRreq (n : Node) (dodag : DodagMembership) (dio : DioHeader) (heard : Reception) :
    Bool :=
  dodag.aodv.isOrigin || dio.arts.isEmpty ||
    (dodag.aodv.isTarget && dodag.aodv.targets.isEmpty) ||
    (!(!heard.toMulticast && n.attributes.aodvGratuitousRrepRelay) &&
      rreqProcessed dodag.aodv dio.getRreq && heard.sender ≠ dodag.preferredParent)

/-- What an RREQ says of the discovery itself. -/
def withRreq (dio : DioHeader) (aodv : AodvRreqState) : AodvRreqState :=
  let rreq := dio.getRreq
  { aodv with
    origSeqNo := rreq.origSeqNo
    rankLimit := rreq.rankLimit
    lifetimeField := rreq.lifetime
    hopByHop := rreq.hopByHop
    target := dio.getArt.target
    isOrigin := false }

/-- The targets the membership still asks for: the RREQ's at first, later only those that
the RREQ also asks for. -/
def intersectTargets (processed : Bool) (dio : DioHeader) (aodv : AodvRreqState) :
    AodvRreqState :=
  let incoming := dio.arts.map ArtOption.target
  let aodv := { aodv with
    targetSeqNos := dio.arts.foldl
      (fun seqNos (art : ArtOption) => seqNos.insert art.target art.destSeqNo)
      aodv.targetSeqNos }
  if processed then { aodv with targets := aodv.targets.filter (incoming.contains ·) }
  else { aodv with targets := incoming, targetsSeeded := true }

/-- This node's own addresses taken out of the targets, and whether there were any. -/
def matchTargets (n : Node) (aodv : AodvRreqState) : Bool × AodvRreqState :=
  let reached := aodv.targets.any n.ipv6.isOwnAddress
  (reached,
    { aodv with
      targets := aodv.targets.filter fun target => !n.ipv6.isOwnAddress target
      isTarget := aodv.isTarget || reached })

/-- The discovery state after an RREQ, up to the part that depends on its route kind, and
whether this node was a target still asked for. -/
def takeRreq (n : Node) (dodag : DodagMembership) (dio : DioHeader) : Bool × AodvRreqState :=
  let processed := rreqProcessed dodag.aodv dio.getRreq
  let (reached, aodv) := n.matchTargets (intersectTargets processed dio (withRreq dio dodag.aodv))
  (reached, { aodv with symmetric := dio.getRreq.symmetric && !n.attributes.aodvForceAsymmetric })

/-- A held upward route may give way to the chosen parent: the RREQ is of a later discovery,
or the next hop held is a live neighbour that the chosen parent beats. -/
def mayMoveUpward (n : Node) (dodag : DodagMembership) (key : DodagKey) (origSeqNo : UInt8) :
    Bool :=
  match n.findHopByHopRouteIn key key.dodagId with
  | none => true
  | some stored =>
    if stored.nextHop = dodag.preferredParent then true
    else
      let rankVia (neighbour : Ipv6Address) : UInt16 :=
        (dodag.parents[neighbour]?.map dodag.rankViaParent).getD infiniteRank
      sequenceNewer origSeqNo stored.seqNo ||
        (rankVia stored.nextHop ≠ infiniteRank &&
          rankVia dodag.preferredParent < rankVia stored.nextHop)

/-- A live route to the target this node can answer an RREQ with, fresh enough for it. -/
def cachedRouteFor (n : Node) (dodag : DodagMembership) (dio : DioHeader) :
    Option HopByHopRoute :=
  if !n.attributes.aodvGratuitousRrep || dodag.aodv.isTarget then none
  else
    let asked := dio.getArt.destSeqNo
    (n.findHopByHopRoute dodag.aodv.target).filter fun cached =>
      cached.seqNo ≠ 0 &&
        (asked = 0 || sequenceNewer cached.seqNo asked || cached.seqNo = asked) &&
        (!n.attributes.aodvGratuitousRrepOnce ||
          !dodag.aodv.gratuitousRrepSent.contains dodag.aodv.target)

/-- A Gratuitous RREP over a cached route, and the RREQ relayed along that route. -/
def answerFromCache (n : Node) (key : DodagKey) (dio : DioHeader) (sender : Ipv6Address) : Node :=
  match n.dodags[key]? with
  | none => n
  | some dodag =>
    match n.cachedRouteFor dodag dio with
    | none => n
    | some cached =>
      let n :=
        if n.attributes.aodvGratuitousRrepOnce then
          n.modifyAodv key fun aodv =>
            { aodv with gratuitousRrepSent := aodv.gratuitousRrepSent.insert aodv.target }
        else n
      let n := n.sendAodvGratuitousRrep dodag key dodag.aodv.target cached.seqNo sender
      n.relayAodvRreqOnCachedRoute key dio cached.nextHop

/-- The upward route of an RREQ with hop-by-hop routes, toward the OrigNode through the
preferred parent; nothing when the RREQ is discarded over it. -/
def storeUpwardRoute (n : Node) (key : DodagKey) (dio : DioHeader) : Option Node :=
  match n.dodags[key]? with
  | none => none
  | some dodag =>
    let origSeqNo := dio.getRreq.origSeqNo
    if dodag.preferredParent.isAny then none
    else if !n.mayMoveUpward dodag key origSeqNo then some n
    else
      match n.storeHopByHopRoute key key.dodagId dodag.preferredParent n.attributes.routeLifetime
          (some origSeqNo) false with
      | (true, n) => some n
      | (false, _) => none

/-- The address vector of an RREQ or RREP with this node's address added; the DODAG is left
when it is full. Nothing when the node has no address yet or has left. -/
def extendVector (n : Node) (key : DodagKey) (addressVector : List Ipv6Address) :
    Bool × Node :=
  match n.dodags[key]? with
  | none => (false, n)
  | some dodag =>
    let ownAddress := n.getGlobalAddressIn dodag
    if ownAddress.isAny then (false, n)
    else if aodvAddressVectorMaxEntries ≤ addressVector.length then
      (false, n.leaveDodag key false)
    else
      (true, n.modifyAodv key fun aodv =>
        { aodv with addressVector := addressVector ++ [ownAddress] })

/-- The part of an RREQ that depends on its route kind: whether the handling goes on. -/
def routeRreq (n : Node) (key : DodagKey) (dio : DioHeader) (sender : Ipv6Address) :
    Bool × Node :=
  if dio.getRreq.hopByHop then
    match n.storeUpwardRoute key dio with
    | none => (false, n)
    | some n => (true, n.answerFromCache key dio sender)
  else n.extendVector key dio.getRreq.addressVector

/-- `HandleAodvRreq`. -/
def handleAodvRreq (n : Node) (dio : DioHeader) (heard : Reception) : Node :=
  let key := dio.key
  let n := { n with aodvRejoinBlocked := n.aodvRejoinBlocked.erase key }
  match n.dodags[key]? with
  | none => n
  | some dodag =>
    if n.ignoresRreq dodag dio heard then n
    else
      let (reached, aodv) := n.takeRreq dodag dio
      let n := (n.modifyAodv key fun _ => aodv).armAodvExpiry key
      let n :=
        if !dodag.aodv.isTarget && aodv.isTarget then n.log (.discoveryTargetReached key) else n
      let (goesOn, n) := n.routeRreq key dio heard.sender
      if goesOn then
        let n := n.armAodvExpiry key
        if reached then n.sendAodvRrep key else n
      else n

/-! ## RREP-DIO by unicast -/

/-- The RREP completes a discovery of this node's: its address vector is the route. -/
def completeAodvRoute (n : Node) (dio : DioHeader) (rreqInstanceId : UInt8) : Node :=
  match dio.getRrep.addressVector.getLast? with
  | none => n
  | some target =>
    { n with
      aodvRoutes := n.aodvRoutes.insert target
        { hops := dio.getRrep.addressVector
          rreqInstanceId := rreqInstanceId
          destSeqNo := dio.getArt.destSeqNo
          expire := n.now + n.attributes.routeLifetime } }

/-- The RREP of this TargNode has been handled. -/
def markRrepHandled (n : Node) (rreqKey : DodagKey) (targNode : Ipv6Address) : Node :=
  n.modifyAodv rreqKey fun aodv => { aodv with rrepHandled := aodv.rrepHandled.insert targNode }

/-- Where an RREP goes next: along the route to the OrigNode, of its own instance or of any,
or to the entry before this node's in the address vector. -/
def rrepRelayHop (n : Node) (rreqKey : DodagKey) (rrep : RrepOption) : Option Ipv6Address :=
  if rrep.hopByHop then
    ((n.findHopByHopRouteIn rreqKey rreqKey.dodagId).or
      (n.findHopByHopRoute rreqKey.dodagId)).map HopByHopRoute.nextHop
  else
    match rrep.addressVector.findIdx? n.ipv6.isOwnAddress with
    | none => none
    | some 0 => some rreqKey.dodagId
    | some (index + 1) => rrep.addressVector[index]?

/-- `HandleAodvRrep`. -/
def handleAodvRrep (n : Node) (dio : DioHeader) (sender : Ipv6Address) : Node :=
  let rrep := dio.getRrep
  let rreqKey : DodagKey := ⟨dio.instanceId - rrep.delta, dio.getArt.target⟩
  let targNode := dio.dodagId
  if dio.arts.isEmpty then n
  else
    match n.dodags[rreqKey]? with
    | none => n
    | some dodag =>
      if dodag.aodv.rrepHandled.contains targNode then n
      else
        let (stored, n) :=
          if rrep.hopByHop then
            n.storeHopByHopRoute rreqKey targNode sender n.attributes.routeLifetime
              (some dio.getArt.destSeqNo) true
          else (true, n)
        if !stored then n
        else if n.ipv6.isOwnAddress rreqKey.dodagId then
          if rrep.hopByHop then n.markRrepHandled rreqKey targNode
          else if rrep.addressVector.isEmpty then n
          else (n.completeAodvRoute dio rreqKey.instanceId).markRrepHandled rreqKey targNode
        else
          match n.rrepRelayHop rreqKey rrep with
          | none => n
          | some nextHop => (n.markRrepHandled rreqKey targNode).sendAodvTo dodag dio nextHop

/-! ## RREP-Instance -/

/-- What an RREP-Instance DIO says of the discovery. -/
def withRrep (n : Node) (dio : DioHeader) (aodv : AodvRreqState) : AodvRreqState :=
  let rrep := dio.getRrep
  { aodv with
    isRrepInstance := true
    pairedInstanceId := dio.instanceId - rrep.delta
    origNode := dio.getArt.target
    origSeqNo := dio.getArt.destSeqNo
    rankLimit := rrep.rankLimit
    lifetimeField := rrep.lifetime
    hopByHop := rrep.hopByHop
    target := dio.dodagId
    isTarget := false
    isOrigin := n.ipv6.isOwnAddress dio.getArt.target }

/-- The copies of an RREP-Instance DIO that are passed over. -/
def ignoresRrepInstance (n : Node) (dodag : DodagMembership) (dio : DioHeader)
    (sender : Ipv6Address) : Bool :=
  let rrep := dio.getRrep
  (dodag.aodv.isRrepInstance && dodag.aodv.isTarget) ||
    ((if rrep.hopByHop then n.hasHopByHopRoute (dio.instanceId - rrep.delta) dio.dodagId
      else !dodag.aodv.addressVector.isEmpty) && sender ≠ dodag.preferredParent)

/-- The route an OrigNode reads off an RREP-Instance's address vector: the routers in reverse
order, its own address left out, and then the TargNode. -/
def reversedRoute (aodv : AodvRreqState) : List Ipv6Address :=
  aodv.addressVector.dropLast.reverse ++ [aodv.target]

/-- An OrigNode's route through an RREP-Instance. -/
def completeAsymmetricRoute (n : Node) (key : DodagKey) : Node :=
  match n.dodags[key]? with
  | none => n
  | some dodag =>
    { n with
      aodvRoutes := n.aodvRoutes.insert dodag.aodv.target
        { hops := reversedRoute dodag.aodv
          rreqInstanceId := dodag.aodv.pairedInstanceId
          destSeqNo := dodag.aodv.origSeqNo
          expire := n.now + n.attributes.routeLifetime } }

/-- `HandleAodvRrepInstance`. -/
def handleAodvRrepInstance (n : Node) (dio : DioHeader) (sender : Ipv6Address) : Node :=
  let key := dio.key
  let rrep := dio.getRrep
  let n := { n with aodvRejoinBlocked := n.aodvRejoinBlocked.erase key }
  match n.dodags[key]? with
  | none => n
  | some dodag =>
    if n.ignoresRrepInstance dodag dio sender then n
    else
      let aodv := n.withRrep dio dodag.aodv
      let n := (n.modifyAodv key fun _ => aodv).armAodvExpiry key
      if rrep.hopByHop then
        match n.storeHopByHopRoute ⟨aodv.pairedInstanceId, aodv.origNode⟩ key.dodagId
            dodag.preferredParent n.attributes.routeLifetime (some aodv.origSeqNo) false with
        | (false, _) => n
        | (true, n) => n.armAodvExpiry key
      else
        let (goesOn, n) := n.extendVector key rrep.addressVector
        if !goesOn then n
        else
          let n := n.armAodvExpiry key
          if aodv.isOrigin then n.completeAsymmetricRoute key else n

end Node

end Rpl
