import Rpl.Join

/-!
# Starting a discovery

What AODV-RPL and P2P-RPL share when a node roots a temporary DODAG: the choice
of a Local RPLInstanceID, outside the bars on reusing one where that is possible,
and the deadline of the membership.
-/

namespace Rpl

open Std

/-- `Seconds(m_pathLifetime * m_lifetimeUnit)`: how long a discovered route lasts. -/
def Attributes.routeLifetime (attributes : Attributes) : Time :=
  seconds (attributes.pathLifetime.toNat * defaultLifetimeUnit.toNat)

/-- The Local RPLInstanceIDs with the D flag clear, in ascending order. -/
def localInstanceIds : List UInt8 :=
  ((List.range (aodvPrefixLengthMask.toNat + 1)).map fun candidate =>
      localInstanceFlag ||| UInt8.ofNat candidate).filter
    fun candidate => candidate &&& localInstanceDFlag = 0

/-- The allocation loop: the first ID that is neither in use nor barred, else, of the barred
ones, the first that frees up earliest, else none. `bar` is the end of the bar an ID is
inside of. -/
def allocateInstanceId (candidates : List UInt8) (inUse : UInt8 → Bool)
    (bar : UInt8 → Option Time) : Option UInt8 :=
  let usable := candidates.filter fun candidate => !inUse candidate
  match usable.find? fun candidate => (bar candidate).isNone with
  | some free => some free
  | none =>
    if usable.isEmpty then none
    else
      let earlier (best : Time × UInt8) (candidate : UInt8) : Time × UInt8 :=
        match bar candidate with
        | some freeAt => if freeAt < best.1 then (freeAt, candidate) else best
        | none => best
      some (usable.foldl earlier (timeMax, 0)).2

namespace Node

/-- `IsJoinedTo`. -/
def isJoinedTo (n : Node) (instanceId : UInt8) (dodagId : Ipv6Address) : Bool :=
  n.dodags.contains ⟨instanceId, dodagId⟩

/-! ## Bars on reuse -/

/-- `P2pMembershipBar`. -/
def p2pMembershipBar (n : Node) : Time :=
  seconds (3 * p2pLifetimeSeconds n.attributes.p2pLifetime)

/-- The end of a bar that has not passed. -/
def barUntil (n : Node) (freeAt : Time) : Option Time :=
  if n.now < freeAt then some freeAt else none

/-- The end of the REJOIN_REENABLE bar on a key, if it is barred now. -/
def rejoinBar (n : Node) (key : DodagKey) : Option Time :=
  (n.aodvRejoinBlocked[key]?).bind n.barUntil

/-- `P2pIdBarred`. -/
def p2pIdBarred (n : Node) (localId : UInt8) : Option Time :=
  (n.p2pInstanceUse[localId]?).bind fun used =>
    n.barUntil (used.started + n.p2pMembershipBar + n.attributes.routeLifetime)

/-- `AodvIdBarred`. -/
def aodvIdBarred (n : Node) (localId : UInt8) (dodagId : Ipv6Address) : Option Time :=
  let rejoin := (n.aodvRejoinBlocked[(⟨localId, dodagId⟩ : DodagKey)]?).getD 0
  n.barUntil (max rejoin ((n.aodvRouteStateUntil[localId]?).getD rejoin))

/-! ## Deadlines -/

/-- The deadline of an RREP-Instance is not past that of the RREQ-Instance it answers. -/
def pairedDeadline (n : Node) (dodag : DodagMembership) (deadline : Time) : Time :=
  if dodag.aodv.isRrepInstance && !dodag.aodv.origNode.isAny then
    match n.dodags[(⟨dodag.aodv.pairedInstanceId, dodag.aodv.origNode⟩ : DodagKey)]? with
    | some paired =>
      if paired.aodv.expiry.isRunning then min deadline (paired.aodv.expiry.delayLeft n.now)
      else deadline
    | none => deadline
  else deadline

/-- `ArmAodvExpiry`: an unlimited lifetime sets no deadline, and one that runs is not
restarted. -/
def armAodvExpiry (n : Node) (key : DodagKey) : Node :=
  match n.dodags[key]? with
  | none => n
  | some dodag =>
    let lifetime := aodvLifetimeSeconds dodag.aodv.lifetimeField
    if lifetime = 0 || dodag.aodv.expiry.isRunning then n
    else
      let deadline := n.pairedDeadline dodag (seconds lifetime)
      n.modifyDodag key fun dodag =>
        { dodag with aodv := { dodag.aodv with expiry := some (n.now + deadline) } }

/-- `AodvInstanceExpired`. -/
def aodvInstanceExpired (n : Node) (key : DodagKey) : Node := n.leaveDodag key false

/-- `ArmP2pExpiry`. -/
def armP2pExpiry (n : Node) (key : DodagKey) : Node :=
  match n.dodags[key]? with
  | none => n
  | some dodag =>
    if dodag.p2p.expiry.isRunning then n
    else
      n.modifyDodag key fun dodag =>
        { dodag with
          p2p := { dodag.p2p with
            expiry := some (n.now + seconds (p2pLifetimeSeconds dodag.p2p.lifetimeField)) } }

/-- `P2pInstanceExpired`: a stopped discovery is remembered for one more lifetime. -/
def p2pInstanceExpired (n : Node) (key : DodagKey) : Node :=
  match n.dodags[key]? with
  | none => n
  | some dodag =>
    let memory := OrderedMap.eraseIf (fun _ until_ => until_ ≤ n.now) n.p2pStopMemory
    let memory :=
      if dodag.p2p.stopped then
        memory.insert key (n.now + seconds (p2pLifetimeSeconds dodag.p2p.lifetimeField))
      else memory
    ({ n with p2pStopMemory := memory }).leaveDodag key false

/-! ## The temporary DODAG -/

/-- A Trickle timer's parameters are replaced and the timer is reset. -/
def restartTrickle (now : Time) (dodag : DodagMembership) : DodagMembership :=
  { dodag with
    dioTrickle := (dodag.dioTrickle.setParameters dodag.dioIntervalMin
      dodag.dioIntervalDoublings dodag.dioRedundancy).reset now }

/-- The Trickle and rank parameters of an AODV-RPL instance this node roots; a negative
attribute leaves the DODAG's own value. -/
def withAodvParameters (attributes : Attributes) (dodag : DodagMembership) : DodagMembership :=
  { dodag with
    dioIntervalMin := attributes.aodvDioIntervalMin
    dioIntervalDoublings := attributes.aodvDioIntervalDoublings
    dioRedundancy :=
      if 0 ≤ attributes.aodvDioRedundancy then UInt8.ofNat attributes.aodvDioRedundancy.toNat
      else dodag.dioRedundancy
    maxRankIncrease :=
      if 0 ≤ attributes.aodvMaxRankIncrease then
        UInt16.ofNat attributes.aodvMaxRankIncrease.toNat
      else dodag.maxRankIncrease }

/-- The Dest SeqNo an RREQ asks for: the newest one a live route to the target holds. -/
def knownDestSeqNo (n : Node) (target : Ipv6Address) : UInt8 :=
  let stored := (n.aodvRoutes[target]?).filter fun route => n.now < route.expire
  match stored, n.findHopByHopRoute target with
  | none, none => 0
  | some stored, none => stored.destSeqNo
  | none, some hopByHop => hopByHop.seqNo
  | some stored, some hopByHop =>
    if sequenceNewer hopByHop.seqNo stored.destSeqNo then hopByHop.seqNo else stored.destSeqNo

/-- The node holds live AODV-RPL route state under the ID until the discovery's lifetime
and a route's have both passed. -/
def noteAodvRouteState (n : Node) (instanceId : UInt8) : Node :=
  let stateUntil := n.now + seconds (aodvLifetimeSeconds n.attributes.aodvLifetime) +
    n.attributes.routeLifetime
  { n with
    aodvRouteStateUntil := n.aodvRouteStateUntil.insert instanceId
      (max ((n.aodvRouteStateUntil[instanceId]?).getD 0) stateUntil) }

/-- The state of an RREQ-Instance at its OrigNode. -/
def originRreqState (n : Node) (target : Ipv6Address) (hopByHop : Bool) (known : UInt8)
    (aodv : AodvRreqState) : AodvRreqState :=
  { aodv with
    symmetric := true
    origSeqNo := n.aodvSeqNo
    rankLimit := n.attributes.aodvRankLimit
    lifetimeField := n.attributes.aodvLifetime
    hopByHop := hopByHop
    target := target
    targets := [target]
    targetSeqNos := aodv.targetSeqNos.insert target known
    isOrigin := true
    isTarget := false
    addressVector := [] }

/-- `DiscoverRoute`: the RREQ-Instance rooted, `none` when there is no discovery. -/
def discoverRoute (n : Node) (target : Ipv6Address) (hopByHop : Bool) : Option DodagKey × Node :=
  let address := n.getGlobalAddress
  if target.isAny || n.ipv6.isOwnAddress target || address.isAny then (none, n)
  else
    match allocateInstanceId localInstanceIds (n.isJoinedTo · address)
        (fun localId => (n.rejoinBar ⟨localId, address⟩).or (n.p2pIdBarred localId)) with
    | none => (none, n)
    | some instanceId =>
      let n := { n with aodvSeqNo := sequenceIncrement n.aodvSeqNo }
      match n.createLocalDodag instanceId mopP2pRouteDiscovery with
      | none => (none, n)
      | some (key, created) =>
        let rooted := (created.noteAodvRouteState instanceId).modifyDodag key fun dodag =>
          restartTrickle n.now (withAodvParameters n.attributes
            { dodag with
              aodv := n.originRreqState target hopByHop (n.knownDestSeqNo target) dodag.aodv })
        (some key, rooted.armAodvExpiry key)

/-- The end of the bar on starting a P2P-RPL discovery of the target under the ID. -/
def p2pReuseBar (n : Node) (target : Ipv6Address) (localId : UInt8) : Option Time :=
  (n.p2pInstanceUse[localId]?).bind fun used =>
    let freeAt := used.started + n.p2pMembershipBar
    match used.targetStarted[target]? with
    | some started =>
      n.barUntil (max freeAt (started + (n.attributes.routeLifetime + n.p2pMembershipBar)))
    | none => n.barUntil freeAt

/-- The use of the ID by a discovery of the target starting now, uses long past dropped. -/
def noteP2pUse (n : Node) (target : Ipv6Address) (instanceId : UInt8) : Node :=
  let routeBar := n.attributes.routeLifetime + n.p2pMembershipBar
  let targets := ((n.p2pInstanceUse[instanceId]?).map P2pInstanceUse.targetStarted).getD ∅
  let current := OrderedMap.eraseIf (fun _ started => started + routeBar ≤ n.now) targets
  { n with
    p2pInstanceUse := n.p2pInstanceUse.insert instanceId
      { started := n.now, targetStarted := current.insert target n.now } }

/-- The Trickle and rank parameters of a temporary DAG this node roots. -/
def withP2pParameters (attributes : Attributes) (dodag : DodagMembership) : DodagMembership :=
  { dodag with
    maxRankIncrease := 0
    dioIntervalMin := attributes.p2pDioIntervalMin
    dioIntervalDoublings := attributes.p2pDioIntervalDoublings
    dioRedundancy := attributes.p2pDioRedundancy }

/-- The state of a temporary DAG at its Origin. -/
def originP2pState (n : Node) (target : Ipv6Address) (hopByHop : Bool) (p2p : P2pState) :
    P2pState :=
  { p2p with
    target := target
    isOrigin := true
    isTarget := false
    maxRank := n.attributes.p2pMaxRank
    lifetimeField := n.attributes.p2pLifetime
    numRoutes := if hopByHop then 0 else n.attributes.p2pNumRoutes
    reply := true
    hopByHop := hopByHop
    addressVector := [] }

/-- `DiscoverP2pRoute`. -/
def discoverP2pRoute (n : Node) (target : Ipv6Address) (hopByHop : Bool) :
    Option DodagKey × Node :=
  let address := n.getGlobalAddress
  if target.isAny || n.ipv6.isOwnAddress target || address.isAny then (none, n)
  else
    match allocateInstanceId localInstanceIds (n.isJoinedTo · address)
        (fun localId => (n.aodvIdBarred localId address).or (n.p2pReuseBar target localId)) with
    | none => (none, n)
    | some instanceId =>
      let n := n.noteP2pUse target instanceId
      match n.createLocalDodag instanceId mopP2pRouteDiscovery with
      | none => (none, n)
      | some (key, created) =>
        let rooted := created.modifyDodag key fun dodag =>
          restartTrickle n.now (withP2pParameters n.attributes
            { dodag with p2p := n.originP2pState target hopByHop dodag.p2p })
        (some key, rooted.armP2pExpiry key)

end Node

end Rpl
