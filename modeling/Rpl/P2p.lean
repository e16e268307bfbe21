import Rpl.AodvReceive

/-!
# P2P-RPL

Temporary DAGs of RFC 6997 as this node takes part in them: the P2P mode DIOs it
refuses, the candidate routes it may pass on and the alternate routes a Target
collects, the P2P-DRO a Target answers with, and the relaying of one back to the
Origin.
-/

namespace Rpl

open Std

namespace Node

/-- `MatchesP2pTarget`. -/
def matchesP2pTarget (n : Node) (dio : DioHeader) : Bool :=
  n.ipv6.isOwnAddress dio.getP2pRdo.target ||
    dio.targets.any fun option => n.ipv6.isOwnAddress option.target

/-- `MatchedP2pTargetAddress`. -/
def matchedP2pTargetAddress (n : Node) (dodag : DodagMembership) : Ipv6Address :=
  ((dodag.p2p.target :: dodag.p2p.additionalTargets).find? n.ipv6.isOwnAddress).getD anyAddress

/-- The state of a temporary DAG rewritten. -/
def modifyP2p (n : Node) (key : DodagKey) (f : P2pState → P2pState) : Node :=
  n.modifyDodag key fun dodag => { dodag with p2p := f dodag.p2p }

/-! ## Refusals -/

/-- RFC 6997 section 6.1: the fields of a P2P mode DIO that have only one value. -/
def malformedP2pDio (dio : DioHeader) : Bool :=
  dio.version ≠ 0 || !dio.grounded || dio.preference ≠ 0 ||
    dio.instanceId &&& localInstanceFlag = 0 ||
    dio.dagConf.any DagConfiguration.authEnabled ||
    dio.dagConf.any fun conf => conf.maxRankIncrease ≠ 0

/-- The temporary DAG has stopped, whether it is still held or only remembered. -/
def p2pStopped (n : Node) (key : DodagKey) : Bool :=
  match n.dodags[key]? with
  | some dodag => dodag.p2p.stopped
  | none => (n.p2pStopMemory[key]?).any fun stopUntil => n.now < stopUntil

/-- `ShouldRefuseP2pRdo`. -/
def shouldRefuseP2pRdo (n : Node) (dio : DioHeader) : Bool :=
  let rdo := dio.getP2pRdo
  malformedP2pDio dio ||
    n.p2pStopped dio.key ||
    n.ipv6.isOwnAddress dio.dodagId ||
    n.inVector rdo.addressVector ||
    refusesByRankLimit dio.rank (n.limitMinHopRankIncrease dio) rdo.maxRankOrNh
      (n.matchesP2pTarget dio)

/-- `RecordP2pStop`. -/
def recordP2pStop (n : Node) (key : DodagKey) (stop : Bool) : Node :=
  n.modifyDodag key fun dodag =>
    if !stop || dodag.p2p.stopped then dodag
    else
      { dodag with
        dioTrickle := dodag.dioTrickle.stop
        p2p := { dodag.p2p with stopped := true } }

/-! ## Candidate and alternate routes -/

/-- The route a P2P mode DIO gives this node, its own address added; nothing when it has
none on the interface or the route is too long for one option. -/
def p2pRouteThrough (n : Node) (dodag : DodagMembership) (rdo : P2pRdoOption)
    (interface : Nat) : Option (List Ipv6Address) :=
  let ownAddress := n.getGlobalAddressOnInterface dodag interface
  if ownAddress.isAny then none
  else
    let route := rdo.addressVector ++ [ownAddress]
    if p2pMaxAddressVectorEntries (p2pRdoCompr rdo.target route dodag.dodagId) < route.length then
      none
    else some route

/-- A route of the given rank among the candidates: it supersedes worse ones, and joins
those of its own rank while it is new and there is room. -/
def addCandidate (p2p : P2pState) (rank : UInt16) (candidate : P2pCandidate) : P2pState :=
  let p2p :=
    if rank < p2p.candidateRank then { p2p with candidateRoutes := [], candidateRank := rank }
    else p2p
  if p2p.candidateRoutes.any (·.route = candidate.route) ||
      p2pMaxCandidateRoutes ≤ p2p.candidateRoutes.length then p2p
  else { p2p with candidateRoutes := p2p.candidateRoutes ++ [candidate] }

/-- `RecordP2pCandidateRoute`. -/
def recordP2pCandidateRoute (n : Node) (dodag : DodagMembership) (rdo : P2pRdoOption)
    (heard : Reception) : DodagMembership :=
  match dodag.parents[heard.sender]? with
  | none => dodag
  | some parent =>
    let rank := dodag.rankViaParent parent
    if rank = infiniteRank then dodag
    else
      let dodag := dodag.pruneP2pCandidateRoutes
      if dodag.p2p.candidateRank < rank then dodag
      else
        match n.p2pRouteThrough dodag rdo heard.interface with
        | none => dodag
        | some route => { dodag with p2p := addCandidate dodag.p2p rank ⟨heard.sender, route⟩ }

/-- The first of the longest routes replaced by a shorter one. -/
def displaceLongest (routes : List (List Ipv6Address)) (route : List Ipv6Address) :
    List (List Ipv6Address) :=
  let longest := (routes.map List.length).foldl max 0
  if longest ≤ route.length then routes
  else
    match routes.findIdx? (·.length = longest) with
    | none => routes
    | some index => routes.set index route

/-- `RecordP2pAlternateRoute`. -/
def recordP2pAlternateRoute (n : Node) (dodag : DodagMembership) (rdo : P2pRdoOption)
    (asked : UInt8) (interface : Nat) : DodagMembership :=
  match n.p2pRouteThrough dodag rdo interface with
  | none => dodag
  | some route =>
    let routes := dodag.p2p.alternateRoutes
    if route = dodag.p2p.addressVector || routes.contains route then dodag
    else
      let routes :=
        if asked.toNat ≤ routes.length then displaceLongest routes route else routes ++ [route]
      { dodag with p2p := { dodag.p2p with alternateRoutes := routes } }

/-! ## Answering as Target -/

/-- The P2P-DRO over one route, the Target's own entry left out of it. -/
def p2pDroMessage (n : Node) (dodag : DodagMembership) (key : DodagKey)
    (route : List Ipv6Address) (stop trackAck : Bool) : P2pDroHeader :=
  let matched := n.matchedP2pTargetAddress dodag
  { instanceId := dodag.instanceId
    stop := stop
    ackRequested := trackAck
    sequence := dodag.p2p.droSequence
    dodagId := key.dodagId
    p2pRdo := some
      { reply := false
        hopByHop := dodag.p2p.hopByHop
        numRoutes := 0
        lifetime := 0
        addressVector := route.dropLast
        maxRankOrNh := UInt8.ofNat (route.length - 1)
        target := if matched.isAny then route.getLast?.getD anyAddress else matched } }

/-- `SendP2pDroRoute`. -/
def sendP2pDroRoute (n : Node) (key : DodagKey) (route : List Ipv6Address)
    (stop trackAck : Bool) : Node :=
  match n.dodags[key]? with
  | none => n
  | some dodag =>
    let n := n.sendRplMessageMulticast (.p2pDro (n.p2pDroMessage dodag key route stop trackAck))
      allNodesMulticast
    if trackAck then
      n.modifyP2p key fun p2p =>
        { p2p with droRetryEvent := some (n.now + n.attributes.p2pDroAckWaitTime) }
    else n

/-- `SendP2pDro`: over the membership's address vector. -/
def sendP2pDro (n : Node) (key : DodagKey) : Node :=
  match n.dodags[key]? with
  | none => n
  | some dodag =>
    n.sendP2pDroRoute key dodag.p2p.addressVector (!n.hasOtherP2pTargets dodag)
      n.attributes.p2pDroAckRequested

/-- `P2pDroRetry`. -/
def p2pDroRetry (n : Node) (key : DodagKey) : Node :=
  match n.dodags[key]? with
  | none => n
  | some dodag =>
    if !dodag.p2p.droAckPending then n
    else if dodag.p2p.droRetriesLeft = 0 then
      n.modifyP2p key fun p2p => { p2p with droAckPending := false }
    else
      (n.modifyP2p key fun p2p => { p2p with droRetriesLeft := p2p.droRetriesLeft - 1 }).sendP2pDro
        key

/-- How long a Target collects routes before it answers: the window, or half of what is left
of the temporary DAG when that is no longer. -/
def collectWindow (n : Node) (dodag : DodagMembership) : Time :=
  let remaining := dodag.p2p.expiry.delayLeft n.now
  if remaining ≤ n.attributes.p2pDroCollectWindow then remaining / 2
  else n.attributes.p2pDroCollectWindow

/-- A reply cycle starts: the answer goes out at once, or after a collection window when
more than one route is asked for. -/
def startReply (n : Node) (key : DodagKey) : Node :=
  let n := n.modifyP2p key fun p2p =>
    { p2p with
      lastRepliedAddressVector := p2p.addressVector
      droSequence := (p2p.droSequence + 1) &&& p2pDroSeqMax
      droAckPending := n.attributes.p2pDroAckRequested
      droRetriesLeft := n.attributes.p2pDroMaxRetransmissions }
  match n.dodags[key]? with
  | none => n
  | some dodag =>
    if dodag.p2p.numRoutes = 0 then
      (n.modifyP2p key fun p2p =>
        { p2p with droCollectEvent := none, droCollecting := false }).sendP2pDro key
    else if dodag.p2p.droCollecting then n
    else
      n.modifyP2p key fun p2p =>
        { p2p with
          droRetryEvent := none
          droCollecting := true
          droCollectEvent := some (n.now + n.collectWindow dodag) }

/-- The further answers of a reply: over each alternate route, up to the number asked for,
the one already answered over left out. -/
def alternateReplies (p2p : P2pState) : List (List Ipv6Address) :=
  (p2p.alternateRoutes.filter (· ≠ p2p.addressVector)).take p2p.numRoutes.toNat

/-- `P2pDroCollectExpire`. -/
def p2pDroCollectExpire (n : Node) (key : DodagKey) : Node :=
  let n := n.modifyP2p key fun p2p => { p2p with droCollecting := false }
  match n.dodags[key]? with
  | none => n
  | some dodag =>
    if !dodag.p2p.isTarget || !dodag.p2p.reply then
      n.modifyP2p key fun p2p => { p2p with alternateRoutes := [] }
    else if dodag.p2p.addressVector.isEmpty then n
    else
      let stop := !n.hasOtherP2pTargets dodag
      let n := n.sendP2pDroRoute key dodag.p2p.addressVector stop n.attributes.p2pDroAckRequested
      let n := (alternateReplies dodag.p2p).foldl
        (fun n route => n.sendP2pDroRoute key route stop false) n
      n.modifyP2p key fun p2p => { p2p with alternateRoutes := [] }

end Node

end Rpl
