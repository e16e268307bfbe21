import Rpl.DaoSend

/-!
# Sending DIOs

`SendDio` builds a membership's DIO, with the discovery option of a temporary
DODAG, and sends it unless it would tell a neighbour nothing: an RREQ-Instance
with no target left, a temporary DAG this router is the only Target of, or a
temporary DODAG without a discovery option.
-/

namespace Rpl

open Std

namespace DodagMembership

/-! ## P2P-RPL candidate routes -/

/-- The rank a candidate route's sender gives now, INFINITE_RANK when it is no neighbour
any more. -/
def candidateRankVia (dodag : DodagMembership) (candidate : P2pCandidate) : UInt16 :=
  match dodag.parents[candidate.sender]? with
  | none => infiniteRank
  | some parent => dodag.rankViaParent parent

/-- `PruneP2pCandidateRoutes`: only the candidates whose senders give the best rank stay. -/
def pruneP2pCandidateRoutes (dodag : DodagMembership) : DodagMembership :=
  let live := dodag.p2p.candidateRoutes.filter fun candidate =>
    dodag.candidateRankVia candidate ≠ infiniteRank
  let best := live.foldl (fun best candidate => min best (dodag.candidateRankVia candidate))
    infiniteRank
  { dodag with
    p2p := { dodag.p2p with
      candidateRoutes := live.filter fun candidate => dodag.candidateRankVia candidate = best
      candidateRank := best } }

/-! ## The header -/

/-- The configuration a DIO of this membership carries. -/
def dagConfiguration (dodag : DodagMembership) : DagConfiguration :=
  { intervalDoublings := dodag.dioIntervalDoublings
    intervalMin := UInt8.ofNat (Nat.log2 (dodag.dioIntervalMin / 1000000).toNat)
    redundancy := dodag.dioRedundancy
    maxRankIncrease := dodag.maxRankIncrease
    minHopRankIncrease := dodag.minHopRankIncrease
    ocp := dodag.ocp
    defaultLifetime := Rpl.defaultLifetime
    lifetimeUnit := defaultLifetimeUnit }

/-- The RREP option and the ART naming OrigNode, of an RREP-Instance. -/
def rrepOption (dodag : DodagMembership) : RrepOption :=
  { hopByHop := dodag.aodv.hopByHop
    lifetime := dodag.aodv.lifetimeField
    rankLimit := dodag.aodv.rankLimit
    delta := dodag.instanceId - dodag.aodv.pairedInstanceId
    addressVector := dodag.aodv.addressVector }

def origNodeArt (dodag : DodagMembership) : ArtOption :=
  { destSeqNo := dodag.aodv.origSeqNo, target := dodag.aodv.origNode }

/-- The RREQ option of an RREQ-Instance. -/
def rreqOption (dodag : DodagMembership) : RreqOption :=
  { symmetric := dodag.aodv.symmetric
    hopByHop := dodag.aodv.hopByHop
    lifetime := dodag.aodv.lifetimeField
    rankLimit := dodag.aodv.rankLimit
    origSeqNo := dodag.aodv.origSeqNo
    addressVector := dodag.aodv.addressVector }

/-- One ART for each target still sought, with the sequence number last known for it. -/
def targetArts (dodag : DodagMembership) : List ArtOption :=
  dodag.aodv.targets.map fun target =>
    { destSeqNo := dodag.aodv.targetSeqNos[target]?.getD 0, target := target }

/-- The P2P Route Discovery Option, carrying the given route. -/
def p2pRdoOption (dodag : DodagMembership) (route : List Ipv6Address) : P2pRdoOption :=
  { reply := dodag.p2p.reply
    hopByHop := dodag.p2p.hopByHop
    numRoutes := dodag.p2p.numRoutes
    lifetime := dodag.p2p.lifetimeField
    maxRankOrNh := dodag.p2p.maxRank
    target := dodag.p2p.target
    addressVector := route }

/-- Which discovery option a membership's DIO carries. -/
inductive DiscoveryOption
  | none
  | rrep
  | rreq
  | p2p
  deriving DecidableEq, Repr

def discoveryOption (dodag : DodagMembership) : DiscoveryOption :=
  if !dodag.isTemporary then .none
  else if dodag.aodv.isRrepInstance then .rrep
  else if !dodag.aodv.target.isAny then .rreq
  else if !dodag.p2p.target.isAny then .p2p
  else .none

/-- The DIO base and every option but those of a discovery. -/
def dioBase (dodag : DodagMembership) (enableLql : Bool) : DioHeader :=
  { instanceId := dodag.instanceId
    version := dodag.version
    rank := dodag.rank
    grounded := dodag.grounded
    mop := dodag.mop
    preference := dodag.preference
    dtsn := dodag.dtsn
    dodagId := dodag.dodagId
    dagConf := some dodag.dagConfiguration
    metricContainer :=
      if dodag.ocp = ocpMrhof then some (if dodag.isRoot then 0 else dodag.pathEtx) else none
    lql :=
      if enableLql then some ((dodag.preferredEntry.map Parent.lql).getD lqlUndetermined)
      else none
    prefixInfo := dodag.prefixInfo }

/-- The DIO of this membership, `route` being the address vector a P2P mode DIO carries. -/
def dioMessage (dodag : DodagMembership) (enableLql : Bool) (route : List Ipv6Address) :
    DioHeader :=
  let dio := dodag.dioBase enableLql
  match dodag.discoveryOption with
  | .none => dio
  | .rrep => { dio with rrep := some dodag.rrepOption, arts := [dodag.origNodeArt] }
  | .rreq => { dio with rreq := some dodag.rreqOption, arts := dodag.targetArts }
  | .p2p =>
    { dio with
      p2pRdo := some (dodag.p2pRdoOption route)
      targets := dodag.p2p.additionalTargets.map fun target => { target := target } }

end DodagMembership

namespace Node

/-- `HasOtherP2pTargets`. -/
def hasOtherP2pTargets (n : Node) (dodag : DodagMembership) : Bool :=
  dodag.p2p.additionalTargets.any fun target => !n.ipv6.isOwnAddress target

/-- The three cases in which `SendDio` sends nothing. -/
def suppressesDio (n : Node) (dodag : DodagMembership) : Bool :=
  dodag.isTemporary &&
    ((!dodag.aodv.isRrepInstance && !dodag.aodv.isOrigin && !dodag.aodv.target.isAny &&
        dodag.aodv.targets.isEmpty) ||
      (!dodag.p2p.target.isAny && dodag.p2p.isTarget && !n.hasOtherP2pTargets dodag) ||
      (!dodag.aodv.isRrepInstance && dodag.aodv.target.isAny && dodag.p2p.target.isAny))

/-- A message on one interface, or on all of them for interface 0. -/
def sendRplMessage (n : Node) (message : RplMessage) (destination : Ipv6Address)
    (interface : Nat) : Node :=
  if interface = 0 then n.sendRplMessageMulticast message destination
  else n.sendRplMessageOn interface message destination

/-- The route a P2P mode DIO carries: one of the candidates at random, or the address vector
when there is none. The candidates are pruned first. -/
def drawP2pRoute (n : Node) (key : DodagKey) (dodag : DodagMembership) :
    List Ipv6Address × Node :=
  let dodag := dodag.pruneP2pCandidateRoutes
  let n := n.setDodag key dodag
  if dodag.p2p.candidateRoutes.isEmpty then (dodag.p2p.addressVector, n)
  else
    let draw := n.p2pRouteSelector.getValue 0 (dodag.p2p.candidateRoutes.length - 1)
    (((dodag.p2p.candidateRoutes[draw.1.toNat]?).map P2pCandidate.route).getD [],
      { n with p2pRouteSelector := draw.2 })

/-- `SendDio`. -/
def sendDio (n : Node) (key : DodagKey) (destination : Ipv6Address) (interface : Nat) : Node :=
  match n.dodags[key]? with
  | none => n
  | some dodag =>
    if n.suppressesDio dodag then n
    else
      let (route, n) :=
        if dodag.discoveryOption = .p2p then n.drawP2pRoute key dodag else ([], n)
      n.sendRplMessage (.dio (dodag.dioMessage n.attributes.enableLql route)) destination interface

/-- One membership's answer to a DIS: its Trickle timer reset for a multicast one, a DIO
straight back for a unicast one. Temporary DODAGs do not answer. -/
def answerDis (sender : Ipv6Address) (interface : Nat) (toMulticast : Bool) (n : Node)
    (key : DodagKey) : Node :=
  match n.dodags[key]? with
  | none => n
  | some dodag =>
    if dodag.isTemporary then n
    else if toMulticast then
      n.modifyDodag key fun dodag => { dodag with dioTrickle := dodag.dioTrickle.reset n.now }
    else n.sendDio key sender interface

/-- `HandleDis`. -/
def handleDis (n : Node) (sender : Ipv6Address) (interface : Nat) (toMulticast : Bool) : Node :=
  n.dodags.keys.foldl (answerDis sender interface toMulticast) n

end Node

end Rpl
