import Rpl.Quiet
import Rpl.Standing

/-!
# Views that see the notes of discoveries

The counterpart of a quiet view: it sees no message but DAOs, no draw of a random
number, none of the tables a node keeps besides its memberships, and of a membership
nothing but its neighbours, its parent, where its DAO exchange is, and what it has noted
of the targets and routes of a discovery.  Timers of the Trickle kind, the rest of the
discovery state and replies are invisible to it.
-/

namespace Rpl

open Std

/-! ## Messages that are no DAOs -/

/-- The DAO of an output. -/
def Output.dao? : Output → Option DaoHeader
  | .sent _ _ _ (.dao dao) => some dao
  | _ => none

/-- The message is a DAO. -/
def RplMessage.isDao : RplMessage → Bool
  | .dao _ => true
  | _ => false

theorem Output.Carries.dao?_eq_none {message : RplMessage} {destination : Ipv6Address}
    {output : Output} (carries : output.Carries message destination)
    (other : message.isDao = false) : output.dao? = none := by
  obtain ⟨interface, source, rfl⟩ := carries
  cases message with
  | dao dao => cases other
  | _ => rfl

/-! ## Offhand views -/

/-- What a view of this kind does not tell apart: two memberships that agree on who the node is
in the DODAG, whom it has for a neighbour and for a parent there, and where its DAO exchange
is. -/
def DodagMembership.Alike (dodag other : DodagMembership) : Prop :=
  other =
    { dodag with
      version := other.version
      dioIntervalMin := other.dioIntervalMin
      dioIntervalDoublings := other.dioIntervalDoublings
      maxRankIncrease := other.maxRankIncrease
      minHopRankIncrease := other.minHopRankIncrease
      ocp := other.ocp
      dioRedundancy := other.dioRedundancy
      prefixInfo := other.prefixInfo
      dioTrickle := other.dioTrickle
      globalRepairEvent := other.globalRepairEvent
      topology := other.topology
      downwardRoutes := other.downwardRoutes
      aodv := other.aodv
      p2p := other.p2p }

/-- What a membership has noted of the targets and the routes of a discovery. -/
structure Notes where
  targets : List Ipv6Address := []
  targetsSeeded : Bool := false
  addressVector : List Ipv6Address := []
  candidateRoutes : List P2pCandidate := []
  candidateRank : UInt16 := infiniteRank
  alternateRoutes : List (List Ipv6Address) := []

def DodagMembership.notes (dodag : DodagMembership) : Notes :=
  { targets := dodag.aodv.targets
    targetsSeeded := dodag.aodv.targetsSeeded
    addressVector := dodag.aodv.addressVector
    candidateRoutes := dodag.p2p.candidateRoutes
    candidateRank := dodag.p2p.candidateRank
    alternateRoutes := dodag.p2p.alternateRoutes }

/-- What a node's search for a DODAG depends on. -/
structure Node.Solicitation where
  isRoot : Bool
  disTimer : Timer
  disRefreshPending : Bool
  firstSolicitation : Timer
  hasBaseDodag : Bool
  baseDodagKey : DodagKey

/-- What a node holds besides its memberships, what outlives a membership of its DAO exchange,
and its search for a DODAG. -/
structure Node.Findings where
  ipv6 : Ipv6L3Protocol
  sockets : ExtTreeSet Nat
  retainedRank : ExtTreeMap DodagKey (List RetainedRank)
  jitter : RandomStream
  p2pRouteSelector : RandomStream
  aodvSeqNo : UInt8
  aodvRejoinBlocked : ExtTreeMap DodagKey Time
  aodvRouteStateUntil : ExtTreeMap UInt8 Time
  p2pInstanceUse : ExtTreeMap UInt8 P2pInstanceUse
  p2pStopMemory : ExtTreeMap DodagKey Time
  aodvRoutes : ExtTreeMap Ipv6Address AodvRoute
  p2pRoutes : ExtTreeMap Ipv6Address P2pRoute
  hopByHopRoutes : ExtTreeMap Ipv6Address HopByHopRoute

namespace Node

def solicitation (n : Node) : Solicitation :=
  { isRoot := n.isRoot
    disTimer := n.disTimer
    disRefreshPending := n.disRefreshPending
    firstSolicitation := n.firstSolicitation
    hasBaseDodag := n.hasBaseDodag
    baseDodagKey := n.baseDodagKey }

/-- The node at another point of its search. -/
def withSolicitation (n : Node) (solicitation : Solicitation) : Node :=
  { n with
    isRoot := solicitation.isRoot
    disTimer := solicitation.disTimer
    disRefreshPending := solicitation.disRefreshPending
    firstSolicitation := solicitation.firstSolicitation
    hasBaseDodag := solicitation.hasBaseDodag
    baseDodagKey := solicitation.baseDodagKey }

def findings (n : Node) : Findings :=
  { ipv6 := n.ipv6
    sockets := n.sockets
    retainedRank := n.retainedRank
    jitter := n.jitter
    p2pRouteSelector := n.p2pRouteSelector
    aodvSeqNo := n.aodvSeqNo
    aodvRejoinBlocked := n.aodvRejoinBlocked
    aodvRouteStateUntil := n.aodvRouteStateUntil
    p2pInstanceUse := n.p2pInstanceUse
    p2pStopMemory := n.p2pStopMemory
    aodvRoutes := n.aodvRoutes
    p2pRoutes := n.p2pRoutes
    hopByHopRoutes := n.hopByHopRoutes }

/-- The node with other findings. -/
def withFindings (n : Node) (findings : Findings) : Node :=
  { n with
    ipv6 := findings.ipv6
    sockets := findings.sockets
    retainedRank := findings.retainedRank
    jitter := findings.jitter
    p2pRouteSelector := findings.p2pRouteSelector
    aodvSeqNo := findings.aodvSeqNo
    aodvRejoinBlocked := findings.aodvRejoinBlocked
    aodvRouteStateUntil := findings.aodvRouteStateUntil
    p2pInstanceUse := findings.p2pInstanceUse
    p2pStopMemory := findings.p2pStopMemory
    aodvRoutes := findings.aodvRoutes
    p2pRoutes := findings.p2pRoutes
    hopByHopRoutes := findings.hopByHopRoutes }

end Node

/-- The events that bear on nothing but a node's search for a DODAG. -/
inductive Event.Solicits : Event → Prop
  | dis : Solicits (.fire .dis)
  | firstSolicitation : Solicits (.fire .firstSolicitation)
  | setAsRoot : Solicits .setAsRoot

/-- How far a membership is in answering as the Target of a temporary DAG. -/
structure Replying where
  isTarget : Bool := false
  numRoutes : UInt8 := 0
  reply : Bool := true
  addressVector : List Ipv6Address := []
  alternateRoutes : List (List Ipv6Address) := []
  droCollectEvent : Timer := none
  droCollecting : Bool := false
  lastRepliedAddressVector : List Ipv6Address := []
  droSequence : UInt8 := 0
  droAckPending : Bool := false
  droRetriesLeft : UInt8 := 0
  droRetryEvent : Timer := none

def P2pState.replying (p2p : P2pState) : Replying :=
  { isTarget := p2p.isTarget
    numRoutes := p2p.numRoutes
    reply := p2p.reply
    addressVector := p2p.addressVector
    alternateRoutes := p2p.alternateRoutes
    droCollectEvent := p2p.droCollectEvent
    droCollecting := p2p.droCollecting
    lastRepliedAddressVector := p2p.lastRepliedAddressVector
    droSequence := p2p.droSequence
    droAckPending := p2p.droAckPending
    droRetriesLeft := p2p.droRetriesLeft
    droRetryEvent := p2p.droRetryEvent }

/-- The view sees neither messages other than DAOs and P2P-DROs, nor findings, nor what
memberships that are alike, have noted the same and are as far in their answers differ in. -/
structure Onlooker {σ : Type} (view : Node → σ) : Prop where
  emit : ∀ n sent, (∀ output ∈ sent, Output.dao? output = none) →
    (∀ output ∈ sent, Output.p2pDro? output = none) → view (n.emit sent) = view n
  findings : ∀ (n : Node) (findings : Node.Findings), view (n.withFindings findings) = view n
  attended : ∀ (n : Node) (key : DodagKey) (dodag other : DodagMembership),
    n.dodags[key]? = some dodag → dodag.Alike other → other.notes = dodag.notes →
      other.p2p.replying = dodag.p2p.replying → view (n.setDodag key other) = view n

/-- The view does not see the answers of a Target either. -/
structure Offhand {σ : Type} (view : Node → σ) : Prop extends Onlooker view where
  replies : ∀ n sent, (∀ output ∈ sent, Output.dao? output = none) → view (n.emit sent) = view n
  emit := fun n sent noDao _ => replies n sent noDao
  noted : ∀ (n : Node) (key : DodagKey) (dodag other : DodagMembership),
    n.dodags[key]? = some dodag → dodag.Alike other → other.notes = dodag.notes →
      view (n.setDodag key other) = view n
  attended := fun n key dodag other held alike same _ => noted n key dodag other held alike same

namespace Onlooker

variable {σ : Type} {view : Node → σ} {n after : Node} {message : RplMessage}
  {destination : Ipv6Address} {key : DodagKey} (onlooker : Onlooker view)

/-- A loop of calls that a view does not see. -/
theorem foldl {α : Type} {f : Node → α → Node} (same : ∀ n a, view (f n a) = view n)
    (items : List α) : view (items.foldl f n) = view n := by
  induction items generalizing n with
  | nil => rfl
  | cons item rest ih => rw [List.foldl_cons, ih, same]

include onlooker

/-! ### The parts of a step -/

theorem hands (sends : n.Hands message destination after) (noDao : message.isDao = false)
    (noDro : message.isP2pDro = false) : view after = view n := by
  obtain ⟨sent, rfl, carry⟩ := sends
  exact onlooker.emit n sent (fun output mem => (carry output mem).dao?_eq_none noDao)
    fun output mem => (carry output mem).p2pDro?_eq_none noDro

theorem log_reached (key : DodagKey) : view (n.log (.discoveryTargetReached key)) = view n :=
  onlooker.emit n [.discoveryTargetReached key]
    (fun output mem => by
      rw [List.mem_singleton.mp mem]
      rfl)
    fun output mem => by
      rw [List.mem_singleton.mp mem]
      rfl

theorem drawJitter : view n.drawJitter.2 = view n :=
  onlooker.findings n { n.findings with jitter := (n.jitter.getValue 0 (seconds 1)).2 }

theorem modifyDodag {f : DodagMembership → DodagMembership}
    (same : ∀ dodag : DodagMembership, dodag.Alike (f dodag) ∧
      (f dodag).notes = dodag.notes ∧ (f dodag).p2p.replying = dodag.p2p.replying) :
    view (n.modifyDodag key f) = view n := by
  cases held : n.dodags[key]? with
  | none => rw [Node.modifyDodag_of_absent held]
  | some dodag =>
    rw [Node.setDodag_of_held held]
    exact onlooker.attended n key dodag _ held (same dodag).1 (same dodag).2.1 (same dodag).2.2

theorem modifyAodv {f : AodvRreqState → AodvRreqState}
    (noted : ∀ dodag : DodagMembership, { dodag with aodv := f dodag.aodv }.notes = dodag.notes) :
    view (n.modifyAodv key f) = view n :=
  onlooker.modifyDodag fun dodag => ⟨rfl, noted dodag, rfl⟩

theorem modifyP2p {f : P2pState → P2pState}
    (noted : ∀ dodag : DodagMembership, { dodag with p2p := f dodag.p2p }.notes = dodag.notes)
    (replying : ∀ p2p, (f p2p).replying = p2p.replying) :
    view (n.modifyP2p key f) = view n :=
  onlooker.modifyDodag fun dodag => ⟨rfl, noted dodag, replying dodag.p2p⟩

theorem storeHopByHopRoute (destination nextHop : Ipv6Address) (lifetime : Time)
    (seqNo : Option UInt8) (pinNextHop : Bool) :
    view (n.storeHopByHopRoute key destination nextHop lifetime seqNo pinNextHop).2 = view n := by
  unfold Node.storeHopByHopRoute
  split
  · rfl
  · exact onlooker.findings n { n.findings with hopByHopRoutes := _ }

theorem sendAodvTo (dodag : DodagMembership) (dio : DioHeader) (nextHop : Ipv6Address) :
    view (n.sendAodvTo dodag dio nextHop) = view n :=
  onlooker.hands (Node.hands_sendAodvTo dodag dio nextHop) rfl rfl

theorem sendAodvGratuitousRrep (dodag : DodagMembership) (target : Ipv6Address)
    (targetSeqNo : UInt8) (upwardNextHop : Ipv6Address) :
    view (n.sendAodvGratuitousRrep dodag key target targetSeqNo upwardNextHop) = view n :=
  onlooker.sendAodvTo ..

theorem armAodvExpiry (key : DodagKey) : view (n.armAodvExpiry key) = view n := by
  unfold Node.armAodvExpiry
  split
  · rfl
  · dsimp only
    split
    · rfl
    · exact onlooker.modifyDodag fun _ => ⟨rfl, rfl, rfl⟩

theorem armP2pExpiry (key : DodagKey) : view (n.armP2pExpiry key) = view n := by
  unfold Node.armP2pExpiry
  split
  · rfl
  · split
    · rfl
    · exact onlooker.modifyDodag fun _ => ⟨rfl, rfl, rfl⟩

theorem advanceAodvSeqNoForRrep : view n.advanceAodvSeqNoForRrep = view n :=
  onlooker.findings n { n.findings with aodvSeqNo := _ }

/-! ### DIOs and solicitations -/

theorem resetTrickle (key : DodagKey) : view (n.resetTrickle key) = view n :=
  onlooker.modifyDodag fun _ => ⟨rfl, rfl, rfl⟩

theorem trickleInterval : view (n.trickleInterval key) = view n :=
  onlooker.modifyDodag fun _ => ⟨rfl, rfl, rfl⟩

theorem notifyRankInconsistency (instanceId : UInt8) :
    view (n.notifyRankInconsistency instanceId) = view n := by
  unfold Node.notifyRankInconsistency
  split
  · rfl
  · exact onlooker.resetTrickle _

theorem globalRepairFire : view (n.globalRepairFire key) = view n :=
  onlooker.modifyDodag fun _ => ⟨rfl, rfl, rfl⟩

/-! What searches for a DODAG, for views that do not see the search. -/

section Unseen

variable
  (unseen : ∀ (n : Node) (solicitation : Node.Solicitation),
    view (n.withSolicitation solicitation) = view n)

include unseen

theorem disTimerExpire : view n.disTimerExpire = view n := by
  have answered : view { n with disRefreshPending := false } = view n :=
    unseen n { n.solicitation with disRefreshPending := false }
  unfold Node.disTimerExpire
  dsimp only
  split
  · exact answered
  · exact (unseen _ { Node.solicitation _ with disTimer := _ }).trans
      ((onlooker.hands Node.hands_sendRplMessageMulticast rfl rfl).trans answered)

/-- An event that bears on nothing but the search for a DODAG. -/
theorem solicits {e : Event} (solicits : e.Solicits) : view (n.apply e) = view n := by
  cases solicits with
  | dis =>
    exact (onlooker.disTimerExpire unseen).trans
      (unseen n { n.solicitation with disTimer := none })
  | firstSolicitation =>
    exact (onlooker.disTimerExpire unseen).trans
      (unseen n { n.solicitation with firstSolicitation := none })
  | setAsRoot => exact unseen n { n.solicitation with isRoot := true, disTimer := none }

end Unseen

/-! ### Routes of packets -/

theorem notifyForwardingError (instanceId : UInt8) (target : Ipv6Address) :
    view (n.notifyForwardingError instanceId target) = view n := by
  unfold Node.notifyForwardingError
  split
  · rfl
  · exact onlooker.modifyDodag fun _ => ⟨rfl, rfl, rfl⟩

theorem purgeStoring : view n.purgeStoring = view n := by
  unfold Node.purgeStoring
  split
  · refine onlooker.modifyDodag fun dodag => ?_
    split
    · exact ⟨rfl, rfl, rfl⟩
    · exact ⟨rfl, rfl, rfl⟩
  · rfl

theorem purgeRoots (target : Ipv6Address) (entries : List (DodagKey × DodagMembership)) :
    view (n.purgeRoots target entries) = view n := by
  induction entries generalizing n with
  | nil => rfl
  | cons entry rest ih =>
    have purged : view (n.modifyDodag entry.1 fun dodag => dodag.purgeTopology n.now) = view n :=
      onlooker.modifyDodag fun _ => ⟨rfl, rfl, rfl⟩
    unfold Node.purgeRoots
    split
    · exact ih
    · dsimp only
      split
      · exact purged
      · exact ih.trans purged

theorem afterRouteOutput (target : Ipv6Address) (oif : Option Nat) :
    view (n.afterRouteOutput target oif) = view n := by
  unfold Node.afterRouteOutput
  split
  · rfl
  split
  · exact onlooker.purgeStoring
  · rw [onlooker.purgeRoots, onlooker.purgeStoring]

/-! ### AODV-RPL -/

theorem storeUpwardRoute {stored : Node} {dio : DioHeader}
    (stores : n.storeUpwardRoute key dio = some stored) : view stored = view n := by
  unfold Node.storeUpwardRoute at stores
  split at stores
  · cases stores
  · next dodag held =>
    dsimp only at stores
    split at stores
    · cases stores
    split at stores
    · cases stores
      rfl
    · have same : view (n.storeHopByHopRoute key key.dodagId dodag.preferredParent
          n.attributes.routeLifetime (some dio.getRreq.origSeqNo) false).2 = view n :=
        onlooker.storeHopByHopRoute ..
      split at stores
      · next accepted =>
        rw [accepted] at same
        cases stores
        exact same
      · cases stores

theorem markRrepHandled (targNode : Ipv6Address) :
    view (n.markRrepHandled key targNode) = view n :=
  onlooker.modifyAodv fun _ => rfl

theorem completeAodvRoute (dio : DioHeader) (instanceId : UInt8) :
    view (n.completeAodvRoute dio instanceId) = view n := by
  unfold Node.completeAodvRoute
  split
  · rfl
  · exact onlooker.findings n { n.findings with aodvRoutes := _ }

theorem completeAsymmetricRoute (key : DodagKey) :
    view (n.completeAsymmetricRoute key) = view n := by
  unfold Node.completeAsymmetricRoute
  split
  · rfl
  · exact onlooker.findings n { n.findings with aodvRoutes := _ }

theorem handleAodvRrep (dio : DioHeader) (sender : Ipv6Address) :
    view (n.handleAodvRrep dio sender) = view n := by
  unfold Node.handleAodvRrep
  dsimp only
  split
  · rfl
  split
  · rfl
  split
  · rfl
  · -- the node after the route of the reply has been stored, or refused
    have same : view (if dio.getRrep.hopByHop then
        n.storeHopByHopRoute ⟨dio.instanceId - dio.getRrep.delta, dio.getArt.target⟩ dio.dodagId
          sender n.attributes.routeLifetime (some dio.getArt.destSeqNo) true
        else (true, n)).2 = view n := by
      split
      · exact onlooker.storeHopByHopRoute ..
      · rfl
    revert same
    generalize (if dio.getRrep.hopByHop then
      n.storeHopByHopRoute ⟨dio.instanceId - dio.getRrep.delta, dio.getArt.target⟩ dio.dodagId
        sender n.attributes.routeLifetime (some dio.getArt.destSeqNo) true
      else (true, n)) = afterRoute
    intro same
    split
    · exact same
    split
    · split
      · rw [onlooker.markRrepHandled, same]
      split
      · exact same
      · rw [onlooker.markRrepHandled, onlooker.completeAodvRoute, same]
    · split
      · exact same
      · rw [onlooker.sendAodvTo, onlooker.markRrepHandled, same]

/-! ### P2P-RPL -/

theorem recordP2pStop (stop : Bool) : view (n.recordP2pStop key stop) = view n := by
  refine onlooker.modifyDodag fun dodag => ?_
  split
  · exact ⟨rfl, rfl, rfl⟩
  · exact ⟨rfl, rfl, rfl⟩

theorem acknowledgeP2pDro (dro : P2pDroHeader) (target : Ipv6Address) :
    view (n.acknowledgeP2pDro dro target) = view n := by
  unfold Node.acknowledgeP2pDro
  split
  · exact onlooker.hands Node.hands_sendRplMessageUnicast rfl rfl
  · rfl

theorem storeP2pRoute (dodag : DodagMembership) (rdo : P2pRdoOption) :
    view (n.storeP2pRoute key dodag rdo) = view n := by
  unfold Node.storeP2pRoute
  dsimp only
  rw [onlooker.modifyP2p]
  · split
    · rfl
    · exact onlooker.findings n { n.findings with p2pRoutes := _ }
  · exact fun _ => rfl
  · exact fun _ => rfl

theorem completeP2pRoute (dodag : DodagMembership) (dro : P2pDroHeader) (rdo : P2pRdoOption) :
    view (n.completeP2pRoute key dodag dro rdo) = view n := by
  unfold Node.completeP2pRoute
  dsimp only
  split
  · have same : view (n.storeHopByHopRoute key rdo.target
        (rdo.addressVector.head?.getD rdo.target) n.attributes.routeLifetime none true).2 =
        view n := onlooker.storeHopByHopRoute ..
    split
    · rfl
    · next accepted =>
      rw [accepted] at same
      rw [onlooker.acknowledgeP2pDro, same]
  · rw [onlooker.acknowledgeP2pDro, onlooker.storeP2pRoute]

theorem storeDroRoute {stored : Node} {rdo : P2pRdoOption}
    (stores : n.storeDroRoute key rdo = some stored) : view stored = view n := by
  unfold Node.storeDroRoute at stores
  dsimp only at stores
  split at stores
  · have same : view (n.storeHopByHopRoute key rdo.target
        ((rdo.addressVector[rdo.maxRankOrNh.toNat]?).getD rdo.target) n.attributes.routeLifetime
        none true).2 = view n := onlooker.storeHopByHopRoute ..
    split at stores
    · next accepted =>
      rw [accepted] at same
      cases stores
      exact same
    · cases stores
  · cases stores
    rfl

/-! What becomes of a P2P-DRO, for views that do not see a P2P-DRO relayed. -/

section Relayed

variable
  (relays : ∀ {n after : Node} {dro : P2pDroHeader} {destination : Ipv6Address},
    n.Hands (.p2pDro dro) destination after → view after = view n)

include relays

theorem relayP2pDro (dro : P2pDroHeader) (rdo : P2pRdoOption) :
    view (n.relayP2pDro key dro rdo) = view n := by
  unfold Node.relayP2pDro
  split
  · rfl
  split
  · rfl
  · next stored stores =>
    dsimp only
    split
    · exact onlooker.storeDroRoute stores
    · rw [relays Node.hands_sendRplMessageMulticast, onlooker.storeDroRoute stores]

theorem handleP2pDro (dro : P2pDroHeader) : view (n.handleP2pDro dro) = view n := by
  unfold Node.handleP2pDro
  dsimp only
  split
  · split
    · rfl
    split
    · split
      · rfl
      · rw [onlooker.recordP2pStop, onlooker.completeP2pRoute]
    · rw [onlooker.recordP2pStop, onlooker.relayP2pDro relays]
  · rfl

end Relayed

end Onlooker

namespace Offhand

variable {σ : Type} {view : Node → σ} {n : Node} {key : DodagKey} (offhand : Offhand view)

include offhand

theorem handsDro {after : Node} {dro : P2pDroHeader} {destination : Ipv6Address}
    (sends : n.Hands (.p2pDro dro) destination after) : view after = view n := by
  obtain ⟨sent, rfl, carry⟩ := sends
  exact offhand.replies n sent fun output mem => (carry output mem).dao?_eq_none rfl

theorem handleP2pDro (dro : P2pDroHeader) : view (n.handleP2pDro dro) = view n :=
  offhand.toOnlooker.handleP2pDro offhand.handsDro dro

/-! ### Answering as Target -/

theorem modifyP2p {f : P2pState → P2pState}
    (noted : ∀ dodag : DodagMembership, { dodag with p2p := f dodag.p2p }.notes = dodag.notes) :
    view (n.modifyP2p key f) = view n := by
  rw [Node.modifyP2p]
  cases held : n.dodags[key]? with
  | none => rw [Node.modifyDodag_of_absent held]
  | some dodag =>
    rw [Node.setDodag_of_held held]
    exact offhand.noted n key dodag _ held rfl (noted dodag)

theorem sendP2pDroRoute (route : List Ipv6Address) (stop trackAck : Bool) :
    view (n.sendP2pDroRoute key route stop trackAck) = view n := by
  unfold Node.sendP2pDroRoute
  split
  · rfl
  · dsimp only
    split
    · rw [offhand.modifyP2p fun _ => rfl, offhand.handsDro Node.hands_sendRplMessageMulticast]
    · exact offhand.handsDro Node.hands_sendRplMessageMulticast

theorem sendP2pDro : view (n.sendP2pDro key) = view n := by
  unfold Node.sendP2pDro
  split
  · rfl
  · exact offhand.sendP2pDroRoute ..

theorem p2pDroRetry : view (n.p2pDroRetry key) = view n := by
  unfold Node.p2pDroRetry
  split
  · rfl
  · split
    · rfl
    split
    · exact offhand.modifyP2p fun _ => rfl
    · rw [offhand.sendP2pDro, offhand.modifyP2p fun _ => rfl]

theorem startReply : view (n.startReply key) = view n := by
  unfold Node.startReply
  dsimp only
  split
  · exact offhand.modifyP2p fun _ => rfl
  split
  · rw [offhand.sendP2pDro, offhand.modifyP2p fun _ => rfl, offhand.modifyP2p fun _ => rfl]
  split
  · exact offhand.modifyP2p fun _ => rfl
  · rw [offhand.modifyP2p fun _ => rfl, offhand.modifyP2p fun _ => rfl]

theorem replyAsTarget (key : DodagKey) : view (n.replyAsTarget key) = view n := by
  unfold Node.replyAsTarget
  split
  · rfl
  · split
    · exact offhand.startReply
    · rfl

theorem handleP2pDroAck (ack : P2pDroAckHeader) : view (n.handleP2pDroAck ack) = view n := by
  unfold Node.handleP2pDroAck
  dsimp only
  split
  · rfl
  · split
    · exact offhand.modifyP2p fun _ => rfl
    · rfl

end Offhand

namespace Node

/-- The routes of a P2P mode DIO are kept on the P2P-RPL side. -/
theorem recordP2pRoutes_eq (n : Node) (dodag : DodagMembership) (rdo : P2pRdoOption)
    (heard : Reception) : ∃ p2p, n.recordP2pRoutes dodag rdo heard = { dodag with p2p := p2p } := by
  have candidate :
      ∃ p2p, n.recordP2pCandidateRoute dodag rdo heard = { dodag with p2p := p2p } := by
    unfold recordP2pCandidateRoute
    split
    · exact ⟨_, rfl⟩
    · dsimp only
      split
      · exact ⟨_, rfl⟩
      split
      · exact ⟨_, rfl⟩
      split
      · exact ⟨_, rfl⟩
      · exact ⟨_, rfl⟩
  have alternate (dodag : DodagMembership) : ∃ p2p, n.recordP2pAlternateRoute dodag rdo
      (askedRoutes rdo) heard.interface = { dodag with p2p := p2p } := by
    unfold recordP2pAlternateRoute
    split
    · exact ⟨_, rfl⟩
    · dsimp only
      split
      · exact ⟨_, rfl⟩
      · exact ⟨_, rfl⟩
  obtain ⟨p2p, same⟩ := candidate
  unfold recordP2pRoutes
  rw [same]
  dsimp only
  split
  · obtain ⟨other, sameToo⟩ := alternate { dodag with p2p := p2p }
    exact ⟨other, sameToo⟩
  · exact ⟨p2p, rfl⟩

end Node

end Rpl
