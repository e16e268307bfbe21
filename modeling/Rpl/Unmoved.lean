import Rpl.DaoTarget
import Rpl.Standing

/-!
# Functions that leave a node where it stands

Most of the protocol sends messages, keeps timers and fills tables, and moves no
membership.  For each such function the standing after it is the standing before.
-/

namespace Rpl

open Std

namespace Node

/-! ## Sending -/

@[simp] theorem standing_sendRplMessageOn (n : Node) (interface : Nat) (message : RplMessage)
    (destination : Ipv6Address) :
    (n.sendRplMessageOn interface message destination).standing = n.standing := by
  rw [sendRplMessageOn_eq_emit, standing_emit]

@[simp] theorem standing_sendRplMessageMulticast (n : Node) (message : RplMessage)
    (destination : Ipv6Address) :
    (n.sendRplMessageMulticast message destination).standing = n.standing := by
  obtain ⟨sent, emits⟩ := n.sendRplMessageMulticast_emits message destination
  rw [emits, standing_emit]

@[simp] theorem standing_sendRplMessageUnicast (n : Node) (message : RplMessage)
    (destination : Ipv6Address) :
    (n.sendRplMessageUnicast message destination).standing = n.standing := by
  obtain ⟨sent, emits⟩ := n.sendRplMessageUnicast_emits message destination
  rw [emits, standing_emit]

/-- A message sent leaves the node where it stands. -/
@[simp] theorem standing_sendRplMessage (n : Node) (message : RplMessage)
    (destination : Ipv6Address) (interface : Nat) :
    (n.sendRplMessage message destination interface).standing = n.standing := by
  obtain ⟨sent, emits⟩ := n.sendRplMessage_emits message destination interface
  rw [emits, standing_emit]

@[simp] theorem standing_sendDaoTo (n : Node) (dodag : DodagMembership) (parent : Ipv6Address)
    (dao : DaoHeader) : (n.sendDaoTo dodag parent dao).standing = n.standing := by
  obtain ⟨sent, emits⟩ := n.sendDaoTo_emits dodag parent dao
  rw [emits, standing_emit]

@[simp] theorem standing_sendDaoMessage (n : Node) (dodag : DodagMembership)
    (target : Ipv6Address) (sequence pathSequence pathLifetime : UInt8) (ackRequested : Bool)
    (additionalTargets : List AdditionalTarget) :
    (n.sendDaoMessage dodag target sequence pathSequence pathLifetime ackRequested
      additionalTargets).standing = n.standing :=
  standing_sendDaoTo ..

@[simp] theorem standing_relayDao (n : Node) (dodag : DodagMembership)
    (entries : List AdditionalTarget) : (n.relayDao dodag entries).standing = n.standing := by
  obtain ⟨sent, emits⟩ := n.relayDao_emits dodag entries
  rw [emits, standing_emit]

@[simp] theorem standing_acknowledgeDao (n : Node) (dodag : DodagMembership) (dao : DaoHeader)
    (sender : Ipv6Address) (interface : Nat) :
    (n.acknowledgeDao dodag dao sender interface).standing = n.standing := by
  obtain ⟨sent, emits⟩ := n.acknowledgeDao_emits dodag dao sender interface
  rw [emits, standing_emit]

@[simp] theorem standing_sendAodvTo (n : Node) (dodag : DodagMembership) (dio : DioHeader)
    (nextHop : Ipv6Address) : (n.sendAodvTo dodag dio nextHop).standing = n.standing := by
  obtain ⟨sent, emits⟩ := n.sendAodvTo_emits dodag dio nextHop
  rw [emits, standing_emit]

@[simp] theorem standing_drawJitter (n : Node) : n.drawJitter.2.standing = n.standing := rfl

/-! ## Solicitations and DIOs -/

/-- A solicitation, sent or put off. -/
@[simp] theorem standing_disTimerExpire (n : Node) : n.disTimerExpire.standing = n.standing := by
  unfold disTimerExpire
  dsimp only
  split
  · rfl
  · exact standing_sendRplMessageMulticast ..

@[simp] theorem standing_drawP2pRoute {n : Node} {key : DodagKey} {dodag : DodagMembership}
    (held : n.dodags[key]? = some dodag) :
    (n.drawP2pRoute key dodag).2.standing = n.standing := by
  have same : (n.setDodag key dodag.pruneP2pCandidateRoutes).standing = n.standing :=
    standing_setDodag_same held rfl
  unfold drawP2pRoute
  dsimp only
  split
  · exact same
  · exact same

/-- A DIO is sent from a membership and does not change its place. -/
@[simp] theorem standing_sendDio (n : Node) (key : DodagKey) (destination : Ipv6Address)
    (interface : Nat) : (n.sendDio key destination interface).standing = n.standing := by
  unfold sendDio
  split
  · rfl
  · next dodag held =>
    split
    · rfl
    · dsimp only
      split
      · rw [standing_sendRplMessage, standing_drawP2pRoute held]
      · exact standing_sendRplMessage ..

@[simp] theorem standing_resetTrickle (n : Node) (key : DodagKey) :
    (n.resetTrickle key).standing = n.standing :=
  standing_modifyDodag_same fun _ => rfl

theorem standing_answerDis (sender : Ipv6Address) (interface : Nat) (toMulticast : Bool) (n : Node)
    (key : DodagKey) : (answerDis sender interface toMulticast n key).standing = n.standing := by
  unfold answerDis
  split
  · rfl
  · split
    · rfl
    · split
      · exact standing_resetTrickle ..
      · exact standing_sendDio ..

/-- A loop of calls that each leave the node where it stands. -/
theorem standing_foldl {α : Type} {f : Node → α → Node}
    (same : ∀ n a, (f n a).standing = n.standing) (items : List α) (n : Node) :
    (items.foldl f n).standing = n.standing := by
  induction items generalizing n with
  | nil => rfl
  | cons item rest ih => rw [List.foldl_cons, ih, same]

/-- A DIS is answered, or resets Trickle timers, in the memberships held. -/
@[simp] theorem standing_handleDis (n : Node) (sender : Ipv6Address) (interface : Nat)
    (toMulticast : Bool) : (n.handleDis sender interface toMulticast).standing = n.standing :=
  standing_foldl (standing_answerDis sender interface toMulticast) _ n

@[simp] theorem standing_trickleInterval (n : Node) (key : DodagKey) :
    (n.trickleInterval key).standing = n.standing :=
  standing_modifyDodag_same fun _ => rfl

/-- A packet met an inconsistency of ranks: the Trickle timers start over. -/
@[simp] theorem standing_notifyRankInconsistency (n : Node) (instanceId : UInt8) :
    (n.notifyRankInconsistency instanceId).standing = n.standing := by
  unfold notifyRankInconsistency
  split
  · rfl
  · exact standing_resetTrickle ..

/-! ## DAOs -/

/-- A DAO, with its own sequence and its wait for an acknowledgement. -/
@[simp] theorem standing_sendDao (n : Node) (key : DodagKey) :
    (n.sendDao key).standing = n.standing := by
  unfold sendDao
  split
  · rfl
  · next dodag held =>
    split
    · rfl
    · dsimp only
      rw [standing_modifyDodag_same, standing_sendDaoMessage]
      · refine standing_setDodag_same held ?_
        split
        · rfl
        · rfl
      · exact fun _ => rfl

/-- A withdrawal through a parent; the parent itself is dropped by the caller. -/
@[simp] theorem standing_sendNoPathDao (n : Node) (key : DodagKey) (viaParent : Ipv6Address) :
    (n.sendNoPathDao key viaParent).standing = n.standing := by
  unfold sendNoPathDao
  split
  · rfl
  · next dodag held =>
    split
    · rfl
    · exact (standing_sendDaoTo ..).trans (standing_setDodag_same held rfl)

@[simp] theorem standing_daoTimerExpire (n : Node) (key : DodagKey) :
    (n.daoTimerExpire key).standing = n.standing := by
  unfold daoTimerExpire
  rw [standing_modifyDodag_same, standing_sendDao]
  exact fun _ => rfl

@[simp] theorem standing_purgeDownwardRoutesTimerExpire (n : Node) (key : DodagKey) :
    (n.purgeDownwardRoutesTimerExpire key).standing = n.standing :=
  standing_modifyDodag_same fun _ => rfl

/-- A DAO is sent again or given up, and the membership stays either way. -/
@[simp] theorem standing_daoRetry (n : Node) (key : DodagKey) :
    (n.daoRetry key).standing = n.standing := by
  unfold daoRetry
  split
  · rfl
  · next dodag held =>
    split
    · rfl
    · split
      · exact standing_modifyDodag_same fun _ => rfl
      · dsimp only
        rw [standing_modifyDodag_same, standing_sendDaoMessage]
        · exact standing_setDodag_same held rfl
        · exact fun _ => rfl

@[simp] theorem standing_daoEventFire (n : Node) (key : DodagKey) :
    (n.daoEventFire key).standing = n.standing := by
  unfold daoEventFire
  split
  · rfl
  · split
    · exact standing_purgeDownwardRoutesTimerExpire ..
    · exact standing_daoTimerExpire ..

@[simp] theorem standing_scheduleSolicitation (n : Node) :
    n.scheduleSolicitation.standing = n.standing := by
  unfold scheduleSolicitation
  split
  · rfl
  · rfl

@[simp] theorem standing_scheduleDaoRefresh (n : Node) (key : DodagKey) :
    (n.scheduleDaoRefresh key).standing = n.standing := by
  unfold scheduleDaoRefresh
  split
  · rfl
  · split
    · rfl
    · dsimp only
      rw [standing_modifyDodag_same, standing_drawJitter]
      exact fun _ => rfl

@[simp] theorem standing_withdrawThrough (n : Node) (key : DodagKey) (parent : Ipv6Address) :
    (n.withdrawThrough key parent).standing = n.standing := by
  unfold withdrawThrough
  split
  · rfl
  · split
    · exact standing_sendNoPathDao ..
    · rfl

@[simp] theorem standing_switchParent (n : Node) (key : DodagKey) (parent : Ipv6Address) :
    (n.switchParent key parent).standing = n.standing := by
  unfold switchParent
  rw [standing_scheduleDaoRefresh, standing_modifyDodag_same, standing_withdrawThrough]
  exact fun _ => rfl

@[simp] theorem standing_handleDaoAck (n : Node) (ack : DaoAckHeader) :
    (n.handleDaoAck ack).standing = n.standing := by
  unfold handleDaoAck
  dsimp only
  split
  · rfl
  · split
    · exact standing_modifyDodag_same fun _ => rfl
    · rfl

@[simp] theorem standing_notifyForwardingError (n : Node) (instanceId : UInt8)
    (destination : Ipv6Address) :
    (n.notifyForwardingError instanceId destination).standing = n.standing := by
  unfold notifyForwardingError
  split
  · rfl
  · exact standing_modifyDodag_same fun _ => rfl

/-- DAOs are about downward routes only. -/
@[simp] theorem standing_handleDao (n : Node) (dao : DaoHeader) (sender : Ipv6Address)
    (interface : Nat) : (n.handleDao dao sender interface).standing = n.standing := by
  unfold handleDao
  split
  · rfl
  · next key dodag found =>
    split
    · rfl
    · dsimp only
      rw [standing_acknowledgeDao, standing_relayDao]
      refine standing_setDodag_same (daoMembership_held found).1 ?_
      rw [dodag.handleTargets_onlyTables]
      rfl

/-! ## Routing -/

theorem standing_purgeStoring (n : Node) : n.purgeStoring.standing = n.standing := by
  unfold purgeStoring
  split
  · rw [standing_modifyDodag_same]
    intro dodag
    split
    · rfl
    · rfl
  · rfl

theorem standing_purgeRoots (n : Node) (destination : Ipv6Address)
    (entries : List (DodagKey × DodagMembership)) :
    (n.purgeRoots destination entries).standing = n.standing := by
  induction entries generalizing n with
  | nil => rfl
  | cons entry rest ih =>
    have purged : (n.modifyDodag entry.1 fun dodag => dodag.purgeTopology n.now).standing =
        n.standing := standing_modifyDodag_same fun _ => rfl
    rw [purgeRoots]
    split
    · exact ih n
    · dsimp only
      split
      · exact purged
      · rw [ih, purged]

/-- A packet routed purges the routes that have expired. -/
@[simp] theorem standing_afterRouteOutput (n : Node) (destination : Ipv6Address)
    (oif : Option Nat) : (n.afterRouteOutput destination oif).standing = n.standing := by
  unfold afterRouteOutput
  split
  · rfl
  · split
    · exact n.standing_purgeStoring
    · rw [standing_purgeRoots, standing_purgeStoring]

@[simp] theorem standing_storeHopByHopRoute (n : Node) (key : DodagKey)
    (destination nextHop : Ipv6Address) (lifetime : Time) (seqNo : Option UInt8)
    (pinNextHop : Bool) :
    (n.storeHopByHopRoute key destination nextHop lifetime seqNo pinNextHop).2.standing =
      n.standing := by
  unfold storeHopByHopRoute
  split
  · rfl
  · rfl

/-- An address formed from an advertised prefix. -/
@[simp] theorem standing_autoconfigure (n : Node) (dio : DioHeader) (interface : Nat) :
    (n.autoconfigure dio interface).standing = n.standing := by
  unfold autoconfigure
  split
  · rfl
  · split
    · rfl
    · rfl

/-! ## AODV-RPL -/

/-- Discovery state rewritten, its deadline left alone. -/
theorem standing_modifyAodv {n : Node} {key : DodagKey} {f : AodvRreqState → AodvRreqState}
    (sameExpiry : ∀ aodv, (f aodv).expiry = aodv.expiry) :
    (n.modifyAodv key f).standing = n.standing := by
  refine standing_modifyDodag_same fun dodag => ?_
  simp only [DodagMembership.member, sameExpiry]

@[simp] theorem standing_sendAodvGratuitousRrep (n : Node) (dodag : DodagMembership)
    (key : DodagKey) (target : Ipv6Address) (targetSeqNo : UInt8) (upwardNextHop : Ipv6Address) :
    (n.sendAodvGratuitousRrep dodag key target targetSeqNo upwardNextHop).standing = n.standing :=
  standing_sendAodvTo ..

@[simp] theorem standing_relayAodvRreqOnCachedRoute (n : Node) (key : DodagKey) (dio : DioHeader)
    (cachedNextHop : Ipv6Address) :
    (n.relayAodvRreqOnCachedRoute key dio cachedNextHop).standing = n.standing := by
  unfold relayAodvRreqOnCachedRoute
  split
  · rfl
  · split
    · rfl
    · dsimp only
      split
      · exact standing_modifyAodv fun _ => rfl
      · rw [standing_modifyAodv, standing_sendAodvTo, standing_modifyAodv]
        · exact fun _ => rfl
        · exact fun _ => rfl

/-- A router that has a route answers for the target, and relays the RREQ to it. -/
@[simp] theorem standing_answerFromCache (n : Node) (key : DodagKey) (dio : DioHeader)
    (sender : Ipv6Address) : (n.answerFromCache key dio sender).standing = n.standing := by
  unfold answerFromCache
  split
  · rfl
  · split
    · rfl
    · dsimp only
      rw [standing_relayAodvRreqOnCachedRoute, standing_sendAodvGratuitousRrep]
      split
      · exact standing_modifyAodv fun _ => rfl
      · rfl

/-- The upward route of an RREQ. -/
theorem standing_storeUpwardRoute {n stored : Node} {key : DodagKey} {dio : DioHeader}
    (stores : n.storeUpwardRoute key dio = some stored) : stored.standing = n.standing := by
  unfold storeUpwardRoute at stores
  split at stores
  · cases stores
  · next dodag held =>
    dsimp only at stores
    split at stores
    · cases stores
    split at stores
    · cases stores
      rfl
    · have same := n.standing_storeHopByHopRoute key key.dodagId dodag.preferredParent
        n.attributes.routeLifetime (some dio.getRreq.origSeqNo) false
      split at stores
      · next accepted =>
        rw [accepted] at same
        cases stores
        exact same
      · cases stores

@[simp] theorem standing_markRrepHandled (n : Node) (key : DodagKey) (targNode : Ipv6Address) :
    (n.markRrepHandled key targNode).standing = n.standing :=
  standing_modifyAodv fun _ => rfl

@[simp] theorem standing_completeAodvRoute (n : Node) (dio : DioHeader) (instanceId : UInt8) :
    (n.completeAodvRoute dio instanceId).standing = n.standing := by
  unfold completeAodvRoute
  split
  · rfl
  · rfl

@[simp] theorem standing_completeAsymmetricRoute (n : Node) (key : DodagKey) :
    (n.completeAsymmetricRoute key).standing = n.standing := by
  unfold completeAsymmetricRoute
  split
  · rfl
  · rfl

/-- An RREP by unicast is relayed along the route it answers, or ends at OrigNode. -/
@[simp] theorem standing_handleAodvRrep (n : Node) (dio : DioHeader) (sender : Ipv6Address) :
    (n.handleAodvRrep dio sender).standing = n.standing := by
  unfold handleAodvRrep
  dsimp only
  split
  · rfl
  split
  · rfl
  split
  · rfl
  · -- the node after the route of the reply has been stored, or refused
    have same : (if dio.getRrep.hopByHop then
        n.storeHopByHopRoute ⟨dio.instanceId - dio.getRrep.delta, dio.getArt.target⟩ dio.dodagId
          sender n.attributes.routeLifetime (some dio.getArt.destSeqNo) true
        else (true, n)).2.standing = n.standing := by
      split
      · exact standing_storeHopByHopRoute ..
      · rfl
    revert same
    generalize (if dio.getRrep.hopByHop then
      n.storeHopByHopRoute ⟨dio.instanceId - dio.getRrep.delta, dio.getArt.target⟩ dio.dodagId
        sender n.attributes.routeLifetime (some dio.getArt.destSeqNo) true
      else (true, n)) = afterRoute
    intro same
    split
    · exact same
    split
    · split
      · rw [standing_markRrepHandled, same]
      split
      · exact same
      · rw [standing_markRrepHandled, standing_completeAodvRoute, same]
    · split
      · exact same
      · rw [standing_sendAodvTo, standing_markRrepHandled, same]

/-! ## P2P-RPL -/

/-- The state of a temporary DAG rewritten, its deadline left alone. -/
theorem standing_modifyP2p {n : Node} {key : DodagKey} {f : P2pState → P2pState}
    (sameExpiry : ∀ p2p, (f p2p).expiry = p2p.expiry) :
    (n.modifyP2p key f).standing = n.standing := by
  refine standing_modifyDodag_same fun dodag => ?_
  simp only [DodagMembership.member, sameExpiry]

@[simp] theorem standing_recordP2pStop (n : Node) (key : DodagKey) (stop : Bool) :
    (n.recordP2pStop key stop).standing = n.standing := by
  refine standing_modifyDodag_same fun dodag => ?_
  split
  · rfl
  · rfl

@[simp] theorem standing_sendP2pDroRoute (n : Node) (key : DodagKey) (route : List Ipv6Address)
    (stop trackAck : Bool) : (n.sendP2pDroRoute key route stop trackAck).standing = n.standing := by
  unfold sendP2pDroRoute
  split
  · rfl
  · dsimp only
    split
    · rw [standing_modifyP2p, standing_sendRplMessageMulticast]
      exact fun _ => rfl
    · exact standing_sendRplMessageMulticast ..

@[simp] theorem standing_sendP2pDro (n : Node) (key : DodagKey) :
    (n.sendP2pDro key).standing = n.standing := by
  unfold sendP2pDro
  split
  · rfl
  · exact standing_sendP2pDroRoute ..

@[simp] theorem standing_p2pDroRetry (n : Node) (key : DodagKey) :
    (n.p2pDroRetry key).standing = n.standing := by
  unfold p2pDroRetry
  split
  · rfl
  · split
    · rfl
    split
    · exact standing_modifyP2p fun _ => rfl
    · rw [standing_sendP2pDro, standing_modifyP2p]
      exact fun _ => rfl

@[simp] theorem standing_startReply (n : Node) (key : DodagKey) :
    (n.startReply key).standing = n.standing := by
  have cycle : ∀ f : P2pState → P2pState, (∀ p2p, (f p2p).expiry = p2p.expiry) →
      (n.modifyP2p key f).standing = n.standing := fun _ same => standing_modifyP2p same
  unfold startReply
  dsimp only
  split
  · exact cycle _ fun _ => rfl
  split
  · rw [standing_sendP2pDro, standing_modifyP2p, standing_modifyP2p]
    · exact fun _ => rfl
    · exact fun _ => rfl
  split
  · exact cycle _ fun _ => rfl
  · rw [standing_modifyP2p, standing_modifyP2p]
    · exact fun _ => rfl
    · exact fun _ => rfl

@[simp] theorem standing_replyAsTarget (n : Node) (key : DodagKey) :
    (n.replyAsTarget key).standing = n.standing := by
  unfold replyAsTarget
  split
  · rfl
  · split
    · exact standing_startReply ..
    · rfl

/-- A Target has waited long enough for routes and answers with those it has. -/
@[simp] theorem standing_p2pDroCollectExpire (n : Node) (key : DodagKey) :
    (n.p2pDroCollectExpire key).standing = n.standing := by
  have collected : (n.modifyP2p key fun p2p => { p2p with droCollecting := false }).standing =
      n.standing := standing_modifyP2p fun _ => rfl
  unfold p2pDroCollectExpire
  dsimp only
  split
  · exact collected
  split
  · rw [standing_modifyP2p, collected]
    exact fun _ => rfl
  split
  · exact collected
  · rw [standing_modifyP2p, standing_foldl, standing_sendP2pDroRoute, collected]
    · exact fun _ _ => standing_sendP2pDroRoute ..
    · exact fun _ => rfl

@[simp] theorem standing_acknowledgeP2pDro (n : Node) (dro : P2pDroHeader) (target : Ipv6Address) :
    (n.acknowledgeP2pDro dro target).standing = n.standing := by
  unfold acknowledgeP2pDro
  split
  · exact standing_sendRplMessageUnicast ..
  · rfl

@[simp] theorem standing_storeP2pRoute (n : Node) (key : DodagKey) (dodag : DodagMembership)
    (rdo : P2pRdoOption) : (n.storeP2pRoute key dodag rdo).standing = n.standing := by
  unfold storeP2pRoute
  dsimp only
  rw [standing_modifyP2p]
  · split
    · rfl
    · rfl
  · exact fun _ => rfl

@[simp] theorem standing_completeP2pRoute (n : Node) (key : DodagKey) (dodag : DodagMembership)
    (dro : P2pDroHeader) (rdo : P2pRdoOption) :
    (n.completeP2pRoute key dodag dro rdo).standing = n.standing := by
  unfold completeP2pRoute
  dsimp only
  split
  · have same := n.standing_storeHopByHopRoute key rdo.target
      (rdo.addressVector.head?.getD rdo.target) n.attributes.routeLifetime none true
    split
    · rfl
    · next accepted =>
      rw [accepted] at same
      rw [standing_acknowledgeP2pDro, same]
  · rw [standing_acknowledgeP2pDro, standing_storeP2pRoute]

/-- The route of a P2P-DRO at a router on it. -/
theorem standing_storeDroRoute {n stored : Node} {key : DodagKey} {rdo : P2pRdoOption}
    (stores : n.storeDroRoute key rdo = some stored) : stored.standing = n.standing := by
  unfold storeDroRoute at stores
  dsimp only at stores
  split at stores
  · have same := n.standing_storeHopByHopRoute key rdo.target
      ((rdo.addressVector[rdo.maxRankOrNh.toNat]?).getD rdo.target) n.attributes.routeLifetime
      none true
    split at stores
    · next accepted =>
      rw [accepted] at same
      cases stores
      exact same
    · cases stores
  · cases stores
    rfl

@[simp] theorem standing_relayP2pDro (n : Node) (key : DodagKey) (dro : P2pDroHeader)
    (rdo : P2pRdoOption) : (n.relayP2pDro key dro rdo).standing = n.standing := by
  unfold relayP2pDro
  split
  · rfl
  split
  · rfl
  · next stored stores =>
    dsimp only
    split
    · exact standing_storeDroRoute stores
    · rw [standing_sendRplMessageMulticast, standing_storeDroRoute stores]

/-- A P2P-DRO stops discoveries and stores routes; the membership stays to its deadline. -/
@[simp] theorem standing_handleP2pDro (n : Node) (dro : P2pDroHeader) :
    (n.handleP2pDro dro).standing = n.standing := by
  unfold handleP2pDro
  dsimp only
  split
  · split
    · rfl
    split
    · split
      · rfl
      · rw [standing_recordP2pStop, standing_completeP2pRoute]
    · rw [standing_recordP2pStop, standing_relayP2pDro]
  · rfl

/-- An acknowledged reply is not sent again. -/
@[simp] theorem standing_handleP2pDroAck (n : Node) (ack : P2pDroAckHeader) :
    (n.handleP2pDroAck ack).standing = n.standing := by
  unfold handleP2pDroAck
  dsimp only
  split
  · rfl
  · split
    · exact standing_modifyP2p fun _ => rfl
    · rfl

/-- The routes a P2P mode DIO carries are kept in the membership's discovery state. -/
theorem recordP2pRoutes_member (n : Node) (dodag : DodagMembership) (rdo : P2pRdoOption)
    (heard : Reception) : (n.recordP2pRoutes dodag rdo heard).member = dodag.member := by
  have candidate : (n.recordP2pCandidateRoute dodag rdo heard).member = dodag.member := by
    have added : ∀ (p2p : P2pState) rank candidate,
        (addCandidate p2p rank candidate).expiry = p2p.expiry := by
      intro p2p rank candidate
      unfold addCandidate
      dsimp only
      split <;> split <;> rfl
    unfold recordP2pCandidateRoute
    split
    · rfl
    · dsimp only
      split
      · rfl
      split
      · rfl
      split
      · rfl
      · simp only [DodagMembership.member, added]
        rfl
  have alternate : ∀ dodag : DodagMembership,
      (n.recordP2pAlternateRoute dodag rdo (askedRoutes rdo) heard.interface).member =
        dodag.member := by
    intro dodag
    unfold recordP2pAlternateRoute
    split
    · rfl
    · dsimp only
      split
      · rfl
      · rfl
  unfold recordP2pRoutes
  dsimp only
  split
  · rw [alternate, candidate]
  · exact candidate

end Node

end Rpl
