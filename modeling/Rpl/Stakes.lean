import Rpl.Quiet
import Rpl.Simulation

/-!
# What a node has at stake in discoveries

The stakes of a node are the part of its state that says which discoveries it takes
part in and how: of each membership the DODAG it is for, whether this node is its
root, whether its Trickle timer runs, and the discovery state with its deadlines;
and of the node the bars and the memory that outlive a membership, the routes found,
and the DIOs sent.  Ranks, neighbours, Versions and the DAO exchange are left out.
-/

namespace Rpl

open Std

/-! ## Stakes -/

/-- The AODV-RPL side of a stake. -/
structure AodvStake where
  target : Ipv6Address := anyAddress
  isOrigin : Bool := false
  isRrepInstance : Bool := false
  pairedInstanceId : UInt8 := 0
  origNode : Ipv6Address := anyAddress
  lifetimeField : UInt8 := 0
  expiry : Timer := none

/-- The P2P-RPL side of a stake. -/
structure P2pStake where
  target : Ipv6Address := anyAddress
  isOrigin : Bool := false
  stopped : Bool := false
  lifetimeField : UInt8 := 0
  expiry : Timer := none

/-- A membership as far as discoveries go. -/
structure Stake where
  key : DodagKey
  isRoot : Bool
  mop : UInt8
  /-- The Trickle timer runs, or an event of it is still to come. -/
  active : Bool
  aodv : AodvStake := {}
  p2p : P2pStake := {}

namespace Stake

/-- The stake of a temporary DODAG. -/
def temporary (stake : Stake) : Bool := stake.mop = mopP2pRouteDiscovery

end Stake

def AodvRreqState.stake (aodv : AodvRreqState) : AodvStake :=
  { target := aodv.target
    isOrigin := aodv.isOrigin
    isRrepInstance := aodv.isRrepInstance
    pairedInstanceId := aodv.pairedInstanceId
    origNode := aodv.origNode
    lifetimeField := aodv.lifetimeField
    expiry := aodv.expiry }

def P2pState.stake (p2p : P2pState) : P2pStake :=
  { target := p2p.target
    isOrigin := p2p.isOrigin
    stopped := p2p.stopped
    lifetimeField := p2p.lifetimeField
    expiry := p2p.expiry }

/-- The Trickle timer runs, or an event of it is still to come. -/
def TrickleTimer.active (trickle : TrickleTimer) : Bool :=
  trickle.running || trickle.transmitTimer.isRunning || trickle.intervalTimer.isRunning

def DodagMembership.stake (dodag : DodagMembership) : Stake :=
  { key := dodag.key
    isRoot := dodag.isRoot
    mop := dodag.mop
    active := dodag.dioTrickle.active
    aodv := dodag.aodv.stake
    p2p := dodag.p2p.stake }

/-- What a node has at stake. -/
structure Stakes where
  now : Time
  ipv6 : Ipv6L3Protocol
  attributes : Attributes
  held : ExtTreeMap DodagKey Stake
  rejoinBlocked : ExtTreeMap DodagKey Time
  stopMemory : ExtTreeMap DodagKey Time
  p2pInstanceUse : ExtTreeMap UInt8 P2pInstanceUse
  aodvRoutes : ExtTreeMap Ipv6Address AodvRoute
  p2pRoutes : ExtTreeMap Ipv6Address P2pRoute
  /-- The memberships ended, newest first. -/
  ended : List DodagKey
  /-- The DIOs sent, newest first, each with its destination. -/
  dios : List (Ipv6Address × DioHeader)

namespace Stakes

def put (s : Stakes) (key : DodagKey) (stake : Stake) : Stakes :=
  { s with held := s.held.insert key stake }

/-- A membership ends; where it had recorded an AODV-RPL target, the key is barred. -/
def leave (s : Stakes) (key : DodagKey) (stake : Stake) : Stakes :=
  { s with
    held := s.held.erase key
    rejoinBlocked :=
      if stake.aodv.target.isAny then s.rejoinBlocked
      else s.rejoinBlocked.insert key (s.now + s.attributes.aodvRejoinReenable)
    ended := key :: s.ended }

def sends (s : Stakes) (sent : List (Ipv6Address × DioHeader)) : Stakes :=
  { s with dios := sent ++ s.dios }

theorem put_put (s : Stakes) (key : DodagKey) (first second : Stake) :
    (s.put key first).put key second = s.put key second := by
  simp only [put, OrderedMap.insert_insert]

theorem put_held {s : Stakes} {key other : DodagKey} {stake : Stake} :
    (s.put key stake).held[other]? = if other = key then some stake else s.held[other]? :=
  OrderedMap.getElem?_insert_eq

theorem leave_held {s : Stakes} {key other : DodagKey} {stake : Stake} :
    (s.leave key stake).held[other]? = if other = key then none else s.held[other]? :=
  OrderedMap.getElem?_erase_eq

/-- What a membership was before it ends matters only by its AODV-RPL target. -/
theorem put_leave {s : Stakes} {key : DodagKey} {stake first second : Stake}
    (same : first.aodv.target = second.aodv.target) :
    (s.put key stake).leave key first = s.leave key second := by
  simp only [put, leave, OrderedMap.erase_insert, same]

@[simp] theorem sends_nil (s : Stakes) : s.sends [] = s := rfl

end Stakes

/-! ## The stakes of a node -/

/-- The key of a membership ended. -/
def Milestone.ended? : Milestone → Option DodagKey
  | .left key _ _ => some key
  | _ => none

namespace Node

def stakes (n : Node) : Stakes :=
  { now := n.now
    ipv6 := n.ipv6
    attributes := n.attributes
    held := n.dodags.map fun _ dodag => dodag.stake
    rejoinBlocked := n.aodvRejoinBlocked
    stopMemory := n.p2pStopMemory
    p2pInstanceUse := n.p2pInstanceUse
    aodvRoutes := n.aodvRoutes
    p2pRoutes := n.p2pRoutes
    ended := n.history.filterMap Milestone.ended?
    dios := n.outputs.filterMap Output.dio? }

variable {n : Node} {key : DodagKey} {dodag other : DodagMembership}

@[simp] theorem stakes_held (n : Node) (key : DodagKey) :
    n.stakes.held[key]? = n.dodags[key]?.map DodagMembership.stake :=
  ExtTreeMap.getElem?_map

theorem held_stake (held : n.dodags[key]? = some dodag) :
    n.stakes.held[key]? = some dodag.stake := by
  rw [stakes_held, held, Option.map_some]

theorem stakes_emit (n : Node) (sent : List Output) :
    (n.emit sent).stakes = n.stakes.sends (sent.filterMap Output.dio?) := by
  simp only [stakes, Stakes.sends, emit_outputs, List.filterMap_append]
  rfl

@[simp] theorem stakes_setDodag (n : Node) (key : DodagKey) (dodag : DodagMembership) :
    (n.setDodag key dodag).stakes = n.stakes.put key dodag.stake := by
  simp only [stakes, setDodag, Stakes.put, OrderedMap.map_insert]

/-- A membership put back with the same stake. -/
theorem stakes_setDodag_same (held : n.dodags[key]? = some dodag)
    (same : other.stake = dodag.stake) : (n.setDodag key other).stakes = n.stakes := by
  rw [stakes_setDodag, same, Stakes.put, OrderedMap.insert_held (held_stake held)]

/-- A membership rewritten outside its stake. -/
theorem stakes_modifyDodag_same {f : DodagMembership → DodagMembership}
    (same : ∀ dodag, (f dodag).stake = dodag.stake) : (n.modifyDodag key f).stakes = n.stakes := by
  cases held : n.dodags[key]? with
  | none => rw [modifyDodag_of_absent held]
  | some dodag =>
    rw [setDodag_of_held held]
    exact stakes_setDodag_same held (same dodag)

theorem stakes_modifyDodag (held : n.dodags[key]? = some dodag)
    (f : DodagMembership → DodagMembership) :
    (n.modifyDodag key f).stakes = n.stakes.put key (f dodag).stake := by
  rw [setDodag_of_held held, stakes_setDodag]

/-- A place rewritten, the DODAG and the root staying what they are. -/
theorem stakes_modifyPlace {f : DodagPlace → DodagPlace}
    (same : ∀ place, (f place).key = place.key ∧ (f place).isRoot = place.isRoot ∧
      (f place).mop = place.mop) : (n.modifyPlace key f).stakes = n.stakes := by
  refine stakes_modifyDodag_same fun dodag => ?_
  simp only [DodagMembership.stake, same]

theorem stakes_mark (n : Node) {milestone : Milestone} (stays : milestone.ended? = none) :
    (n.mark milestone).stakes = n.stakes := by
  simp only [stakes, mark, List.filterMap_cons_none stays]

/-- Messages that are no DIOs. -/
theorem stakes_hands {after : Node} {message : RplMessage} {destination : Ipv6Address}
    (sends : n.Hands message destination after) (other : message.isDio = false) :
    after.stakes = n.stakes := by
  obtain ⟨sent, rfl, carry⟩ := sends
  have noDio (output : Output) (mem : output ∈ sent) : output.dio? = none :=
    (carry output mem).dio?_eq_none other
  rw [stakes_emit, List.filterMap_eq_nil_iff.mpr noDio, Stakes.sends_nil]

theorem stakes_quiet : Quiet stakes where
  emit n sent noDio _ := by
    rw [stakes_emit, List.filterMap_eq_nil_iff.mpr noDio, Stakes.sends_nil]
  drawJitter _ := rfl
  dao n key dodag other held same := by
    refine stakes_setDodag_same held ?_
    have stake (d : DodagMembership) : d.stake = d.withoutDao.stake := rfl
    rw [stake other, same, ← stake]

end Node

/-! ## The Trickle timer -/

namespace TrickleTimer

@[simp] theorem active_reset (trickle : TrickleTimer) (now : Time) :
    (trickle.reset now).active = trickle.active := by
  unfold reset
  split
  · rfl
  · next running =>
    rw [Bool.or_eq_true, not_or, Bool.not_eq_true', Bool.not_eq_false] at running
    simp only [active, newInterval, running.1, Bool.true_or]

@[simp] theorem active_consistencyHit (trickle : TrickleTimer) :
    trickle.consistencyHit.active = trickle.active := rfl

@[simp] theorem active_stop (trickle : TrickleTimer) : trickle.stop.active = false := rfl

@[simp] theorem active_start (trickle : TrickleTimer) (now : Time) :
    (trickle.start now).active = true := rfl

theorem active_of_transmitEvent (trickle : TrickleTimer)
    (active : trickle.transmitEvent.active = true) : trickle.active = true := by
  simp only [TrickleTimer.active, transmitEvent, Timer.isRunning, Option.isSome_none,
    Bool.or_false, Bool.or_eq_true] at active ⊢
  rcases active with running | interval
  · exact .inl (.inl running)
  · exact .inr interval

theorem active_intervalEvent (trickle : TrickleTimer) (now : Time) :
    (trickle.intervalEvent now).active = true := by
  simp only [active, intervalEvent, newInterval, Timer.isRunning, Option.isSome_some, Bool.or_true]

end TrickleTimer

/-! ## Functions that leave the stakes alone -/

namespace Node

variable {n : Node} {key : DodagKey} {dodag : DodagMembership}

@[simp] theorem stakes_log_reached (n : Node) (key : DodagKey) :
    (n.log (.discoveryTargetReached key)).stakes = n.stakes := rfl

@[simp] theorem stakes_resetTrickle (n : Node) (key : DodagKey) :
    (n.resetTrickle key).stakes = n.stakes := by
  refine stakes_modifyDodag_same fun dodag => ?_
  simp only [DodagMembership.stake, TrickleTimer.active_reset]

@[simp] theorem stakes_disTimerExpire (n : Node) : n.disTimerExpire.stakes = n.stakes := by
  unfold disTimerExpire
  dsimp only
  split
  · rfl
  · have hands : ({ n with disRefreshPending := false } : Node).Hands .dis allNodesMulticast _ :=
      hands_sendRplMessageMulticast
    have sends := stakes_hands hands rfl
    exact sends

@[simp] theorem stakes_scheduleSolicitation (n : Node) :
    n.scheduleSolicitation.stakes = n.stakes := by
  unfold scheduleSolicitation
  split
  · rfl
  · rfl

@[simp] theorem stakes_sweepParents (n : Node) (key : DodagKey) :
    (n.sweepParents key).stakes = n.stakes := by
  unfold sweepParents
  split
  · rfl
  · dsimp only
    rw [stakes_modifyPlace]
    · split
      · rw [stakes_quiet.sendNoPathDao, stakes_modifyPlace]
        exact fun _ => ⟨rfl, rfl, rfl⟩
      · rfl
    · exact fun _ => ⟨rfl, rfl, rfl⟩

@[simp] theorem stakes_takeParent (held : n.dodags[key]? = some dodag) (best : Candidate) :
    (n.takeParent key dodag best).stakes = n.stakes := by
  have taken : ((n.modifyPlace key fun _ => dodag.adoptParent best).mark
      (.ranked key (dodag.adoptParent best).rank)).stakes = n.stakes := by
    rw [stakes_mark _ rfl, modifyPlace, stakes_modifyDodag held, ← stakes_setDodag]
    exact stakes_setDodag_same held rfl
  unfold takeParent
  dsimp only
  split
  · rw [stakes_quiet.switchParent, taken]
  · exact taken

@[simp] theorem stakes_updateParent (n : Node) (dio : DioHeader) (heard : Reception) :
    (n.updateParent dio heard).stakes = n.stakes := by
  unfold updateParent
  split
  · rfl
  · next dodag held =>
    dsimp only
    split
    · rw [stakes_quiet.scheduleDaoRefresh]
      exact stakes_setDodag_same held rfl
    · exact stakes_setDodag_same held rfl

@[simp] theorem stakes_adoptVersion (n : Node) (dio : DioHeader) (dodag : DodagMembership) :
    (n.adoptVersion dio dodag).stakes = n.stakes := by
  unfold adoptVersion
  split
  · rw [stakes_mark _ rfl, stakes_modifyPlace]
    exact fun _ => ⟨rfl, rfl, rfl⟩
  · rfl

@[simp] theorem stakes_notifyRankInconsistency (n : Node) (instanceId : UInt8) :
    (n.notifyRankInconsistency instanceId).stakes = n.stakes := by
  unfold notifyRankInconsistency
  split
  · rfl
  · exact stakes_resetTrickle ..

@[simp] theorem stakes_globalRepairFire (n : Node) (key : DodagKey) :
    (n.globalRepairFire key).stakes = n.stakes := by
  refine stakes_modifyDodag_same fun dodag => ?_
  simp only [DodagMembership.stake, TrickleTimer.active_reset]
  rfl

@[simp] theorem stakes_startInterface (n : Node) (interface : Nat) :
    (n.startInterface interface).stakes = n.stakes := by
  unfold startInterface
  split
  · rfl
  · rfl

@[simp] theorem stakes_storeHopByHopRoute (n : Node) (key : DodagKey)
    (destination nextHop : Ipv6Address) (lifetime : Time) (seqNo : Option UInt8)
    (pinNextHop : Bool) :
    (n.storeHopByHopRoute key destination nextHop lifetime seqNo pinNextHop).2.stakes =
      n.stakes := by
  unfold storeHopByHopRoute
  split
  · rfl
  · rfl

/-! ### AODV-RPL -/

/-- Discovery state rewritten outside the stake. -/
theorem stakes_modifyAodv_same {f : AodvRreqState → AodvRreqState}
    (same : ∀ aodv, (f aodv).stake = aodv.stake) : (n.modifyAodv key f).stakes = n.stakes := by
  refine stakes_modifyDodag_same fun dodag => ?_
  simp only [DodagMembership.stake, same]

@[simp] theorem stakes_markRrepHandled (n : Node) (key : DodagKey) (targNode : Ipv6Address) :
    (n.markRrepHandled key targNode).stakes = n.stakes :=
  stakes_modifyAodv_same fun _ => rfl

theorem stakes_storeUpwardRoute {stored : Node} {dio : DioHeader}
    (stores : n.storeUpwardRoute key dio = some stored) : stored.stakes = n.stakes := by
  unfold storeUpwardRoute at stores
  split at stores
  · cases stores
  · next dodag held =>
    dsimp only at stores
    split at stores
    · cases stores
    split at stores
    · cases stores
      rfl
    · have same := n.stakes_storeHopByHopRoute key key.dodagId dodag.preferredParent
        n.attributes.routeLifetime (some dio.getRreq.origSeqNo) false
      split at stores
      · next accepted =>
        rw [accepted] at same
        cases stores
        exact same
      · cases stores

/-! ### P2P-RPL -/

/-- The state of a temporary DAG rewritten outside the stake. -/
theorem stakes_modifyP2p_same {f : P2pState → P2pState}
    (same : ∀ p2p, (f p2p).stake = p2p.stake) : (n.modifyP2p key f).stakes = n.stakes := by
  refine stakes_modifyDodag_same fun dodag => ?_
  simp only [DodagMembership.stake, same]

@[simp] theorem stakes_sendP2pDroRoute (n : Node) (key : DodagKey) (route : List Ipv6Address)
    (stop trackAck : Bool) : (n.sendP2pDroRoute key route stop trackAck).stakes = n.stakes := by
  unfold sendP2pDroRoute
  split
  · rfl
  · dsimp only
    split
    · rw [stakes_modifyP2p_same]
      · exact stakes_hands hands_sendRplMessageMulticast rfl
      · exact fun _ => rfl
    · exact stakes_hands hands_sendRplMessageMulticast rfl

@[simp] theorem stakes_sendP2pDro (n : Node) (key : DodagKey) :
    (n.sendP2pDro key).stakes = n.stakes := by
  unfold sendP2pDro
  split
  · rfl
  · exact stakes_sendP2pDroRoute ..

@[simp] theorem stakes_p2pDroRetry (n : Node) (key : DodagKey) :
    (n.p2pDroRetry key).stakes = n.stakes := by
  unfold p2pDroRetry
  split
  · rfl
  · split
    · rfl
    split
    · exact stakes_modifyP2p_same fun _ => rfl
    · rw [stakes_sendP2pDro]
      exact stakes_modifyP2p_same fun _ => rfl

@[simp] theorem stakes_startReply (n : Node) (key : DodagKey) :
    (n.startReply key).stakes = n.stakes := by
  have rewritten : ∀ (m : Node) (f : P2pState → P2pState), (∀ p2p, (f p2p).stake = p2p.stake) →
      (m.modifyP2p key f).stakes = m.stakes := fun _ _ same => stakes_modifyP2p_same same
  unfold startReply
  dsimp only
  split
  · exact rewritten _ _ fun _ => rfl
  split
  · rw [stakes_sendP2pDro, rewritten, rewritten]
    · exact fun _ => rfl
    · exact fun _ => rfl
  split
  · exact rewritten _ _ fun _ => rfl
  · rw [rewritten, rewritten]
    · exact fun _ => rfl
    · exact fun _ => rfl

@[simp] theorem stakes_replyAsTarget (n : Node) (key : DodagKey) :
    (n.replyAsTarget key).stakes = n.stakes := by
  unfold replyAsTarget
  split
  · rfl
  · split
    · exact stakes_startReply ..
    · rfl

/-- A loop of calls that each leave the stakes alone. -/
theorem stakes_foldl {α : Type} {f : Node → α → Node} (same : ∀ n a, (f n a).stakes = n.stakes)
    (items : List α) (n : Node) : (items.foldl f n).stakes = n.stakes := by
  induction items generalizing n with
  | nil => rfl
  | cons item rest ih => rw [List.foldl_cons, ih, same]

@[simp] theorem stakes_p2pDroCollectExpire (n : Node) (key : DodagKey) :
    (n.p2pDroCollectExpire key).stakes = n.stakes := by
  have collected : (n.modifyP2p key fun p2p => { p2p with droCollecting := false }).stakes =
      n.stakes := stakes_modifyP2p_same fun _ => rfl
  unfold p2pDroCollectExpire
  dsimp only
  split
  · exact collected
  split
  · rw [stakes_modifyP2p_same, collected]
    exact fun _ => rfl
  split
  · exact collected
  · rw [stakes_modifyP2p_same, stakes_foldl, stakes_sendP2pDroRoute, collected]
    · exact fun _ _ => stakes_sendP2pDroRoute ..
    · exact fun _ => rfl

@[simp] theorem stakes_acknowledgeP2pDro (n : Node) (dro : P2pDroHeader) (target : Ipv6Address) :
    (n.acknowledgeP2pDro dro target).stakes = n.stakes := by
  unfold acknowledgeP2pDro
  split
  · exact stakes_hands hands_sendRplMessageUnicast rfl
  · rfl

@[simp] theorem stakes_relayP2pDro (n : Node) (key : DodagKey) (dro : P2pDroHeader)
    (rdo : P2pRdoOption) : (n.relayP2pDro key dro rdo).stakes = n.stakes := by
  have stored : ∀ stored, n.storeDroRoute key rdo = some stored → stored.stakes = n.stakes := by
    intro stored stores
    unfold storeDroRoute at stores
    dsimp only at stores
    split at stores
    · have same := n.stakes_storeHopByHopRoute key rdo.target
        ((rdo.addressVector[rdo.maxRankOrNh.toNat]?).getD rdo.target) n.attributes.routeLifetime
        none true
      split at stores
      · next accepted =>
        rw [accepted] at same
        cases stores
        exact same
      · cases stores
    · cases stores
      rfl
  unfold relayP2pDro
  split
  · rfl
  split
  · rfl
  · next after stores =>
    dsimp only
    split
    · exact stored after stores
    · rw [stakes_hands hands_sendRplMessageMulticast rfl, stored after stores]

@[simp] theorem stakes_handleP2pDroAck (n : Node) (ack : P2pDroAckHeader) :
    (n.handleP2pDroAck ack).stakes = n.stakes := by
  unfold handleP2pDroAck
  dsimp only
  split
  · rfl
  · split
    · exact stakes_modifyP2p_same fun _ => rfl
    · rfl

/-- The routes a P2P mode DIO carries change nothing of the stake. -/
theorem stake_recordP2pRoutes (n : Node) (dodag : DodagMembership) (rdo : P2pRdoOption)
    (heard : Reception) : (n.recordP2pRoutes dodag rdo heard).stake = dodag.stake := by
  have candidate : (n.recordP2pCandidateRoute dodag rdo heard).stake = dodag.stake := by
    have added : ∀ (p2p : P2pState) rank candidate,
        (addCandidate p2p rank candidate).stake = p2p.stake := by
      intro p2p rank candidate
      unfold addCandidate
      dsimp only
      split <;> split <;> rfl
    unfold recordP2pCandidateRoute
    split
    · rfl
    · dsimp only
      split
      · rfl
      split
      · rfl
      split
      · rfl
      · simp only [DodagMembership.stake, added]
        rfl
  have alternate : ∀ dodag : DodagMembership,
      (n.recordP2pAlternateRoute dodag rdo (askedRoutes rdo) heard.interface).stake =
        dodag.stake := by
    intro dodag
    unfold recordP2pAlternateRoute
    split
    · rfl
    · dsimp only
      split
      · rfl
      · rfl
  unfold recordP2pRoutes
  dsimp only
  split
  · rw [alternate, candidate]
  · exact candidate

end Node

end Rpl
