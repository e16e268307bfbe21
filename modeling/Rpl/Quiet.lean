import Rpl.DaoTarget
import Rpl.Step

/-!
# Views that do not see the DAO exchange

An invariant looks at part of a node.  Most of these parts have in common what they
leave out: the messages sent that are no DIOs, the draws of random delays, and the
DAO exchange of a membership with the tables DAOs fill.  `Quiet` says so of a view,
and every function that works on nothing else is invisible to a quiet view.
-/

namespace Rpl

open Std

/-! ## Messages handed down -/

/-- The DIO of an output, with its destination. -/
def Output.dio? : Output → Option (Ipv6Address × DioHeader)
  | .sent _ _ destination (.dio dio) => some (destination, dio)
  | _ => none

/-- The P2P-DRO of an output. -/
def Output.p2pDro? : Output → Option P2pDroHeader
  | .sent _ _ _ (.p2pDro dro) => some dro
  | _ => none

/-- The output hands the message down to the destination. -/
def Output.Carries (message : RplMessage) (destination : Ipv6Address) (output : Output) : Prop :=
  ∃ interface source, output = .sent interface source destination message

/-- The message is a DIO. -/
def RplMessage.isDio : RplMessage → Bool
  | .dio _ => true
  | _ => false

/-- The message is a P2P-DRO. -/
def RplMessage.isP2pDro : RplMessage → Bool
  | .p2pDro _ => true
  | _ => false

theorem Output.Carries.p2pDro?_eq_none {message : RplMessage} {destination : Ipv6Address}
    {output : Output} (carries : output.Carries message destination)
    (other : message.isP2pDro = false) : output.p2pDro? = none := by
  obtain ⟨interface, source, rfl⟩ := carries
  cases message with
  | p2pDro dro => cases other
  | _ => rfl

theorem Output.Carries.dio?_eq_none {message : RplMessage} {destination : Ipv6Address}
    {output : Output} (carries : output.Carries message destination)
    (other : message.isDio = false) : output.dio? = none := by
  obtain ⟨interface, source, rfl⟩ := carries
  cases message with
  | dio dio => cases other
  | _ => rfl

theorem Output.Carries.dio?_eq_some {dio : DioHeader} {destination : Ipv6Address}
    {output : Output} (carries : output.Carries (.dio dio) destination) :
    output.dio? = some (destination, dio) := by
  obtain ⟨interface, source, rfl⟩ := carries
  rfl

namespace Node

/-- The node after some copies of a message have been handed down. -/
def Hands (n : Node) (message : RplMessage) (destination : Ipv6Address) (after : Node) : Prop :=
  ∃ sent, after = n.emit sent ∧ ∀ output ∈ sent, output.Carries message destination

variable {n : Node} {message : RplMessage} {destination : Ipv6Address}

theorem Hands.none : n.Hands message destination n :=
  ⟨[], rfl, fun _ mem => absurd mem List.not_mem_nil⟩

theorem hands_sendRplMessageOn (interface : Nat) :
    n.Hands message destination (n.sendRplMessageOn interface message destination) := by
  refine ⟨_, n.sendRplMessageOn_eq_emit interface message destination, fun output mem => ?_⟩
  unfold messageOn at mem
  split at mem
  · exact ⟨_, _, List.mem_singleton.mp mem⟩
  · exact absurd mem List.not_mem_nil

theorem Hands.trans {first second : Node} (firstHands : n.Hands message destination first)
    (secondHands : first.Hands message destination second) :
    n.Hands message destination second := by
  obtain ⟨sent, rfl, carry⟩ := firstHands
  obtain ⟨more, rfl, carryMore⟩ := secondHands
  refine ⟨more ++ sent, emit_emit .., fun output mem => ?_⟩
  rcases List.mem_append.mp mem with later | earlier
  · exact carryMore output later
  · exact carry output earlier

theorem hands_sendRplMessageMulticast :
    n.Hands message destination (n.sendRplMessageMulticast message destination) := by
  have overInterfaces : ∀ (interfaces : List Nat) (n : Node), n.Hands message destination
      (interfaces.foldl (fun n i => n.sendRplMessageOn i message destination) n) := by
    intro interfaces
    induction interfaces with
    | nil => exact fun n => .none
    | cons interface rest ih => exact fun n => (hands_sendRplMessageOn interface).trans (ih _)
  exact overInterfaces _ n

theorem hands_sendRplMessageUnicast :
    n.Hands message destination (n.sendRplMessageUnicast message destination) := by
  unfold sendRplMessageUnicast
  split
  · exact .none
  · exact hands_sendRplMessageOn _

theorem hands_sendRplMessage (interface : Nat) :
    n.Hands message destination (n.sendRplMessage message destination interface) := by
  unfold sendRplMessage
  split
  · exact hands_sendRplMessageMulticast
  · exact hands_sendRplMessageOn _

theorem hands_sendDaoTo (dodag : DodagMembership) (parent : Ipv6Address) (dao : DaoHeader) :
    ∃ destination, n.Hands (.dao dao) destination (n.sendDaoTo dodag parent dao) := by
  unfold sendDaoTo
  split
  · refine ⟨parent, ?_⟩
    dsimp only
    split
    · exact .none
    · exact hands_sendRplMessageOn _
  · exact ⟨dodag.dodagId, hands_sendRplMessageUnicast⟩

theorem hands_sendAodvTo (dodag : DodagMembership) (dio : DioHeader) (nextHop : Ipv6Address) :
    n.Hands (.dio dio) (linkLocalOf nextHop) (n.sendAodvTo dodag dio nextHop) := by
  have on (interface : Nat) : n.Hands (.dio dio) (linkLocalOf nextHop)
      (if interface = 0 then n
        else n.sendRplMessageOn interface (.dio dio) (linkLocalOf nextHop)) := by
    split
    · exact .none
    · exact hands_sendRplMessageOn _
  exact on _

end Node

/-! ## Quiet views -/

/-- The membership without its DAO exchange and the tables DAOs fill. -/
def DodagMembership.withoutDao (dodag : DodagMembership) : DodagMembership :=
  { dodag with
    dtsn := 0
    daoSequence := 0
    pathSequence := 0
    daoRetriesLeft := 0
    daoAckPending := false
    daoRefreshPending := false
    daoEvent := none
    daoRetryEvent := none
    topology := ∅
    downwardRoutes := ∅ }

/-- The view sees no message but DIOs and P2P-DROs, no draw of a delay, and nothing of the DAO
exchange. -/
structure Quiet {σ : Type} (view : Node → σ) : Prop where
  emit : ∀ n sent, (∀ output ∈ sent, Output.dio? output = none) →
    (∀ output ∈ sent, Output.p2pDro? output = none) → view (n.emit sent) = view n
  drawJitter : ∀ n : Node, view n.drawJitter.2 = view n
  dao : ∀ (n : Node) (key : DodagKey) (dodag other : DodagMembership),
    n.dodags[key]? = some dodag → other.withoutDao = dodag.withoutDao →
      view (n.setDodag key other) = view n

namespace Node

theorem setDodag_of_held {n : Node} {key : DodagKey} {dodag : DodagMembership}
    (held : n.dodags[key]? = some dodag) (f : DodagMembership → DodagMembership) :
    n.modifyDodag key f = n.setDodag key (f dodag) := by
  rw [modifyDodag, OrderedMap.modify_of_held held, setDodag]

theorem setDodag_self {n : Node} {key : DodagKey} {dodag : DodagMembership}
    (held : n.dodags[key]? = some dodag) : n.setDodag key dodag = n := by
  rw [setDodag, OrderedMap.insert_held held]

theorem modifyDodag_of_absent {n : Node} {key : DodagKey} (absent : n.dodags[key]? = none)
    (f : DodagMembership → DodagMembership) : n.modifyDodag key f = n := by
  rw [modifyDodag, OrderedMap.modify_of_absent absent]

end Node

namespace Quiet

variable {σ : Type} {view : Node → σ} {n after : Node} {message : RplMessage}
  {destination : Ipv6Address} (quiet : Quiet view)

include quiet

theorem hands (sends : n.Hands message destination after) (noDio : message.isDio = false)
    (noDro : message.isP2pDro = false) : view after = view n := by
  obtain ⟨sent, rfl, carry⟩ := sends
  exact quiet.emit n sent (fun output mem => (carry output mem).dio?_eq_none noDio)
    fun output mem => (carry output mem).p2pDro?_eq_none noDro

theorem modifyDodag {key : DodagKey} {f : DodagMembership → DodagMembership}
    (same : ∀ dodag, (f dodag).withoutDao = dodag.withoutDao) :
    view (n.modifyDodag key f) = view n := by
  cases held : n.dodags[key]? with
  | none => rw [Node.modifyDodag_of_absent held]
  | some dodag =>
    rw [Node.setDodag_of_held held]
    exact quiet.dao n key dodag _ held (same dodag)

/-! ### Sending DAOs -/

theorem sendDaoTo (dodag : DodagMembership) (parent : Ipv6Address) (dao : DaoHeader) :
    view (n.sendDaoTo dodag parent dao) = view n := by
  obtain ⟨destination, sends⟩ := Node.hands_sendDaoTo (n := n) dodag parent dao
  exact quiet.hands sends rfl rfl

theorem sendDao (key : DodagKey) : view (n.sendDao key) = view n := by
  unfold Node.sendDao
  split
  · rfl
  · next dodag held =>
    split
    · rfl
    · dsimp only
      rw [quiet.modifyDodag, Node.sendDaoMessage, quiet.sendDaoTo]
      · refine quiet.dao n key dodag _ held ?_
        split
        · rfl
        · rfl
      · exact fun _ => rfl

theorem sendNoPathDao (key : DodagKey) (viaParent : Ipv6Address) :
    view (n.sendNoPathDao key viaParent) = view n := by
  unfold Node.sendNoPathDao
  split
  · rfl
  · next dodag held =>
    split
    · rfl
    · dsimp only
      rw [quiet.sendDaoTo]
      exact quiet.dao n key dodag _ held rfl

theorem daoTimerExpire (key : DodagKey) : view (n.daoTimerExpire key) = view n := by
  rw [Node.daoTimerExpire, quiet.modifyDodag, quiet.sendDao]
  exact fun _ => rfl

theorem purgeDownwardRoutesTimerExpire (key : DodagKey) :
    view (n.purgeDownwardRoutesTimerExpire key) = view n :=
  quiet.modifyDodag fun _ => rfl

theorem daoEventFire (key : DodagKey) : view (n.daoEventFire key) = view n := by
  unfold Node.daoEventFire
  split
  · rfl
  · split
    · exact quiet.purgeDownwardRoutesTimerExpire key
    · exact quiet.daoTimerExpire key

theorem daoRetry (key : DodagKey) : view (n.daoRetry key) = view n := by
  unfold Node.daoRetry
  split
  · rfl
  · next dodag held =>
    split
    · rfl
    split
    · exact quiet.modifyDodag fun _ => rfl
    · dsimp only
      rw [quiet.modifyDodag, Node.sendDaoMessage, quiet.sendDaoTo]
      · exact quiet.dao n key dodag _ held rfl
      · exact fun _ => rfl

theorem scheduleDaoRefresh (key : DodagKey) : view (n.scheduleDaoRefresh key) = view n := by
  unfold Node.scheduleDaoRefresh
  split
  · rfl
  · split
    · rfl
    · dsimp only
      rw [quiet.modifyDodag, quiet.drawJitter]
      exact fun _ => rfl

theorem withdrawThrough (key : DodagKey) (parent : Ipv6Address) :
    view (n.withdrawThrough key parent) = view n := by
  unfold Node.withdrawThrough
  split
  · rfl
  · split
    · exact quiet.sendNoPathDao key parent
    · rfl

theorem switchParent (key : DodagKey) (oldPreferredParent : Ipv6Address) :
    view (n.switchParent key oldPreferredParent) = view n := by
  rw [Node.switchParent, quiet.scheduleDaoRefresh, quiet.modifyDodag, quiet.withdrawThrough]
  exact fun _ => rfl

/-! ### Receiving DAOs -/

theorem relayDao (dodag : DodagMembership) (entries : List AdditionalTarget) :
    view (n.relayDao dodag entries) = view n := by
  unfold Node.relayDao
  split
  · rfl
  · exact quiet.sendDaoTo ..

theorem acknowledgeDao (dodag : DodagMembership) (dao : DaoHeader) (sender : Ipv6Address)
    (interface : Nat) : view (n.acknowledgeDao dodag dao sender interface) = view n := by
  unfold Node.acknowledgeDao
  split
  · dsimp only
    split
    · exact quiet.hands (Node.hands_sendRplMessageOn _) rfl rfl
    · exact quiet.hands Node.hands_sendRplMessageUnicast rfl rfl
  · rfl

theorem handleDao (dao : DaoHeader) (sender : Ipv6Address) (interface : Nat) :
    view (n.handleDao dao sender interface) = view n := by
  unfold Node.handleDao
  split
  · rfl
  · next key dodag found =>
    split
    · rfl
    · dsimp only
      rw [quiet.acknowledgeDao, quiet.relayDao]
      refine quiet.dao n key dodag _ (Node.daoMembership_held found).1 ?_
      rw [dodag.handleTargets_onlyTables]
      rfl

theorem handleDaoAck (ack : DaoAckHeader) : view (n.handleDaoAck ack) = view n := by
  unfold Node.handleDaoAck
  dsimp only
  split
  · rfl
  · split
    · exact quiet.modifyDodag fun _ => rfl
    · rfl

/-! ### Routing -/

theorem notifyForwardingError (instanceId : UInt8) (destination : Ipv6Address) :
    view (n.notifyForwardingError instanceId destination) = view n := by
  unfold Node.notifyForwardingError
  split
  · rfl
  · exact quiet.modifyDodag fun _ => rfl

theorem purgeStoring : view n.purgeStoring = view n := by
  unfold Node.purgeStoring
  split
  · refine quiet.modifyDodag fun dodag => ?_
    split
    · rfl
    · rfl
  · rfl

theorem purgeRoots (destination : Ipv6Address) (entries : List (DodagKey × DodagMembership)) :
    view (n.purgeRoots destination entries) = view n := by
  induction entries generalizing n with
  | nil => rfl
  | cons entry rest ih =>
    have purged : view (n.modifyDodag entry.1 fun dodag => dodag.purgeTopology n.now) = view n :=
      quiet.modifyDodag fun _ => rfl
    rw [Node.purgeRoots]
    split
    · exact ih
    · dsimp only
      split
      · exact purged
      · rw [ih, purged]

theorem afterRouteOutput (destination : Ipv6Address) (oif : Option Nat) :
    view (n.afterRouteOutput destination oif) = view n := by
  unfold Node.afterRouteOutput
  split
  · rfl
  split
  · exact quiet.purgeStoring
  · rw [quiet.purgeRoots, quiet.purgeStoring]

end Quiet

end Rpl
