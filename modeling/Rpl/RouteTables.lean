import Rpl.DiscoverySimulation

/-!
# Functions that leave the route tables alone

The routes found by discoveries are kept beside the memberships.  Joining, leaving and
selecting a parent do not touch them, and of the handling of an RREQ only
`StoreHopByHopRoute` does.
-/

namespace Rpl

open Std

/-- The tables of discovered routes, and the time that says which of them are live. -/
structure RouteTables where
  now : Time
  hopByHop : ExtTreeMap Ipv6Address HopByHopRoute
  aodv : ExtTreeMap Ipv6Address AodvRoute
  p2p : ExtTreeMap Ipv6Address P2pRoute

namespace Node

def routeTables (n : Node) : RouteTables :=
  { now := n.now
    hopByHop := n.hopByHopRoutes
    aodv := n.aodvRoutes
    p2p := n.p2pRoutes }

/-! ## Sending -/

/-- What a node sends leaves its route tables alone. -/
@[simp] theorem routeTables_emit (n : Node) (sent : List Output) :
    (n.emit sent).routeTables = n.routeTables := rfl

/-- A membership rewritten is no route. -/
@[simp] theorem routeTables_setDodag (n : Node) (key : DodagKey) (dodag : DodagMembership) :
    (n.setDodag key dodag).routeTables = n.routeTables := rfl

@[simp] theorem routeTables_modifyDodag (n : Node) (key : DodagKey)
    (f : DodagMembership → DodagMembership) :
    (n.modifyDodag key f).routeTables = n.routeTables := rfl

@[simp] theorem routeTables_modifyPlace (n : Node) (key : DodagKey) (f : DodagPlace → DodagPlace) :
    (n.modifyPlace key f).routeTables = n.routeTables := rfl

@[simp] theorem routeTables_mark (n : Node) (milestone : Milestone) :
    (n.mark milestone).routeTables = n.routeTables := rfl

@[simp] theorem routeTables_log (n : Node) (output : Output) :
    (n.log output).routeTables = n.routeTables := rfl

@[simp] theorem routeTables_sendRplMessageOn (n : Node) (interface : Nat) (message : RplMessage)
    (destination : Ipv6Address) :
    (n.sendRplMessageOn interface message destination).routeTables = n.routeTables := by
  rw [sendRplMessageOn_eq_emit, routeTables_emit]

@[simp] theorem routeTables_sendRplMessage (n : Node) (message : RplMessage)
    (destination : Ipv6Address) (interface : Nat) :
    (n.sendRplMessage message destination interface).routeTables = n.routeTables := by
  obtain ⟨sent, emits⟩ := n.sendRplMessage_emits message destination interface
  rw [emits, routeTables_emit]

@[simp] theorem routeTables_sendDaoTo (n : Node) (dodag : DodagMembership) (parent : Ipv6Address)
    (dao : DaoHeader) : (n.sendDaoTo dodag parent dao).routeTables = n.routeTables := by
  obtain ⟨sent, emits⟩ := n.sendDaoTo_emits dodag parent dao
  rw [emits, routeTables_emit]

@[simp] theorem routeTables_sendAodvTo (n : Node) (dodag : DodagMembership) (dio : DioHeader)
    (nextHop : Ipv6Address) : (n.sendAodvTo dodag dio nextHop).routeTables = n.routeTables := by
  obtain ⟨sent, emits⟩ := n.sendAodvTo_emits dodag dio nextHop
  rw [emits, routeTables_emit]

@[simp] theorem routeTables_drawP2pRoute (n : Node) (key : DodagKey) (dodag : DodagMembership) :
    (n.drawP2pRoute key dodag).2.routeTables = n.routeTables := by
  unfold drawP2pRoute
  dsimp only
  split
  · rfl
  · rfl

/-- A DIO drawn from the candidates and sent. -/
@[simp] theorem routeTables_sendDio (n : Node) (key : DodagKey) (destination : Ipv6Address)
    (interface : Nat) : (n.sendDio key destination interface).routeTables = n.routeTables := by
  unfold sendDio
  split
  · rfl
  · split
    · rfl
    · dsimp only
      rw [routeTables_sendRplMessage]
      split
      · exact routeTables_drawP2pRoute ..
      · rfl

/-- A withdrawal changes the tables of whoever hears it, not of who sends it. -/
@[simp] theorem routeTables_sendNoPathDao (n : Node) (key : DodagKey) (viaParent : Ipv6Address) :
    (n.sendNoPathDao key viaParent).routeTables = n.routeTables := by
  unfold sendNoPathDao
  split
  · rfl
  · split
    · rfl
    · exact routeTables_sendDaoTo ..

/-! ## Leaving and selecting a parent -/

@[simp] theorem routeTables_eraseDodag (n : Node) (key : DodagKey) (dodag : DodagMembership) :
    (n.eraseDodag key dodag).routeTables = n.routeTables := by
  unfold eraseDodag
  dsimp only
  split
  · split
    · rfl
    · rfl
  · split
    · rfl
    · rfl

/-- The routes found by a discovery outlast the membership that found them. -/
@[simp] theorem routeTables_leaveDodag (n : Node) (key : DodagKey) (poison : Bool) :
    (n.leaveDodag key poison).routeTables = n.routeTables := by
  cases held : n.dodags[key]? with
  | none => rw [leaveDodag, held]
  | some dodag =>
    obtain ⟨_, _, left⟩ := leaveDodag_eq held poison
    rw [left]
    refine (routeTables_eraseDodag _ key dodag).trans ?_
    split
    · exact routeTables_sendDio ..
    · rfl

@[simp] theorem routeTables_scheduleSolicitation (n : Node) :
    n.scheduleSolicitation.routeTables = n.routeTables := by
  unfold scheduleSolicitation
  split
  · rfl
  · rfl

@[simp] theorem routeTables_scheduleDaoRefresh (n : Node) (key : DodagKey) :
    (n.scheduleDaoRefresh key).routeTables = n.routeTables := by
  unfold scheduleDaoRefresh
  split
  · rfl
  · split
    · rfl
    · rfl

@[simp] theorem routeTables_withdrawThrough (n : Node) (key : DodagKey) (parent : Ipv6Address) :
    (n.withdrawThrough key parent).routeTables = n.routeTables := by
  unfold withdrawThrough
  split
  · rfl
  · split
    · exact routeTables_sendNoPathDao ..
    · rfl

@[simp] theorem routeTables_sweepParents (n : Node) (key : DodagKey) :
    (n.sweepParents key).routeTables = n.routeTables := by
  unfold sweepParents
  split
  · rfl
  · dsimp only
    rw [routeTables_modifyPlace]
    split
    · exact routeTables_sendNoPathDao ..
    · rfl

@[simp] theorem routeTables_takeParent (n : Node) (key : DodagKey) (dodag : DodagMembership)
    (best : Candidate) : (n.takeParent key dodag best).routeTables = n.routeTables := by
  unfold takeParent
  dsimp only
  split
  · rw [switchParent, routeTables_scheduleDaoRefresh, routeTables_modifyDodag,
      routeTables_withdrawThrough, routeTables_mark, routeTables_modifyPlace]
  · rfl

/-- Whatever the selection comes to, a new parent or none, the tables stay. -/
@[simp] theorem routeTables_selectPreferredParent (n : Node) (key : DodagKey) :
    (n.selectPreferredParent key).2.routeTables = n.routeTables := by
  unfold selectPreferredParent
  split
  · rfl
  · split
    · rfl
    · dsimp only
      split
      · exact routeTables_sweepParents ..
      · split
        · exact routeTables_sweepParents ..
        split
        · rw [loseLastParent, routeTables_scheduleSolicitation, routeTables_leaveDodag,
            routeTables_withdrawThrough, routeTables_sweepParents]
        · rw [routeTables_takeParent, routeTables_sweepParents]

@[simp] theorem routeTables_selectAndReset (n : Node) (key : DodagKey) :
    (n.selectAndReset key).routeTables = n.routeTables := by
  unfold selectAndReset
  dsimp only
  split
  · exact routeTables_selectPreferredParent ..
  · exact routeTables_selectPreferredParent ..

@[simp] theorem routeTables_dioTrickleFire (n : Node) (key : DodagKey) :
    (n.dioTrickleFire key).routeTables = n.routeTables := by
  rw [dioTrickleFire, routeTables_sendDio, routeTables_selectPreferredParent]

/-! ## Taking a DIO in -/

/-- A DODAG joined brings no route with it. -/
@[simp] theorem routeTables_joinDodag (n : Node) (dio : DioHeader) (interface : Nat) :
    (n.joinDodag dio interface).routeTables = n.routeTables := by
  have configured : ∀ m : Node, (m.autoconfigure dio interface).routeTables = m.routeTables := by
    intro m
    unfold autoconfigure
    split
    · rfl
    · split
      · rfl
      · rfl
  unfold joinDodag
  dsimp only
  split
  · split
    · exact configured _
    · exact configured _
  · split
    · exact configured _
    · exact configured _

/-- Entering a Version, by a join, a move or in place. -/
theorem routeTables_enterVersion {n after : Node} {dio : DioHeader} {interface : Nat}
    (entered : n.enterVersion dio interface = some after) : after.routeTables = n.routeTables := by
  unfold enterVersion at entered
  split at entered
  · split at entered
    · cases entered
    · cases entered
      exact routeTables_joinDodag ..
  · split at entered
    · cases entered
      rfl
    split at entered
    · cases entered
      unfold adoptVersion
      split
      · rfl
      · rfl
    split at entered
    · cases entered
      rw [routeTables_joinDodag, routeTables_leaveDodag]
    · cases entered

@[simp] theorem routeTables_updateParent (n : Node) (dio : DioHeader) (heard : Reception) :
    (n.updateParent dio heard).routeTables = n.routeTables := by
  unfold updateParent
  split
  · rfl
  · dsimp only
    split
    · exact routeTables_scheduleDaoRefresh ..
    · rfl

/-- The selection after a DIO, in a temporary DODAG and in an ordinary one. -/
@[simp] theorem routeTables_selectAfterDio (n : Node) (dio : DioHeader) (sender : Ipv6Address) :
    (n.selectAfterDio dio sender).routeTables = n.routeTables := by
  unfold selectAfterDio
  split
  · unfold selectTemporary
    split
    · rfl
    · dsimp only
      split
      · exact routeTables_selectPreferredParent ..
      split
      · exact routeTables_selectPreferredParent ..
      split
      · exact routeTables_selectPreferredParent ..
      · exact routeTables_selectPreferredParent ..
  · unfold selectOrdinary
    split
    · rfl
    · dsimp only
      rw [routeTables_selectAndReset]
      split
      · rfl
      · rfl

/-- A neighbour that withdraws is no parent any more, but routes through it are kept. -/
@[simp] theorem routeTables_handlePoison (n : Node) (key : DodagKey) (sender : Ipv6Address) :
    (n.handlePoison key sender).routeTables = n.routeTables := by
  unfold handlePoison
  split
  · rfl
  · dsimp only
    rw [routeTables_selectAndReset, routeTables_modifyPlace]
    split
    · exact routeTables_sendNoPathDao ..
    · rfl

/-! ## Discoveries -/

@[simp] theorem routeTables_modifyAodv (n : Node) (key : DodagKey)
    (f : AodvRreqState → AodvRreqState) : (n.modifyAodv key f).routeTables = n.routeTables := rfl

/-- The deadline of a discovery is not that of its routes. -/
@[simp] theorem routeTables_armAodvExpiry (n : Node) (key : DodagKey) :
    (n.armAodvExpiry key).routeTables = n.routeTables := by
  unfold armAodvExpiry
  split
  · rfl
  · dsimp only
    split
    · rfl
    · rfl

/-- A DODAG rooted at this node. -/
theorem routeTables_createLocalDodag {n created : Node} {instanceId mop : UInt8} {key : DodagKey}
    (creates : n.createLocalDodag instanceId mop = some (key, created)) :
    created.routeTables = n.routeTables := by
  unfold createLocalDodag at creates
  dsimp only at creates
  split at creates
  · cases creates
  · obtain ⟨other, makes, pair⟩ := Option.map_eq_some_iff.mp creates
    cases pair
    unfold createDodagMembership at makes
    split at makes
    · cases makes
    · dsimp only at makes
      split at makes
      · cases makes
        rfl
      · cases makes
        rfl

/-- TargNode answers, by unicast or with an RREP-Instance of its own. -/
@[simp] theorem routeTables_sendAodvRrep (n : Node) (key : DodagKey) :
    (n.sendAodvRrep key).routeTables = n.routeTables := by
  unfold sendAodvRrep
  split
  · rfl
  · split
    · unfold startAodvRrepInstance
      dsimp only
      split
      · rfl
      split
      · rfl
      · split
        · rfl
        · next creates =>
          rw [routeTables_armAodvExpiry, routeTables_modifyDodag]
          exact (routeTables_createLocalDodag creates :)
    · dsimp only
      split
      · rfl
      split
      · rfl
      · rw [routeTables_sendAodvTo]
        rfl

/-- A router answers for the target with a route it has, which stays as it was. -/
@[simp] theorem routeTables_answerFromCache (n : Node) (key : DodagKey) (dio : DioHeader)
    (sender : Ipv6Address) : (n.answerFromCache key dio sender).routeTables = n.routeTables := by
  have relayed : ∀ (m : Node) (nextHop : Ipv6Address),
      (m.relayAodvRreqOnCachedRoute key dio nextHop).routeTables = m.routeTables := by
    intro m nextHop
    unfold relayAodvRreqOnCachedRoute
    split
    · rfl
    · split
      · rfl
      · dsimp only
        split
        · rfl
        · rw [routeTables_modifyAodv, routeTables_sendAodvTo, routeTables_modifyAodv]
  unfold answerFromCache
  split
  · rfl
  · split
    · rfl
    · dsimp only
      rw [relayed, sendAodvGratuitousRrep, routeTables_sendAodvTo]
      split
      · rfl
      · rfl

end Node

end Rpl
