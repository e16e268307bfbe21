import Rpl.Offhand

/-!
# Views that do not see discoveries

An offhand view that does not see what has been noted of a discovery either.
-/

namespace Rpl

open Std

/-- The view sees neither messages other than DAOs, nor findings, nor what memberships that are
alike differ in. -/
structure Aside {σ : Type} (view : Node → σ) : Prop extends Offhand view where
  alike : ∀ (n : Node) (key : DodagKey) (dodag other : DodagMembership),
    n.dodags[key]? = some dodag → dodag.Alike other → view (n.setDodag key other) = view n
  noted := fun n key dodag other held same _ => alike n key dodag other held same

namespace Aside

variable {σ : Type} {view : Node → σ} {n : Node} {key : DodagKey} (aside : Aside view)

include aside

theorem modifyDodag {f : DodagMembership → DodagMembership}
    (same : ∀ dodag : DodagMembership, dodag.Alike (f dodag)) :
    view (n.modifyDodag key f) = view n := by
  cases held : n.dodags[key]? with
  | none => rw [Node.modifyDodag_of_absent held]
  | some dodag =>
    rw [Node.setDodag_of_held held]
    exact aside.alike n key dodag _ held (same dodag)

theorem modifyAodv {f : AodvRreqState → AodvRreqState} : view (n.modifyAodv key f) = view n :=
  aside.modifyDodag fun _ => rfl

theorem modifyP2p {f : P2pState → P2pState} : view (n.modifyP2p key f) = view n :=
  aside.modifyDodag fun _ => rfl

/-! ### DIOs -/

theorem drawP2pRoute {dodag : DodagMembership} (held : n.dodags[key]? = some dodag) :
    view (n.drawP2pRoute key dodag).2 = view n := by
  have same : view (n.setDodag key dodag.pruneP2pCandidateRoutes) = view n :=
    aside.alike n key dodag _ held rfl
  unfold Node.drawP2pRoute
  dsimp only
  split
  · exact same
  · exact (aside.findings _ { (n.setDodag key dodag.pruneP2pCandidateRoutes).findings with
      p2pRouteSelector := _ }).trans same

theorem sendDio (destination : Ipv6Address) (interface : Nat) :
    view (n.sendDio key destination interface) = view n := by
  unfold Node.sendDio
  split
  · rfl
  · next dodag held =>
    split
    · rfl
    · dsimp only
      split
      · rw [aside.hands (Node.hands_sendRplMessage interface) rfl rfl, aside.drawP2pRoute held]
      · exact aside.hands (Node.hands_sendRplMessage interface) rfl rfl

theorem answerDis (sender : Ipv6Address) (interface : Nat) (toMulticast : Bool) :
    view (Node.answerDis sender interface toMulticast n key) = view n := by
  unfold Node.answerDis
  split
  · rfl
  · split
    · rfl
    · split
      · exact aside.resetTrickle _
      · exact aside.sendDio sender interface

theorem handleDis (sender : Ipv6Address) (interface : Nat) (toMulticast : Bool) :
    view (n.handleDis sender interface toMulticast) = view n :=
  Onlooker.foldl (fun _ _ => aside.answerDis sender interface toMulticast) _

/-! ### AODV-RPL -/

theorem relayAodvRreqOnCachedRoute (dio : DioHeader) (cachedNextHop : Ipv6Address) :
    view (n.relayAodvRreqOnCachedRoute key dio cachedNextHop) = view n := by
  unfold Node.relayAodvRreqOnCachedRoute
  split
  · rfl
  · split
    · rfl
    · dsimp only
      split
      · exact aside.modifyAodv
      · rw [aside.modifyAodv, aside.sendAodvTo, aside.modifyAodv]

theorem answerFromCache (dio : DioHeader) (sender : Ipv6Address) :
    view (n.answerFromCache key dio sender) = view n := by
  unfold Node.answerFromCache
  split
  · rfl
  · split
    · rfl
    · dsimp only
      rw [aside.relayAodvRreqOnCachedRoute, aside.sendAodvGratuitousRrep]
      split
      · exact aside.modifyAodv
      · rfl

/-! ### P2P-RPL -/

theorem p2pDroCollectExpire : view (n.p2pDroCollectExpire key) = view n := by
  have collected : view (n.modifyP2p key fun p2p => { p2p with droCollecting := false }) =
      view n := aside.modifyP2p
  unfold Node.p2pDroCollectExpire
  dsimp only
  split
  · exact collected
  split
  · rw [aside.modifyP2p, collected]
  split
  · exact collected
  · rw [aside.modifyP2p]
    · exact (Onlooker.foldl (fun _ _ => aside.sendP2pDroRoute ..) _).trans
        ((aside.sendP2pDroRoute ..).trans collected)

end Aside

namespace Node

/-- The routes a P2P mode DIO carries are kept in the membership's discovery state. -/
theorem recordP2pRoutes_alike (n : Node) (dodag : DodagMembership) (rdo : P2pRdoOption)
    (heard : Reception) : dodag.Alike (n.recordP2pRoutes dodag rdo heard) := by
  obtain ⟨p2p, same⟩ := n.recordP2pRoutes_eq dodag rdo heard
  rw [same]
  exact rfl

end Node

end Rpl
