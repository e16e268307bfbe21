import Rpl.Edit
import Rpl.Moves

/-!
# Discoveries as edits

The AODV-RPL and P2P-RPL handlers, and the two functions that start a discovery,
move a node's standing only as a discovery may.
-/

namespace Rpl

open Std

namespace Node

/-! ## Deadlines and own DODAGs -/

theorem held_member_of_isSome {n : Node} {key : DodagKey} (some_ : (n.dodags[key]?).isSome) :
    ∃ member, n.standing.held[key]? = some member := by
  obtain ⟨dodag, held⟩ := Option.isSome_iff_exists.mp some_
  exact ⟨dodag.member, held_member held⟩

theorem touches_armAodvExpiry (n : Node) (key : DodagKey) :
    Touches key n.standing (n.armAodvExpiry key).standing := by
  rcases n.standing_armAodvExpiry key with same | ⟨held, armed⟩
  · rw [same]
  · obtain ⟨member, heldMember⟩ := held_member_of_isSome held
    rw [armed]
    exact .single (.arm heldMember)

theorem touches_armP2pExpiry (n : Node) (key : DodagKey) :
    Touches key n.standing (n.armP2pExpiry key).standing := by
  rcases n.standing_armP2pExpiry key with same | ⟨held, armed⟩
  · rw [same]
  · obtain ⟨member, heldMember⟩ := held_member_of_isSome held
    rw [armed]
    exact .single (.arm heldMember)

/-- Parameters and discovery state of a DODAG this node roots are set: it stays the same DODAG,
and no timer that may end or move it is touched. -/
structure Configures (f : DodagMembership → DodagMembership) : Prop where
  isRoot : ∀ dodag, (f dodag).isRoot = dodag.isRoot
  key : ∀ dodag, (f dodag).key = dodag.key
  mop : ∀ dodag, (f dodag).mop = dodag.mop
  aodvExpiry : ∀ dodag, (f dodag).aodv.expiry = dodag.aodv.expiry
  p2pExpiry : ∀ dodag, (f dodag).p2p.expiry = dodag.p2p.expiry
  repair : ∀ dodag, (f dodag).globalRepairEvent = dodag.globalRepairEvent

/-- A temporary DODAG formed and configured is a root's temporary DODAG. -/
theorem touches_formed {n created rooted : Node} {instanceId : UInt8} {key own : DodagKey}
    {f : DodagMembership → DodagMembership}
    (creates : n.createLocalDodag instanceId mopP2pRouteDiscovery = some (own, created))
    (same : rooted.standing = created.standing) (configures : Configures f) :
    Touches key n.standing (rooted.modifyDodag own f).standing ∧
      ∃ member, (rooted.modifyDodag own f).standing.held[own]? = some member ∧
        member.place.isRoot = true ∧ member.place.isTemporary = true := by
  obtain ⟨absent, formed⟩ := standing_createLocalDodag creates
  have absentMember : n.standing.held[own]? = none := by
    rw [standing_held, absent, Option.map_none]
  have keyed : (n.rootMembership own mopP2pRouteDiscovery).key = own := rfl
  have root : (n.rootMembership own mopP2pRouteDiscovery).isRoot = true := rfl
  have temporary : (n.rootMembership own mopP2pRouteDiscovery).isTemporary = true := rfl
  have expires : (n.rootMembership own mopP2pRouteDiscovery).member.expires = false := rfl
  have heldFormed : rooted.standing.held[own]? =
      some (n.rootMembership own mopP2pRouteDiscovery).member := by
    rw [same, formed, Standing.create, Standing.claimBase_held, Standing.put_held,
      ExtTreeMap.getElem?_insert_self]
  obtain ⟨dodag, heldDodag, member⟩ := Option.map_eq_some_iff.mp
    ((standing_held rooted own).symm.trans heldFormed)
  have place : dodag.toDodagPlace = (n.rootMembership own mopP2pRouteDiscovery).toDodagPlace :=
    congrArg Member.place member
  have stillRoot : (f dodag).isRoot = true := by
    rw [configures.isRoot, place]
    exact root
  have stillTemporary : (f dodag).isTemporary = true := by
    rw [DodagPlace.isTemporary, configures.mop, place]
    exact temporary
  have stillKeyed : (f dodag).key = (n.rootMembership own mopP2pRouteDiscovery).key := by
    rw [configures.key, place]
  have configured : (rooted.modifyDodag own f).standing =
      rooted.standing.put own
        { (n.rootMembership own mopP2pRouteDiscovery).member with
          place := (f dodag).toDodagPlace } := by
    have written : rooted.modifyDodag own f = rooted.setDodag own (f dodag) := by
      rw [modifyDodag, OrderedMap.modify_of_held heldDodag, setDodag]
    rw [written, standing_setDodag, ← member]
    simp only [DodagMembership.member, configures.aodvExpiry, configures.p2pExpiry,
      configures.repair]
  refine ⟨?_, { (n.rootMembership own mopP2pRouteDiscovery).member with
    place := (f dodag).toDodagPlace }, ?_, stillRoot, stillTemporary⟩
  · rw [configured, same, formed]
    refine .head (.form absentMember root keyed temporary expires) (.single ?_)
    exact .configure (by rw [← formed, ← same]; exact heldFormed) root temporary stillRoot
      stillKeyed stillTemporary
  · rw [configured, Standing.put_held, ExtTreeMap.getElem?_insert_self]

/-- The rooting of an AODV-RPL instance, its deadline included. -/
theorem touches_rootedAodv {n created rooted : Node} {instanceId : UInt8} {key own : DodagKey}
    {f : DodagMembership → DodagMembership}
    (creates : n.createLocalDodag instanceId mopP2pRouteDiscovery = some (own, created))
    (same : rooted.standing = created.standing) (configures : Configures f) :
    Touches key n.standing ((rooted.modifyDodag own f).armAodvExpiry own).standing := by
  obtain ⟨formed, member, held, root, temporary⟩ := touches_formed creates same configures
  refine formed.trans ?_
  rcases (rooted.modifyDodag own f).standing_armAodvExpiry own with unarmed | ⟨-, armed⟩
  · rw [unarmed]
  · rw [armed]
    exact .single (.armOwn held root temporary)

/-- The rooting of a temporary DAG, its deadline included. -/
theorem touches_rootedP2p {n created : Node} {instanceId : UInt8} {key own : DodagKey}
    {f : DodagMembership → DodagMembership}
    (creates : n.createLocalDodag instanceId mopP2pRouteDiscovery = some (own, created))
    (configures : Configures f) :
    Touches key n.standing ((created.modifyDodag own f).armP2pExpiry own).standing := by
  obtain ⟨formed, member, held, root, temporary⟩ := touches_formed creates rfl configures
  refine formed.trans ?_
  rcases (created.modifyDodag own f).standing_armP2pExpiry own with unarmed | ⟨-, armed⟩
  · rw [unarmed]
  · rw [armed]
    exact .single (.armOwn held root temporary)

/-! ## Starting a discovery -/

variable {policy : Policy}

/-- A DODAG being formed is not held before, so that a discovery may act on it. -/
theorem edits_of_creates {n m created : Node} {instanceId mop : UInt8} {own : DodagKey}
    {after : Standing} (creates : m.createLocalDodag instanceId mop = some (own, created))
    (same : m.standing = n.standing)
    (touches : Touches own m.standing after) : Edits policy n.standing after := by
  rw [← same]
  refine touches.edits fun member held => ?_
  rw [standing_held, (standing_createLocalDodag creates).1] at held
  cases held

theorem edits_discoverRoute (n : Node) (target : Ipv6Address) (hopByHop : Bool) :
    Edits policy n.standing (n.discoverRoute target hopByHop).2.standing := by
  unfold discoverRoute
  dsimp only
  split
  · exact .refl
  split
  · exact .refl
  · split
    · exact .refl
    · next creates =>
      refine edits_of_creates creates rfl ?_
      exact touches_rootedAodv creates rfl ⟨fun _ => rfl, fun _ => rfl, fun _ => rfl,
        fun _ => rfl, fun _ => rfl, fun _ => rfl⟩

theorem edits_discoverP2pRoute (n : Node) (target : Ipv6Address) (hopByHop : Bool) :
    Edits policy n.standing (n.discoverP2pRoute target hopByHop).2.standing := by
  unfold discoverP2pRoute
  dsimp only
  split
  · exact .refl
  split
  · exact .refl
  · split
    · exact .refl
    · next creates =>
      refine edits_of_creates creates rfl ?_
      exact touches_rootedP2p creates ⟨fun _ => rfl, fun _ => rfl, fun _ => rfl, fun _ => rfl,
        fun _ => rfl, fun _ => rfl⟩

/-! ## AODV-RPL -/

/-- The discovery state of a membership replaced by one with the same deadline. -/
theorem standing_setAodv {n : Node} {key : DodagKey} {dodag : DodagMembership}
    {aodv : AodvRreqState} (held : n.dodags[key]? = some dodag)
    (sameExpiry : aodv.expiry = dodag.aodv.expiry) :
    (n.modifyAodv key fun _ => aodv).standing = n.standing := by
  refine standing_modifyDodag_held held ?_
  simp only [DodagMembership.member, sameExpiry]

theorem takeRreq_expiry (n : Node) (dodag : DodagMembership) (dio : DioHeader) :
    (n.takeRreq dodag dio).2.expiry = dodag.aodv.expiry := by
  unfold takeRreq matchTargets intersectTargets
  dsimp only
  split
  · rfl
  · rfl

theorem touches_extendVector (n : Node) (key : DodagKey) (addressVector : List Ipv6Address) :
    Touches key n.standing (n.extendVector key addressVector).2.standing := by
  unfold extendVector
  split
  · exact .refl
  · next dodag held =>
    dsimp only
    split
    · exact .refl
    split
    · rw [standing_leaveDodag]
      exact .single (.giveUp (held_member held))
    · rw [standing_modifyAodv]
      exact fun _ => rfl

theorem touches_routeRreq (n : Node) (key : DodagKey) (dio : DioHeader) (sender : Ipv6Address) :
    Touches key n.standing (n.routeRreq key dio sender).2.standing := by
  unfold routeRreq
  split
  · split
    · exact .refl
    · next stored stores =>
      dsimp only
      rw [standing_answerFromCache, standing_storeUpwardRoute stores]
  · exact touches_extendVector ..

theorem touches_startAodvRrepInstance (n : Node) (rreqDodag : DodagMembership)
    (rreqKey key : DodagKey) :
    Touches key n.standing (n.startAodvRrepInstance rreqDodag rreqKey).standing := by
  unfold startAodvRrepInstance
  dsimp only
  split
  · exact .refl
  split
  · exact .refl
  · split
    · exact .refl
    · next creates =>
      exact touches_rootedAodv creates rfl
        ⟨fun _ => rfl, fun _ => rfl, fun _ => rfl, fun _ => rfl, fun _ => rfl, fun _ => rfl⟩

theorem touches_sendAodvRrep (n : Node) (key : DodagKey) :
    Touches key n.standing (n.sendAodvRrep key).standing := by
  unfold sendAodvRrep
  split
  · exact .refl
  · split
    · exact touches_startAodvRrepInstance ..
    · dsimp only
      split
      · exact .refl
      split
      · exact .refl
      · rw [standing_sendAodvTo]
        exact .refl

/-- What follows the taking of an RREQ: the route of its kind is stored, and the reply sent. -/
theorem touches_afterRreq (n : Node) (key : DodagKey) (dio : DioHeader) (sender : Ipv6Address)
    (reached : Bool) :
    Touches key n.standing
      (if (n.routeRreq key dio sender).1 then
        if reached then ((n.routeRreq key dio sender).2.armAodvExpiry key).sendAodvRrep key
        else (n.routeRreq key dio sender).2.armAodvExpiry key
      else (n.routeRreq key dio sender).2).standing := by
  have routed := touches_routeRreq n key dio sender
  split
  · have armed := routed.trans (touches_armAodvExpiry _ key)
    split
    · exact armed.trans (touches_sendAodvRrep _ key)
    · exact armed
  · exact routed

theorem touches_handleAodvRreq (n : Node) (dio : DioHeader) (heard : Reception) :
    Touches dio.key n.standing (n.handleAodvRreq dio heard).standing := by
  unfold handleAodvRreq
  extract_lets key m
  have unbarred : m.standing = n.standing := rfl
  clear_value m
  rw [← unbarred]
  split
  · exact .refl
  · next dodag held =>
    split
    · exact .refl
    · have taken : Touches key m.standing
          ((m.modifyAodv key fun _ => (m.takeRreq dodag dio).2).armAodvExpiry key).standing := by
        conv_lhs => rw [← standing_setAodv held (m.takeRreq_expiry dodag dio)]
        exact touches_armAodvExpiry ..
      dsimp only
      refine taken.trans ?_
      generalize (m.modifyAodv key fun _ => (m.takeRreq dodag dio).2).armAodvExpiry key = armed
      split
      · exact touches_afterRreq (armed.log (.discoveryTargetReached key)) key dio heard.sender
          (m.takeRreq dodag dio).1
      · exact touches_afterRreq armed key dio heard.sender (m.takeRreq dodag dio).1

theorem touches_handleAodvRrepInstance (n : Node) (dio : DioHeader) (sender : Ipv6Address) :
    Touches dio.key n.standing (n.handleAodvRrepInstance dio sender).standing := by
  unfold handleAodvRrepInstance
  extract_lets key rrep m
  have unbarred : m.standing = n.standing := rfl
  clear_value m
  rw [← unbarred]
  split
  · exact .refl
  · next dodag held =>
    split
    · exact .refl
    · have taken : Touches key m.standing
          ((m.modifyAodv key fun _ => m.withRrep dio dodag.aodv).armAodvExpiry key).standing := by
        have same : (m.modifyAodv key fun _ => m.withRrep dio dodag.aodv).standing = m.standing :=
          standing_setAodv held rfl
        conv_lhs => rw [← same]
        exact touches_armAodvExpiry ..
      dsimp only
      generalize (m.modifyAodv key fun _ => m.withRrep dio dodag.aodv).armAodvExpiry key = armed
        at taken ⊢
      refine taken.trans ?_
      split
      · have same := armed.standing_storeHopByHopRoute
          ⟨(m.withRrep dio dodag.aodv).pairedInstanceId, (m.withRrep dio dodag.aodv).origNode⟩
          key.dodagId dodag.preferredParent armed.attributes.routeLifetime
          (some (m.withRrep dio dodag.aodv).origSeqNo) false
        split
        · exact .refl
        · next stored accepted =>
          rw [accepted] at same
          rw [← same]
          exact touches_armAodvExpiry ..
      · have extended := touches_extendVector armed key rrep.addressVector
        split
        · exact extended
        · have rearmed := extended.trans (touches_armAodvExpiry _ key)
          split
          · rw [standing_completeAsymmetricRoute]
            exact rearmed
          · exact rearmed

/-! ## P2P-RPL -/

theorem touches_takeP2pVector (n : Node) (key : DodagKey) (rdo : P2pRdoOption)
    (interface : Nat) : Touches key n.standing (n.takeP2pVector key rdo interface).2.standing := by
  unfold takeP2pVector
  split
  · exact .refl
  · next dodag held =>
    dsimp only
    split
    · exact .refl
    split
    · rw [standing_leaveDodag]
      exact .single (.giveUp (held_member held))
    · rw [standing_modifyP2p]
      exact fun _ => rfl

/-- What follows the taking of a P2P mode DIO: the address vector is taken, and a Target
answers. -/
theorem touches_afterP2pRdo (n : Node) (key : DodagKey) (rdo : P2pRdoOption) (interface : Nat) :
    Touches key n.standing
      (if (n.takeP2pVector key rdo interface).1 then
        ((n.takeP2pVector key rdo interface).2.armP2pExpiry key).replyAsTarget key
      else (n.takeP2pVector key rdo interface).2).standing := by
  have taken := touches_takeP2pVector n key rdo interface
  split
  · rw [standing_replyAsTarget]
    exact taken.trans (touches_armP2pExpiry _ key)
  · exact taken

theorem touches_handleP2pRdo (n : Node) (dio : DioHeader) (heard : Reception) :
    Touches dio.key n.standing (n.handleP2pRdo dio heard).standing := by
  unfold handleP2pRdo
  extract_lets key rdo
  split
  · exact .refl
  · next dodag held =>
    split
    · exact .refl
    · have recorded : (n.setDodag key (n.recordP2pRoutes dodag rdo heard)).standing = n.standing :=
        standing_setDodag_same held (n.recordP2pRoutes_member dodag rdo heard)
      have heldRecorded : (n.setDodag key (n.recordP2pRoutes dodag rdo heard)).dodags[key]? =
          some (n.recordP2pRoutes dodag rdo heard) := ExtTreeMap.getElem?_insert_self
      dsimp only
      generalize n.recordP2pRoutes dodag rdo heard = after at recorded heldRecorded ⊢
      generalize n.setDodag key after = m at recorded heldRecorded ⊢
      rw [← recorded]
      split
      · exact .refl
      · have taken : Touches key m.standing
            ((m.modifyP2p key fun _ => m.withP2pRdo dio after.p2p).armP2pExpiry key).standing := by
          have same : (m.modifyP2p key fun _ => m.withP2pRdo dio after.p2p).standing =
              m.standing := standing_modifyDodag_held heldRecorded rfl
          conv_lhs => rw [← same]
          exact touches_armP2pExpiry ..
        generalize (m.modifyP2p key fun _ => m.withP2pRdo dio after.p2p).armP2pExpiry key = armed
          at taken ⊢
        refine taken.trans ?_
        split
        · exact touches_afterP2pRdo (armed.log (.discoveryTargetReached key)) key rdo
            heard.interface
        · exact touches_afterP2pRdo armed key rdo heard.interface

/-! ## The discovery part of a DIO -/

theorem touches_handleDiscovery (n : Node) (dio : DioHeader) (heard : Reception) :
    Touches dio.key n.standing (n.handleDiscovery dio heard).standing := by
  unfold handleDiscovery
  extract_lets afterRreq afterRrep
  have rreq : Touches dio.key n.standing afterRreq.standing := by
    unfold afterRreq
    split
    · exact touches_handleAodvRreq ..
    · exact .refl
  have rrep : Touches dio.key afterRreq.standing afterRrep.standing := by
    unfold afterRrep
    split
    · exact touches_handleAodvRrepInstance ..
    · exact .refl
  refine (rreq.trans rrep).trans ?_
  split
  · exact touches_handleP2pRdo ..
  · exact .refl

end Node

end Rpl
