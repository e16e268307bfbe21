import Rpl.Turns

/-!
# How a stopped discovery is left before its deadline

The membership of a stopped discovery ends at its deadline, or before.  Before it, a
parent selection finds no neighbour any more, the deadline of an AODV-RPL discovery
under the same key passes, or the address vector of an RREQ or RREP is full.  Each of
these can be told from the event and the state it happens in.
-/

namespace Rpl

open Std

namespace DodagPlace

/-- `SelectPreferredParent` leaves the DODAG. -/
def losesLast (place : DodagPlace) (now : Time) : Bool :=
  let kept := place.sweep now fun _ => true
  kept.chooseParent.address.isAny && kept.selectionChanged kept.chooseParent

end DodagPlace

/-! ## Departures in a standing -/

namespace Standing

variable {s after : Standing} {key other : DodagKey}

/-- How often a membership under the key has ended. -/
def departures (s : Standing) (key : DodagKey) : Nat :=
  (s.history.filterMap Milestone.ended?).count key

/-- The selection under the key finds no neighbour to be a parent. -/
def LosesLast (s : Standing) (key : DodagKey) : Prop :=
  ∃ member, s.held[key]? = some member ∧ member.place.isRoot = false ∧
    member.place.losesLast s.now = true

theorem departures_of_history (same : after.history = s.history) :
    after.departures key = s.departures key := by
  rw [departures, same, departures]

theorem departures_mark {milestone : Milestone} (lasts : milestone.ended? = none) :
    (s.mark milestone).departures key = s.departures key := by
  rw [departures, mark_history, List.filterMap_cons_none lasts, departures]

/-- A leave is no departure of another DODAG. -/
theorem departures_leave_of_ne (different : other ≠ key) (poison : Bool) :
    (s.leave other poison).departures key = s.departures key := by
  unfold leave
  split
  · rfl
  · next member _ =>
    have isEnded : (Milestone.left other s.now member.place.imax).ended? = some other := rfl
    have counted : ((Milestone.left other s.now member.place.imax :: s.history).filterMap
        Milestone.ended?).count key = s.departures key := by
      rw [List.filterMap_cons_some isEnded, List.count_cons_of_ne different, departures]
    dsimp only
    split
    · exact counted
    · exact counted

theorem departures_join {place : DodagPlace} :
    (s.join other place).departures key = s.departures key := by
  rw [departures, join, claimBase_history, mark_history, List.filterMap_cons_none rfl, put_history,
    departures]

/-- A selection leaves another DODAG where it is. -/
theorem departures_select_of_ne (different : other ≠ key) :
    (s.select other).departures key = s.departures key := by
  unfold select
  split
  · rfl
  · split
    · rfl
    · dsimp only
      split
      · rfl
      split
      · exact departures_leave_of_ne different true
      · exact departures_mark rfl

theorem held_select_of_ne (different : key ≠ other) :
    (s.select other).held[key]? = s.held[key]? := by
  have putSame (member : Member) : (s.put other member).held[key]? = s.held[key]? := by
    rw [held_put, if_neg different]
  unfold select
  split
  · rfl
  · split
    · rfl
    · dsimp only
      split
      · exact putSame _
      split
      · rw [held_leave, if_neg different, putSame]
      · exact putSame _

theorem now_select : (s.select key).now = s.now := by
  unfold select
  split
  · rfl
  · split
    · rfl
    · dsimp only
      split
      · rfl
      split
      · unfold leave
        split
        · rfl
        · dsimp only
          split
          · rfl
          · rfl
      · rfl

/-- A selection leaves the DODAG it is for where there is no neighbour to choose. -/
theorem losesLast_of_select (departs : (s.select key).departures key ≠ s.departures key) :
    s.LosesLast key := by
  unfold select at departs
  split at departs
  · exact absurd rfl departs
  · next member held =>
    split at departs
    · exact absurd rfl departs
    · next notRoot =>
      dsimp only at departs
      split at departs
      · exact absurd rfl departs
      next changed =>
      split at departs
      · next gone =>
        rw [Bool.not_eq_true', Bool.not_eq_false] at changed
        exact ⟨member, held, Bool.eq_false_iff.mpr notRoot,
          Bool.and_eq_true_iff.mpr ⟨gone, changed⟩⟩
      · exact absurd (departures_mark rfl) departs

/-- A discovery acts on other DODAGs than its own only by rooting them. -/
theorem departures_touches (different : other ≠ key) (touches : Touches other s after) :
    after.departures key = s.departures key := by
  induction touches with
  | refl => rfl
  | tail _ touch ih =>
    rw [← ih]
    cases touch with
    | giveUp _ => exact departures_leave_of_ne different false
    | form _ _ _ _ _ => exact departures_of_history (claimBase_history ..)
    | arm _ => rfl
    | configure _ _ _ _ _ _ => rfl
    | armOwn _ _ _ => rfl

end Standing

/-! ## Departures of a node -/

namespace Node

variable {n m : Node} {e : Event} {key other : DodagKey} {dodag : DodagMembership}
  {dio : DioHeader} {heard : Reception} {interface : Nat}

theorem departures_eq (n : Node) (key : DodagKey) :
    n.departures key = n.standing.departures key := rfl

theorem departures_of_standing (same : m.standing = n.standing) :
    m.departures key = n.departures key := by
  rw [departures_eq, departures_eq, same]

/-- `SelectPreferredParent` at the node leaves the DODAG. -/
def LosesLast (n : Node) (key : DodagKey) : Prop :=
  ∃ dodag, n.dodags[key]? = some dodag ∧ dodag.isRoot = false ∧ dodag.losesLast n.now = true

theorem losesLast_of_standing (loses : n.standing.LosesLast key) : n.LosesLast key := by
  obtain ⟨member, held, notRoot, loses⟩ := loses
  rw [standing_held, Option.map_eq_some_iff] at held
  obtain ⟨dodag, held, rfl⟩ := held
  exact ⟨dodag, held, notRoot, loses⟩

/-- A DIO that withdraws its sender gets as far as that. -/
def takesPoison (n : Node) (dio : DioHeader) (heard : Reception) : Bool :=
  heard.sender ≠ n.ipv6.getLinkLocalAddress heard.interface &&
    !n.dropsDio dio heard.sender && !(dio.rrep.isSome && !heard.toMulticast) &&
    !n.refusesDiscovery dio && dio.rank = infiniteRank

/-- The place without a neighbour. -/
def withoutNeighbour (sender : Ipv6Address) (place : DodagPlace) : DodagPlace :=
  { place with parents := place.parents.erase sender }

/-- The place without the neighbours heard on an interface. -/
def withoutInterface (interface : Nat) (place : DodagPlace) : DodagPlace :=
  { place with
    parents := OrderedMap.eraseIf (fun _ parent => parent.interface = interface) place.parents }

/-! ### Address vectors -/

/-- The address the node would add to an address vector, where it is in the DODAG. -/
def addressUnder (n : Node) (key : DodagKey) : Option Ipv6Address :=
  (n.dodags[key]?).map n.getGlobalAddressIn

/-- An RREQ or RREP with a source route is heeded, and its address vector has no place left for
the node's own address. -/
inductive Overflows (m : Node) (dio : DioHeader) (heard : Reception) : Prop
  | rreq {dodag : DodagMembership} (rreq : dio.rreq.isSome = true)
      (held : m.dodags[dio.key]? = some dodag) (heeds : m.ignoresRreq dodag dio heard = false)
      (sourceRouted : dio.getRreq.hopByHop = false)
      (named : (m.getGlobalAddressIn dodag).isAny = false)
      (full : aodvAddressVectorMaxEntries ≤ dio.getRreq.addressVector.length) :
      Overflows m dio heard
  | rrep {dodag : DodagMembership} (rrep : dio.rrep.isSome = true)
      (held : m.dodags[dio.key]? = some dodag)
      (heeds : m.ignoresRrepInstance dodag dio heard.sender = false)
      (sourceRouted : dio.getRrep.hopByHop = false)
      (named : (m.getGlobalAddressIn dodag).isAny = false)
      (full : aodvAddressVectorMaxEntries ≤ dio.getRrep.addressVector.length) :
      Overflows m dio heard

theorem addressUnder_modifyAodv (f : AodvRreqState → AodvRreqState) :
    (n.modifyAodv key f).addressUnder key = n.addressUnder key := by
  cases held : n.dodags[key]? with
  | none => rw [modifyAodv, modifyDodag_of_absent held]
  | some dodag =>
    have written : (n.modifyAodv key f).dodags[key]? =
        some { dodag with aodv := f dodag.aodv } := by
      rw [modifyAodv, setDodag_of_held held]
      exact ExtTreeMap.getElem?_insert_self
    rw [addressUnder, addressUnder, written, held]
    rfl

theorem addressUnder_armAodvExpiry :
    (n.armAodvExpiry key).addressUnder key = n.addressUnder key := by
  unfold armAodvExpiry
  split
  · rfl
  · dsimp only
    split
    · rfl
    · exact addressUnder_modifyAodv fun aodv => { aodv with expiry := _ }

/-- What a discovery writes down of an RREQ or RREP is not where the node is. -/
theorem addressUnder_written (held : n.dodags[key]? = some dodag)
    (f : AodvRreqState → AodvRreqState) :
    ((n.modifyAodv key f).armAodvExpiry key).addressUnder key =
      some (n.getGlobalAddressIn dodag) := by
  rw [addressUnder_armAodvExpiry, addressUnder_modifyAodv, addressUnder, held, Option.map_some]

theorem departures_armAodvExpiry :
    (n.armAodvExpiry other).departures key = n.departures key := by
  rcases n.standing_armAodvExpiry other with same | ⟨-, armed⟩
  · exact departures_of_standing same
  · rw [departures_eq, armed]
    rfl

/-- An address vector is full, and there is an address to add to it. -/
def FullVector (m : Node) (key : DodagKey) (addressVector : List Ipv6Address) : Prop :=
  (∀ own, m.addressUnder key = some own → own.isAny = false) ∧
    aodvAddressVectorMaxEntries ≤ addressVector.length

theorem fullVector_of_extendVector {addressVector : List Ipv6Address}
    (departs : (m.extendVector key addressVector).2.departures key ≠ m.departures key) :
    m.FullVector key addressVector := by
  unfold extendVector at departs
  split at departs
  · exact absurd rfl departs
  · next dodag held =>
    dsimp only at departs
    split at departs
    · exact absurd rfl departs
    next named =>
    split at departs
    · next full =>
      refine ⟨fun own isOwn => ?_, full⟩
      rw [addressUnder, held] at isOwn
      cases isOwn
      exact Bool.eq_false_iff.mpr named
    · exact absurd rfl departs

theorem departures_sendAodvRrep : (m.sendAodvRrep other).departures key = m.departures key := by
  -- the DODAG it may root is no other than itself
  have different : ∃ elsewhere : DodagKey, elsewhere ≠ key := by
    by_cases zero : key.instanceId = 0
    · refine ⟨⟨1, key.dodagId⟩, fun same => ?_⟩
      rw [← same] at zero
      have oneIsZero : (1 : UInt8) = 0 := zero
      exact absurd oneIsZero (by decide)
    · exact ⟨⟨0, key.dodagId⟩, fun same => zero (by rw [← same])⟩
  obtain ⟨elsewhere, different⟩ := different
  unfold sendAodvRrep
  split
  · rfl
  · split
    · exact Standing.departures_touches different (touches_startAodvRrepInstance _ _ _ elsewhere)
    · dsimp only
      split
      · rfl
      split
      · rfl
      · rw [departures_eq, standing_sendAodvTo]
        rfl

/-- What follows the taking of an RREQ leaves the DODAG over a full address vector only. -/
theorem fullVector_of_afterRreq {reached : Bool}
    (departs : (if (m.routeRreq key dio heard.sender).1 then
        if reached then ((m.routeRreq key dio heard.sender).2.armAodvExpiry key).sendAodvRrep key
        else (m.routeRreq key dio heard.sender).2.armAodvExpiry key
      else (m.routeRreq key dio heard.sender).2).departures key ≠ m.departures key) :
    dio.getRreq.hopByHop = false ∧ m.FullVector key dio.getRreq.addressVector := by
  have routed : (m.routeRreq key dio heard.sender).2.departures key ≠ m.departures key := by
    split at departs
    · split at departs
      · rwa [departures_sendAodvRrep, departures_armAodvExpiry] at departs
      · rwa [departures_armAodvExpiry] at departs
    · exact departs
  unfold routeRreq at routed
  split at routed
  · split at routed
    · exact absurd rfl routed
    · next stored stores =>
      refine absurd (departures_of_standing ?_) routed
      rw [standing_answerFromCache, standing_storeUpwardRoute stores]
  · next sourceRouted =>
    exact ⟨Bool.eq_false_iff.mpr sourceRouted, fullVector_of_extendVector routed⟩

theorem overflows_of_handleAodvRreq (rreq : dio.rreq.isSome = true)
    (departs : (m.handleAodvRreq dio heard).departures dio.key ≠ m.departures dio.key) :
    m.Overflows dio heard := by
  unfold handleAodvRreq at departs
  extract_lets key lifted at departs
  have ignores : lifted.ignoresRreq = m.ignoresRreq := rfl
  have sameDodags : lifted.dodags = m.dodags := rfl
  have sameAddresses : lifted.getGlobalAddressIn = m.getGlobalAddressIn := rfl
  have lifts : lifted.departures dio.key = m.departures dio.key := rfl
  clear_value lifted
  rw [sameDodags, ignores] at departs
  split at departs
  · exact absurd lifts departs
  · next dodag held =>
    split at departs
    · exact absurd lifts departs
    next heeds =>
    dsimp only at departs
    have taken : ((lifted.modifyAodv key fun _ => (lifted.takeRreq dodag dio).2).armAodvExpiry
        key).departures dio.key = m.departures dio.key :=
      departures_armAodvExpiry.trans lifts
    have address : ((lifted.modifyAodv key fun _ => (lifted.takeRreq dodag dio).2).armAodvExpiry
        key).addressUnder key = some (m.getGlobalAddressIn dodag) := by
      rw [addressUnder_written (by rw [sameDodags]; exact held), sameAddresses]
    generalize (lifted.modifyAodv key fun _ => (lifted.takeRreq dodag dio).2).armAodvExpiry key =
      armed at departs taken address
    have full : dio.getRreq.hopByHop = false ∧ armed.FullVector key dio.getRreq.addressVector := by
      rw [← taken] at departs
      split at departs
      · have logged := @fullVector_of_afterRreq (armed.log (.discoveryTargetReached key)) key dio
          heard _ departs
        exact logged
      · exact fullVector_of_afterRreq departs
    exact .rreq rreq held (Bool.eq_false_iff.mpr heeds) full.1 (full.2.1 _ address) full.2.2

theorem overflows_of_handleAodvRrepInstance (rrep : dio.rrep.isSome = true)
    (departs : (m.handleAodvRrepInstance dio heard.sender).departures dio.key ≠
      m.departures dio.key) : m.Overflows dio heard := by
  unfold handleAodvRrepInstance at departs
  extract_lets key option lifted at departs
  have ignores : lifted.ignoresRrepInstance = m.ignoresRrepInstance := rfl
  have sameDodags : lifted.dodags = m.dodags := rfl
  have sameAddresses : lifted.getGlobalAddressIn = m.getGlobalAddressIn := rfl
  have lifts : lifted.departures dio.key = m.departures dio.key := rfl
  clear_value lifted
  rw [sameDodags, ignores] at departs
  split at departs
  · exact absurd lifts departs
  · next dodag held =>
    split at departs
    · exact absurd lifts departs
    next heeds =>
    dsimp only at departs
    have taken : ((lifted.modifyAodv key fun _ => lifted.withRrep dio dodag.aodv).armAodvExpiry
        key).departures dio.key = m.departures dio.key :=
      departures_armAodvExpiry.trans lifts
    have address : ((lifted.modifyAodv key fun _ => lifted.withRrep dio dodag.aodv).armAodvExpiry
        key).addressUnder key = some (m.getGlobalAddressIn dodag) := by
      rw [addressUnder_written (by rw [sameDodags]; exact held), sameAddresses]
    generalize (lifted.modifyAodv key fun _ => lifted.withRrep dio dodag.aodv).armAodvExpiry key =
      armed at departs taken address
    rw [← taken] at departs
    split at departs
    · have stores := armed.standing_storeHopByHopRoute
        ⟨(lifted.withRrep dio dodag.aodv).pairedInstanceId,
          (lifted.withRrep dio dodag.aodv).origNode⟩
        key.dodagId dodag.preferredParent armed.attributes.routeLifetime
        (some (lifted.withRrep dio dodag.aodv).origSeqNo) false
      split at departs
      · exact absurd rfl departs
      · next stored accepted =>
        rw [accepted] at stores
        exact absurd (departures_armAodvExpiry.trans (departures_of_standing stores)) departs
    · next sourceRouted =>
      have extends_ : (armed.extendVector key option.addressVector).2.departures key ≠
          armed.departures key := by
        split at departs
        · exact departs
        · split at departs
          · rwa [departures_of_standing (standing_completeAsymmetricRoute ..),
              departures_armAodvExpiry] at departs
          · rwa [departures_armAodvExpiry] at departs
      have full := fullVector_of_extendVector extends_
      exact .rrep rrep held (Bool.eq_false_iff.mpr heeds) (Bool.eq_false_iff.mpr sourceRouted)
        (full.1 _ address) full.2

/-- The discovery part of a DIO that is no P2P mode DIO leaves the DODAG over a full address
vector only. -/
theorem overflows_of_handleDiscovery (takes : n.Takes e dio heard)
    (noRdo : dio.p2pRdo.isSome = false)
    (departs : (m.handleDiscovery dio heard).departures dio.key ≠ m.departures dio.key) :
    m.Overflows dio heard := by
  cases holds : m.holds dio.key with
  | false =>
    refine absurd (congrArg (Node.departures · dio.key) ?_) departs
    simp only [handleDiscovery, holds, Bool.and_false, Bool.false_eq_true, if_false]
  | true =>
    cases rreq : dio.rreq.isSome with
    | true =>
      rw [handleDiscovery_of_rreq takes rreq holds] at departs
      exact overflows_of_handleAodvRreq rreq departs
    | false =>
      cases rrep : dio.rrep.isSome with
      | true =>
        rw [handleDiscovery_of_rrep takes rrep holds] at departs
        exact overflows_of_handleAodvRrepInstance rrep departs
      | false =>
        refine absurd (congrArg (Node.departures · dio.key) ?_) departs
        simp only [handleDiscovery, rreq, rrep, noRdo, Bool.false_and, Bool.false_eq_true,
          if_false]

/-! ### The parent selection -/

/-- Entering a Version leaves no temporary DODAG. -/
theorem departures_enterVersion (enters : n.enterVersion dio interface = some m)
    (held : n.dodags[key]? = some dodag) (temporary : dodag.isTemporary = true) :
    m.departures key = n.departures key := by
  unfold enterVersion at enters
  split at enters
  · split at enters
    · cases enters
    · cases enters
      rw [departures_eq, standing_joinDodag, Standing.departures_join, departures_eq]
  · next present heldPresent =>
    split at enters
    · cases enters
      rfl
    split at enters
    · cases enters
      cases newer : sequenceNewer dio.version present.version with
      | false => rw [adoptVersion, newer, if_neg Bool.false_ne_true]
      | true =>
        rw [departures_eq, standing_adoptVersion heldPresent newer]
        exact Standing.departures_mark rfl
    next lasting =>
    split at enters
    · cases enters
      have different : dio.key ≠ key := by
        rintro rfl
        cases held.symm.trans heldPresent
        exact lasting temporary
      rw [departures_eq, standing_joinDodag, Standing.departures_join, standing_leaveDodag]
      exact Standing.departures_leave_of_ne different false
    · cases enters

theorem losesLast_of_handlePoison {sender : Ipv6Address}
    (departs : (n.handlePoison other sender).departures key ≠ n.departures key) :
    other = key ∧ (n.modifyPlace key (withoutNeighbour sender)).LosesLast key := by
  unfold handlePoison at departs
  split at departs
  · exact absurd rfl departs
  · next dodag _ =>
    dsimp only at departs
    have selects : (((if sender = dodag.preferredParent then n.sendNoPathDao other sender
        else n).modifyPlace other (withoutNeighbour sender)).selectAndReset other).standing =
        (n.modifyPlace other (withoutNeighbour sender)).standing.select other := by
      rw [standing_selectAndReset, standing_modifyPlace, standing_modifyPlace]
      split
      · rw [standing_sendNoPathDao]
      · rfl
    change (((if sender = dodag.preferredParent then n.sendNoPathDao other sender
        else n).modifyPlace other (withoutNeighbour sender)).selectAndReset other).departures key ≠
      n.departures key at departs
    rw [departures_eq, selects] at departs
    by_cases keyed : other = key
    · subst keyed
      exact ⟨rfl, losesLast_of_standing (Standing.losesLast_of_select departs)⟩
    · exact absurd (Standing.departures_select_of_ne keyed) departs

theorem standing_stopInterfaceIn (interface : Nat) (m : Node) (key : DodagKey) :
    (stopInterfaceIn interface m key).standing =
      (m.modifyPlace key (withoutInterface interface)).standing.select key := by
  rw [stopInterfaceIn, standing_selectAndReset]
  rfl

theorem held_stopInterfaceIn_of_ne (different : key ≠ other) :
    (stopInterfaceIn interface m other).standing.held[key]? = m.standing.held[key]? := by
  rw [standing_stopInterfaceIn, Standing.held_select_of_ne different, standing_modifyPlace,
    Standing.modify, OrderedMap.getElem?_modify_eq, if_neg different]

theorem departures_stopInterfaceIn_of_ne (different : other ≠ key) :
    (stopInterfaceIn interface m other).departures key = m.departures key := by
  rw [departures_eq, standing_stopInterfaceIn, Standing.departures_select_of_ne different]
  rfl

theorem now_stopInterfaceIn :
    (stopInterfaceIn interface m other).standing.now = m.standing.now := by
  rw [standing_stopInterfaceIn, Standing.now_select]
  rfl

/-- What a membership loses with an interface depends on nothing else the node holds. -/
theorem losesLast_withoutInterface
    (sameHeld : m.standing.held[key]? = n.standing.held[key]?)
    (sameNow : m.standing.now = n.standing.now)
    (loses : (m.modifyPlace key (withoutInterface interface)).standing.LosesLast key) :
    (n.modifyPlace key (withoutInterface interface)).LosesLast key := by
  have heldAt (n : Node) : (n.modifyPlace key (withoutInterface interface)).standing.held[key]? =
      (n.standing.held[key]?).map fun member =>
        { member with place := withoutInterface interface member.place } := by
    rw [standing_modifyPlace, Standing.modify, OrderedMap.getElem?_modify_eq, if_pos rfl]
  obtain ⟨member, held, notRoot, loses⟩ := loses
  refine losesLast_of_standing ⟨member, ?_, notRoot, ?_⟩
  · rw [heldAt, ← sameHeld, ← heldAt, held]
  · have now : (m.modifyPlace key (withoutInterface interface)).standing.now =
        (n.modifyPlace key (withoutInterface interface)).standing.now := sameNow
    rw [← now]
    exact loses

theorem departures_stops_of_not_mem {keys : List DodagKey} (absent : key ∉ keys) :
    (keys.foldl (stopInterfaceIn interface) m).departures key = m.departures key := by
  induction keys generalizing m with
  | nil => rfl
  | cons other rest ih =>
    rw [List.mem_cons, not_or] at absent
    rw [List.foldl_cons, ih absent.2, departures_stopInterfaceIn_of_ne (Ne.symm absent.1)]

/-- A membership that ends as an interface stops has lost its last neighbour with it. -/
theorem losesLast_of_stops (keys : List DodagKey) (distinct : keys.Nodup) :
    ∀ m : Node, m.standing.held[key]? = n.standing.held[key]? →
      m.standing.now = n.standing.now →
      (keys.foldl (stopInterfaceIn interface) m).departures key ≠ m.departures key →
      (n.modifyPlace key (withoutInterface interface)).LosesLast key := by
  induction keys with
  | nil => exact fun m _ _ departs => absurd rfl departs
  | cons other rest ih =>
    intro m sameHeld sameNow departs
    obtain ⟨new, distinct⟩ := List.nodup_cons.mp distinct
    rw [List.foldl_cons] at departs
    by_cases keyed : other = key
    · subst keyed
      rw [departures_stops_of_not_mem new, departures_eq, standing_stopInterfaceIn] at departs
      exact losesLast_withoutInterface sameHeld sameNow (Standing.losesLast_of_select departs)
    · refine ih distinct (stopInterfaceIn interface m other) ?_ ?_ ?_
      · rw [held_stopInterfaceIn_of_ne (Ne.symm keyed), sameHeld]
      · rw [now_stopInterfaceIn, sameNow]
      · rwa [departures_stopInterfaceIn_of_ne keyed]

/-! ## What ends the membership early -/

/-- The event ends the membership of a stopped discovery, and not by its deadline. -/
inductive LeavesEarly (n : Node) (key : DodagKey) : Event → Prop
  /-- A DIO leaves no neighbour to choose. -/
  | heard {heard : Reception} {dio : DioHeader} {entered : Node}
      (takes : n.takesDio dio heard = true) (keyed : dio.key = key)
      (enters : n.enterVersion dio heard.interface = some entered)
      (loses : (entered.updateParent dio heard).LosesLast key) :
      LeavesEarly n key (.receive heard (.dio dio))
  /-- The last neighbour withdraws. -/
  | poisoned {heard : Reception} {dio : DioHeader} (takes : n.takesPoison dio heard = true)
      (keyed : dio.key = key)
      (loses : (n.modifyPlace key (withoutNeighbour heard.sender)).LosesLast key) :
      LeavesEarly n key (.receive heard (.dio dio))
  /-- The Trickle timer transmits, and every neighbour has become stale. -/
  | trickled (loses : n.LosesLast key) : LeavesEarly n key (.fire (.trickleTransmit key))
  /-- The interface of the last neighbour stops. -/
  | stopped {interface : Nat} (runs : interface ∈ n.sockets)
      (loses : (n.modifyPlace key (withoutInterface interface)).LosesLast key) :
      LeavesEarly n key (.stopInterface interface)
  /-- The deadline of an AODV-RPL discovery has passed. -/
  | expired : LeavesEarly n key (.fire (.aodvExpiry key))
  /-- The address vector of an RREQ or RREP is full. -/
  | overflowed {heard : Reception} {dio : DioHeader} {before : Node}
      (takes : n.takesDio dio heard = true) (keyed : dio.key = key)
      (handles : n.beforeDiscovery dio heard = some before)
      (overflows : before.Overflows dio heard) : LeavesEarly n key (.receive heard (.dio dio))

theorem leavesEarly_of_takes (takes : n.Takes (.receive heard (.dio dio)) dio heard)
    (held : n.dodags[key]? = some dodag) (temporary : dodag.isTemporary = true)
    (noRdo : dio.key = key → dio.p2pRdo.isSome = false)
    (departs : (n.apply (.receive heard (.dio dio))).departures key ≠ n.departures key) :
    n.LeavesEarly key (.receive heard (.dio dio)) := by
  cases enters : n.enterVersion dio heard.interface with
  | none =>
    rw [takes.apply_eq, enters] at departs
    exact absurd rfl departs
  | some entered =>
    have handles : n.beforeDiscovery dio heard =
        some ((entered.updateParent dio heard).selectAfterDio dio heard.sender) := by
      rw [beforeDiscovery, enters, Option.map_some]
    have updated : (entered.updateParent dio heard).departures key = n.departures key := by
      rw [departures_eq, standing_updateParent]
      exact departures_enterVersion enters held temporary
    have selects := standing_selectAfterDio (entered.updateParent dio heard) dio heard.sender
    rw [takes.apply_eq_handleDiscovery handles] at departs
    generalize (entered.updateParent dio heard).selectAfterDio dio heard.sender = before
      at handles selects departs
    by_cases keyed : dio.key = key
    · subst keyed
      by_cases stays : before.departures dio.key = n.departures dio.key
      · rw [← stays] at departs
        exact .overflowed takes.takes rfl handles
          (overflows_of_handleDiscovery takes (noRdo rfl) departs)
      · refine .heard takes.takes rfl enters
          (losesLast_of_standing (Standing.losesLast_of_select ?_))
        rwa [← selects, ← departures_eq, ← departures_eq, updated]
    · have selected : before.departures key = n.departures key := by
        rw [departures_eq, selects, Standing.departures_select_of_ne keyed, ← departures_eq,
          updated]
      have discovered : (before.handleDiscovery dio heard).departures key =
          before.departures key :=
        Standing.departures_touches keyed (touches_handleDiscovery before dio heard)
      exact absurd (discovered.trans selected) departs

theorem leavesEarly_of_dio (held : n.dodags[key]? = some dodag)
    (temporary : dodag.isTemporary = true)
    (noRdo : n.Takes (.receive heard (.dio dio)) dio heard → dio.key = key →
      dio.p2pRdo.isSome = false)
    (departs : (n.apply (.receive heard (.dio dio))).departures key ≠ n.departures key) :
    n.LeavesEarly key (.receive heard (.dio dio)) := by
  by_cases taken : n.takesDio dio heard = true
  · exact leavesEarly_of_takes ⟨rfl, taken⟩ held temporary (noRdo ⟨rfl, taken⟩) departs
  · unfold apply recvRpl at departs
    dsimp only at departs
    split at departs
    · exact absurd rfl departs
    next foreign =>
    unfold handleDio at departs
    split at departs
    · exact absurd rfl departs
    next kept =>
    split at departs
    · exact absurd (departures_of_standing (standing_handleAodvRrep ..)) departs
    next multicast =>
    split at departs
    · exact absurd rfl departs
    next welcome =>
    have accepted : decide (heard.sender ≠ n.ipv6.getLinkLocalAddress heard.interface) = true ∧
        (!n.dropsDio dio heard.sender) = true ∧
        (!(dio.rrep.isSome && !heard.toMulticast)) = true ∧
        (!n.refusesDiscovery dio) = true :=
      ⟨decide_eq_true foreign, by rw [Bool.eq_false_iff.mpr kept]; rfl,
        by rw [Bool.eq_false_iff.mpr multicast]; rfl, by rw [Bool.eq_false_iff.mpr welcome]; rfl⟩
    obtain ⟨fromOther, reads, spreads, welcomes⟩ := accepted
    split at departs
    · next infinite =>
      obtain ⟨keyed, loses⟩ := losesLast_of_handlePoison departs
      refine .poisoned ?_ keyed loses
      rw [takesPoison, fromOther, reads, spreads, welcomes, decide_eq_true infinite]
      rfl
    · next finite =>
      refine absurd ?_ taken
      rw [takesDio, fromOther, reads, spreads, welcomes, decide_eq_true finite]
      rfl

theorem departures_of_creates {created after : Node} {instanceId mop : UInt8} {own : DodagKey}
    (held : n.dodags[key]? = some dodag)
    (creates : m.createLocalDodag instanceId mop = some (own, created))
    (same : m.standing = n.standing) (touches : Touches own m.standing after.standing) :
    after.departures key = n.departures key := by
  rw [same] at touches
  refine Standing.departures_touches ?_ touches
  rintro rfl
  have absent : m.standing.held[own]? = none := by
    rw [standing_held, (standing_createLocalDodag creates).1, Option.map_none]
  rw [same, held_member held] at absent
  cases absent

theorem departures_discoverRoute (held : n.dodags[key]? = some dodag) (target : Ipv6Address)
    (hopByHop : Bool) : (n.discoverRoute target hopByHop).2.departures key = n.departures key := by
  unfold discoverRoute
  dsimp only
  split
  · rfl
  split
  · rfl
  · split
    · rfl
    · next creates =>
      refine departures_of_creates held creates rfl ?_
      exact touches_rootedAodv creates rfl ⟨fun _ => rfl, fun _ => rfl, fun _ => rfl,
        fun _ => rfl, fun _ => rfl, fun _ => rfl⟩

theorem departures_discoverP2pRoute (held : n.dodags[key]? = some dodag) (target : Ipv6Address)
    (hopByHop : Bool) :
    (n.discoverP2pRoute target hopByHop).2.departures key = n.departures key := by
  unfold discoverP2pRoute
  dsimp only
  split
  · rfl
  split
  · rfl
  · split
    · rfl
    · next creates =>
      refine departures_of_creates held creates rfl ?_
      exact touches_rootedP2p creates ⟨fun _ => rfl, fun _ => rfl, fun _ => rfl, fun _ => rfl,
        fun _ => rfl, fun _ => rfl⟩

/-- Only DIOs have to do with where the node stands. -/
theorem standing_receive {message : RplMessage} (other : ∀ dio, message ≠ .dio dio) :
    (n.apply (.receive heard message)).standing = n.standing := by
  change (n.recvRpl heard message).standing = n.standing
  unfold recvRpl
  split
  · rfl
  · cases message with
    | dis => exact standing_handleDis ..
    | dio dio => exact absurd rfl (other dio)
    | dao dao => exact standing_handleDao ..
    | daoAck ack => exact standing_handleDaoAck ..
    | p2pDro dro => exact standing_handleP2pDro ..
    | p2pDroAck ack => exact standing_handleP2pDroAck ..

theorem leavesEarly_of_fire {timer : TimerName}
    (departs : (n.fire timer).departures key ≠ n.departures key) :
    timer = .p2pExpiry key ∨ n.LeavesEarly key (.fire timer) := by
  have quiet (same : (n.fire timer).standing = n.standing) :
      timer = .p2pExpiry key ∨ n.LeavesEarly key (.fire timer) :=
    absurd (departures_of_standing same) departs
  cases timer with
  | dis => exact quiet (standing_disTimerExpire _)
  | firstSolicitation => exact quiet (standing_disTimerExpire _)
  | trickleInterval other => exact quiet (standing_trickleInterval ..)
  | dao other =>
    refine quiet ?_
    rw [fire, standing_daoEventFire, standing_modifyDodag_same]
    exact fun _ => rfl
  | daoRetry other =>
    refine quiet ?_
    rw [fire, standing_daoRetry, standing_modifyDodag_same]
    exact fun _ => rfl
  | droRetry other =>
    refine quiet ?_
    rw [fire, standing_p2pDroRetry, standing_modifyP2p]
    exact fun _ => rfl
  | droCollect other =>
    refine quiet ?_
    rw [fire, standing_p2pDroCollectExpire, standing_modifyP2p]
    exact fun _ => rfl
  | globalRepair other => exact absurd rfl departs
  | trickleTransmit other =>
    have same : (n.modifyDodag other fun dodag =>
        { dodag with dioTrickle := dodag.dioTrickle.transmitEvent }).standing = n.standing :=
      standing_modifyDodag_same fun _ => rfl
    change (n.trickleTransmit other).departures key ≠ _ at departs
    unfold trickleTransmit at departs
    split at departs
    · exact absurd rfl departs
    dsimp only at departs
    split at departs
    · rw [departures_eq, standing_dioTrickleFire, same] at departs
      by_cases keyed : other = key
      · subst keyed
        exact .inr (.trickled (losesLast_of_standing (Standing.losesLast_of_select departs)))
      · exact absurd (Standing.departures_select_of_ne keyed) departs
    · exact absurd (departures_of_standing same) departs
  | aodvExpiry other =>
    by_cases keyed : other = key
    · subst keyed
      exact .inr .expired
    · refine absurd ?_ departs
      rw [fire, aodvInstanceExpired, departures_eq, standing_leaveDodag,
        Standing.departures_leave_of_ne keyed]
      rfl
  | p2pExpiry other =>
    by_cases keyed : other = key
    · exact .inl (congrArg TimerName.p2pExpiry keyed)
    · refine absurd ?_ departs
      rw [fire]
      unfold p2pInstanceExpired
      split
      · rfl
      · dsimp only
        rw [departures_eq, standing_leaveDodag, Standing.departures_leave_of_ne keyed]
        rfl

/-- The membership of a stopped discovery ends at its deadline, or early. -/
theorem leavesEarly_of_departs (held : n.dodags[key]? = some dodag)
    (temporary : dodag.isTemporary = true)
    (noRdo : ∀ dio heard, n.Takes e dio heard → dio.key = key → dio.p2pRdo.isSome = false)
    (departs : (n.apply e).departures key ≠ n.departures key) :
    e = .fire (.p2pExpiry key) ∨ n.LeavesEarly key e := by
  have quiet (same : (n.apply e).standing = n.standing) :
      e = .fire (.p2pExpiry key) ∨ n.LeavesEarly key e :=
    absurd (departures_of_standing same) departs
  cases e with
  | receive heard message =>
    by_cases isDio : ∃ dio, message = .dio dio
    · obtain ⟨dio, rfl⟩ := isDio
      exact .inr (leavesEarly_of_dio held temporary (noRdo dio heard) departs)
    · exact quiet (standing_receive fun dio same => isDio ⟨dio, same⟩)
  | fire timer => exact (leavesEarly_of_fire departs).imp_left (congrArg Event.fire)
  | tick later => exact absurd rfl departs
  | discoverRoute target hopByHop =>
    exact absurd (departures_discoverRoute held target hopByHop) departs
  | discoverP2pRoute target hopByHop =>
    exact absurd (departures_discoverP2pRoute held target hopByHop) departs
  | createLocalDodag instanceId mop =>
    refine absurd ?_ departs
    rw [apply]
    cases creates : n.createLocalDodag instanceId mop with
    | none => rfl
    | some pair =>
      obtain ⟨own, created⟩ := pair
      rw [Option.map_some, Option.getD_some, departures_eq, (standing_createLocalDodag creates).2]
      exact Standing.departures_of_history (Standing.claimBase_history ..)
  | setAsRoot => exact absurd rfl departs
  | dadSuccess address =>
    refine absurd ?_ departs
    rw [apply]
    unfold handleDadSuccess
    split
    · rfl
    split
    · split
      · rfl
      · dsimp only
        split
        · rfl
        · next created creates =>
          have formed : created.departures key = n.departures key := by
            rw [departures_eq, (standing_createDodagMembership creates).2]
            exact Standing.departures_of_history (Standing.claimBase_history ..)
          exact formed
    · rfl
  | startInterface interface =>
    refine absurd ?_ departs
    rw [apply]
    unfold startInterface
    split
    · rfl
    · rfl
  | stopInterface interface =>
    change (n.stopInterface interface).departures key ≠ _ at departs
    unfold stopInterface at departs
    split at departs
    · next runs =>
      exact .inr (.stopped runs (losesLast_of_stops n.dodags.keys ExtTreeMap.nodup_keys
        { n with sockets := n.sockets.erase interface } rfl rfl departs))
    · exact absurd rfl departs
  | readdress interfaces => exact absurd rfl departs
  | routeOutput destination oif =>
    exact quiet (by rw [apply, standing_afterRouteOutput])
  | notifyRankInconsistency instanceId =>
    exact quiet (by rw [apply, standing_notifyRankInconsistency])
  | notifyForwardingError instanceId destination =>
    exact quiet (by rw [apply, standing_notifyForwardingError])

end Node

end Rpl
