import Rpl.ParentChoice
import Rpl.RouteTables
import Rpl.Simulation

/-!
# Upward routes of an RREQ-Instance

With hop-by-hop routes every router that takes in an RREQ points its route toward the
OrigNode at its preferred parent, and the parent selection admits no neighbour whose rank
is not better than the bound.  Two routers of an instance are followed here through every
order of the RREQ-DIOs they hear.  They can still come to point at each other: the bound
follows a router's rank up, to where the neighbour that points at it is better again.
-/

namespace Rpl

open Std

/-! ## The parent a selection leaves -/

/-- The preferred parent after a selection is the one the table gives. -/
theorem Standing.preferredParent_of_select {s : Standing} {key : DodagKey} {before after : Member}
    (held : s.held[key]? = some before) (notRoot : before.place.isRoot = false)
    (still : (s.select key).held[key]? = some after) :
    after.place.preferredParent = (s.swept before).chooseParent.address := by
  rw [Standing.select, held] at still
  dsimp only at still
  rw [if_neg (by rw [notRoot]; exact Bool.false_ne_true)] at still
  split at still
  · next same =>
    rw [Standing.held_put, if_pos rfl] at still
    cases still
    simp only [DodagPlace.selectionChanged, Bool.not_eq_true', Bool.or_eq_false_iff,
      decide_eq_false_iff_not, ne_eq, not_not] at same
    exact same.1.1.symm
  · split at still
    · rw [Standing.held_leave, if_pos rfl] at still
      cases still
    · rw [Standing.mark_held, Standing.held_put, if_pos rfl] at still
      cases still
      rfl

/-- It is in the table the selection worked on, with a rank better than the bound. -/
theorem Standing.closer_of_select {s : Standing} {key : DodagKey} {before after : Member}
    (held : s.held[key]? = some before) (notRoot : before.place.isRoot = false)
    (still : (s.select key).held[key]? = some after)
    (chosen : after.place.preferredParent.isAny = false) :
    ((s.swept before).parents[after.place.preferredParent]?).any
      (s.swept before).closer = true := by
  rw [Standing.preferredParent_of_select held notRoot still] at chosen ⊢
  obtain ⟨parent, found, -, admitted⟩ := DodagPlace.chooseParent_stands chosen
  rw [found]
  exact DodagPlace.closer_of_admitted admitted

namespace Node

/-- The place of a membership. -/
def placeAt (n : Node) (key : DodagKey) : Option DodagPlace :=
  n.dodags[key]?.map DodagMembership.toDodagPlace

theorem placeAt_eq_standing (n : Node) (key : DodagKey) :
    n.placeAt key = (n.standing.held[key]?).map Member.place := by
  rw [standing_held, Option.map_map]
  rfl

/-! ## What an RREQ does to the upward route -/

/-- The next hop of the live upward route of the instance, toward its OrigNode. -/
def upwardHop (n : Node) (key : DodagKey) : Option Ipv6Address :=
  (n.findHopByHopRouteIn key key.dodagId).map HopByHopRoute.nextHop

variable {n m : Node} {key : DodagKey}

theorem upwardHop_of_routeTables (same : m.routeTables = n.routeTables) :
    m.upwardHop key = n.upwardHop key := by
  have now : m.now = n.now := congrArg RouteTables.now same
  have table : m.hopByHopRoutes = n.hopByHopRoutes := congrArg RouteTables.hopByHop same
  rw [upwardHop, upwardHop, findHopByHopRouteIn, findHopByHopRouteIn, findHopByHopRoute,
    findHopByHopRoute, now, table]

theorem placeAt_of_standing (same : m.standing = n.standing) : m.placeAt key = n.placeAt key := by
  rw [placeAt_eq_standing, placeAt_eq_standing, same]

theorem placeAt_modifyDodag {own : DodagKey} {f : DodagMembership → DodagMembership}
    (kept : ∀ dodag, (f dodag).toDodagPlace = dodag.toDodagPlace) :
    (n.modifyDodag own f).placeAt key = n.placeAt key := by
  rw [placeAt, modifyDodag, OrderedMap.getElem?_modify_eq]
  split
  · next same =>
    rw [placeAt, same, Option.map_map]
    congr 1
    funext dodag
    exact kept dodag
  · rfl

theorem placeAt_armAodvExpiry (own : DodagKey) :
    (n.armAodvExpiry own).placeAt key = n.placeAt key := by
  unfold armAodvExpiry
  split
  · rfl
  · dsimp only
    split
    · rfl
    · exact placeAt_modifyDodag fun _ => rfl

/-- A DODAG that is formed is not one that is held. -/
theorem placeAt_createLocalDodag {created : Node} {instanceId mop : UInt8} {own : DodagKey}
    (creates : n.createLocalDodag instanceId mop = some (own, created)) (held : key ∈ n.dodags) :
    created.placeAt key = n.placeAt key ∧ key ≠ own := by
  obtain ⟨absent, formed⟩ := standing_createLocalDodag creates
  have apart : key ≠ own := by
    rintro rfl
    rw [ExtTreeMap.mem_iff_isSome_getElem?, absent] at held
    cases held
  refine ⟨?_, apart⟩
  rw [placeAt_eq_standing, placeAt_eq_standing, formed, Standing.held_create, if_neg apart]

theorem placeAt_modifyDodag_of_ne {own : DodagKey} {f : DodagMembership → DodagMembership}
    (apart : key ≠ own) : (n.modifyDodag own f).placeAt key = n.placeAt key := by
  rw [placeAt, modifyDodag, OrderedMap.getElem?_modify_eq, if_neg apart]
  rfl

theorem placeAt_sendAodvRrep : (n.sendAodvRrep key).placeAt key = n.placeAt key := by
  unfold sendAodvRrep
  split
  · rfl
  · next dodag held =>
    split
    · unfold startAodvRrepInstance
      dsimp only
      split
      · rfl
      split
      · rfl
      · split
        · rfl
        · next creates =>
          have present : key ∈ n.dodags := by
            rw [ExtTreeMap.mem_iff_isSome_getElem?, held]
            rfl
          obtain ⟨same, apart⟩ := placeAt_createLocalDodag creates present
          rw [placeAt_armAodvExpiry, placeAt_modifyDodag_of_ne apart]
          exact same
    · dsimp only
      split
      · rfl
      split
      · rfl
      · exact placeAt_of_standing (standing_sendAodvTo ..)

/-- After the event the upward route is as it was, or goes through the preferred parent. -/
def FollowsParent (n : Node) (key : DodagKey) (after : Node) : Prop :=
  ∀ hop, after.upwardHop key = some hop → n.upwardHop key = some hop ∨
    hop.isAny = false ∧ ∃ place, after.placeAt key = some place ∧ place.preferredParent = hop

theorem FollowsParent.of_same (same : m.routeTables = n.routeTables) : n.FollowsParent key m := by
  intro hop found
  rw [upwardHop_of_routeTables same] at found
  exact .inl found

theorem FollowsParent.of_before {before : Node} (follows : n.FollowsParent key m)
    (same : n.routeTables = before.routeTables) : before.FollowsParent key m := by
  intro hop found
  rw [← upwardHop_of_routeTables same]
  exact follows hop found

theorem FollowsParent.of_after {after : Node} (follows : n.FollowsParent key m)
    (same : after.routeTables = m.routeTables) (place : after.placeAt key = m.placeAt key) :
    n.FollowsParent key after := by
  intro hop found
  rw [upwardHop_of_routeTables same] at found
  rw [place]
  exact follows hop found

/-- The route stored is through the preferred parent. -/
theorem followsParent_storeUpwardRoute {dio : DioHeader}
    (stores : n.storeUpwardRoute key dio = some m) :
    n.FollowsParent key m ∧ m.placeAt key = n.placeAt key := by
  unfold storeUpwardRoute at stores
  split at stores
  · cases stores
  · next dodag held =>
    dsimp only at stores
    split at stores
    · cases stores
    next parent =>
    split at stores
    · cases stores
      exact ⟨.of_same rfl, rfl⟩
    · unfold storeHopByHopRoute at stores
      split at stores
      · next accepted =>
        split at accepted
        · cases accepted
        · cases accepted
          cases stores
          have here : n.placeAt key = some dodag.toDodagPlace := by
            rw [placeAt, held, Option.map_some]
          refine ⟨fun hop found => .inr ?_, rfl⟩
          have through : dodag.preferredParent = hop := by
            rw [upwardHop, findHopByHopRouteIn, findHopByHopRoute] at found
            dsimp only at found
            rw [ExtTreeMap.getElem?_insert_self] at found
            obtain ⟨route, kept, rfl⟩ := Option.map_eq_some_iff.mp found
            have stored := (Option.filter_eq_some_iff.mp (Option.filter_eq_some_iff.mp kept).1).1
            cases stored
            rfl
          rw [← through]
          exact ⟨Bool.eq_false_iff.mpr parent, dodag.toDodagPlace, here, rfl⟩
      · cases stores

/-- What follows the taking of an RREQ with hop-by-hop routes. -/
theorem followsParent_afterRreq {dio : DioHeader} (hopByHop : dio.getRreq.hopByHop = true)
    (sender : Ipv6Address) (reached : Bool) :
    let after :=
      if (n.routeRreq key dio sender).1 then
        if reached then ((n.routeRreq key dio sender).2.armAodvExpiry key).sendAodvRrep key
        else (n.routeRreq key dio sender).2.armAodvExpiry key
      else (n.routeRreq key dio sender).2
    n.FollowsParent key after ∧ after.placeAt key = n.placeAt key := by
  unfold routeRreq
  rw [if_pos hopByHop]
  cases stores : n.storeUpwardRoute key dio with
  | none => exact ⟨.of_same rfl, rfl⟩
  | some stored =>
    obtain ⟨follows, place⟩ := followsParent_storeUpwardRoute stores
    have answered : ((stored.answerFromCache key dio sender).armAodvExpiry key).placeAt key =
        stored.placeAt key := by
      rw [placeAt_armAodvExpiry, placeAt_of_standing (standing_answerFromCache ..)]
    dsimp only
    rw [if_pos rfl]
    split
    · refine ⟨follows.of_after (by simp) (by rw [placeAt_sendAodvRrep, answered]), ?_⟩
      rw [placeAt_sendAodvRrep, answered, place]
    · exact ⟨follows.of_after (by simp) answered, answered.trans place⟩

/-- An RREQ with hop-by-hop routes leaves the place of its membership as it was. -/
theorem followsParent_handleAodvRreq {dio : DioHeader} (heard : Reception)
    (hopByHop : dio.getRreq.hopByHop = true) :
    n.FollowsParent dio.key (n.handleAodvRreq dio heard) ∧
      (n.handleAodvRreq dio heard).placeAt dio.key = n.placeAt dio.key := by
  unfold handleAodvRreq
  extract_lets key m
  have tables : m.routeTables = n.routeTables := rfl
  have place : m.placeAt key = n.placeAt key := rfl
  clear_value m
  rw [← place]
  split
  · exact ⟨.of_same tables, rfl⟩
  · next dodag held =>
    split
    · exact ⟨.of_same tables, rfl⟩
    · have taken : ((m.modifyAodv key fun _ => (m.takeRreq dodag dio).2).armAodvExpiry key).placeAt
          key = m.placeAt key := by
        rw [placeAt_armAodvExpiry]
        exact placeAt_modifyDodag fun _ => rfl
      have still : ((m.modifyAodv key fun _ => (m.takeRreq dodag dio).2).armAodvExpiry
          key).routeTables = n.routeTables := by
        rw [routeTables_armAodvExpiry, routeTables_modifyAodv, tables]
      dsimp only
      generalize (m.modifyAodv key fun _ => (m.takeRreq dodag dio).2).armAodvExpiry key = armed
        at taken still ⊢
      split
      · obtain ⟨follows, kept⟩ := @followsParent_afterRreq
          (armed.log (.discoveryTargetReached key)) key dio hopByHop heard.sender
          (m.takeRreq dodag dio).1
        exact ⟨follows.of_before still, kept.trans taken⟩
      · obtain ⟨follows, kept⟩ := @followsParent_afterRreq armed key dio hopByHop heard.sender
          (m.takeRreq dodag dio).1
        exact ⟨follows.of_before still, kept.trans taken⟩

/-! ## The whole DIO -/

/-- An RREQ-DIO carries no other discovery. -/
theorem onlyRreq {dio : DioHeader} (fits : discoveryOptionsFit dio = true)
    (rreq : dio.rreq.isSome = true) : dio.rrep.isSome = false ∧ dio.p2pRdo.isSome = false := by
  unfold discoveryOptionsFit at fits
  rw [rreq] at fits
  cases rrep : dio.rrep.isSome <;> cases p2p : dio.p2pRdo.isSome <;> simp_all

/-- The membership under the key, if there is one, is not a root's. -/
def NotRoot (n : Node) (key : DodagKey) : Prop :=
  ∀ place, n.placeAt key = some place → place.isRoot = false

theorem notRoot_enterVersion {dio : DioHeader} {interface : Nat} (notRoot : n.NotRoot dio.key)
    (entered : n.enterVersion dio interface = some m) : m.NotRoot dio.key := by
  have joined (before : Node) : (before.joinDodag dio interface).NotRoot dio.key := by
    intro place found
    rw [placeAt_eq_standing, standing_joinDodag, Standing.held_join, if_pos rfl] at found
    cases found
    exact (before.joinedMembership_fresh dio).notRoot
  unfold enterVersion at entered
  split at entered
  · split at entered
    · cases entered
    · cases entered
      exact joined n
  · next dodag held =>
    split at entered
    · cases entered
      exact notRoot
    split at entered
    · cases entered
      unfold adoptVersion
      split
      · -- the Version says nothing of the root
        intro place found
        rw [placeAt, Node.mark, modifyPlace, modifyDodag, OrderedMap.getElem?_modify_eq, if_pos rfl,
          held] at found
        cases found
        exact notRoot dodag.toDodagPlace (by rw [placeAt, held, Option.map_some])
      · exact notRoot
    split at entered
    · cases entered
      exact joined _
    · cases entered

theorem notRoot_updateParent (notRoot : n.NotRoot key) (dio : DioHeader) (heard : Reception) :
    (n.updateParent dio heard).NotRoot key := by
  intro place found
  rw [placeAt_eq_standing, standing_updateParent, Option.map_eq_some_iff] at found
  obtain ⟨member, found, rfl⟩ := found
  rw [Standing.withParents, Standing.modify, OrderedMap.getElem?_modify_eq] at found
  split at found
  · next same =>
    obtain ⟨before, held, rfl⟩ := Option.map_eq_some_iff.mp found
    refine notRoot before.place ?_
    rw [placeAt_eq_standing, same, held, Option.map_some]
  · refine notRoot member.place ?_
    rw [placeAt_eq_standing, found, Option.map_some]

/-- The place a DIO's parent selection works on: the Version has been entered, the sender
recorded, and the silent neighbours swept out. -/
def selectionPlace (n : Node) (dio : DioHeader) (heard : Reception) : Option DodagPlace :=
  (n.enterVersion dio heard.interface).bind fun entered =>
    let updated := entered.updateParent dio heard
    (updated.placeAt dio.key).map fun place => place.sweep updated.now fun _ => true

/-- The selection a DIO causes finds the neighbour recorded with a rank better than the
bound. -/
def findsCloser (n : Node) (dio : DioHeader) (heard : Reception) (neighbour : Ipv6Address) : Bool :=
  (n.selectionPlace dio heard).any fun place => (place.parents[neighbour]?).any place.closer

variable {dio : DioHeader} {heard : Reception}

/-- The parent an RREQ-DIO leaves is one the selection found closer. -/
theorem findsCloser_of_select {entered : Node}
    (enters : n.enterVersion dio heard.interface = some entered) (notRoot : entered.NotRoot dio.key)
    {place : DodagPlace}
    (still : ((entered.updateParent dio heard).selectAfterDio dio heard.sender).placeAt dio.key =
      some place)
    (chosen : place.preferredParent.isAny = false) :
    n.findsCloser dio heard place.preferredParent = true := by
  have updatedNotRoot := notRoot_updateParent notRoot dio heard
  rw [findsCloser, selectionPlace, enters, Option.bind_some]
  dsimp only
  generalize entered.updateParent dio heard = updated at still updatedNotRoot ⊢
  rw [placeAt_eq_standing, standing_selectAfterDio, Option.map_eq_some_iff] at still
  obtain ⟨after, still, rfl⟩ := still
  cases held : updated.standing.held[dio.key]? with
  | none =>
    rw [Standing.select_of_absent held, held] at still
    cases still
  | some before =>
    have here : updated.placeAt dio.key = some before.place := by
      rw [placeAt_eq_standing, held, Option.map_some]
    have closer := Standing.closer_of_select held (updatedNotRoot _ here) still chosen
    rw [here, Option.map_some, Option.any_some]
    exact closer

/-- An RREQ with hop-by-hop routes leaves the upward route as it was, or has it go through a
neighbour found closer. -/
theorem upwardHop_handleDio (rreq : dio.rreq.isSome = true)
    (hopByHop : dio.getRreq.hopByHop = true) {hop : Ipv6Address}
    (found : (n.handleDio dio heard).upwardHop dio.key = some hop) :
    n.upwardHop dio.key = some hop ∨ n.findsCloser dio heard hop = true := by
  have same {after : Node} (found : after.upwardHop dio.key = some hop)
      (tables : after.routeTables = n.routeTables) : n.upwardHop dio.key = some hop := by
    rw [← upwardHop_of_routeTables tables]
    exact found
  unfold handleDio at found
  split at found
  · exact .inl found
  next kept =>
  simp only [dropsDio, Bool.or_eq_true, Bool.not_eq_true', not_or, Bool.not_eq_false] at kept
  obtain ⟨⟨⟨⟨-, noRoot⟩, -⟩, -⟩, fits⟩ := kept
  have notRoot : n.NotRoot dio.key := by
    intro place here
    obtain ⟨dodag, held, rfl⟩ := Option.map_eq_some_iff.mp here
    rw [held, Option.any_some, Bool.not_eq_true] at noRoot
    exact noRoot
  obtain ⟨noRrep, noRdo⟩ := onlyRreq fits rreq
  rw [noRrep, Bool.false_and, if_neg Bool.false_ne_true] at found
  split at found
  · exact .inl found
  split at found
  · exact .inl (same found (routeTables_handlePoison ..))
  split at found
  · exact .inl found
  next entered enters =>
  have selectedTables : ((entered.updateParent dio heard).selectAfterDio dio
      heard.sender).routeTables = n.routeTables := by
    rw [routeTables_selectAfterDio, routeTables_updateParent, routeTables_enterVersion enters]
  have enteredNotRoot := notRoot_enterVersion notRoot enters
  have closer (place : DodagPlace) :=
    @findsCloser_of_select n dio heard entered enters enteredNotRoot place
  unfold acceptDio handleDiscovery at found
  generalize (entered.updateParent dio heard).selectAfterDio dio heard.sender = selected
    at found selectedTables closer
  rw [noRrep, noRdo, rreq, Bool.true_and] at found
  simp only [Bool.false_and, if_neg Bool.false_ne_true] at found
  split at found
  · obtain ⟨follows, place⟩ := @followsParent_handleAodvRreq selected dio heard hopByHop
    rcases follows hop found with before | ⟨chosen, after, here, rfl⟩
    · exact .inl (same before selectedTables)
    · exact .inr (closer after (place.symm.trans here) chosen)
  · exact .inl (same found selectedTables)

end Node

end Rpl
