import Rpl.Shift

/-!
# The functions of the protocol as shifts

For each function that sends a DIO, selects a parent, joins or leaves a DODAG or sets
a deadline, the shifts it does to the stakes of a node.
-/

namespace Rpl

open Std

namespace Node

variable {n m : Node} {e : Event} {late : Bool} {key : DodagKey} {dodag : DodagMembership}

/-- An event that does not touch the stakes makes no shift. -/
theorem shifts_of_eq {before after : Stakes} (same : after = before) :
    Shifts n e late before after :=
  same ▸ .refl

/-! ## DIOs handed down -/

/-- What is handed down is kept in the list of DIOs sent. -/
theorem Hands.stakes {dio : DioHeader} {destination : Ipv6Address} {after : Node}
    (hands : m.Hands (.dio dio) destination after) :
    ∃ sent, after.stakes = m.stakes.sends sent ∧ ∀ said ∈ sent, said = (destination, dio) := by
  obtain ⟨outputs, rfl, carry⟩ := hands
  refine ⟨outputs.filterMap Output.dio?, stakes_emit m outputs, fun said mem => ?_⟩
  obtain ⟨output, inOutputs, isDio⟩ := List.mem_filterMap.mp mem
  rw [(carry output inOutputs).dio?_eq_some] at isDio
  exact (Option.some.inj isDio).symm

theorem stakes_drawP2pRoute (held : m.dodags[key]? = some dodag) :
    (m.drawP2pRoute key dodag).2.stakes = m.stakes := by
  have same : (m.setDodag key dodag.pruneP2pCandidateRoutes).stakes = m.stakes :=
    stakes_setDodag_same held rfl
  unfold drawP2pRoute
  dsimp only
  split
  · exact same
  · exact same

/-- A membership's DIO goes out, or none does. -/
theorem stakes_sendDio (held : m.dodags[key]? = some dodag) (destination : Ipv6Address)
    (interface : Nat) :
    ∃ sent, (m.sendDio key destination interface).stakes = m.stakes.sends sent ∧
      ∀ said ∈ sent, said.1 = destination ∧
        ∃ enableLql route, said.2 = dodag.dioMessage enableLql route := by
  unfold sendDio
  rw [held]
  dsimp only
  split
  · exact ⟨[], rfl, fun _ mem => absurd mem List.not_mem_nil⟩
  · have drawn : (if dodag.discoveryOption = .p2p then m.drawP2pRoute key dodag
        else ([], m)).2.stakes = m.stakes := by
      split
      · exact stakes_drawP2pRoute held
      · rfl
    generalize (if dodag.discoveryOption = .p2p then m.drawP2pRoute key dodag else ([], m)) = draw
      at drawn
    have hands : draw.2.Hands (.dio (dodag.dioMessage draw.2.attributes.enableLql draw.1))
        destination _ := hands_sendRplMessage interface
    obtain ⟨sent, sends, each⟩ := hands.stakes
    rw [drawn] at sends
    refine ⟨sent, sends, fun said mem => ?_⟩
    rw [each said mem]
    exact ⟨rfl, _, _, rfl⟩

/-! ## Leaving and selecting a parent -/

theorem stakes_eraseDodag (m : Node) (key : DodagKey) (dodag : DodagMembership) :
    (m.eraseDodag key dodag).stakes = m.stakes.leave key dodag.stake := by
  have erased : (m.dodags.erase key).map (fun _ dodag => dodag.stake) = m.stakes.held.erase key :=
    OrderedMap.map_erase
  have target : dodag.stake.aodv.target = dodag.aodv.target := rfl
  unfold eraseDodag Stakes.leave
  rw [← erased, target]
  cases dodag.aodv.target.isAny with
  | true =>
    dsimp only
    split
    · rfl
    · rfl
  | false =>
    dsimp only
    split
    · rfl
    · rfl

/-- A leave in silence. -/
theorem stakes_leaveDodag (held : m.dodags[key]? = some dodag) :
    (m.leaveDodag key false).stakes = m.stakes.leave key dodag.stake := by
  unfold leaveDodag
  rw [held]
  exact stakes_eraseDodag m key dodag

theorem shifts_leaveDodag (m : Node) (key : DodagKey) :
    Shifts n e late m.stakes (m.leaveDodag key false).stakes := by
  cases held : m.dodags[key]? with
  | none =>
    rw [leaveDodag, held]
  | some dodag =>
    rw [stakes_leaveDodag held]
    exact .single (.leave (held_stake held))

/-- The loss of the last parent. -/
theorem shifts_poison (held : m.dodags[key]? = some dodag) (notRoot : dodag.isRoot = false) :
    Shifts n e late m.stakes (m.leaveDodag key true).stakes := by
  let poisoned : DodagMembership :=
    { dodag with rank := infiniteRank, pathEtx := UInt16.ofNat mrhofMaxPathCost }
  have written : m.modifyPlace key (fun place =>
      { place with rank := infiniteRank, pathEtx := UInt16.ofNat mrhofMaxPathCost }) =
      m.setDodag key poisoned := setDodag_of_held held _
  have heldPoisoned : (m.setDodag key poisoned).dodags[key]? = some poisoned :=
    ExtTreeMap.getElem?_insert_self
  obtain ⟨sent, sends, each⟩ := stakes_sendDio heldPoisoned allNodesMulticast 0
  have same : (m.setDodag key poisoned).stakes = m.stakes := stakes_setDodag_same held rfl
  have left : (m.leaveDodag key true).stakes =
      (m.stakes.sends sent).leave key poisoned.stake := by
    have erased : ((m.poisonDodag key).eraseDodag key dodag).stakes =
        (m.stakes.sends sent).leave key poisoned.stake := by
      rw [stakes_eraseDodag, poisonDodag, written, sends, same]
      rfl
    obtain ⟨_, _, leaves⟩ := leaveDodag_eq held true
    rw [leaves]
    exact erased
  rw [left]
  refine .single (.lose ((held_stake held).trans rfl) notRoot fun said mem => ?_)
  exact ⟨fun _ => (each said mem).1, (each said mem).2⟩

/-- The selection is a shift only where the last parent is lost. -/
theorem shifts_selectPreferredParent (m : Node) (key : DodagKey) :
    Shifts n e late m.stakes (m.selectPreferredParent key).2.stakes := by
  unfold selectPreferredParent
  split
  · exact .refl
  · next dodag held =>
    split
    · exact .refl
    · next notRoot =>
      have swept := m.stakes_sweepParents key
      dsimp only
      split
      · rw [swept]
      · next after heldAfter =>
        have stake : after.stake = dodag.stake := by
          have same := (held_stake heldAfter).symm.trans (swept ▸ held_stake held)
          exact Option.some.inj same
        have stillNotRoot : after.isRoot = false :=
          (congrArg Stake.isRoot stake).trans (Bool.eq_false_iff.mpr notRoot)
        split
        · rw [swept]
        split
        · rw [loseLastParent, stakes_scheduleSolicitation, ← swept]
          have withdrawn := stakes_quiet.withdrawThrough (n := m.sweepParents key) key
            after.preferredParent
          have heldStake : ((m.sweepParents key).withdrawThrough key
              after.preferredParent).stakes.held[key]? = some after.stake := by
            rw [withdrawn]
            exact held_stake heldAfter
          obtain ⟨gone, heldGone, sameStake⟩ := Option.map_eq_some_iff.mp
            ((stakes_held _ key).symm.trans heldStake)
          rw [← withdrawn]
          exact shifts_poison heldGone ((congrArg Stake.isRoot sameStake).trans stillNotRoot)
        · rw [stakes_takeParent heldAfter, swept]

theorem shifts_selectAndReset (m : Node) (key : DodagKey) :
    Shifts n e late m.stakes (m.selectAndReset key).stakes := by
  unfold selectAndReset
  dsimp only
  split
  · rw [stakes_resetTrickle]
    exact shifts_selectPreferredParent m key
  · exact shifts_selectPreferredParent m key

theorem shifts_stopInterfaceIn (interface : Nat) (m : Node) (key : DodagKey) :
    Shifts n e late m.stakes (stopInterfaceIn interface m key).stakes := by
  have cleared : (m.modifyPlace key fun place =>
      { place with
        parents := OrderedMap.eraseIf (fun _ parent => parent.interface = interface)
          place.parents }).stakes = m.stakes :=
    stakes_modifyPlace fun _ => ⟨rfl, rfl, rfl⟩
  rw [stopInterfaceIn, ← cleared]
  exact shifts_selectAndReset ..

/-- Each membership in turn loses the neighbours heard on the interface. -/
theorem shifts_stopInterface (m : Node) (interface : Nat) :
    Shifts n e late m.stakes (m.stopInterface interface).stakes := by
  unfold stopInterface
  split
  · exact TransitionSystem.star_foldl (fun m key => shifts_stopInterfaceIn interface m key)
      m.dodags.keys { m with sockets := m.sockets.erase interface }
  · exact .refl

/-! ## Sending DIOs -/

/-- A DIO may be sent where the event gives occasion for it. -/
theorem shifts_sendDio (held : m.dodags[key]? = some dodag) (destination : Ipv6Address)
    (interface : Nat)
    (occasion : e = .fire (.trickleTransmit key) ∧ destination = allNodesMulticast ∨
      dodag.isTemporary = false ∧ ∃ heard, e = .receive heard .dis) :
    Shifts n e late m.stakes (m.sendDio key destination interface).stakes := by
  obtain ⟨sent, sends, each⟩ := stakes_sendDio held destination interface
  rw [sends]
  refine .single (.speak (held_stake held) (occasion.imp_left And.left) fun said mem => ?_)
  obtain ⟨toDestination, isDio⟩ := each said mem
  refine ⟨fun temporary => ?_, isDio⟩
  rcases occasion with ⟨-, multicast⟩ | ⟨lasting, -⟩
  · exact toDestination.trans multicast
  · rw [lasting] at temporary
    cases temporary

/-- The Trickle timer selects before it sends, and sends only what is left. -/
theorem shifts_dioTrickleFire (m : Node) (key : DodagKey)
    (fires : e = .fire (.trickleTransmit key)) :
    Shifts n e late m.stakes (m.dioTrickleFire key).stakes := by
  refine (shifts_selectPreferredParent m key).trans ?_
  unfold dioTrickleFire
  generalize (m.selectPreferredParent key).2 = selected
  cases held : selected.dodags[key]? with
  | none =>
    rw [sendDio, held]
  | some dodag => exact shifts_sendDio held allNodesMulticast 0 (.inl ⟨fires, rfl⟩)

theorem shifts_trickleTransmit (m : Node) (key : DodagKey)
    (fires : e = .fire (.trickleTransmit key)) :
    Shifts n e late m.stakes (m.trickleTransmit key).stakes := by
  unfold trickleTransmit
  split
  · exact .refl
  · next dodag held =>
    have rested : Shifts n e late m.stakes (m.modifyDodag key fun dodag =>
        { dodag with dioTrickle := dodag.dioTrickle.transmitEvent }).stakes := by
      rw [stakes_modifyDodag held]
      exact .single (.rewrites (held_stake held)
        (.rest dodag.dioTrickle.active_of_transmitEvent))
    dsimp only
    split
    · exact rested.trans (shifts_dioTrickleFire _ key fires)
    · exact rested

theorem stakes_trickleInterval {at_ : Time}
    (due : m.timerOf key (·.dioTrickle.intervalTimer) = some at_) :
    (m.trickleInterval key).stakes = m.stakes := by
  obtain ⟨dodag, held, running⟩ := timerOf_isSome due
  have before : dodag.dioTrickle.active = true := by
    rw [TrickleTimer.active, running]
    exact Bool.or_true _
  unfold trickleInterval
  rw [setDodag_of_held held]
  refine stakes_setDodag_same held ?_
  simp only [DodagMembership.stake, TrickleTimer.active_intervalEvent, before]

theorem shifts_answerDis {heard : Reception} (sender : Ipv6Address) (interface : Nat)
    (toMulticast : Bool) (m : Node) (key : DodagKey) (dis : e = .receive heard .dis) :
    Shifts n e late m.stakes (answerDis sender interface toMulticast m key).stakes := by
  unfold answerDis
  split
  · exact .refl
  · next dodag held =>
    split
    · exact .refl
    · next lasting =>
      split
      · exact shifts_of_eq (stakes_resetTrickle m key)
      · exact shifts_sendDio held sender interface
          (.inr ⟨Bool.eq_false_iff.mpr lasting, heard, dis⟩)

/-- Only memberships that are not temporary answer a DIS. -/
theorem shifts_handleDis {heard : Reception} (m : Node) (sender : Ipv6Address) (interface : Nat)
    (toMulticast : Bool) (dis : e = .receive heard .dis) :
    Shifts n e late m.stakes (m.handleDis sender interface toMulticast).stakes :=
  TransitionSystem.star_foldl
    (fun m key => shifts_answerDis sender interface toMulticast m key dis) m.dodags.keys m

/-! ## Parent selection after a DIO -/

/-- A neighbour withdraws. -/
theorem shifts_handlePoison (m : Node) (key : DodagKey) (sender : Ipv6Address) :
    Shifts n e late m.stakes (m.handlePoison key sender).stakes := by
  unfold handlePoison
  split
  · exact .refl
  · next dodag held =>
    dsimp only
    have withdrawn : (if sender = dodag.preferredParent then m.sendNoPathDao key sender
        else m).stakes = m.stakes := by
      split
      · exact stakes_quiet.sendNoPathDao key sender
      · rfl
    have erased : ((if sender = dodag.preferredParent then m.sendNoPathDao key sender
        else m).modifyPlace key fun place =>
          { place with parents := place.parents.erase sender }).stakes = m.stakes := by
      rw [stakes_modifyPlace]
      · exact withdrawn
      · exact fun _ => ⟨rfl, rfl, rfl⟩
    rw [← erased]
    exact shifts_selectAndReset ..

theorem stakes_consistencyHit (m : Node) (key : DodagKey) :
    (m.modifyDodag key fun dodag =>
      { dodag with dioTrickle := dodag.dioTrickle.consistencyHit }).stakes = m.stakes := by
  refine stakes_modifyDodag_same fun dodag => ?_
  simp only [DodagMembership.stake, TrickleTimer.active_consistencyHit]

theorem shifts_selectTemporary (m : Node) (dio : DioHeader) (sender : Ipv6Address) :
    Shifts n e late m.stakes (m.selectTemporary dio sender).stakes := by
  unfold selectTemporary
  split
  · exact .refl
  · have selected : Shifts n e late m.stakes _ := shifts_selectPreferredParent m dio.key
    dsimp only
    split
    · exact selected
    split
    · rw [stakes_resetTrickle]
      exact selected
    split
    · rw [stakes_consistencyHit]
      exact selected
    · exact selected

theorem shifts_selectOrdinary (m : Node) (dio : DioHeader) :
    Shifts n e late m.stakes (m.selectOrdinary dio).stakes := by
  unfold selectOrdinary
  split
  · exact .refl
  · next dodag held =>
    have hit : (if dodag.rank = infiniteRank then m else m.modifyDodag dio.key fun dodag =>
        { dodag with dioTrickle := dodag.dioTrickle.consistencyHit }).stakes = m.stakes := by
      split
      · rfl
      · exact stakes_consistencyHit m dio.key
    dsimp only
    rw [← hit]
    exact shifts_selectAndReset ..

/-- The parent selection after a DIO. -/
theorem shifts_selectAfterDio (m : Node) (dio : DioHeader) (sender : Ipv6Address) :
    Shifts n e late m.stakes (m.selectAfterDio dio sender).stakes := by
  unfold selectAfterDio
  split
  · exact shifts_selectTemporary ..
  · exact shifts_selectOrdinary ..

/-! ## Joining a DODAG -/

theorem joinedMembership_stake (m : Node) (dio : DioHeader) :
    (m.joinedMembership dio).stake = .joined dio := by
  have same : ∀ dodag : DodagMembership, (withParameters dodag dio).key = dodag.key ∧
      (withParameters dodag dio).isRoot = dodag.isRoot ∧
      (withParameters dodag dio).mop = dodag.mop ∧
      (withParameters dodag dio).aodv = dodag.aodv ∧
      (withParameters dodag dio).p2p = dodag.p2p := by
    intro dodag
    unfold withParameters
    split
    · exact ⟨rfl, rfl, rfl, rfl, rfl⟩
    · split
      · exact ⟨rfl, rfl, rfl, rfl, rfl⟩
      · exact ⟨rfl, rfl, rfl, rfl, rfl⟩
  obtain ⟨key, isRoot, mop, aodv, p2p⟩ := same (m.newMembership dio)
  unfold joinedMembership DodagMembership.stake
  dsimp only [DodagPlace.key] at key ⊢
  rw [TrickleTimer.active_start, key, isRoot, mop, aodv, p2p]
  rfl

theorem autoconfigure_ipv6 {other : Node} (same : m.ipv6 = other.ipv6) (dio : DioHeader)
    (interface : Nat) :
    (m.autoconfigure dio interface).ipv6 = (other.autoconfigure dio interface).ipv6 := by
  unfold autoconfigure
  split
  · exact same
  · split
    · rw [same]
    · exact same

theorem stakes_autoconfigure (m : Node) (dio : DioHeader) (interface : Nat) :
    (m.autoconfigure dio interface).stakes =
      { m.stakes with ipv6 := (m.autoconfigure dio interface).ipv6 } := by
  unfold autoconfigure
  split
  · rfl
  · split
    · rfl
    · rfl

/-- A DODAG joined has the stake its DIO gives it. -/
theorem stakes_joinDodag (m : Node) (dio : DioHeader) (interface : Nat) :
    (m.joinDodag dio interface).stakes =
      { m.stakes.put dio.key (.joined dio) with
        ipv6 := (m.autoconfigure dio interface).ipv6 } := by
  have joined : ((m.setDodag dio.key (m.joinedMembership dio)).mark
      (.joined dio.key m.now dio.version dio.mop (m.unexpiredRecords dio.key))).stakes =
      m.stakes.put dio.key (.joined dio) := by
    rw [stakes_mark _ rfl, stakes_setDodag, joinedMembership_stake]
  have configured := stakes_autoconfigure ((m.setDodag dio.key (m.joinedMembership dio)).mark
    (.joined dio.key m.now dio.version dio.mop (m.unexpiredRecords dio.key))) dio interface
  have same : (((m.setDodag dio.key (m.joinedMembership dio)).mark
      (.joined dio.key m.now dio.version dio.mop (m.unexpiredRecords dio.key))).autoconfigure dio
        interface).ipv6 = (m.autoconfigure dio interface).ipv6 := by
    refine autoconfigure_ipv6 ?_ dio interface
    rfl
  rw [joined, same] at configured
  rw [← configured]
  unfold joinDodag
  dsimp only
  generalize ((m.setDodag dio.key (m.joinedMembership dio)).mark
    (.joined dio.key m.now dio.version dio.mop (m.unexpiredRecords dio.key))).autoconfigure dio
      interface = after
  have base : ∀ temporary : Bool, (if !after.hasBaseDodag && !temporary then
      { after with hasBaseDodag := true, baseDodagKey := dio.key } else after).stakes =
      after.stakes := by
    intro temporary
    split
    · rfl
    · rfl
  split
  · exact base _
  · exact base _

theorem shifts_joinDodag {dio : DioHeader} {heard : Reception} (takes : n.Takes e dio heard)
    (joins : n.joinsBy dio = true) (absent : m.dodags[dio.key]? = none) (ipv6 : m.ipv6 = n.ipv6) :
    Shifts n e false m.stakes (m.joinDodag dio heard.interface).stakes := by
  rw [stakes_joinDodag]
  refine .head (.begins (by rw [stakes_held, absent]; rfl)
    (.join rfl takes joins rfl)) (.single (.readdress (.inr ?_)))
  exact ⟨dio, heard, takes, ipv6, autoconfigure_ipv6 ipv6 dio heard.interface⟩

/-- Entering a Version: in place, by a join, or by a leave and a join. -/
theorem shifts_enterVersion {dio : DioHeader} {heard : Reception} {after : Node}
    (takes : n.Takes e dio heard) (entered : n.enterVersion dio heard.interface = some after) :
    Shifts n e false n.stakes after.stakes := by
  unfold enterVersion at entered
  split at entered
  · next absent =>
    split at entered
    · cases entered
    · next open_ =>
      cases entered
      have joins : n.joinsBy dio = true := by
        rw [joinsBy, absent]
        simpa using open_
      exact shifts_joinDodag takes joins absent rfl
  · next dodag held =>
    split at entered
    · cases entered
      exact .refl
    · next otherVersion =>
    split at entered
    · cases entered
      exact shifts_of_eq (stakes_adoptVersion ..)
    · next lasting =>
    split at entered
    · next migrating =>
      cases entered
      have left := stakes_leaveDodag held
      refine (shifts_leaveDodag n dio.key).trans (shifts_joinDodag takes ?_ ?_ ?_)
      · have lasting' : dodag.isTemporary = false := Bool.eq_false_iff.mpr lasting
        rw [joinsBy, held]
        simp only [lasting', migrating, Bool.not_false, Bool.and_true]
        simpa using otherVersion
      · have gone := (n.leaveDodag dio.key false).stakes_held dio.key
        rw [left, Stakes.leave_held, if_pos rfl] at gone
        exact Option.map_eq_none_iff.mp gone.symm
      · exact congrArg Stakes.ipv6 left
    · cases entered

/-! ## Deadlines -/

/-- The deadline of an RREP-Instance is never later than its own lifetime gives. -/
theorem pairedDeadline_le (m : Node) (dodag : DodagMembership) (deadline : Time) :
    m.pairedDeadline dodag deadline ≤ deadline := by
  unfold pairedDeadline
  split
  · split
    · split
      · exact Int.min_le_left ..
      · exact le_rfl
    · exact le_rfl
  · exact le_rfl

/-- The deadline of an AODV-RPL membership is set where none ran, or nothing happens. -/
theorem stakes_armAodvExpiry (m : Node) (key : DodagKey) :
    (m.armAodvExpiry key).stakes = m.stakes ∨ ∃ dodag at_, m.dodags[key]? = some dodag ∧
      dodag.aodv.expiry = none ∧
      at_ ≤ m.now + seconds (aodvLifetimeSeconds dodag.aodv.lifetimeField) ∧
      (m.armAodvExpiry key).stakes = m.stakes.put key (dodag.stake.withAodvExpiry at_) := by
  unfold armAodvExpiry
  split
  · exact .inl rfl
  · next dodag held =>
    dsimp only
    split
    · exact .inl rfl
    · next unarmed =>
      rw [Bool.or_eq_true, not_or, Timer.isRunning, Option.not_isSome_iff_eq_none] at unarmed
      refine .inr ⟨dodag, _, held, unarmed.2, ?_, stakes_modifyDodag held _⟩
      exact Int.add_le_add_left (m.pairedDeadline_le dodag _) m.now

/-- The deadline of a temporary DAG is set where none ran, or nothing happens. -/
theorem stakes_armP2pExpiry (m : Node) (key : DodagKey) :
    (m.armP2pExpiry key).stakes = m.stakes ∨ ∃ dodag at_, m.dodags[key]? = some dodag ∧
      dodag.p2p.expiry = none ∧
      at_ ≤ m.now + seconds (p2pLifetimeSeconds dodag.p2p.lifetimeField) ∧
      (m.armP2pExpiry key).stakes = m.stakes.put key (dodag.stake.withP2pExpiry at_) := by
  unfold armP2pExpiry
  split
  · exact .inl rfl
  · next dodag held =>
    split
    · exact .inl rfl
    · next unarmed =>
      rw [Timer.isRunning, Option.not_isSome_iff_eq_none] at unarmed
      exact .inr ⟨dodag, _, held, unarmed, le_rfl, stakes_modifyDodag held _⟩

theorem shifts_armAodvExpiry {dio : DioHeader} {heard : Reception} (m : Node)
    (takes : n.Takes e dio heard) (discovery : dio.rreq.isSome = true ∨ dio.rrep.isSome = true) :
    Shifts n e late m.stakes (m.armAodvExpiry dio.key).stakes := by
  rcases m.stakes_armAodvExpiry dio.key with same | ⟨dodag, at_, held, unarmed, bound, armed⟩
  · exact shifts_of_eq same
  · rw [armed]
    exact .single (.rewrites (held_stake held) (.armAodv takes discovery rfl unarmed bound))

theorem shifts_armP2pExpiry {dio : DioHeader} {heard : Reception} (m : Node)
    (takes : n.Takes e dio heard) (rdo : dio.p2pRdo.isSome = true) :
    Shifts n e late m.stakes (m.armP2pExpiry dio.key).stakes := by
  rcases m.stakes_armP2pExpiry dio.key with same | ⟨dodag, at_, held, unarmed, bound, armed⟩
  · exact shifts_of_eq same
  · rw [armed]
    exact .single (.rewrites (held_stake held) (.armP2p takes rdo rfl unarmed bound))

end Node

end Rpl
