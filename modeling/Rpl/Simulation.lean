import Rpl.DiscoverySimulation

/-!
# Every event is a sequence of edits

The main result is that an event moves a node's standing by edits, provided a DIO
it takes in complies with the policy.  A predicate that every edit keeps is then an
invariant of every run whose events comply.
-/

namespace Rpl

open Std

namespace Node

/-! ## What a DIO does to the Version held -/

/-- The DIO gets as far as the DODAG Version it is for. -/
def takesDio (n : Node) (dio : DioHeader) (heard : Reception) : Bool :=
  heard.sender ≠ n.ipv6.getLinkLocalAddress heard.interface &&
    !n.dropsDio dio heard.sender && !(dio.rrep.isSome && !heard.toMulticast) &&
    !n.refusesDiscovery dio && dio.rank ≠ infiniteRank

/-- The node joins the DODAG by the DIO, for the first time or by migrating to another
Version. -/
def joinsBy (n : Node) (dio : DioHeader) : Bool :=
  match n.dodags[dio.key]? with
  | none => !n.barsVersion dio
  | some dodag =>
    dio.version ≠ dodag.version && !dodag.isTemporary && migrates dodag.toDodagPlace dio

/-- The DIO moves a membership that is held to another Version. -/
def movesBy (dodag : DodagMembership) (dio : DioHeader) : Bool :=
  dio.version ≠ dodag.version &&
    if dodag.isTemporary then sequenceNewer dio.version dodag.version
    else migrates dodag.toDodagPlace dio

/-- The unexpired records held while a membership moves to another Version. One that is not
temporary is left first, and leaves its own. -/
def recordsAtMove (n : Node) (key : DodagKey) (dodag : DodagMembership) : List RetainedRank :=
  if dodag.isTemporary then n.unexpiredRecords key
  else
    (retainRank (n.retainedRank[key]?.getD []) dodag.toDodagPlace n.now).filter fun record =>
      n.now < record.expires

/-- What a policy asks of a DIO that is taken in. -/
structure Follows (policy : Policy) (n : Node) (dio : DioHeader) : Prop where
  discovers : dio.mop = mopP2pRouteDiscovery → ∀ dodag, n.dodags[dio.key]? = some dodag →
    policy.discovers dodag.mop
  enters : n.joinsBy dio = true → ∀ m : Node, policy.enters (m.joinedMembership dio).toDodagPlace
  moves : ∀ dodag, n.dodags[dio.key]? = some dodag → movesBy dodag dio = true →
    policy.moves (n.recordsAtMove dio.key dodag) dio.version

/-- The event complies with the policy: a DIO that is taken in does. -/
def Complies (policy : Policy) (n : Node) (e : Event) : Prop :=
  ∀ heard dio, e = .receive heard (.dio dio) → n.takesDio dio heard = true → n.Follows policy dio

theorem complies_any (n : Node) (e : Event) : n.Complies .any e :=
  fun _ _ _ _ => ⟨fun _ _ _ => trivial, fun _ _ => trivial, fun _ _ _ => trivial⟩

variable {policy : Policy} {n : Node}

/-! ## Entering a Version -/

theorem standing_adoptVersion {dio : DioHeader} {dodag : DodagMembership}
    (held : n.dodags[dio.key]? = some dodag)
    (newer : sequenceNewer dio.version dodag.version = true) :
    (n.adoptVersion dio dodag).standing = n.standing.adopt dio.key dodag.member dio.version := by
  unfold adoptVersion
  rw [if_pos newer, standing_mark, standing_modifyPlace]
  simp only [Standing.modify, Standing.adopt, Standing.put,
    OrderedMap.modify_of_held (held_member held)]
  rfl

/-- The records after a membership that is not temporary has been left. -/
theorem unexpired_leave {key : DodagKey} {dodag : DodagMembership}
    (held : n.dodags[key]? = some dodag) (lasting : dodag.isTemporary = false) :
    (n.standing.leave key false).unexpired key = n.recordsAtMove key dodag := by
  rw [Standing.leave, held_member held]
  dsimp only
  rw [if_neg (fun given => Bool.false_ne_true given.1), Standing.unexpired, recordsAtMove, lasting,
    if_neg Bool.false_ne_true]
  have kept : n.standing.recordsAfter key dodag.member = n.retainedRank.insert key
      (retainRank (n.retainedRank[key]?.getD []) dodag.toDodagPlace n.now) := by
    rw [Standing.recordsAfter, DodagMembership.member_place, lasting, if_neg Bool.false_ne_true]
    rfl
  rw [kept, ExtTreeMap.getElem?_insert_self, Option.getD_some]
  rfl

/-- A membership a discovery of the DIO may act on, and not a root's. -/
def Joinable (policy : Policy) (dio : DioHeader) (s : Standing) : Prop :=
  ∀ member, s.held[dio.key]? = some member → member.place.isRoot = false ∧
    (dio.mop = mopP2pRouteDiscovery → policy.discovers member.place.mop)

theorem joinable_join {s : Standing} {dio : DioHeader} {place : DodagPlace}
    (notRoot : place.isRoot = false) (mop : place.mop = dio.mop) :
    Joinable policy dio (s.join dio.key place) := by
  intro member held
  rw [Standing.join, Standing.claimBase_held, Standing.mark_held, Standing.put_held,
    ExtTreeMap.getElem?_insert_self] at held
  cases held
  refine ⟨notRoot, fun discovery => ?_⟩
  rw [mop, discovery]
  exact policy.discoversTemporary

theorem edits_enterVersion {dio : DioHeader} {interface : Nat} {after : Node}
    (entered : n.enterVersion dio interface = some after) (follows : n.Follows policy dio)
    (notRoot : ∀ dodag, n.dodags[dio.key]? = some dodag → dodag.isRoot = false) :
    Edits policy n.standing after.standing ∧ Joinable policy dio after.standing := by
  have unmoved : Joinable policy dio n.standing := by
    intro member held
    obtain ⟨dodag, heldDodag, rfl⟩ :=
      Option.map_eq_some_iff.mp ((standing_held n _).symm.trans held)
    exact ⟨notRoot dodag heldDodag, fun discovery => follows.discovers discovery dodag heldDodag⟩
  unfold enterVersion at entered
  split at entered
  · next absent =>
    split at entered
    · cases entered
    · next open_ =>
      cases entered
      have fresh := n.joinedMembership_fresh dio
      have joins : n.joinsBy dio = true := by
        rw [joinsBy, absent]
        simpa using open_
      rw [standing_joinDodag]
      refine ⟨.single
        (.join (by rw [standing_held, absent]; rfl) fresh ?_ (follows.enters joins n)),
        joinable_join fresh.notRoot (n.joinedMembership_version_mop dio).2⟩
      intro record mem less
      rw [(n.joinedMembership_version_mop dio).1] at less
      exact open_ (List.any_eq_true.mpr ⟨record, mem, decide_eq_true less⟩)
  · next dodag held =>
    split at entered
    · cases entered
      exact ⟨.refl, unmoved⟩
    · next otherVersion =>
      split at entered
      · -- a temporary DODAG
        next temporary =>
        cases entered
        cases newer : sequenceNewer dio.version dodag.version with
        | false =>
          rw [adoptVersion, newer, if_neg Bool.false_ne_true]
          exact ⟨.refl, unmoved⟩
        | true =>
          rw [standing_adoptVersion held newer]
          refine ⟨.single (.adopt (held_member held) (notRoot dodag held) temporary ?_), ?_⟩
          · have moves : movesBy dodag dio = true := by
              rw [movesBy, if_pos temporary, newer]
              simpa using otherVersion
            have records := follows.moves dodag held moves
            rw [recordsAtMove, if_pos temporary] at records
            exact records
          · intro member heldAfter
            rw [Standing.adopt, Standing.mark_held, Standing.put_held,
              ExtTreeMap.getElem?_insert_self] at heldAfter
            cases heldAfter
            exact ⟨notRoot dodag held, fun discovery => follows.discovers discovery dodag held⟩
      · next lasting =>
        have lasting' : dodag.isTemporary = false := Bool.eq_false_iff.mpr lasting
        split at entered
        · next migrating =>
          cases entered
          have fresh := (n.leaveDodag dio.key false).joinedMembership_fresh dio
          have same := (n.leaveDodag dio.key false).joinedMembership_version_mop dio
          have joins : n.joinsBy dio = true := by
            rw [joinsBy, held]
            simp only [lasting', migrating, Bool.not_false, Bool.and_true]
            simpa using otherVersion
          have moves : movesBy dodag dio = true := by
            rw [movesBy, if_neg lasting, migrating]
            simpa using otherVersion
          rw [standing_joinDodag]
          rw [standing_leaveDodag] at fresh ⊢
          refine ⟨.single (.migrate (held_member held) (notRoot dodag held) lasting' fresh ?_
            (follows.enters joins _) ?_), joinable_join fresh.notRoot same.2⟩
          · intro temporary
            have mop : dio.mop = mopP2pRouteDiscovery := by
              rw [← same.2]
              exact of_decide_eq_true temporary
            exact follows.discovers mop dodag held
          · rw [unexpired_leave held lasting', same.1]
            exact follows.moves dodag held moves
        · cases entered

/-! ## The sender's entry and the selection -/

/-- What a DIO makes of the neighbour table. -/
def hear (now : Time) (dio : DioHeader) (heard : Reception)
    (parents : ExtTreeMap Ipv6Address Parent) : ExtTreeMap Ipv6Address Parent :=
  parents.insert heard.sender
    (heardParent now dio heard (parents[heard.sender]?.getD { address := anyAddress }))

theorem standing_updateParent (n : Node) (dio : DioHeader) (heard : Reception) :
    (n.updateParent dio heard).standing =
      n.standing.withParents dio.key (hear n.now dio heard) := by
  unfold updateParent
  split
  · next absent =>
    rw [Standing.withParents_of_absent (by rw [standing_held, absent]; rfl)]
  · next dodag held =>
    rw [Standing.withParents_of_held (held_member held)]
    dsimp only
    split
    · rw [standing_scheduleDaoRefresh, standing_setDodag]
      rfl
    · rw [standing_setDodag]
      rfl

theorem standing_selectTemporary (n : Node) (dio : DioHeader) (sender : Ipv6Address) :
    (n.selectTemporary dio sender).standing = n.standing.select dio.key := by
  unfold selectTemporary
  split
  · next absent => rw [Standing.select_of_absent (by rw [standing_held, absent]; rfl)]
  · dsimp only
    split
    · exact standing_selectPreferredParent ..
    split
    · rw [standing_resetTrickle, standing_selectPreferredParent]
    split
    · rw [standing_modifyDodag_same, standing_selectPreferredParent]
      exact fun _ => rfl
    · exact standing_selectPreferredParent ..

theorem standing_selectOrdinary (n : Node) (dio : DioHeader) :
    (n.selectOrdinary dio).standing = n.standing.select dio.key := by
  unfold selectOrdinary
  split
  · next absent => rw [Standing.select_of_absent (by rw [standing_held, absent]; rfl)]
  · dsimp only
    rw [standing_selectAndReset]
    split
    · rfl
    · rw [standing_modifyDodag_same]
      exact fun _ => rfl

theorem standing_selectAfterDio (n : Node) (dio : DioHeader) (sender : Ipv6Address) :
    (n.selectAfterDio dio sender).standing = n.standing.select dio.key := by
  unfold selectAfterDio
  split
  · exact standing_selectTemporary ..
  · exact standing_selectOrdinary ..

/-- Settling a membership changes neither its mode of operation nor whose it is. -/
theorem joinable_settled {dio : DioHeader} {s after : Standing}
    {f : ExtTreeMap Ipv6Address Parent → ExtTreeMap Ipv6Address Parent}
    (settled : s.Settled dio.key f after) (joinable : Joinable policy dio s) :
    Joinable policy dio after := by
  intro member held
  cases settled with
  | absent absent =>
    rw [absent] at held
    cases held
  | root heldBefore root =>
    exact absurd root (by rw [(joinable _ heldBefore).1]; exact Bool.false_ne_true)
  | kept heldBefore notRoot same =>
    rw [Standing.put_held, ExtTreeMap.getElem?_insert_self] at held
    cases held
    have before := joinable _ heldBefore
    exact before
  | lost heldBefore notRoot gone =>
    rw [Standing.leave, heldBefore] at held
    dsimp only at held
    split at held <;>
      simp only [Standing.promote_held, OrderedMap.getElem?_erase_eq, if_true, reduceCtorEq] at held
  | taken heldBefore notRoot found =>
    rw [Standing.mark_held, Standing.put_held, ExtTreeMap.getElem?_insert_self] at held
    cases held
    have before := joinable _ heldBefore
    exact before

/-- A DIO without a discovery option has no discovery part. -/
theorem handleDiscovery_of_none {dio : DioHeader} {heard : Reception}
    (fits : discoveryOptionsFit dio = true) (mop : dio.mop ≠ mopP2pRouteDiscovery) :
    n.handleDiscovery dio heard = n := by
  simp only [discoveryOptionsFit, if_neg mop, decide_eq_true_eq, Nat.add_eq_zero_iff,
    Bool.toNat_eq_zero] at fits
  obtain ⟨⟨rdo, rreq⟩, rrep⟩ := fits
  simp only [handleDiscovery, rdo, rreq, rrep, Bool.false_and, Bool.false_eq_true, if_false]

theorem edits_acceptDio {dio : DioHeader} (heard : Reception)
    (fits : discoveryOptionsFit dio = true) (joinable : Joinable policy dio n.standing) :
    Edits policy n.standing (n.acceptDio dio heard).standing := by
  have settled := n.standing.settled dio.key (hear n.now dio heard)
  have settledNode : ((n.updateParent dio heard).selectAfterDio dio heard.sender).standing =
      (n.standing.withParents dio.key (hear n.now dio heard)).select dio.key := by
    rw [standing_selectAfterDio, standing_updateParent]
  rw [← settledNode] at settled
  unfold acceptDio
  refine .head (.settle settled) ?_
  by_cases mop : dio.mop = mopP2pRouteDiscovery
  · refine (touches_handleDiscovery _ dio heard).edits fun member held => ?_
    obtain ⟨notRoot, discovers⟩ := joinable_settled settled joinable member held
    exact ⟨discovers mop, fun root => absurd (notRoot.symm.trans root) Bool.false_ne_true⟩
  · rw [handleDiscovery_of_none fits mop]

/-! ## DIOs -/

theorem edits_handlePoison (n : Node) (key : DodagKey) (sender : Ipv6Address) :
    Edits policy n.standing (n.handlePoison key sender).standing := by
  unfold handlePoison
  split
  · exact .refl
  · next dodag held =>
    dsimp only
    rw [standing_selectAndReset, standing_modifyPlace]
    have settled := n.standing.settled key fun parents => parents.erase sender
    split
    · rw [standing_sendNoPathDao]
      exact .single (.settle settled)
    · exact .single (.settle settled)

theorem edits_handleDio (n : Node) (dio : DioHeader) (heard : Reception)
    (notOwn : heard.sender ≠ n.ipv6.getLinkLocalAddress heard.interface)
    (follows : n.takesDio dio heard = true → n.Follows policy dio) :
    Edits policy n.standing (n.handleDio dio heard).standing := by
  unfold handleDio
  split
  · exact .refl
  · next kept =>
    split
    · rw [standing_handleAodvRrep]
    · next notUnicast =>
      split
      · exact .refl
      · next welcome =>
        split
        · exact edits_handlePoison ..
        · next finite =>
          have takes : n.takesDio dio heard = true := by
            simp only [takesDio, Bool.and_eq_true, Bool.not_eq_true', decide_eq_true_eq]
            exact ⟨⟨⟨⟨notOwn, Bool.eq_false_iff.mpr kept⟩, Bool.eq_false_iff.mpr notUnicast⟩,
              Bool.eq_false_iff.mpr welcome⟩, finite⟩
          have checks := Bool.eq_false_iff.mpr kept
          simp only [dropsDio, Bool.or_eq_false_iff, Bool.not_eq_false'] at checks
          obtain ⟨⟨⟨⟨-, notRoot⟩, -⟩, -⟩, fits⟩ := checks
          split
          · exact .refl
          · next after entered =>
            obtain ⟨entering, joinable⟩ := edits_enterVersion entered (follows takes) (by
              intro dodag held
              rw [held] at notRoot
              exact notRoot)
            exact entering.trans (edits_acceptDio heard fits joinable)

/-! ## Timers -/

theorem edits_selected (n : Node) (key : DodagKey) {after : Node}
    (selects : after.standing = n.standing.select key) :
    Edits policy n.standing after.standing := by
  have settled := n.standing.settled key id
  rw [Standing.withParents_id, ← selects] at settled
  exact .single (.settle settled)

theorem edits_trickleTransmit (n : Node) (key : DodagKey) :
    Edits policy n.standing (n.trickleTransmit key).standing := by
  unfold trickleTransmit
  split
  · exact .refl
  · dsimp only
    have same : (n.modifyDodag key fun dodag =>
        { dodag with dioTrickle := dodag.dioTrickle.transmitEvent }).standing = n.standing :=
      standing_modifyDodag_same fun _ => rfl
    split
    · refine edits_selected n key ?_
      rw [standing_dioTrickleFire, same]
    · rw [same]

theorem timerOf_isSome {key : DodagKey} {timer : DodagMembership → Timer} {at_ : Time}
    (due : n.timerOf key timer = some at_) :
    ∃ dodag, n.dodags[key]? = some dodag ∧ timer dodag = some at_ :=
  Option.bind_eq_some_iff.mp due

theorem edits_globalRepair {key : DodagKey} {at_ : Time}
    (due : n.timerOf key (·.globalRepairEvent) = some at_) :
    Edits policy n.standing ((n.modifyDodag key fun dodag =>
      { dodag with globalRepairEvent := none }).globalRepairFire key).standing := by
  obtain ⟨dodag, held, running⟩ := timerOf_isSome due
  have repairs : dodag.member.repairs = true := by
    rw [DodagMembership.member, running]
    rfl
  refine .single ?_
  have heldCleared : (n.modifyDodag key fun dodag =>
      { dodag with globalRepairEvent := none }).dodags[key]? =
      some { dodag with globalRepairEvent := none } := by
    rw [modifyDodag, OrderedMap.getElem?_modify_eq, if_pos rfl, held]
    rfl
  have fired : ((n.modifyDodag key fun dodag =>
      { dodag with globalRepairEvent := none }).globalRepairFire key).standing =
      n.standing.put key
        { dodag.member with
          place := { dodag.member.place with
            version := sequenceIncrement dodag.member.place.version } } := by
    rw [globalRepairFire, modifyDodag, OrderedMap.modify_of_held heldCleared]
    have written := (n.modifyDodag key fun dodag =>
      { dodag with globalRepairEvent := none }).standing_setDodag key
        { dodag with
          version := sequenceIncrement dodag.version
          dioTrickle := dodag.dioTrickle.reset n.now
          globalRepairEvent := some (n.now + n.attributes.globalRepairInterval) }
    refine written.trans ?_
    rw [modifyDodag, OrderedMap.modify_of_held held]
    have cleared := n.standing_setDodag key { dodag with globalRepairEvent := none }
    rw [setDodag] at cleared
    rw [cleared, Standing.put_put]
    simp only [DodagMembership.member, running]
    rfl
  rw [fired]
  exact .repair (held_member held) repairs

/-- A leave whose deadline has passed; clearing the deadline first makes no difference. -/
theorem edits_expired {key : DodagKey} {dodag : DodagMembership} {cleared after : Node}
    (held : n.dodags[key]? = some dodag) (expires : dodag.member.expires = true)
    {other : DodagMembership} (clears : cleared = n.setDodag key other)
    (samePlace : other.toDodagPlace = dodag.toDodagPlace)
    (leaves : after.standing = cleared.standing.leave key false) :
    Edits policy n.standing after.standing := by
  have place : other.member.place =
      { dodag.member.place with parents := other.member.place.parents } := by
    rw [DodagMembership.member_place, DodagMembership.member_place, samePlace]
  rw [leaves, clears, standing_setDodag, Standing.put_leave (held_member held) place]
  exact .single (.expire (held_member held) expires)

theorem edits_aodvExpiry {key : DodagKey} {at_ : Time}
    (due : n.timerOf key (·.aodv.expiry) = some at_) :
    Edits policy n.standing
      ((n.modifyAodv key fun aodv => { aodv with expiry := none }).aodvInstanceExpired
        key).standing := by
  obtain ⟨dodag, held, running⟩ := timerOf_isSome due
  have cleared : n.modifyAodv key (fun aodv => { aodv with expiry := none }) =
      n.setDodag key { dodag with aodv := { dodag.aodv with expiry := none } } := by
    rw [modifyAodv, modifyDodag, OrderedMap.modify_of_held held, setDodag]
  have expires : dodag.member.expires = true := by
    rw [DodagMembership.member, running]
    rfl
  exact edits_expired held expires cleared rfl (standing_leaveDodag ..)

theorem edits_p2pExpiry {key : DodagKey} {at_ : Time}
    (due : n.timerOf key (·.p2p.expiry) = some at_) :
    Edits policy n.standing
      ((n.modifyP2p key fun p2p => { p2p with expiry := none }).p2pInstanceExpired
        key).standing := by
  obtain ⟨dodag, held, running⟩ := timerOf_isSome due
  have cleared : n.modifyP2p key (fun p2p => { p2p with expiry := none }) =
      n.setDodag key { dodag with p2p := { dodag.p2p with expiry := none } } := by
    rw [modifyP2p, modifyDodag, OrderedMap.modify_of_held held, setDodag]
  have expires : dodag.member.expires = true := by
    rw [DodagMembership.member, running]
    exact Bool.or_true _
  refine edits_expired held expires cleared rfl ?_
  unfold p2pInstanceExpired
  rw [cleared, setDodag, ExtTreeMap.getElem?_insert_self]
  dsimp only
  rw [standing_leaveDodag]
  rfl

theorem edits_fire (n : Node) (timer : TimerName) (due : n.timer timer = some n.now) :
    Edits policy n.standing (n.fire timer).standing := by
  cases timer with
  | dis =>
    rw [fire, standing_disTimerExpire]
    exact .refl
  | firstSolicitation =>
    rw [fire, standing_disTimerExpire]
    exact .refl
  | trickleTransmit key => exact edits_trickleTransmit n key
  | trickleInterval key => rw [fire, standing_trickleInterval]
  | dao key =>
    rw [fire, standing_daoEventFire, standing_modifyDodag_same]
    exact fun _ => rfl
  | daoRetry key =>
    rw [fire, standing_daoRetry, standing_modifyDodag_same]
    exact fun _ => rfl
  | globalRepair key => exact edits_globalRepair due
  | aodvExpiry key => exact edits_aodvExpiry due
  | p2pExpiry key => exact edits_p2pExpiry due
  | droRetry key =>
    rw [fire, standing_p2pDroRetry, standing_modifyP2p]
    exact fun _ => rfl
  | droCollect key =>
    rw [fire, standing_p2pDroCollectExpire, standing_modifyP2p]
    exact fun _ => rfl

/-! ## Interfaces and roots -/

theorem edits_stopInterfaceIn (interface : Nat) (n : Node) (key : DodagKey) :
    Edits policy n.standing (stopInterfaceIn interface n key).standing := by
  rw [stopInterfaceIn, standing_selectAndReset, standing_modifyPlace]
  exact .single (.settle (n.standing.settled key
    (OrderedMap.eraseIf fun _ parent => parent.interface = interface)))

theorem edits_stopInterface (n : Node) (interface : Nat) :
    Edits policy n.standing (n.stopInterface interface).standing := by
  unfold stopInterface
  split
  · dsimp only
    refine .head (.attach (n.sockets.erase interface) fun loopback => ?_) ?_
    · exact ExtTreeSet.mem_of_mem_erase loopback
    · exact TransitionSystem.star_foldl (fun n key => edits_stopInterfaceIn interface n key)
        n.dodags.keys { n with sockets := n.sockets.erase interface }
  · exact .refl

theorem edits_startInterface (n : Node) (interface : Nat) (real : interface ≠ 0) :
    Edits policy n.standing (n.startInterface interface).standing := by
  unfold startInterface
  split
  · exact .refl
  · refine .single (.attach (n.sockets.insert interface) fun loopback => ?_)
    rcases ExtTreeSet.mem_insert.mp loopback with same | before
    · exact absurd (LawfulEqCmp.eq_of_compare same) real
    · exact before

/-- A DODAG this node roots comes into being. -/
theorem edits_created {created : Node} {key : DodagKey} {mop : UInt8}
    (absent : n.dodags[key]? = none)
    (creates : created.standing = n.standing.create key (n.rootMembership key mop).member) :
    Edits policy n.standing created.standing := by
  have root : (n.rootMembership key mop).isRoot = true := rfl
  have keyed : (n.rootMembership key mop).key = key := rfl
  have expires : (n.rootMembership key mop).member.expires = false := rfl
  rw [creates]
  exact .single (.create (by rw [standing_held, absent]; rfl) root keyed expires)

theorem edits_createLocalDodag (n : Node) (instanceId mop : UInt8) :
    Edits policy n.standing
      (((n.createLocalDodag instanceId mop).map Prod.snd).getD n).standing := by
  cases creates : n.createLocalDodag instanceId mop with
  | none => exact .refl
  | some pair =>
    obtain ⟨key, created⟩ := pair
    obtain ⟨absent, formed⟩ := standing_createLocalDodag creates
    exact edits_created absent formed

theorem edits_handleDadSuccess (n : Node) (address : Ipv6Address) :
    Edits policy n.standing (n.handleDadSuccess address).standing := by
  unfold handleDadSuccess
  split
  · exact .refl
  split
  · split
    · exact .refl
    · dsimp only
      split
      · exact .refl
      · next created creates =>
        obtain ⟨absent, formed⟩ := standing_createDodagMembership creates
        rw [standing_modifyDodag_same]
        · exact edits_created absent formed
        · exact fun _ => rfl
  · exact .refl

/-! ## Events -/

theorem edits_apply (n : Node) (e : Event) (enabled : n.Enabled e)
    (complies : n.Complies policy e) :
    Edits policy n.standing (n.apply e).standing := by
  cases e with
  | receive heard message =>
    unfold apply recvRpl
    dsimp only
    split
    · exact .refl
    · next notOwn =>
      cases message with
      | dis => rw [standing_handleDis]
      | dio dio => exact edits_handleDio n dio heard notOwn (complies heard dio rfl)
      | dao dao => rw [standing_handleDao]
      | daoAck ack => rw [standing_handleDaoAck]
      | p2pDro dro => rw [standing_handleP2pDro]
      | p2pDroAck ack => rw [standing_handleP2pDroAck]
  | fire timer => exact edits_fire n timer enabled
  | tick later => exact .single (.elapse later enabled.1)
  | discoverRoute target hopByHop => exact edits_discoverRoute n target hopByHop
  | discoverP2pRoute target hopByHop => exact edits_discoverP2pRoute n target hopByHop
  | createLocalDodag instanceId mop => exact edits_createLocalDodag n instanceId mop
  | setAsRoot => exact .refl
  | dadSuccess address => exact edits_handleDadSuccess n address
  | startInterface interface => exact edits_startInterface n interface enabled
  | stopInterface interface => exact edits_stopInterface n interface
  | readdress interfaces => exact .refl
  | routeOutput destination oif => rw [apply, standing_afterRouteOutput]
  | notifyRankInconsistency instanceId => rw [apply, standing_notifyRankInconsistency]
  | notifyForwardingError instanceId destination =>
    rw [apply, standing_notifyForwardingError]

/-! ## Runs -/

/-- A node that has just started holds nothing of which anything could be wrong. -/
theorem Initial.members (initial : n.Initial) (P : DodagKey → Member → Prop)
    (key : DodagKey) (member : Member) (held : n.standing.held[key]? = some member) :
    P key member := by
  rw [standing_held, initial.dodags, ExtTreeMap.getElem?_empty] at held
  cases held

/-- What every edit keeps holds in every state of a run whose events comply. -/
theorem invariant_of_edits {I : Standing → Prop} (base : ∀ n, Initial n → I n.standing)
    (keeps : TransitionSystem.Keeps (Edit policy) I)
    (run : nodeSystem.Run (Complies policy) n) : I n.standing :=
  TransitionSystem.Run.invariant (I := fun n => I n.standing) base
    (fun n e holds enabled complies => keeps.star (edits_apply n e enabled complies) holds) run

/-- Every event complies with the trivial policy. -/
theorem run_any_of_reachable (reachable : nodeSystem.Reachable n) :
    nodeSystem.Run (Complies .any) n :=
  TransitionSystem.Run.mono (fun n e _ => complies_any n e) reachable

end Node

end Rpl
