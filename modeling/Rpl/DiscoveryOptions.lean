import Rpl.DioCodec
import Rpl.Turns

/-!
# One discovery option

A P2P mode DIO is to carry one discovery option.  How many there are is decided in two
places: reading keeps no more than one option of each kind, and the handler counts the
kinds it finds.  A kind that is repeated is counted once, and a P2P-RDO that a malformed
one follows not at all.
-/

namespace Rpl

open Std

/-! ## A DIO that changes nothing -/

/-- The memberships, the route tables and the timers are as they were. -/
structure Node.Untouched (n after : Node) : Prop where
  dodags : after.dodags = n.dodags
  base : after.hasBaseDodag = n.hasBaseDodag ∧ after.baseDodagKey = n.baseDodagKey
  aodvRoutes : after.aodvRoutes = n.aodvRoutes
  p2pRoutes : after.p2pRoutes = n.p2pRoutes
  hopByHopRoutes : after.hopByHopRoutes = n.hopByHopRoutes
  timers : after.disTimer = n.disTimer ∧ after.firstSolicitation = n.firstSolicitation

theorem Node.Untouched.refl (n : Node) : n.Untouched n :=
  ⟨rfl, ⟨rfl, rfl⟩, rfl, rfl, rfl, ⟨rfl, rfl⟩⟩

namespace DioHeader

/-- Whatever node receives the DIO, however it is heard, is left untouched. -/
def Ignored (dio : DioHeader) : Prop :=
  ∀ (n : Node) (heard : Reception), n.Untouched (n.handleDio dio heard)

/-- An RREP-DIO that no reply by unicast can come of: it names no OrigNode, or its route is to
be in its address vector and is not. -/
def Fruitless (dio : DioHeader) : Prop :=
  dio.arts = [] ∨ dio.getRrep.hopByHop = false ∧
    (dio.getRrep.addressVector = [] ∨
      ∀ address ∈ dio.getArt.target :: dio.getRrep.addressVector, address.isAny = true)

/-- Every node refuses the discovery, for what the DIO says of it. -/
structure PassedOver (dio : DioHeader) : Prop where
  refused : ∀ n : Node, n.refusesDiscovery dio = true
  fruitless : dio.rrep.isSome = true → dio.Fruitless

end DioHeader

namespace Node

variable {n : Node} {dio : DioHeader} {heard : Reception} {key : DodagKey}

/-- An address vector without an address of this node. -/
theorem not_inVector_of_any {addresses : List Ipv6Address}
    (any : ∀ address ∈ addresses, address.isAny = true) :
    ∀ address ∈ addresses, n.ipv6.isOwnAddress address = false := by
  intro address mem
  rw [Ipv6L3Protocol.isOwnAddress, any address mem, Bool.not_true, Bool.false_and]

theorem handleAodvRrep_of_fruitless (fruitless : dio.Fruitless) (sender : Ipv6Address) :
    n.handleAodvRrep dio sender = n := by
  unfold handleAodvRrep
  dsimp only
  split
  · rfl
  · next named =>
    obtain ⟨sourceRouted, fruitless⟩ := fruitless.resolve_left fun none =>
      named (List.isEmpty_iff.mpr none)
    split
    · rfl
    · split
      · rfl
      · rw [sourceRouted]
        simp only [Bool.false_eq_true, if_false, Bool.not_true]
        rcases fruitless with empty | any
        · rw [empty]
          split
          · rfl
          · rw [rrepRelayHop, sourceRouted, empty]
            rfl
        · have notOwn := not_inVector_of_any (n := n) any
          rw [notOwn _ List.mem_cons_self]
          have none_ : dio.getRrep.addressVector.findIdx? n.ipv6.isOwnAddress = none :=
            List.findIdx?_eq_none_iff.mpr fun address mem =>
              notOwn address (List.mem_cons_of_mem _ mem)
          rw [rrepRelayHop, sourceRouted]
          simp only [Bool.false_eq_true, if_false, none_]

/-- A DIO with no option, or with several kinds of them, is dropped. -/
theorem handleDio_of_unfit (unfit : discoveryOptionsFit dio = false) :
    n.handleDio dio heard = n := by
  have drops : n.dropsDio dio heard.sender = true := by
    rw [dropsDio, unfit, Bool.not_false, Bool.or_true]
  rw [handleDio, if_pos drops]

theorem handleDio_of_passedOver (passed : dio.PassedOver) : n.handleDio dio heard = n := by
  unfold handleDio
  split
  · rfl
  · split
    · next unicast =>
      exact handleAodvRrep_of_fruitless (passed.fruitless (Bool.and_eq_true_iff.mp unicast).1) _
    · rw [if_pos (passed.refused n)]

/-! ## A node that does not refuse -/

/-- The node, with one membership and nothing else. -/
def listening (n : Node) (dodag : DodagMembership) : Node :=
  { n with
    isRoot := false
    dodags := (∅ : ExtTreeMap DodagKey DodagMembership).insert dodag.key dodag }

theorem listening_held (n : Node) (dodag : DodagMembership) :
    (n.listening dodag).dodags[dodag.key]? = some dodag :=
  ExtTreeMap.getElem?_insert_self

theorem refusesDiscovery_listening {dodag : DodagMembership} (keyed : dodag.key = dio.key)
    (going : dodag.p2p.stopped = false) (welcome : n.refusesDiscovery dio = false) :
    (n.listening dodag).refusesDiscovery dio = false := by
  have held : (n.listening dodag).dodags[dio.key]? = some dodag := keyed ▸ listening_held n dodag
  have rreq : (n.listening dodag).shouldRefuseAodvRreq dio = n.shouldRefuseAodvRreq dio := rfl
  have rrep : (n.listening dodag).shouldRefuseAodvRrep dio = n.shouldRefuseAodvRrep dio := rfl
  have rdo (refuses : n.shouldRefuseP2pRdo dio = false) :
      (n.listening dodag).shouldRefuseP2pRdo dio = false := by
    have stopped : (n.listening dodag).p2pStopped dio.key = false := by
      rw [p2pStopped, held]
      exact going
    simp only [shouldRefuseP2pRdo, Bool.or_eq_false_iff] at refuses ⊢
    exact ⟨⟨⟨⟨refuses.1.1.1.1, stopped⟩, refuses.1.1.2⟩, refuses.1.2⟩, refuses.2⟩
  simp only [refusesDiscovery, rreq, rrep, Bool.or_eq_false_iff, Bool.and_eq_false_iff] at welcome ⊢
  exact ⟨welcome.1, welcome.2.imp_right rdo⟩

/-- A discovery a node does not refuse is of a DODAGID that is not its own. -/
theorem notOwn_of_welcome (fits : dio.rreq.isSome = true ∨ dio.rrep.isSome = true ∨
    dio.p2pRdo.isSome = true) (welcome : n.refusesDiscovery dio = false) :
    n.ipv6.isOwnAddress dio.dodagId = false := by
  simp only [refusesDiscovery, Bool.or_eq_false_iff, Bool.and_eq_false_iff] at welcome
  obtain ⟨⟨rreq, rrep⟩, rdo⟩ := welcome
  rcases fits with given | given | given
  · have accepts := rreq.resolve_left (Bool.eq_false_iff.not_left.mpr given)
    simp only [shouldRefuseAodvRreq, shouldRefuseAodvInstance, Bool.or_eq_false_iff] at accepts
    exact accepts.1.1.2.2
  · have accepts := rrep.resolve_left (Bool.eq_false_iff.not_left.mpr given)
    simp only [shouldRefuseAodvRrep, shouldRefuseAodvInstance, Bool.or_eq_false_iff] at accepts
    exact accepts.1.1.1.2
  · have accepts := rdo.resolve_left (Bool.eq_false_iff.not_left.mpr given)
    simp only [shouldRefuseP2pRdo, Bool.or_eq_false_iff] at accepts
    exact accepts.1.1.2

/-- The link-local address of an interface is an address of the node, if there is one. -/
theorem getLinkLocalAddress_cases (ipv6 : Ipv6L3Protocol) (interface : Nat) :
    ipv6.getLinkLocalAddress interface = anyAddress ∨
      ipv6.isOwnAddress (ipv6.getLinkLocalAddress interface) = true := by
  rw [Ipv6L3Protocol.getLinkLocalAddress]
  cases first : ((ipv6.addressesOf interface).map Ipv6InterfaceAddress.address).find?
      Ipv6Address.isLinkLocal with
  | none => exact .inl rfl
  | some address =>
    refine or_iff_not_imp_left.mpr fun named => ?_
    rw [Option.getD_some] at named ⊢
    obtain ⟨held, mem, rfl⟩ := List.mem_map.mp (List.mem_of_find?_eq_some first)
    rw [Ipv6L3Protocol.addressesOf] at mem
    cases found : ipv6.interfaces[interface]? with
    | none =>
      rw [found] at mem
      cases mem
    | some own =>
      rw [found] at mem
      rw [Ipv6L3Protocol.isOwnAddress, Bool.and_eq_true, Bool.not_eq_true', List.any_eq_true]
      exact ⟨decide_eq_false named, own, List.mem_of_getElem? found,
        List.any_eq_true.mpr ⟨held, mem, decide_eq_true rfl⟩⟩

/-- A node that does not have every address hears from a neighbour it does not take for itself. -/
theorem exists_neighbour {ipv6 : Ipv6L3Protocol} {address : Ipv6Address}
    (notOwn : ipv6.isOwnAddress address = false) :
    ∃ sender interface, ipv6.isOwnAddress sender = false ∧
      sender ≠ ipv6.getLinkLocalAddress interface := by
  let linkLocal : Ipv6Address := 0xfe800000000000000000000000000001#128
  cases own : ipv6.isOwnAddress linkLocal with
  | false =>
    refine ⟨linkLocal, 0, own, fun same => ?_⟩
    rcases getLinkLocalAddress_cases ipv6 0 with none_ | held
    · exact absurd (same.trans none_) (by decide)
    · rw [← same, own] at held
      cases held
  | true =>
    rw [Ipv6L3Protocol.isOwnAddress, Bool.and_eq_true, List.any_eq_true] at own
    obtain ⟨-, held, mem, has⟩ := own
    obtain ⟨a, inside, same⟩ := List.any_eq_true.mp has
    obtain ⟨interface, found⟩ := List.getElem?_of_mem mem
    refine ⟨address, interface, notOwn, fun isLinkLocal => ?_⟩
    rcases getLinkLocalAddress_cases ipv6 interface with none_ | heldHere
    · have first := none_
      rw [Ipv6L3Protocol.getLinkLocalAddress, Ipv6L3Protocol.addressesOf, found, Option.map_some,
        Option.getD_some] at first
      cases search : (held.addresses.map Ipv6InterfaceAddress.address).find?
          Ipv6Address.isLinkLocal with
      | none =>
        have mapped := List.mem_map_of_mem (f := Ipv6InterfaceAddress.address) inside
        rw [of_decide_eq_true same] at mapped
        exact absurd (List.find?_eq_none.mp search linkLocal mapped) (by decide)
      | some other =>
        rw [search, Option.getD_some] at first
        have linkLocal := List.find?_some search
        rw [first] at linkLocal
        cases linkLocal
    · rw [← isLinkLocal, notOwn] at heldHere
      cases heldHere

/-! ## What a DIO that is not refused changes -/

/-- A DIO with exactly one kind of discovery option is not dropped by a node that is no root. -/
theorem not_dropsDio_listening {dodag : DodagMembership} (keyed : dodag.key = dio.key)
    (notRoot : dodag.isRoot = false) (mop : dio.mop = mopP2pRouteDiscovery)
    (fits : discoveryOptionsFit dio = true) {sender : Ipv6Address}
    (notOwn : n.ipv6.isOwnAddress sender = false) :
    (n.listening dodag).dropsDio dio sender = false := by
  have held : (n.listening dodag).dodags[dio.key]? = some dodag := keyed ▸ listening_held n dodag
  have leaf : (n.listening dodag).isRoot = false := rfl
  have same : (n.listening dodag).ipv6 = n.ipv6 := rfl
  have implemented : implementedMop dio.mop = true := by
    rw [mop]
    decide
  rw [dropsDio, held, leaf, same, notOwn, implemented, fits, Option.any_some, notRoot]
  rfl

/-- Every Version has one before it. -/
theorem exists_older (version : UInt8) : ∃ older, sequenceCompare version older = .greater ∧
    version ≠ older := by
  revert version
  refine Octets.forall_octet fun version => ?_
  have each : ∀ version : Fin 256, ∃ older : Fin 256,
      sequenceCompare (UInt8.ofNat version) (UInt8.ofNat older) = .greater ∧
        UInt8.ofNat version ≠ UInt8.ofNat older := by
    intro version
    refine ⟨version - 1, ?_⟩
    revert version
    decide +kernel
  obtain ⟨older, newer⟩ := each version
  exact ⟨UInt8.ofNat older, newer⟩

/-- Every membership under the key is temporary. -/
def OnlyTemporary (key : DodagKey) (s : Stakes) : Prop :=
  ∀ stake, s.held[key]? = some stake → stake.mop = mopP2pRouteDiscovery

theorem onlyTemporary_shift {e : Event} {s after : Stakes} (takes : n.Takes e dio heard)
    (mop : dio.mop = mopP2pRouteDiscovery) (shift : Shift n e false s after)
    (only : OnlyTemporary key s) : OnlyTemporary key after := by
  intro stake held
  cases shift.turn key with
  | stays sameHeld => exact only stake (sameHeld ▸ held)
  | unbars _ _ _ _ heldBefore still =>
    rw [still, ← heldBefore] at held
    exact only stake held
  | begins absent begins heldAfter =>
    cases heldAfter.symm.trans held
    cases begins with
    | join _ takesOther =>
      cases takes.unique takesOther
      exact mop
    | root roots => exact (roots.answers takes).2.2.1
  | rewrites heldBefore rewrites rewritten =>
    cases rewritten.symm.trans held
    have before := only _ heldBefore
    cases rewrites with
    | rest => exact before
    | rreq => exact before
    | rrep => exact before
    | rdo => exact before
    | armAodv => exact before
    | armP2p => exact before
    | stop => exact before
  | ends _ gone =>
    rw [gone] at held
    cases held

/-- A member of an older Version of an ordinary DODAG leaves it for the discovery. -/
theorem touches_of_finite (finite : dio.rank ≠ infiniteRank) (mop : dio.mop = mopP2pRouteDiscovery)
    (fits : discoveryOptionsFit dio = true) (welcome : n.refusesDiscovery dio = false)
    {sender : Ipv6Address} {interface : Nat} (notOwn : n.ipv6.isOwnAddress sender = false)
    (other : sender ≠ n.ipv6.getLinkLocalAddress interface) : ¬dio.Ignored := by
  intro ignored
  obtain ⟨older, newer, differs⟩ := exists_older dio.version
  let dodag : DodagMembership :=
    { instanceId := dio.instanceId, dodagId := dio.dodagId, version := older }
  let heard : Reception := { sender := sender, interface := interface }
  let member := n.listening dodag
  have held : member.dodags[dio.key]? = some dodag := listening_held n dodag
  have takes : member.Takes (.receive heard (.dio dio)) dio heard := by
    refine ⟨rfl, ?_⟩
    have kept : member.dropsDio dio heard.sender = false :=
      not_dropsDio_listening rfl rfl mop fits notOwn
    have accepts : member.refusesDiscovery dio = false :=
      refusesDiscovery_listening rfl rfl welcome
    have notSelf : heard.sender ≠ member.ipv6.getLinkLocalAddress heard.interface := other
    have multicast : heard.toMulticast = true := rfl
    simp only [takesDio, kept, accepts, multicast, finite, notSelf, ne_eq, not_false_eq_true,
      decide_true, Bool.not_false, Bool.not_true, Bool.and_false, Bool.and_self]
  have joins : member.joinsBy dio = true := by
    have migrating : migrates dodag.toDodagPlace dio = true := by
      rw [migrates, newer]
    rw [joinsBy, held]
    simp only [migrating, Bool.and_true]
    exact (Bool.and_eq_true ..).mpr ⟨decide_eq_true differs, rfl⟩
  obtain ⟨before, enters, -⟩ := enterVersion_of_joins joins interface
  have joined : OnlyTemporary dio.key (before.joinDodag dio interface).stakes := by
    intro stake heldAfter
    rw [stakes_joinDodag, Stakes.put_held, if_pos rfl] at heldAfter
    cases heldAfter
    exact mop
  have after : OnlyTemporary dio.key (member.apply (.receive heard (.dio dio))).stakes :=
    TransitionSystem.Keeps.star (I := OnlyTemporary dio.key)
      (fun _ _ shift => onlyTemporary_shift takes mop shift) (takes.shifts_of_enters enters) joined
  have still : (member.handleDio dio heard).dodags[dio.key]? = some dodag := by
    rw [(ignored member heard).dodags]
    exact held
  have handled : member.apply (.receive heard (.dio dio)) = member.handleDio dio heard := by
    rw [apply, recvRpl]
    exact if_neg other
  rw [handled] at after
  have temporary := after _ (held_stake still)
  cases temporary

/-- Parent selection puts no neighbour into the table. -/
theorem absent_of_select {s : Standing} {member : Member} {address : Ipv6Address}
    (held : s.held[key]? = some member) (absent : member.place.parents[address]? = none)
    {after : Member} (heldAfter : (s.select key).held[key]? = some after) :
    after.place.parents[address]? = none := by
  have swept : (s.swept member).parents[address]? = none := by
    rw [Standing.swept, DodagPlace.sweep, OrderedMap.getElem?_eraseIf, absent]
    rfl
  unfold Standing.select at heldAfter
  rw [held] at heldAfter
  dsimp only at heldAfter
  split at heldAfter
  · cases held.symm.trans heldAfter
    exact absent
  · split at heldAfter
    · rw [Standing.held_put, if_pos rfl] at heldAfter
      cases heldAfter
      exact swept
    · split at heldAfter
      · rw [Standing.held_leave, if_pos rfl] at heldAfter
        cases heldAfter
      · rw [Standing.mark_held, Standing.held_put, if_pos rfl] at heldAfter
        cases heldAfter
        exact swept

/-- A member loses the neighbour that advertises an infinite rank. -/
theorem touches_of_poison (poison : dio.rank = infiniteRank) (mop : dio.mop = mopP2pRouteDiscovery)
    (fits : discoveryOptionsFit dio = true) (welcome : n.refusesDiscovery dio = false)
    {sender : Ipv6Address} (notOwn : n.ipv6.isOwnAddress sender = false) : ¬dio.Ignored := by
  intro ignored
  let dodag : DodagMembership :=
    { instanceId := dio.instanceId
      dodagId := dio.dodagId
      parents := (∅ : ExtTreeMap Ipv6Address Parent).insert sender { address := sender } }
  let heard : Reception := { sender := sender, interface := 0 }
  let member := n.listening dodag
  have held : member.dodags[dio.key]? = some dodag := listening_held n dodag
  have kept : member.dropsDio dio heard.sender = false :=
    not_dropsDio_listening rfl rfl mop fits notOwn
  have accepts : member.refusesDiscovery dio = false :=
    refusesDiscovery_listening rfl rfl welcome
  have multicast : heard.toMulticast = true := rfl
  have handled : member.handleDio dio heard = member.handlePoison dio.key sender := by
    unfold handleDio
    simp only [kept, accepts, multicast, poison, Bool.false_eq_true, if_false, Bool.not_true,
      Bool.and_false, if_true]
    rfl
  have still : (member.handlePoison dio.key sender).dodags[dio.key]? = some dodag := by
    rw [← handled, (ignored member heard).dodags]
    exact held
  have silent : (if sender = dodag.preferredParent then member.sendNoPathDao dio.key sender
      else member).standing = member.standing := by
    split
    · exact standing_sendNoPathDao ..
    · rfl
  have here : member.standing.held[dio.key]? = some dodag.member := held_member held
  have after : (member.handlePoison dio.key sender).standing.held[dio.key]? = some dodag.member :=
    held_member still
  rw [handlePoison, held] at after
  dsimp only at after
  rw [standing_selectAndReset, standing_modifyPlace, silent] at after
  change ((member.standing.withParents dio.key (·.erase sender)).select dio.key).held[dio.key]? =
    some dodag.member at after
  rw [Standing.withParents_of_held here] at after
  have gone := absent_of_select ((Standing.held_put).trans (if_pos rfl))
    ExtTreeMap.getElem?_erase_self after
  have present : dodag.member.place.parents[sender]? = some { address := sender } :=
    ExtTreeMap.getElem?_insert_self
  cases present.symm.trans gone

/-! ## What an RREP by unicast changes -/

/-- A node with the given addresses, a member of the RREQ-Instance an RREP-DIO answers. -/
def answered (own : List Ipv6Address) (dio : DioHeader) : Node :=
  let rreqKey : DodagKey := ⟨dio.instanceId - dio.getRrep.delta, dio.getArt.target⟩
  { ipv6 := .ofInterfaces
      [{ addresses := own.map fun address => { address := address, scope := .global } }]
    dodags := (∅ : ExtTreeMap DodagKey DodagMembership).insert rreqKey
      { instanceId := rreqKey.instanceId, dodagId := rreqKey.dodagId } }

theorem isOwnAddress_answered {own : List Ipv6Address} {address : Ipv6Address} :
    (answered own dio).ipv6.isOwnAddress address = (!address.isAny && decide (address ∈ own)) := by
  rw [Bool.eq_iff_iff]
  simp [answered, Ipv6L3Protocol.isOwnAddress, Ipv6L3Protocol.ofInterfaces]

/-- An RREP-DIO that a reply can come of is dealt with by a node it answers. -/
theorem handleDio_answered (own : List Ipv6Address) (rrep : dio.rrep.isSome = true)
    (mop : dio.mop = mopP2pRouteDiscovery) (fits : discoveryOptionsFit dio = true) :
    (answered own dio).handleDio dio
      { sender := anyAddress, interface := 0, toMulticast := false } =
      (answered own dio).handleAodvRrep dio anyAddress := by
  have kept : (answered own dio).dropsDio dio anyAddress = false := by
    have notOwn : (answered own dio).ipv6.isOwnAddress anyAddress = false := rfl
    have implemented : implementedMop dio.mop = true := by
      rw [mop]
      decide
    have leaf : (answered own dio).isRoot = false := rfl
    have notRoot :
        ((answered own dio).dodags[dio.key]?).any (fun dodag => dodag.isRoot) = false := by
      rw [answered, OrderedMap.getElem?_insert_eq]
      split
      · rfl
      · rw [ExtTreeMap.getElem?_empty]
        rfl
    rw [dropsDio, notOwn, implemented, fits, leaf, notRoot]
    rfl
  unfold handleDio
  dsimp only
  rw [kept, rrep]
  rfl

/-- The membership it is a member of. -/
theorem answered_held (own : List Ipv6Address) (dio : DioHeader) :
    (answered own dio).dodags[
      (⟨dio.instanceId - dio.getRrep.delta, dio.getArt.target⟩ : DodagKey)]? =
      some
        { instanceId := dio.instanceId - dio.getRrep.delta
          dodagId := dio.getArt.target } :=
  ExtTreeMap.getElem?_insert_self

theorem sendAodvTo_keeps (dodag : DodagMembership) (dio : DioHeader) (nextHop : Ipv6Address) :
    (n.sendAodvTo dodag dio nextHop).dodags = n.dodags ∧
      (n.sendAodvTo dodag dio nextHop).hopByHopRoutes = n.hopByHopRoutes := by
  obtain ⟨sent, sends, -⟩ := hands_sendAodvTo (n := n) dodag dio nextHop
  rw [sends]
  exact ⟨rfl, rfl⟩

/-- The RREP-DIO of a hop-by-hop route leaves a route to its TargNode. -/
theorem touches_of_hopByHop (named : dio.arts ≠ []) (hopByHop : dio.getRrep.hopByHop = true)
    (sender : Ipv6Address) :
    ((answered [] dio).handleAodvRrep dio sender).hopByHopRoutes ≠ ∅ := by
  intro empty
  have given : dio.arts.isEmpty = false := Bool.eq_false_iff.mpr (mt List.isEmpty_iff.mp named)
  have accepts (key : DodagKey) (seqNo : Option UInt8) :
      (answered [] dio).refusesHopByHopRoute key dio.dodagId sender seqNo true = false := by
    simp [refusesHopByHopRoute, findHopByHopRouteIn, findHopByHopRoute, answered]
  have stored :
      (((answered [] dio).handleAodvRrep dio sender).hopByHopRoutes[dio.dodagId]?).isSome =
      true := by
    unfold handleAodvRrep
    dsimp only
    rw [given, answered_held]
    simp only [Bool.false_eq_true, if_false, hopByHop, if_true, storeHopByHopRoute, accepts,
      Bool.not_true]
    rw [if_neg (by simp)]
    have inserted (table : ExtTreeMap Ipv6Address HopByHopRoute) (route : HopByHopRoute) :
        ((table.insert dio.dodagId route)[dio.dodagId]?).isSome = true := by
      rw [ExtTreeMap.getElem?_insert_self]
      rfl
    split
    · exact inserted _ _
    · split
      · exact inserted _ _
      · rw [(sendAodvTo_keeps ..).2]
        exact inserted _ _
  rw [empty, ExtTreeMap.getElem?_empty] at stored
  cases stored

/-- The RREP-DIO of a source route is stored by the OrigNode, and passed on by a router that its
address vector names. -/
theorem touches_of_vector (named : dio.arts ≠ []) (sourceRouted : dio.getRrep.hopByHop = false)
    (sender : Ipv6Address) {address : Ipv6Address}
    (mem : address ∈ dio.getArt.target :: dio.getRrep.addressVector)
    (some_ : address.isAny = false) (entries : dio.getRrep.addressVector ≠ []) :
    ¬(answered [address] dio).Untouched ((answered [address] dio).handleAodvRrep dio sender) := by
  intro untouched
  have given : dio.arts.isEmpty = false := Bool.eq_false_iff.mpr (mt List.isEmpty_iff.mp named)
  have nonempty : dio.getRrep.addressVector.isEmpty = false :=
    Bool.eq_false_iff.mpr (mt List.isEmpty_iff.mp entries)
  have own : (answered [address] dio).ipv6.isOwnAddress address = true := by
    rw [isOwnAddress_answered, some_, decide_eq_true List.mem_cons_self]
    rfl
  have tables := untouched.aodvRoutes
  have memberships := untouched.dodags
  unfold handleAodvRrep at tables memberships
  dsimp only at tables memberships
  rw [given, answered_held] at tables memberships
  simp only [Bool.false_eq_true, if_false, sourceRouted, Bool.not_true, nonempty]
    at tables memberships
  rw [if_neg (by simp)] at tables memberships
  split at tables
  · next origin =>
    rw [completeAodvRoute] at tables
    cases last : dio.getRrep.addressVector.getLast? with
    | none => exact entries (List.getLast?_eq_none_iff.mp last)
    | some target =>
      rw [last] at tables
      have stored := congrArg (·[target]?) tables
      have absent : (answered [address] dio).aodvRoutes[target]? = none :=
        ExtTreeMap.getElem?_empty
      rw [absent] at stored
      exact absurd (stored.symm.trans ExtTreeMap.getElem?_insert_self) (by simp)
  · next router =>
    rw [if_neg router] at memberships
    have inside : address ∈ dio.getRrep.addressVector := by
      rcases List.mem_cons.mp mem with rfl | inside
      · exact absurd own router
      · exact inside
    obtain ⟨nextHop, relays⟩ : ∃ nextHop, (answered [address] dio).rrepRelayHop
        ⟨dio.instanceId - dio.getRrep.delta, dio.getArt.target⟩ dio.getRrep = some nextHop := by
      rw [rrepRelayHop, sourceRouted]
      simp only [Bool.false_eq_true, if_false]
      cases found : dio.getRrep.addressVector.findIdx?
          (answered [address] dio).ipv6.isOwnAddress with
      | none =>
        rw [List.findIdx?_eq_none_iff.mp found address inside] at own
        cases own
      | some index =>
        have below := (List.findIdx?_eq_some_iff_getElem.mp found).1
        cases index with
        | zero => exact ⟨_, rfl⟩
        | succ index => exact ⟨_, List.getElem?_eq_getElem (Nat.lt_of_succ_lt below)⟩
    rw [relays] at memberships
    dsimp only at memberships
    rw [(sendAodvTo_keeps ..).1, markRrepHandled, modifyAodv,
      setDodag_of_held (answered_held ..)] at memberships
    have held := congrArg (·[(⟨dio.instanceId - dio.getRrep.delta, dio.getArt.target⟩ : DodagKey)]?)
      memberships
    dsimp only at held
    rw [answered_held, setDodag, ExtTreeMap.getElem?_insert_self] at held
    have handled := congrArg (fun dodag => dodag.aodv.rrepHandled.contains dio.dodagId)
      (Option.some.inj held)
    simp at handled

end Node

/-! ## Which DIOs are ignored -/

namespace DioHeader

variable {dio : DioHeader}

/-- The options of a DIO on the wire, with the DODAGID they are read under. -/
def wireOptions (octets : List UInt8) : Option (Ipv6Address × List Tlv.TypedBody) :=
  (readBase octets).map fun (base, options) => (base.dodagId, Tlv.options optionPad1 options)

/-- A DIO with one kind of discovery option is ignored where every node passes it over. -/
theorem passedOver_of_ignored (mop : dio.mop = mopP2pRouteDiscovery)
    (fits : Node.discoveryOptionsFit dio = true) (ignored : dio.Ignored) : dio.PassedOver := by
  have option : dio.rreq.isSome = true ∨ dio.rrep.isSome = true ∨ dio.p2pRdo.isSome = true := by
    by_contra none
    simp only [not_or, Bool.not_eq_true] at none
    rw [Node.discoveryOptionsFit, none.1, none.2.1, none.2.2, if_pos mop] at fits
    cases fits
  refine ⟨fun n => ?_, fun rrep => ?_⟩
  · by_contra welcome
    rw [Bool.not_eq_true] at welcome
    obtain ⟨sender, interface, notOwn, other⟩ :=
      Node.exists_neighbour (Node.notOwn_of_welcome option welcome)
    by_cases poison : dio.rank = infiniteRank
    · exact Node.touches_of_poison poison mop fits welcome notOwn ignored
    · exact Node.touches_of_finite poison mop fits welcome notOwn other ignored
  · by_contra fruitful
    simp only [Fruitless, not_or, not_and] at fruitful
    obtain ⟨named, routed⟩ := fruitful
    have handled (own : List Ipv6Address) := Node.handleDio_answered own rrep mop fits
    cases sourceRouted : dio.getRrep.hopByHop with
    | true =>
      have untouched := ignored (Node.answered [] dio)
        { sender := anyAddress, interface := 0, toMulticast := false }
      rw [handled] at untouched
      exact Node.touches_of_hopByHop named sourceRouted anyAddress untouched.hopByHopRoutes
    | false =>
      obtain ⟨entries, address, mem, some_⟩ := by
        simpa only [not_forall, exists_prop, Bool.not_eq_true] using routed sourceRouted
      have untouched := ignored (Node.answered [address] dio)
        { sender := anyAddress, interface := 0, toMulticast := false }
      rw [handled] at untouched
      exact Node.touches_of_vector named sourceRouted anyAddress mem some_ entries untouched

/-- What a P2P mode DIO on the wire must be for every node to ignore it when it has not exactly
one well-formed discovery option. -/
theorem ignored_iff {octets : List UInt8} {dodagId : Ipv6Address} {options : List Tlv.TypedBody}
    (wire : wireOptions octets = some (dodagId, options)) (read : deserialize octets = some dio)
    (mop : dio.mop = mopP2pRouteDiscovery) :
    (discoveryOptions dodagId options ≠ 1 → dio.Ignored) ↔
      discoveryOptions dodagId options = 1 ∨ kindsLeft dodagId options ≠ 1 ∨ dio.PassedOver := by
  obtain ⟨base, body, based, -, kinds⟩ := deserialize_eq_some read
  obtain ⟨⟨_, _⟩, found, same⟩ := Option.map_eq_some_iff.mp wire
  cases based.symm.trans found
  cases same
  have fits : Node.discoveryOptionsFit dio = decide (kindsLeft base.dodagId
      (Tlv.options optionPad1 body) = 1) := by
    rw [Node.discoveryOptionsFit, if_pos mop, kinds]
  constructor
  · intro holds
    by_cases one : discoveryOptions base.dodagId (Tlv.options optionPad1 body) = 1
    · exact .inl one
    · by_cases left : kindsLeft base.dodagId (Tlv.options optionPad1 body) = 1
      · rw [decide_eq_true left] at fits
        exact .inr (.inr (passedOver_of_ignored mop fits (holds one)))
      · exact .inr (.inl left)
  · rintro (one | left | passed) several
    · exact absurd one several
    · rw [decide_eq_false left] at fits
      intro n heard
      rw [Node.handleDio_of_unfit fits]
      exact .refl n
    · intro n heard
      rw [Node.handleDio_of_passedOver passed]
      exact .refl n

/-! ## A DIO that asks twice -/

/-- The base of a P2P mode DIO of 2001:db8::1, on the wire. -/
def baseOctets : List UInt8 :=
  [0x80, 0, 1, 0, 0xa0, 0, 0, 0] ++
    addressOctets 0x20010db8000000000000000000000001#128

/-- The DIO with no option at all. -/
def bare : DioHeader :=
  { instanceId := 0x80
    rank := 256
    grounded := true
    mop := mopP2pRouteDiscovery
    dodagId := 0x20010db8000000000000000000000001#128 }

/-- A DIO without an option is ignored. -/
theorem bare_ignored : bare.Ignored := by
  have wire : wireOptions baseOctets = some (bare.dodagId, []) := by decide +kernel
  have read : deserialize baseOctets = some bare := by decide +kernel
  exact (ignored_iff wire read rfl).mpr (.inr (.inl (by decide))) (by decide)

/-- An RREQ option without addresses, on the wire. -/
def rreqOctets : List UInt8 := [0x0b, 3, 0x80, 0x80, 1]

/-- The DIO with that option twice, and an ART for 2001:db8::9. -/
def twiceOctets : List UInt8 :=
  baseOctets ++ rreqOctets ++ rreqOctets ++
    [0x0d, 18, 0, 0] ++ addressOctets 0x20010db8000000000000000000000009#128

def twice : DioHeader :=
  { bare with
    rreq := some { lifetime := 1, origSeqNo := 1 }
    arts := [{ target := 0x20010db8000000000000000000000009#128 }] }

/-- Two RREQ options are read as one, and a router joins by them. -/
theorem twice_not_ignored :
    deserialize twiceOctets = some twice ∧ twice.mop = mopP2pRouteDiscovery ∧
      (wireOptions twiceOctets).map (fun wire => discoveryOptions wire.1 wire.2) = some 2 ∧
      ¬(Node.started Node.leafIpv6).Untouched ((Node.started Node.leafIpv6).handleDio twice
        { sender := 0xfe800000000000000000000000000001#128, interface := 1 }) := by
  refine ⟨by decide +kernel, rfl, by decide +kernel, fun untouched => ?_⟩
  have joined : ((Node.started Node.leafIpv6).handleDio twice
      { sender := 0xfe800000000000000000000000000001#128, interface := 1 }).dodags.contains
        twice.key = true := by decide +kernel
  rw [untouched.dodags] at joined
  cases joined

end DioHeader

end Rpl
