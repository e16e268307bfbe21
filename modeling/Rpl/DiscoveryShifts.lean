import Rpl.Shifts

/-!
# Every event is a sequence of shifts

The functions that start a discovery, the AODV-RPL and P2P-RPL handlers and the
timers do shifts to the stakes of a node, and so every event does.
-/

namespace Rpl

open Std

namespace Node

variable {n m : Node} {e : Event} {late : Bool} {key : DodagKey} {dodag : DodagMembership}

/-! ## DODAGs this node roots -/

theorem stakes_createDodagMembership {created : Node} {mop : UInt8}
    (creates : m.createDodagMembership key mop = some created) :
    m.dodags[key]? = none ∧ created.dodags[key]? = some (m.rootMembership key mop) ∧
      created.stakes = m.stakes.put key (m.rootMembership key mop).stake := by
  unfold createDodagMembership at creates
  split at creates
  · cases creates
  · next absent =>
    rw [ExtTreeMap.contains_eq_isSome_getElem?, Option.not_isSome_iff_eq_none] at absent
    have put := m.stakes_setDodag key (m.rootMembership key mop)
    dsimp only at creates
    split at creates
    · cases creates
      exact ⟨absent, ExtTreeMap.getElem?_insert_self, put⟩
    · cases creates
      exact ⟨absent, ExtTreeMap.getElem?_insert_self, put⟩

theorem stakes_createLocalDodag {created : Node} {id mop : UInt8}
    (creates : m.createLocalDodag id mop = some (key, created)) :
    key = ⟨clearDFlag id, m.getGlobalAddress⟩ ∧ m.dodags[key]? = none ∧
      created.dodags[key]? = some (m.rootMembership key mop) ∧
      created.stakes = m.stakes.put key (m.rootMembership key mop).stake := by
  unfold createLocalDodag at creates
  dsimp only at creates
  split at creates
  · cases creates
  · obtain ⟨other, makes, pair⟩ := Option.map_eq_some_iff.mp creates
    cases pair
    exact ⟨rfl, stakes_createDodagMembership makes⟩

theorem shifts_createLocalDodag (n : Node) (id mop : UInt8)
    (event : e = .createLocalDodag id mop) :
    Shifts n e late n.stakes (((n.createLocalDodag id mop).map Prod.snd).getD n).stakes := by
  cases creates : n.createLocalDodag id mop with
  | none => exact .refl
  | some pair =>
    obtain ⟨key, created⟩ := pair
    obtain ⟨named, absent, -, put⟩ := stakes_createLocalDodag creates
    have address : n.getGlobalAddress.isAny = false := by
      refine Bool.eq_false_iff.mpr fun any => ?_
      unfold createLocalDodag at creates
      dsimp only at creates
      rw [if_pos any] at creates
      cases creates
    rw [Option.map_some, Option.getD_some, put]
    exact .single (.begins (by rw [stakes_held, absent]; rfl)
      (.root (.ordinary absent (.inl ⟨id, event, named, address⟩))))

theorem shifts_handleDadSuccess (n : Node) (address : Ipv6Address)
    (event : e = .dadSuccess address) :
    Shifts n e late n.stakes (n.handleDadSuccess address).stakes := by
  unfold handleDadSuccess
  split
  · exact .refl
  next global =>
  split
  · next isRoot =>
    split
    · exact .refl
    · next apart =>
      dsimp only
      split
      · exact .refl
      · next created creates =>
        obtain ⟨absent, -, put⟩ := stakes_createDodagMembership creates
        rw [stakes_modifyDodag_same, put]
        · exact .single (.begins (by rw [stakes_held, absent]; rfl)
            (.root (.ordinary absent (.inr ⟨_, event, rfl, Bool.eq_false_iff.mpr global, isRoot,
              Bool.eq_false_iff.mpr apart⟩))))
        · exact fun _ => rfl
  · exact .refl

theorem restartTrickle_stake (now : Time) (dodag : DodagMembership) :
    (restartTrickle now dodag).stake = dodag.stake := by
  simp only [DodagMembership.stake, restartTrickle, TrickleTimer.active_reset]
  rfl

/-- A temporary DODAG rooted, its deadline of AODV-RPL included. -/
theorem stakes_rootedAodv {created : Node} {id : UInt8} (rooted : Node)
    (f : DodagMembership → DodagMembership) (stake : Stake)
    (creates : m.createLocalDodag id mopP2pRouteDiscovery = some (key, created))
    (held : rooted.dodags = created.dodags) (same : rooted.stakes = created.stakes)
    (rewritten : (f (m.rootMembership key mopP2pRouteDiscovery)).stake = stake)
    (unarmed : stake.aodv.expiry = none) :
    ∃ expiry, ((rooted.modifyDodag key f).armAodvExpiry key).stakes =
      m.stakes.put key { stake with aodv := { stake.aodv with expiry := expiry } } := by
  obtain ⟨-, -, heldCreated, put⟩ := stakes_createLocalDodag creates
  have configured : (rooted.modifyDodag key f).stakes = m.stakes.put key stake := by
    rw [stakes_modifyDodag (held ▸ heldCreated), same, put, Stakes.put_put, rewritten]
  rcases (rooted.modifyDodag key f).stakes_armAodvExpiry key with
    still | ⟨dodag, at_, heldDodag, -, -, armed⟩
  · exact ⟨none, by rw [still, configured, ← unarmed]⟩
  · have isStake : dodag.stake = stake := by
      have heldStake := held_stake heldDodag
      rw [configured, Stakes.put_held, if_pos rfl] at heldStake
      exact (Option.some.inj heldStake).symm
    exact ⟨some at_, by rw [armed, configured, Stakes.put_put, isStake]; rfl⟩

theorem stakes_rootedP2p {created : Node} {id : UInt8} (rooted : Node)
    (f : DodagMembership → DodagMembership) (stake : Stake)
    (creates : m.createLocalDodag id mopP2pRouteDiscovery = some (key, created))
    (held : rooted.dodags = created.dodags) (same : rooted.stakes = created.stakes)
    (rewritten : (f (m.rootMembership key mopP2pRouteDiscovery)).stake = stake)
    (unarmed : stake.p2p.expiry = none) :
    ∃ expiry, ((rooted.modifyDodag key f).armP2pExpiry key).stakes =
      m.stakes.put key { stake with p2p := { stake.p2p with expiry := expiry } } := by
  obtain ⟨-, -, heldCreated, put⟩ := stakes_createLocalDodag creates
  have configured : (rooted.modifyDodag key f).stakes = m.stakes.put key stake := by
    rw [stakes_modifyDodag (held ▸ heldCreated), same, put, Stakes.put_put, rewritten]
  rcases (rooted.modifyDodag key f).stakes_armP2pExpiry key with
    still | ⟨dodag, at_, heldDodag, -, -, armed⟩
  · exact ⟨none, by rw [still, configured, ← unarmed]⟩
  · have isStake : dodag.stake = stake := by
      have heldStake := held_stake heldDodag
      rw [configured, Stakes.put_held, if_pos rfl] at heldStake
      exact (Option.some.inj heldStake).symm
    exact ⟨some at_, by rw [armed, configured, Stakes.put_put, isStake]; rfl⟩

theorem shifts_discoverRoute (n : Node) (target : Ipv6Address) (hopByHop : Bool)
    (event : e = .discoverRoute target hopByHop) :
    Shifts n e late n.stakes (n.discoverRoute target hopByHop).2.stakes := by
  unfold discoverRoute
  dsimp only
  split
  · exact .refl
  split
  · exact .refl
  · next asked _ id allocates =>
    split
    · exact .refl
    · next key created creates =>
      obtain ⟨named, absent, -, -⟩ := stakes_createLocalDodag creates
      let advanced : Node := { n with aodvSeqNo := sequenceIncrement n.aodvSeqNo }
      obtain ⟨expiry, rooted⟩ := stakes_rootedAodv (created.noteAodvRouteState _)
        (fun dodag => restartTrickle n.now (withAodvParameters n.attributes
          { dodag with
            aodv := advanced.originRreqState target hopByHop (advanced.knownDestSeqNo target)
              dodag.aodv }))
        { key := key
          isRoot := true
          mop := mopP2pRouteDiscovery
          active := true
          aodv :=
            { target := target
              isOrigin := true
              lifetimeField := n.attributes.aodvLifetime } }
        creates rfl rfl (restartTrickle_stake ..) rfl
      dsimp only
      rw [rooted]
      exact .single (.begins (by rw [stakes_held]; exact congrArg _ absent)
        (.root (.rreq absent event (Bool.eq_false_iff.mpr asked) allocates named)))

theorem shifts_discoverP2pRoute (n : Node) (target : Ipv6Address) (hopByHop : Bool)
    (event : e = .discoverP2pRoute target hopByHop) :
    Shifts n e late n.stakes (n.discoverP2pRoute target hopByHop).2.stakes := by
  unfold discoverP2pRoute
  dsimp only
  split
  · exact .refl
  split
  · exact .refl
  · next asked _ id allocates =>
    have used : Shifts n e late n.stakes (n.noteP2pUse target id).stakes :=
      .single (.useId ⟨target, hopByHop, event⟩ rfl)
    split
    · exact used
    · next key created creates =>
      obtain ⟨named, absent, -, -⟩ := stakes_createLocalDodag creates
      obtain ⟨expiry, rooted⟩ := stakes_rootedP2p created
        (fun dodag => restartTrickle (n.noteP2pUse target id).now
          (withP2pParameters (n.noteP2pUse target id).attributes
            { dodag with
              p2p := (n.noteP2pUse target id).originP2pState target hopByHop dodag.p2p }))
        { key := key
          isRoot := true
          mop := mopP2pRouteDiscovery
          active := true
          p2p :=
            { target := target
              isOrigin := true
              lifetimeField := n.attributes.p2pLifetime } }
        creates rfl rfl (restartTrickle_stake ..) rfl
      dsimp only
      rw [rooted]
      refine used.tail (.begins (by rw [stakes_held]; exact congrArg _ absent)
        (.root (.p2p absent event (Bool.eq_false_iff.mpr asked) allocates named)))

/-! ## AODV-RPL -/

/-- The target recorded under a key is still there, and the addresses are the same. -/
structure Recorded (ipv6 : Ipv6L3Protocol) (key : DodagKey) (target : Ipv6Address) (s : Stakes) :
    Prop where
  ipv6 : s.ipv6 = ipv6
  target : ∀ stake, s.held[key]? = some stake → stake.aodv.target = target

theorem recorded_put {ipv6 : Ipv6L3Protocol} {target : Ipv6Address} {s : Stakes} {stake : Stake}
    (same : s.ipv6 = ipv6) (names : stake.aodv.target = target) :
    Recorded ipv6 key target (s.put key stake) := by
  refine ⟨same, fun other held => ?_⟩
  rw [Stakes.put_held, if_pos rfl] at held
  cases held
  exact names

theorem recorded_armAodvExpiry {ipv6 : Ipv6L3Protocol} {target : Ipv6Address}
    (recorded : Recorded ipv6 key target m.stakes) :
    Recorded ipv6 key target (m.armAodvExpiry key).stakes := by
  rcases m.stakes_armAodvExpiry key with same | ⟨dodag, at_, held, -, -, armed⟩
  · rw [same]
    exact recorded
  · rw [armed]
    refine ⟨recorded.ipv6, fun stake heldStake => ?_⟩
    rw [Stakes.put_held, if_pos rfl] at heldStake
    cases heldStake
    have before := recorded.target _ (held_stake held)
    exact before

theorem Recorded.of_stakes {ipv6 : Ipv6L3Protocol} {target : Ipv6Address} {before after : Stakes}
    (recorded : Recorded ipv6 key target before) (same : after = before) :
    Recorded ipv6 key target after := same ▸ recorded

/-- The global address a node uses in a DODAG is its own. -/
theorem isOwnAddress_getGlobalAddressIn (addressed : (m.getGlobalAddressIn dodag).isAny = false) :
    m.ipv6.isOwnAddress (m.getGlobalAddressIn dodag) = true := by
  have found (select : Ipv6InterfaceAddress → Bool)
      (named : ((((m.ipv6.interfaces.drop 1).flatMap Ipv6Interface.addresses).find? select).map
        Ipv6InterfaceAddress.address |>.getD anyAddress).isAny = false) :
      m.ipv6.isOwnAddress ((((m.ipv6.interfaces.drop 1).flatMap Ipv6Interface.addresses).find?
        select).map Ipv6InterfaceAddress.address |>.getD anyAddress) = true := by
    cases first : ((m.ipv6.interfaces.drop 1).flatMap Ipv6Interface.addresses).find? select with
    | none =>
      rw [first] at named
      cases named
    | some address =>
      rw [first] at named
      obtain ⟨interface, dropped, mem⟩ := List.mem_flatMap.mp (List.mem_of_find?_eq_some first)
      rw [Ipv6L3Protocol.isOwnAddress, Bool.and_eq_true, Bool.not_eq_true', List.any_eq_true]
      refine ⟨named, interface, List.mem_of_mem_drop dropped, ?_⟩
      exact List.any_eq_true.mpr ⟨address, mem, decide_eq_true rfl⟩
  unfold getGlobalAddressIn getGlobalAddress at addressed ⊢
  split at addressed
  · exact found _ addressed
  · exact found _ addressed

/-- A DIO by unicast along a discovery. -/
theorem shifts_sendAodvTo {dio reply : DioHeader} {heard : Reception} (m : Node)
    (dodag : DodagMembership) (nextHop : Ipv6Address) (event : e = .receive heard (.dio dio))
    (begets : dio.Begets m.ipv6 heard reply) :
    Shifts n e late m.stakes (m.sendAodvTo dodag reply nextHop).stakes := by
  obtain ⟨sent, sends, each⟩ := (hands_sendAodvTo dodag reply nextHop).stakes
  rw [sends]
  refine .single (.whisper event fun said mem => ?_)
  rw [each said mem]
  exact ⟨isLinkLocal_linkLocalOf nextHop, begets⟩

theorem shifts_relayAodvRreq {dio : DioHeader} {heard : Reception} (m : Node)
    (nextHop : Ipv6Address) (event : e = .receive heard (.dio dio))
    (rreq : dio.rreq.isSome = true) :
    Shifts n e late m.stakes (m.relayAodvRreqOnCachedRoute dio.key dio nextHop).stakes := by
  unfold relayAodvRreqOnCachedRoute
  split
  · exact .refl
  split
  · exact .refl
  · next dodag held _ =>
    have marked : (m.modifyAodv dio.key fun aodv =>
        { aodv with unicastRreqRelayed := aodv.unicastRreqRelayed.insert aodv.target }).stakes =
        m.stakes := stakes_modifyAodv_same fun _ => rfl
    dsimp only
    split
    · exact shifts_of_eq marked
    · rw [stakes_modifyAodv_same, ← marked]
      · exact shifts_sendAodvTo _ dodag nextHop event (.relay (.inl rreq))
      · exact fun _ => rfl

theorem shifts_answerFromCache {dio : DioHeader} {heard : Reception} (m : Node)
    (sender : Ipv6Address) (event : e = .receive heard (.dio dio)) (rreq : dio.rreq.isSome = true)
    (recorded : Recorded m.ipv6 dio.key dio.getArt.target m.stakes) :
    Shifts n e late m.stakes (m.answerFromCache dio.key dio sender).stakes := by
  unfold answerFromCache
  split
  · exact .refl
  split
  · exact .refl
  · next dodag held _ cached _ =>
    have noted : (if m.attributes.aodvGratuitousRrepOnce then
        m.modifyAodv dio.key fun aodv =>
          { aodv with gratuitousRrepSent := aodv.gratuitousRrepSent.insert aodv.target }
        else m).stakes = m.stakes := by
      split
      · exact stakes_modifyAodv_same fun _ => rfl
      · rfl
    have target : dodag.aodv.target = dio.getArt.target := recorded.target _ (held_stake held)
    dsimp only
    unfold sendAodvGratuitousRrep
    rw [← noted]
    refine (shifts_sendAodvTo _ _ _ event ?_).trans (shifts_relayAodvRreq _ _ event rreq)
    exact .answer rreq rfl (.inl target)

theorem shifts_extendVector (m : Node) (key : DodagKey) (addressVector : List Ipv6Address) :
    Shifts n e late m.stakes (m.extendVector key addressVector).2.stakes := by
  unfold extendVector
  split
  · exact .refl
  · dsimp only
    split
    · exact .refl
    split
    · exact shifts_leaveDodag m key
    · exact shifts_of_eq (stakes_modifyAodv_same fun _ => rfl)

theorem shifts_routeRreq {dio : DioHeader} {heard : Reception} (m : Node) (sender : Ipv6Address)
    (event : e = .receive heard (.dio dio)) (rreq : dio.rreq.isSome = true)
    (recorded : Recorded m.ipv6 dio.key dio.getArt.target m.stakes) :
    Shifts n e late m.stakes (m.routeRreq dio.key dio sender).2.stakes := by
  unfold routeRreq
  split
  · split
    · exact .refl
    · next stored stores =>
      have same := stakes_storeUpwardRoute stores
      have sameIpv6 : stored.ipv6 = m.ipv6 := congrArg Stakes.ipv6 same
      rw [← same]
      exact shifts_answerFromCache stored sender event rreq
        (sameIpv6 ▸ recorded.of_stakes same)
  · exact shifts_extendVector ..

/-- An RREP-Instance is rooted under an ID the allocator gives, or nothing happens. -/
theorem startAodvRrepInstance_cases (m : Node) (rreqDodag : DodagMembership) (rreqKey : DodagKey) :
    m.startAodvRrepInstance rreqDodag rreqKey = m ∨
      (m.getGlobalAddressIn rreqDodag).isAny = false ∧
        (m.findAodvRrepInstance rreqKey.dodagId rreqKey.instanceId).isSome = false ∧
        ∃ (id : UInt8) (expiry : Timer),
        m.allocateRrepInstanceId rreqKey.instanceId (m.getGlobalAddressIn rreqDodag)
          m.getGlobalAddress = some id ∧
        m.dodags[(⟨clearDFlag id, m.getGlobalAddress⟩ : DodagKey)]? = none ∧
        (m.startAodvRrepInstance rreqDodag rreqKey).stakes =
          m.stakes.put ⟨clearDFlag id, m.getGlobalAddress⟩
            { key := ⟨clearDFlag id, m.getGlobalAddress⟩
              isRoot := true
              mop := mopP2pRouteDiscovery
              active := true
              aodv :=
                { target := m.getGlobalAddressIn rreqDodag
                  isRrepInstance := true
                  pairedInstanceId := rreqKey.instanceId
                  origNode := rreqKey.dodagId
                  lifetimeField := rreqDodag.aodv.lifetimeField
                  expiry := expiry } } := by
  unfold startAodvRrepInstance
  dsimp only
  split
  · exact .inl rfl
  · next asked =>
    rw [Bool.or_eq_true, not_or, Bool.not_eq_true] at asked
    split
    · exact .inl rfl
    · next id allocates =>
      split
      · exact .inl rfl
      · next key created creates =>
        obtain ⟨rfl, absent, -, -⟩ := stakes_createLocalDodag creates
        obtain ⟨expiry, rooted⟩ := stakes_rootedAodv created.advanceAodvSeqNoForRrep
          (fun dodag => restartTrickle created.advanceAodvSeqNoForRrep.now
            (withAodvParameters created.advanceAodvSeqNoForRrep.attributes
              { dodag with
                aodv := created.advanceAodvSeqNoForRrep.targNodeRrepState rreqDodag.aodv rreqKey
                  (m.getGlobalAddressIn rreqDodag) dodag.aodv }))
          { key := ⟨clearDFlag id, m.getGlobalAddress⟩
            isRoot := true
            mop := mopP2pRouteDiscovery
            active := true
            aodv :=
              { target := m.getGlobalAddressIn rreqDodag
                isRrepInstance := true
                pairedInstanceId := rreqKey.instanceId
                origNode := rreqKey.dodagId
                lifetimeField := rreqDodag.aodv.lifetimeField } }
          creates rfl rfl (restartTrickle_stake ..) rfl
        exact .inr ⟨asked.1, Bool.eq_false_iff.mpr asked.2, id, expiry, allocates, absent, rooted⟩

theorem shifts_startAodvRrepInstance {dio : DioHeader} {heard : Reception}
    {rreqDodag : DodagMembership} (takes : n.Takes e dio heard) (rreq : dio.rreq.isSome = true)
    (held : m.dodags[dio.key]? = some rreqDodag)
    (answers : n.apply e = m.startAodvRrepInstance rreqDodag dio.key)
    (answering : n.AnswersAsTargNode dio heard m) (asymmetric : rreqDodag.aodv.symmetric = false) :
    Shifts n e late m.stakes (m.startAodvRrepInstance rreqDodag dio.key).stakes := by
  rcases m.startAodvRrepInstance_cases rreqDodag dio.key with
    nothing | ⟨address, unanswered, id, expiry, allocates, absent, rooted⟩
  · exact nothing.symm ▸ .refl
  · rw [rooted]
    exact .single (.begins (by rw [stakes_held, absent]; rfl)
      (.root (.rrep rfl takes rreq held answers address allocates rfl answering asymmetric
        unanswered)))

/-- Shifts lead there, or all of the way but for an answer by an RREP-Instance. -/
def Leads (n : Node) (e : Event) (late : Bool) (dio : DioHeader) (heard : Reception)
    (before : Stakes) (after : Node) : Prop :=
  Shifts n e late before after.stakes ∨ ∃ (m : Node) (rreqDodag : DodagMembership),
    dio.rreq.isSome = true ∧ m.dodags[dio.key]? = some rreqDodag ∧
      Shifts n e late before m.stakes ∧ after = m.startAodvRrepInstance rreqDodag dio.key ∧
        n.AnswersAsTargNode dio heard m ∧ rreqDodag.aodv.symmetric = false

theorem Leads.head {dio : DioHeader} {heard : Reception} {first second : Stakes} {after : Node}
    (shifts : Shifts n e late first second) (leads : n.Leads e late dio heard second after) :
    n.Leads e late dio heard first after := by
  rcases leads with direct | ⟨m, rreqDodag, rreq, held, before, answers⟩
  · exact .inl (shifts.trans direct)
  · exact .inr ⟨m, rreqDodag, rreq, held, shifts.trans before, answers⟩

/-- What is led to is reached by shifts, where it is all of the event. -/
theorem Leads.shifts {dio : DioHeader} {heard : Reception} {before : Stakes} {after : Node}
    (leads : n.Leads e late dio heard before after) (takes : n.Takes e dio heard)
    (whole : n.apply e = after) : Shifts n e late before after.stakes := by
  rcases leads with shifts |
    ⟨m, rreqDodag, rreq, held, reaches, answers, answering, asymmetric⟩
  · exact shifts
  · have last : n.apply e = m.startAodvRrepInstance rreqDodag dio.key := whole.trans answers
    have answered := reaches.trans
      (shifts_startAodvRrepInstance takes rreq held last answering asymmetric)
    rw [← answers] at answered
    exact answered

theorem leads_sendAodvRrep {dio : DioHeader} {heard : Reception} (m : Node)
    (takes : n.Takes e dio heard) (rreq : dio.rreq.isSome = true)
    (answering : n.AnswersAsTargNode dio heard m) :
    n.Leads e late dio heard m.stakes (m.sendAodvRrep dio.key) := by
  unfold sendAodvRrep
  split
  · exact .inl .refl
  · next dodag held =>
    split
    · next asymmetric =>
      rw [Bool.not_eq_true'] at asymmetric
      exact .inr ⟨m, dodag, rreq, held, .refl, rfl, answering, asymmetric⟩
    · dsimp only
      split
      · exact .inl .refl
      split
      · exact .inl .refl
      · next addressed _ _ _ =>
        have advanced : m.advanceAodvSeqNoForRrep.stakes = m.stakes := rfl
        rw [← advanced]
        exact .inl (shifts_sendAodvTo _ _ _ takes.event (.answer rreq rfl (.inr
          (isOwnAddress_getGlobalAddressIn (Bool.eq_false_iff.mpr addressed)))))

theorem takeRreq_stake (m : Node) (dodag : DodagMembership) (dio : DioHeader) :
    (m.takeRreq dodag dio).2.stake = { dodag.aodv.stake with
      target := dio.getArt.target
      isOrigin := false
      lifetimeField := dio.getRreq.lifetime } := by
  unfold takeRreq matchTargets intersectTargets
  dsimp only
  split
  · rfl
  · rfl

/-- What follows the taking of an RREQ: the route of its kind is stored, and the reply sent. -/
theorem leads_afterRreq {dio : DioHeader} {heard : Reception} (m : Node) (reached : Bool)
    (takes : n.Takes e dio heard) (rreq : dio.rreq.isSome = true)
    (recorded : Recorded m.ipv6 dio.key dio.getArt.target m.stakes)
    (answering : reached = true → (m.routeRreq dio.key dio heard.sender).1 = true →
      n.AnswersAsTargNode dio heard
        ((m.routeRreq dio.key dio heard.sender).2.armAodvExpiry dio.key)) :
    n.Leads e late dio heard m.stakes
      (if (m.routeRreq dio.key dio heard.sender).1 then
        if reached then
          ((m.routeRreq dio.key dio heard.sender).2.armAodvExpiry dio.key).sendAodvRrep dio.key
        else (m.routeRreq dio.key dio heard.sender).2.armAodvExpiry dio.key
      else (m.routeRreq dio.key dio heard.sender).2) := by
  have routed : Shifts n e late m.stakes _ :=
    shifts_routeRreq m heard.sender takes.event rreq recorded
  split
  · next goesOn =>
    have armed := routed.trans (shifts_armAodvExpiry _ takes (.inl rreq))
    split
    · next isReached =>
      exact (leads_sendAodvRrep _ takes rreq (answering isReached goesOn)).head armed
    · exact .inl armed
  · exact .inl routed

/-- An RREQ is passed over, or what it says is recorded, the deadline armed, and the rest
follows. -/
theorem handleAodvRreq_cases {dio : DioHeader} {heard : Reception} (late : Bool)
    (takes : n.Takes e dio heard) (handles : n.beforeDiscovery dio heard = some m)
    (rreq : dio.rreq.isSome = true) (held : m.dodags[dio.key]? = some dodag) :
    ((m.unbarred dio.key).ignoresRreq dodag dio heard = true ∧
        m.handleAodvRreq dio heard = m.unbarred dio.key) ∨
      ∃ recorded : Node,
        recorded.stakes = (m.unbarred dio.key).stakes.put dio.key (dodag.stake.withRreq dio) ∧
          n.Leads e late dio heard (recorded.armAodvExpiry dio.key).stakes
            (m.handleAodvRreq dio heard) := by
  have answering : (m.unbarred dio.key).ignoresRreq dodag dio heard = false →
      ∀ recorded, recorded = m.recordRreq dodag dio ∨
          recorded = (m.recordRreq dodag dio).log (.discoveryTargetReached dio.key) →
        ((m.unbarred dio.key).takeRreq dodag dio).1 = true →
        (recorded.routeRreq dio.key dio heard.sender).1 = true → n.AnswersAsTargNode dio heard
          ((recorded.routeRreq dio.key dio heard.sender).2.armAodvExpiry dio.key) :=
    fun heeds _ records reached goesOn => .rreq handles held heeds reached records goesOn
  have heldUnbarred : (m.unbarred dio.key).dodags[dio.key]? = some dodag := held
  unfold recordRreq at answering
  unfold handleAodvRreq
  extract_lets key lifted
  have isLifted : m.unbarred dio.key = lifted := rfl
  rw [isLifted] at heldUnbarred answering ⊢
  clear_value lifted
  rw [heldUnbarred]
  dsimp only
  split
  · next ignored => exact .inl ⟨ignored, rfl⟩
  · next heeds =>
    replace answering := answering (Bool.eq_false_iff.mpr heeds)
    refine .inr ⟨lifted.modifyAodv key fun _ => (lifted.takeRreq dodag dio).2, ?_, ?_⟩
    · rw [modifyAodv, stakes_modifyDodag heldUnbarred]
      simp only [DodagMembership.stake, takeRreq_stake]
      rfl
    · have taken : Recorded lifted.ipv6 key dio.getArt.target
          (lifted.modifyAodv key fun _ => (lifted.takeRreq dodag dio).2).stakes := by
        rw [modifyAodv, stakes_modifyDodag heldUnbarred]
        refine recorded_put rfl ?_
        have target := congrArg AodvStake.target (lifted.takeRreq_stake dodag dio)
        exact target
      have recorded := recorded_armAodvExpiry taken
      generalize (lifted.modifyAodv key fun _ => (lifted.takeRreq dodag dio).2).armAodvExpiry
        dio.key = after at recorded answering
      have sameIpv6 : after.ipv6 = lifted.ipv6 := recorded.ipv6
      rw [← sameIpv6] at recorded
      split
      · exact leads_afterRreq (after.log (.discoveryTargetReached key))
          (lifted.takeRreq dodag dio).1 takes rreq recorded (answering _ (.inr rfl))
      · exact leads_afterRreq after (lifted.takeRreq dodag dio).1 takes rreq recorded
          (answering _ (.inl rfl))

theorem leads_handleAodvRreq {dio : DioHeader} {heard : Reception}
    (takes : n.Takes e dio heard) (handles : n.beforeDiscovery dio heard = some m)
    (rreq : dio.rreq.isSome = true) (held : m.dodags[dio.key]? = some dodag) :
    n.Leads e false dio heard m.stakes (m.handleAodvRreq dio heard) := by
  have lifted : Shifts n e false m.stakes (m.unbarred dio.key).stakes :=
    .single (.unbar rfl takes (.inl rreq) (held_stake held))
  rcases handleAodvRreq_cases false takes handles rreq held with
    ⟨-, ignored⟩ | ⟨recorded, records, leads⟩
  · rw [ignored]
    exact .inl lifted
  · have taken : Shifts n e false m.stakes recorded.stakes := by
      rw [records]
      exact lifted.tail (.rewrites (held_stake held) (.rreq rfl takes rreq rfl))
    exact leads.head (taken.trans (shifts_armAodvExpiry recorded takes (.inl rreq)))

theorem recorded_extendVector {ipv6 : Ipv6L3Protocol} {target : Ipv6Address}
    (addressVector : List Ipv6Address) (recorded : Recorded ipv6 key target m.stakes) :
    Recorded ipv6 key target (m.extendVector key addressVector).2.stakes := by
  unfold extendVector
  split
  · exact recorded
  · next dodag held =>
    dsimp only
    split
    · exact recorded
    split
    · rw [stakes_leaveDodag held]
      refine ⟨recorded.ipv6, fun stake heldStake => ?_⟩
      rw [Stakes.leave_held, if_pos rfl] at heldStake
      cases heldStake
    · rw [stakes_modifyAodv_same]
      · exact recorded
      · exact fun _ => rfl

theorem shifts_completeAsymmetricRoute {dio : DioHeader} {heard : Reception}
    (takes : n.Takes e dio heard) (rrep : dio.rrep.isSome = true)
    (sourceRouted : dio.getRrep.hopByHop = false)
    (own : m.ipv6.isOwnAddress dio.getArt.target = true)
    (recorded : Recorded m.ipv6 dio.key dio.dodagId m.stakes) :
    Shifts n e late m.stakes (m.completeAsymmetricRoute dio.key).stakes := by
  unfold completeAsymmetricRoute
  split
  · exact .refl
  · next dodag held =>
    have target : dodag.aodv.target = dio.dodagId := recorded.target _ (held_stake held)
    rw [target]
    exact .single (.aodvRoute (.rrepInstance takes rrep sourceRouted own))

/-- An RREP-Instance DIO is passed over, or what it says is recorded, the deadline armed, and
the rest follows. -/
theorem handleAodvRrepInstance_cases {dio : DioHeader} {heard : Reception} (late : Bool)
    (takes : n.Takes e dio heard) (rrep : dio.rrep.isSome = true)
    (held : m.dodags[dio.key]? = some dodag) :
    ((m.unbarred dio.key).ignoresRrepInstance dodag dio heard.sender = true ∧
        m.handleAodvRrepInstance dio heard.sender = m.unbarred dio.key) ∨
      ∃ recorded : Node,
        recorded.stakes =
          (m.unbarred dio.key).stakes.put dio.key (dodag.stake.withRrep m.ipv6 dio) ∧
          Shifts n e late (recorded.armAodvExpiry dio.key).stakes
            (m.handleAodvRrepInstance dio heard.sender).stakes := by
  have heldUnbarred : (m.unbarred dio.key).dodags[dio.key]? = some dodag := held
  have sameAddresses : (m.unbarred dio.key).ipv6 = m.ipv6 := rfl
  unfold handleAodvRrepInstance
  extract_lets key option lifted
  have isLifted : m.unbarred dio.key = lifted := rfl
  rw [isLifted] at heldUnbarred sameAddresses ⊢
  clear_value lifted
  rw [heldUnbarred, ← sameAddresses]
  dsimp only
  split
  · next ignored => exact .inl ⟨ignored, rfl⟩
  · have taken : (lifted.modifyAodv key fun _ => lifted.withRrep dio dodag.aodv).stakes =
        lifted.stakes.put key (dodag.stake.withRrep lifted.ipv6 dio) :=
      stakes_modifyDodag heldUnbarred _
    have recorded : Recorded lifted.ipv6 key dio.dodagId
        (lifted.modifyAodv key fun _ => lifted.withRrep dio dodag.aodv).stakes := by
      rw [taken]
      exact recorded_put rfl rfl
    have stillRecorded := recorded_armAodvExpiry recorded
    refine .inr ⟨_, taken, ?_⟩
    generalize (lifted.modifyAodv key fun _ => lifted.withRrep dio dodag.aodv).armAodvExpiry
      dio.key = after at stillRecorded
    split
    · have same := after.stakes_storeHopByHopRoute
        ⟨(lifted.withRrep dio dodag.aodv).pairedInstanceId,
          (lifted.withRrep dio dodag.aodv).origNode⟩
        key.dodagId dodag.preferredParent after.attributes.routeLifetime
        (some (lifted.withRrep dio dodag.aodv).origSeqNo) false
      split
      · exact .refl
      · next stored accepted =>
        rw [accepted] at same
        rw [← same]
        exact shifts_armAodvExpiry stored takes (.inr rrep)
    · next sourceRouted =>
      have extended : Shifts n e late after.stakes _ :=
        shifts_extendVector after key option.addressVector
      have recordedExtended := recorded_extendVector option.addressVector stillRecorded
      split
      · exact extended
      · have rearmed := extended.trans (shifts_armAodvExpiry _ takes (.inr rrep))
        have recordedRearmed := recorded_armAodvExpiry recordedExtended
        split
        · next origin =>
          refine rearmed.trans (shifts_completeAsymmetricRoute takes rrep
            (Bool.eq_false_iff.mpr sourceRouted) ?_ ⟨rfl, recordedRearmed.target⟩)
          have sameIpv6 : ((after.extendVector key option.addressVector).2.armAodvExpiry
            dio.key).ipv6 = lifted.ipv6 := recordedRearmed.ipv6
          rw [sameIpv6]
          exact origin
        · exact rearmed

theorem shifts_handleAodvRrepInstance {dio : DioHeader} {heard : Reception}
    (takes : n.Takes e dio heard) (rrep : dio.rrep.isSome = true)
    (held : m.dodags[dio.key]? = some dodag) :
    Shifts n e false m.stakes (m.handleAodvRrepInstance dio heard.sender).stakes := by
  have lifted : Shifts n e false m.stakes (m.unbarred dio.key).stakes :=
    .single (.unbar rfl takes (.inr rrep) (held_stake held))
  rcases handleAodvRrepInstance_cases false takes rrep held with
    ⟨-, ignored⟩ | ⟨recorded, records, shifts⟩
  · rw [ignored]
    exact lifted
  · have taken : Shifts n e false m.stakes recorded.stakes := by
      rw [records]
      exact lifted.tail (.rewrites (held_stake held) (.rrep rfl takes rrep rfl))
    exact (taken.trans (shifts_armAodvExpiry recorded takes (.inr rrep))).trans shifts

theorem shifts_handleAodvRrep {dio : DioHeader} {heard : Reception}
    (event : e = .receive heard (.dio dio)) (unicast : heard.toMulticast = false)
    (kept : n.dropsDio dio heard.sender = false) (rrep : dio.rrep.isSome = true) :
    Shifts n e late n.stakes (n.handleAodvRrep dio heard.sender).stakes := by
  unfold handleAodvRrep
  extract_lets option rreqKey targNode
  split
  · exact .refl
  · next named =>
    split
    · exact .refl
    · next dodag held =>
      split
      · exact .refl
      · next unhandled =>
        have stored : (if option.hopByHop then
            n.storeHopByHopRoute rreqKey targNode heard.sender n.attributes.routeLifetime
              (some dio.getArt.destSeqNo) true
          else (true, n)).2.stakes = n.stakes := by
          split
          · exact stakes_storeHopByHopRoute ..
          · rfl
        generalize stores : (if option.hopByHop then
            n.storeHopByHopRoute rreqKey targNode heard.sender n.attributes.routeLifetime
              (some dio.getArt.destSeqNo) true
          else (true, n)) = result at stored
        obtain ⟨accepted, after⟩ := result
        dsimp only at stored ⊢
        rw [← stored]
        have sameIpv6 : after.ipv6 = n.ipv6 := congrArg Stakes.ipv6 stored
        split
        · exact .refl
        split
        · next own =>
          split
          · rw [stakes_markRrepHandled]
          · next sourceRouted =>
            split
            · exact .refl
            · rw [stakes_markRrepHandled]
              unfold completeAodvRoute
              split
              · exact .refl
              · next target last =>
                refine .single (.aodvRoute (.reply event unicast kept rrep
                  (Bool.eq_false_iff.mpr sourceRouted) ?_ held
                  (Bool.eq_false_iff.mpr unhandled) ?_ last))
                · intro none_
                  exact named (by rw [none_]; rfl)
                · rw [← sameIpv6]
                  exact own
        · split
          · exact .refl
          · next nextHop _ =>
            rw [← stakes_markRrepHandled after rreqKey targNode]
            exact shifts_sendAodvTo _ dodag nextHop event (.relay (.inr ⟨rrep, unicast⟩))

/-! ## P2P-RPL -/

theorem shifts_takeP2pVector (m : Node) (key : DodagKey) (rdo : P2pRdoOption) (interface : Nat) :
    Shifts n e late m.stakes (m.takeP2pVector key rdo interface).2.stakes := by
  unfold takeP2pVector
  split
  · exact .refl
  · dsimp only
    split
    · exact .refl
    split
    · exact shifts_leaveDodag m key
    · exact shifts_of_eq (stakes_modifyP2p_same fun _ => rfl)

/-- What follows the taking of a P2P mode DIO: the address vector is taken, and a Target
answers. -/
theorem shifts_afterP2pRdo {dio : DioHeader} {heard : Reception} (m : Node)
    (takes : n.Takes e dio heard) (isRdo : dio.p2pRdo.isSome = true) (rdo : P2pRdoOption) :
    Shifts n e late m.stakes
      (if (m.takeP2pVector dio.key rdo heard.interface).1 then
        ((m.takeP2pVector dio.key rdo heard.interface).2.armP2pExpiry dio.key).replyAsTarget
          dio.key
      else (m.takeP2pVector dio.key rdo heard.interface).2).stakes := by
  have taken : Shifts n e late m.stakes _ :=
    shifts_takeP2pVector m dio.key rdo heard.interface
  split
  · rw [stakes_replyAsTarget]
    exact taken.trans (shifts_armP2pExpiry _ takes isRdo)
  · exact taken

/-- Recording routes leaves the membership's own address vector alone. -/
theorem recordP2pRoutes_addressVector (m : Node) (dodag : DodagMembership) (rdo : P2pRdoOption)
    (heard : Reception) :
    (m.recordP2pRoutes dodag rdo heard).p2p.addressVector = dodag.p2p.addressVector := by
  have candidate : (m.recordP2pCandidateRoute dodag rdo heard).p2p.addressVector =
      dodag.p2p.addressVector := by
    have added : ∀ (p2p : P2pState) rank candidate,
        (addCandidate p2p rank candidate).addressVector = p2p.addressVector := by
      intro p2p rank candidate
      unfold addCandidate
      dsimp only
      split <;> split <;> rfl
    unfold recordP2pCandidateRoute
    split
    · rfl
    · dsimp only
      split
      · rfl
      split
      · rfl
      split
      · rfl
      · exact added ..
  have alternate : ∀ dodag : DodagMembership,
      (m.recordP2pAlternateRoute dodag rdo (askedRoutes rdo) heard.interface).p2p.addressVector =
        dodag.p2p.addressVector := by
    intro dodag
    unfold recordP2pAlternateRoute
    split
    · rfl
    · dsimp only
      split
      · rfl
      · rfl
  unfold recordP2pRoutes
  dsimp only
  split
  · rw [alternate, candidate]
  · exact candidate

/-- A P2P mode DIO is passed over, by the Origin or where an address vector is held already, or
what it says is recorded, the deadline armed, and the rest follows. -/
theorem handleP2pRdo_cases {dio : DioHeader} {heard : Reception} (late : Bool)
    (takes : n.Takes e dio heard) (isRdo : dio.p2pRdo.isSome = true)
    (held : m.dodags[dio.key]? = some dodag) :
    ((dodag.p2p.isOrigin = true ∨ dodag.p2p.addressVector ≠ []) ∧
        (m.handleP2pRdo dio heard).stakes = m.stakes) ∨
      dodag.p2p.isOrigin = false ∧ ∃ recorded : Node,
        recorded.stakes = m.stakes.put dio.key (dodag.stake.withP2pRdo dio) ∧
          Shifts n e late (recorded.armP2pExpiry dio.key).stakes
            (m.handleP2pRdo dio heard).stakes := by
  unfold handleP2pRdo
  extract_lets key rdo
  rw [held]
  dsimp only
  split
  · next origin => exact .inl ⟨.inl origin, rfl⟩
  · next notOrigin =>
    have sameStake := m.stake_recordP2pRoutes dodag rdo heard
    have sameVector := m.recordP2pRoutes_addressVector dodag rdo heard
    have recorded : (m.setDodag key (m.recordP2pRoutes dodag rdo heard)).stakes = m.stakes :=
      stakes_setDodag_same held sameStake
    have heldRecorded : (m.setDodag key (m.recordP2pRoutes dodag rdo heard)).dodags[key]? =
        some (m.recordP2pRoutes dodag rdo heard) := ExtTreeMap.getElem?_insert_self
    generalize m.recordP2pRoutes dodag rdo heard = after
      at recorded heldRecorded sameStake sameVector ⊢
    generalize m.setDodag key after = noted at recorded heldRecorded ⊢
    split
    · next ignored =>
      refine .inl ⟨.inr fun empty => ?_, recorded⟩
      rw [ignoresP2pRdo, sameVector, empty] at ignored
      cases ignored
    · refine .inr ⟨Bool.eq_false_iff.mpr notOrigin,
        noted.modifyP2p key fun _ => noted.withP2pRdo dio after.p2p, ?_, ?_⟩
      · rw [modifyP2p, stakes_modifyDodag heldRecorded, recorded, ← sameStake]
        rfl
      · generalize (noted.modifyP2p key fun _ => noted.withP2pRdo dio after.p2p).armP2pExpiry
          dio.key = armed
        split
        · exact shifts_afterP2pRdo (armed.log (.discoveryTargetReached key)) takes isRdo rdo
        · exact shifts_afterP2pRdo armed takes isRdo rdo

theorem shifts_handleP2pRdo {dio : DioHeader} {heard : Reception}
    (takes : n.Takes e dio heard) (isRdo : dio.p2pRdo.isSome = true)
    (held : m.dodags[dio.key]? = some dodag) :
    Shifts n e false m.stakes (m.handleP2pRdo dio heard).stakes := by
  rcases handleP2pRdo_cases false takes isRdo held with
    ⟨-, same⟩ | ⟨notOrigin, recorded, records, shifts⟩
  · exact shifts_of_eq same
  · have taken : Shifts n e false m.stakes recorded.stakes := by
      rw [records]
      exact .single (.rewrites (held_stake held) (.rdo rfl takes isRdo rfl notOrigin))
    exact (taken.trans (shifts_armP2pExpiry recorded takes isRdo)).trans shifts

theorem shifts_completeP2pRoute {heard : Reception} {dro : P2pDroHeader} {rdo : P2pRdoOption}
    (event : e = .receive heard (.p2pDro dro)) (option : dro.p2pRdo = some rdo)
    (held : n.dodags[(⟨dro.instanceId, dro.dodagId⟩ : DodagKey)]? = some dodag)
    (temporary : dodag.isTemporary = true) (origin : dodag.p2p.isOrigin = true)
    (sought : rdo.target = dodag.p2p.target) :
    Shifts n e late n.stakes
      (n.completeP2pRoute ⟨dro.instanceId, dro.dodagId⟩ dodag dro rdo).stakes := by
  unfold completeP2pRoute
  dsimp only
  split
  · have same := n.stakes_storeHopByHopRoute ⟨dro.instanceId, dro.dodagId⟩ rdo.target
      (rdo.addressVector.head?.getD rdo.target) n.attributes.routeLifetime none true
    split
    · exact .refl
    · next stored accepted =>
      rw [accepted] at same
      rw [stakes_acknowledgeP2pDro, same]
  · rw [stakes_acknowledgeP2pDro]
    unfold storeP2pRoute
    dsimp only
    rw [stakes_modifyP2p_same]
    · split
      · exact .refl
      · exact .single (.p2pRoute (.dro event option held temporary origin sought))
    · exact fun _ => rfl

theorem shifts_recordP2pStop {heard : Reception} {dro : P2pDroHeader} (m : Node)
    (event : e = .receive heard (.p2pDro dro)) :
    Shifts n e late m.stakes
      (m.recordP2pStop ⟨dro.instanceId, dro.dodagId⟩ dro.stop).stakes := by
  unfold recordP2pStop
  cases held : m.dodags[(⟨dro.instanceId, dro.dodagId⟩ : DodagKey)]? with
  | none => exact shifts_of_eq (congrArg stakes (modifyDodag_of_absent held _))
  | some dodag =>
    rw [setDodag_of_held held]
    split
    · exact shifts_of_eq (stakes_setDodag_same held rfl)
    · next stops =>
      rw [Bool.or_eq_true, not_or, Bool.not_eq_true', Bool.not_eq_false] at stops
      rw [stakes_setDodag]
      exact .single (.rewrites (held_stake held) (.stop event stops.1 rfl))

theorem shifts_handleP2pDro {heard : Reception} {dro : P2pDroHeader}
    (event : e = .receive heard (.p2pDro dro)) :
    Shifts n e late n.stakes (n.handleP2pDro dro).stakes := by
  unfold handleP2pDro
  dsimp only
  split
  · next rdo dodag option held =>
    split
    · exact .refl
    · next live =>
      rw [Bool.or_eq_true, not_or, Bool.not_eq_true', Bool.not_eq_false] at live
      split
      · next origin =>
        split
        · exact .refl
        · next sought =>
          exact (shifts_completeP2pRoute event option held live.1 origin
            (not_ne_iff.mp sought)).trans (shifts_recordP2pStop _ event)
      · have relayed := n.stakes_relayP2pDro ⟨dro.instanceId, dro.dodagId⟩ dro rdo
        rw [← relayed]
        exact shifts_recordP2pStop _ event
  · exact .refl

/-! ## Received messages -/

/-- The discovery options of a DIO taken in fit its mode of operation. -/
theorem Takes.fits {dio : DioHeader} {heard : Reception} (takes : n.Takes e dio heard) :
    discoveryOptionsFit dio = true := by
  have kept := takes.takes
  simp only [takesDio, Bool.and_eq_true, Bool.not_eq_true'] at kept
  have fits := kept.1.1.1.2
  simp only [dropsDio, Bool.or_eq_false_iff, Bool.not_eq_false'] at fits
  exact fits.2

/-- A DIO that is taken in carries one kind of discovery option at most. -/
theorem Takes.discovery {dio : DioHeader} {heard : Reception} (takes : n.Takes e dio heard) :
    (dio.rreq.isSome = true → dio.rrep.isSome = false ∧ dio.p2pRdo.isSome = false) ∧
      (dio.rrep.isSome = true → dio.rreq.isSome = false ∧ dio.p2pRdo.isSome = false) ∧
      (dio.rreq.isSome = true ∨ dio.rrep.isSome = true ∨ dio.p2pRdo.isSome = true →
        dio.mop = mopP2pRouteDiscovery) :=
  discoveryOptionsFit_alone takes.fits

theorem held_of_holds (holds : m.holds key = true) : ∃ dodag, m.dodags[key]? = some dodag := by
  rw [Node.holds, ExtTreeMap.contains_eq_isSome_getElem?] at holds
  exact Option.isSome_iff_exists.mp holds

theorem leads_handleDiscovery {dio : DioHeader} {heard : Reception}
    (takes : n.Takes e dio heard) (handles : n.beforeDiscovery dio heard = some m) :
    n.Leads e false dio heard m.stakes (m.handleDiscovery dio heard) := by
  obtain ⟨onlyRreq, onlyRrep, -⟩ := takes.discovery
  unfold handleDiscovery
  cases rreq : dio.rreq.isSome with
  | true =>
    simp only [onlyRreq rreq, Bool.false_and, Bool.true_and, Bool.false_eq_true, if_false]
    split
    · next holds =>
      obtain ⟨dodag, held⟩ := held_of_holds holds
      exact leads_handleAodvRreq takes handles rreq held
    · exact .inl .refl
  | false =>
    cases rrep : dio.rrep.isSome with
    | true =>
      simp only [onlyRrep rrep, Bool.false_and, Bool.true_and, Bool.false_eq_true, if_false]
      split
      · next holds =>
        obtain ⟨dodag, held⟩ := held_of_holds holds
        exact .inl (shifts_handleAodvRrepInstance takes rrep held)
      · exact .inl .refl
    | false =>
      simp only [Bool.false_and, Bool.false_eq_true, if_false]
      split
      · next given =>
        rw [Bool.and_eq_true] at given
        obtain ⟨dodag, held⟩ := held_of_holds given.2
        exact .inl (shifts_handleP2pRdo takes given.1 held)
      · exact .inl .refl

/-- A DIO that is taken in enters the Version it is for, and is accepted there. -/
theorem Takes.apply_eq {dio : DioHeader} {heard : Reception} (takes : n.Takes e dio heard) :
    n.apply e =
      match n.enterVersion dio heard.interface with
      | none => n
      | some m => m.acceptDio dio heard := by
  have kept := takes.takes
  simp only [takesDio, Bool.and_eq_true, Bool.not_eq_true', decide_eq_true_eq] at kept
  obtain ⟨⟨⟨⟨notOwn, kept⟩, multicast⟩, welcome⟩, finite⟩ := kept
  rw [takes.event]
  unfold apply recvRpl handleDio
  dsimp only
  rw [if_neg notOwn, if_neg (Bool.eq_false_iff.mp kept), if_neg (Bool.eq_false_iff.mp multicast),
    if_neg (Bool.eq_false_iff.mp welcome)]
  exact if_neg finite

theorem shifts_handleDio {dio : DioHeader} {heard : Reception}
    (event : e = .receive heard (.dio dio))
    (notOwn : heard.sender ≠ n.ipv6.getLinkLocalAddress heard.interface) :
    Shifts n e false n.stakes (n.handleDio dio heard).stakes := by
  unfold handleDio
  split
  · exact .refl
  · next kept =>
    split
    · next unicastRrep =>
      rw [Bool.and_eq_true, Bool.not_eq_true'] at unicastRrep
      exact shifts_handleAodvRrep event unicastRrep.2 (Bool.eq_false_iff.mpr kept) unicastRrep.1
    · next notUnicast =>
      split
      · exact .refl
      · next welcome =>
        split
        · exact shifts_handlePoison ..
        · next finite =>
          have takes : n.Takes e dio heard := by
            refine ⟨event, ?_⟩
            simp only [takesDio, Bool.and_eq_true, Bool.not_eq_true', decide_eq_true_eq]
            exact ⟨⟨⟨⟨notOwn, Bool.eq_false_iff.mpr kept⟩, Bool.eq_false_iff.mpr notUnicast⟩,
              Bool.eq_false_iff.mpr welcome⟩, finite⟩
          have whole := takes.apply_eq
          split
          · exact .refl
          · next after entered =>
            rw [entered] at whole
            have entering := shifts_enterVersion takes entered
            rw [← stakes_updateParent after dio heard] at entering
            have selected := entering.trans
              (shifts_selectAfterDio (after.updateParent dio heard) dio heard.sender)
            have handles : n.beforeDiscovery dio heard =
                some ((after.updateParent dio heard).selectAfterDio dio heard.sender) := by
              rw [beforeDiscovery, entered, Option.map_some]
            have leads := (leads_handleDiscovery takes handles).head selected
            exact leads.shifts takes whole

/-! ## Timers -/

theorem shifts_aodvExpiry (n : Node) (key : DodagKey) :
    Shifts n e late n.stakes ((n.modifyAodv key fun aodv =>
      { aodv with expiry := none }).aodvInstanceExpired key).stakes := by
  unfold aodvInstanceExpired modifyAodv
  cases held : n.dodags[key]? with
  | none =>
    rw [modifyDodag_of_absent held]
    exact shifts_leaveDodag n key
  | some dodag =>
    have heldCleared : (n.modifyDodag key fun dodag =>
        { dodag with aodv := { dodag.aodv with expiry := none } }).dodags[key]? =
        some { dodag with aodv := { dodag.aodv with expiry := none } } := by
      rw [setDodag_of_held held]
      exact ExtTreeMap.getElem?_insert_self
    rw [stakes_leaveDodag heldCleared, stakes_modifyDodag held, Stakes.put_leave]
    · exact .single (.leave (held_stake held))
    · rfl

theorem stakes_p2pInstanceExpired (held : m.dodags[key]? = some dodag) :
    (m.p2pInstanceExpired key).stakes =
      (m.stakes.remember key dodag.stake).leave key dodag.stake := by
  have remembered : ∀ memory, (({ m with p2pStopMemory := memory } : Node).leaveDodag key
      false).stakes = ({ m.stakes with stopMemory := memory }).leave key dodag.stake := by
    intro memory
    exact stakes_leaveDodag (m := { m with p2pStopMemory := memory }) held
  unfold p2pInstanceExpired
  rw [held]
  exact remembered _

theorem stakes_p2pExpiry (held : n.dodags[key]? = some dodag) :
    ((n.modifyP2p key fun p2p => { p2p with expiry := none }).p2pInstanceExpired key).stakes =
      (n.stakes.remember key dodag.stake).leave key dodag.stake := by
  have heldCleared : (n.modifyP2p key fun p2p => { p2p with expiry := none }).dodags[key]? =
      some { dodag with p2p := { dodag.p2p with expiry := none } } := by
    rw [modifyP2p, setDodag_of_held held]
    exact ExtTreeMap.getElem?_insert_self
  rw [stakes_p2pInstanceExpired heldCleared, modifyP2p, stakes_modifyDodag held,
    Stakes.put_remember_leave]
  · rfl
  · rfl
  · rfl

theorem shifts_p2pExpiry (event : e = .fire (.p2pExpiry key)) :
    Shifts n e late n.stakes ((n.modifyP2p key fun p2p =>
      { p2p with expiry := none }).p2pInstanceExpired key).stakes := by
  cases held : n.dodags[key]? with
  | none => rw [modifyP2p, modifyDodag_of_absent held, p2pInstanceExpired, held]
  | some dodag =>
    rw [stakes_p2pExpiry held]
    exact .single (.p2pExpired event (held_stake held))

theorem shifts_fire (timer : TimerName) (event : e = .fire timer)
    (due : n.timer timer = some n.now) : Shifts n e late n.stakes (n.fire timer).stakes := by
  cases timer with
  | dis => exact shifts_of_eq (stakes_disTimerExpire _)
  | firstSolicitation => exact shifts_of_eq (stakes_disTimerExpire _)
  | trickleTransmit key => exact shifts_trickleTransmit n key event
  | trickleInterval key => exact shifts_of_eq (stakes_trickleInterval due)
  | dao key =>
    refine shifts_of_eq ((stakes_quiet.daoEventFire key).trans (stakes_modifyDodag_same ?_))
    exact fun _ => rfl
  | daoRetry key =>
    refine shifts_of_eq ((stakes_quiet.daoRetry key).trans (stakes_modifyDodag_same ?_))
    exact fun _ => rfl
  | globalRepair key =>
    refine shifts_of_eq ((stakes_globalRepairFire _ key).trans (stakes_modifyDodag_same ?_))
    exact fun _ => rfl
  | aodvExpiry key => exact shifts_aodvExpiry n key
  | p2pExpiry key => exact shifts_p2pExpiry event
  | droRetry key =>
    refine shifts_of_eq ((stakes_p2pDroRetry _ key).trans (stakes_modifyP2p_same ?_))
    exact fun _ => rfl
  | droCollect key =>
    refine shifts_of_eq ((stakes_p2pDroCollectExpire _ key).trans (stakes_modifyP2p_same ?_))
    exact fun _ => rfl

/-! ## Events -/

theorem shifts_apply (n : Node) (e : Event) (enabled : n.Enabled e) :
    Shifts n e false n.stakes (n.apply e).stakes := by
  cases e with
  | receive heard message =>
    unfold apply recvRpl
    dsimp only
    split
    · exact .refl
    · next notOwn =>
      cases message with
      | dis => exact shifts_handleDis n heard.sender heard.interface heard.toMulticast rfl
      | dio dio => exact shifts_handleDio rfl notOwn
      | dao dao => exact shifts_of_eq (stakes_quiet.handleDao ..)
      | daoAck ack => exact shifts_of_eq (stakes_quiet.handleDaoAck ..)
      | p2pDro dro => exact shifts_handleP2pDro rfl
      | p2pDroAck ack => exact shifts_of_eq (stakes_handleP2pDroAck ..)
  | fire timer => exact shifts_fire timer rfl enabled
  | tick later =>
    refine .single (.elapse rfl enabled.1 fun key stake at_ held running => ?_)
    obtain ⟨dodag, heldDodag, isStake⟩ :=
      Option.map_eq_some_iff.mp ((stakes_held n key).symm.trans held)
    rcases running with aodv | p2p
    · refine enabled.2 (.aodvExpiry key) at_ (Option.bind_eq_some_iff.mpr ⟨dodag, heldDodag, ?_⟩)
      rw [← isStake] at aodv
      exact aodv
    · refine enabled.2 (.p2pExpiry key) at_ (Option.bind_eq_some_iff.mpr ⟨dodag, heldDodag, ?_⟩)
      rw [← isStake] at p2p
      exact p2p
  | discoverRoute target hopByHop => exact shifts_discoverRoute n target hopByHop rfl
  | discoverP2pRoute target hopByHop => exact shifts_discoverP2pRoute n target hopByHop rfl
  | createLocalDodag instanceId mop => exact shifts_createLocalDodag n instanceId mop rfl
  | setAsRoot => exact .refl
  | dadSuccess address => exact shifts_handleDadSuccess n address rfl
  | startInterface interface => exact shifts_of_eq (stakes_startInterface n interface)
  | stopInterface interface => exact shifts_stopInterface n interface
  | readdress interfaces => exact .single (.readdress (.inl ⟨interfaces, rfl⟩))
  | routeOutput destination oif => exact shifts_of_eq (stakes_quiet.afterRouteOutput ..)
  | notifyRankInconsistency instanceId =>
    exact shifts_of_eq (stakes_notifyRankInconsistency n instanceId)
  | notifyForwardingError instanceId destination =>
    exact shifts_of_eq (stakes_quiet.notifyForwardingError ..)

end Node

end Rpl
