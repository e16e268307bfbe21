import Rpl.Departures

/-!
# A stopped discovery

A P2P-DRO with the Stop flag ends a router's part in a temporary DAG.  As long as it
is a member the flag is in the membership, which then sends nothing and takes in no
P2P mode DIO.  At the deadline the flag goes into a memory that bars the key for
another lifetime.  A membership that ends in another way takes the flag with it, and
where it loses its last parent it poisons on the way out.
-/

namespace Rpl

open Std

/-! ## What is said under a key -/

/-- The DIOs sent since then are none of the key. -/
def Stakes.SilentSince (key : DodagKey) (earlier : List (Ipv6Address × DioHeader)) (s : Stakes) :
    Prop :=
  ∃ since, s.dios = since ++ earlier ∧ ∀ said ∈ since, said.2.key ≠ key

namespace Stakes

variable {s : Stakes} {key : DodagKey} {earlier sent : List (Ipv6Address × DioHeader)}

theorem silentSince_self (s : Stakes) (key : DodagKey) : s.SilentSince key s.dios :=
  ⟨[], rfl, fun _ mem => absurd mem List.not_mem_nil⟩

theorem SilentSince.sends (silent : s.SilentSince key earlier)
    (others : ∀ said ∈ sent, said.2.key ≠ key) : (s.sends sent).SilentSince key earlier := by
  obtain ⟨since, dios, silent⟩ := silent
  refine ⟨sent ++ since, ?_, fun said mem => ?_⟩
  · rw [Stakes.sends, dios, List.append_assoc]
  · rcases List.mem_append.mp mem with last | before
    · exact others said last
    · exact silent said before

end Stakes

theorem DodagMembership.dioMessage_key (dodag : DodagMembership) (enableLql : Bool)
    (route : List Ipv6Address) : (dodag.dioMessage enableLql route).key = dodag.key := by
  unfold dioMessage
  split
  · rfl
  · rfl
  · rfl
  · rfl

theorem DodagMembership.Speaks.key_eq {dodag : DodagMembership}
    {sent : List (Ipv6Address × DioHeader)} (speaks : dodag.Speaks sent)
    {said : Ipv6Address × DioHeader} (mem : said ∈ sent) : said.2.key = dodag.key := by
  obtain ⟨-, enableLql, route, message⟩ := speaks said mem
  rw [message, dodag.dioMessage_key]

/-! ## Memberships in order -/

/-- A membership is held under its own key, and where the discovery has stopped its Trickle timer
is at rest. -/
def Stakes.InOrder (s : Stakes) : Prop :=
  ∀ (key : DodagKey) (stake : Stake), s.held[key]? = some stake →
    stake.key = key ∧ (stake.p2p.stopped = true → stake.active = false)

namespace Node

variable {n m : Node} {e : Event} {late : Bool} {s after : Stakes} {key : DodagKey}
  {dodag : DodagMembership} {dio : DioHeader} {heard : Reception}

theorem inOrder_shift (shift : Shift n e late s after) (inOrder : s.InOrder) : after.InOrder := by
  intro key stake held
  cases shift.turn key with
  | stays sameHeld => exact inOrder key stake (sameHeld ▸ held)
  | unbars _ _ _ _ heldBefore still =>
    rw [still, ← heldBefore] at held
    exact inOrder key stake held
  | begins absent begins heldAfter =>
    cases heldAfter.symm.trans held
    cases begins with
    | join _ _ _ keyed => exact ⟨keyed, Bool.noConfusion⟩
    | root roots =>
      cases roots with
      | ordinary => exact ⟨rfl, Bool.noConfusion⟩
      | rreq => exact ⟨rfl, Bool.noConfusion⟩
      | p2p => exact ⟨rfl, Bool.noConfusion⟩
      | rrep => exact ⟨rfl, Bool.noConfusion⟩
  | rewrites heldBefore rewrites rewritten =>
    cases rewritten.symm.trans held
    obtain ⟨keyed, rests⟩ := inOrder key _ heldBefore
    cases rewrites with
    | @rest before active still =>
      refine ⟨keyed, fun stopped => ?_⟩
      cases active with
      | false => rfl
      | true => exact absurd (still rfl) (Bool.eq_false_iff.mp (rests stopped))
    | rreq => exact ⟨keyed, rests⟩
    | rrep => exact ⟨keyed, rests⟩
    | rdo => exact ⟨keyed, rests⟩
    | armAodv => exact ⟨keyed, rests⟩
    | armP2p => exact ⟨keyed, rests⟩
    | stop => exact ⟨keyed, fun _ => rfl⟩
  | ends _ gone =>
    rw [gone] at held
    cases held

theorem inOrder_of_reachable (reachable : nodeSystem.Reachable n) : n.stakes.InOrder := by
  refine reachable.invariant (I := fun n => n.stakes.InOrder) ?_ ?_
  · intro n initial key stake held
    rw [stakes_held, initial.dodags] at held
    cases held
  · intro n e inOrder enabled _
    exact keeps_apply enabled (fun _ _ _ shift => inOrder_shift shift) inOrder

/-! ## The flag -/

/-- A member of a temporary DAG processes a P2P-DRO that stops the discovery. -/
inductive StopsDiscovery (n : Node) : Event → DodagKey → Prop
  | dro {heard : Reception} {dro : P2pDroHeader} {rdo : P2pRdoOption} {dodag : DodagMembership}
      (notOwn : heard.sender ≠ n.ipv6.getLinkLocalAddress heard.interface)
      (stops : dro.stop = true) (option : dro.p2pRdo = some rdo)
      (held : n.dodags[(⟨dro.instanceId, dro.dodagId⟩ : DodagKey)]? = some dodag)
      (temporary : dodag.isTemporary = true) (searched : dodag.p2p.target.isAny = false)
      (asked : dodag.p2p.isOrigin = true → rdo.target = dodag.p2p.target) :
      StopsDiscovery n (.receive heard (.p2pDro dro)) ⟨dro.instanceId, dro.dodagId⟩

/-- The node is a member of the temporary DAG, which has stopped. -/
def StoppedMember (n : Node) (key : DodagKey) : Prop :=
  ∃ dodag, n.dodags[key]? = some dodag ∧ dodag.p2p.stopped = true ∧ dodag.isTemporary = true

theorem held_completeP2pRoute (dro : P2pDroHeader) (rdo : P2pRdoOption) :
    (n.completeP2pRoute key dodag dro rdo).stakes.held = n.stakes.held := by
  unfold completeP2pRoute
  dsimp only
  split
  · have same := n.stakes_storeHopByHopRoute key rdo.target
      (rdo.addressVector.head?.getD rdo.target) n.attributes.routeLifetime none true
    split
    · rfl
    · next stored accepted =>
      rw [accepted] at same
      rw [stakes_acknowledgeP2pDro, same]
  · rw [stakes_acknowledgeP2pDro]
    unfold storeP2pRoute
    dsimp only
    rw [stakes_modifyP2p_same]
    · split
      · rfl
      · rfl
    · exact fun _ => rfl

theorem stoppedMember_recordP2pStop (held : m.stakes.held[key]? = some dodag.stake)
    (temporary : dodag.isTemporary = true) : (m.recordP2pStop key true).StoppedMember key := by
  rw [stakes_held, Option.map_eq_some_iff] at held
  obtain ⟨other, held, same⟩ := held
  have temporaryOther : other.isTemporary = true := by
    have mop : other.mop = dodag.mop := congrArg Stake.mop same
    rw [DodagPlace.isTemporary, mop]
    exact temporary
  rw [recordP2pStop, setDodag_of_held held]
  refine ⟨_, ExtTreeMap.getElem?_insert_self, ?_⟩
  split
  · next stopped =>
    rw [Bool.not_true, Bool.false_or] at stopped
    exact ⟨stopped, temporaryOther⟩
  · exact ⟨rfl, temporaryOther⟩

theorem stoppedMember_of_stops (stops : n.StopsDiscovery e key) :
    (n.apply e).StoppedMember key := by
  cases stops with
  | @dro heard dro rdo dodag notOwn stops option held temporary searched asked =>
    have handled : n.apply (.receive heard (.p2pDro dro)) = n.handleP2pDro dro := by
      rw [apply, recvRpl, if_neg notOwn]
    rw [handled, handleP2pDro, option, held]
    dsimp only
    rw [temporary, searched, stops]
    simp only [Bool.not_true, Bool.or_self, Bool.false_eq_true, if_false]
    split
    · next origin =>
      rw [if_neg (not_not_intro (asked origin))]
      refine @stoppedMember_recordP2pStop _ _ dodag ?_ temporary
      rw [held_completeP2pRoute]
      exact held_stake held
    · refine @stoppedMember_recordP2pStop _ _ dodag ?_ temporary
      rw [stakes_relayP2pDro]
      exact held_stake held

/-! ## Steps after the stop -/

/-- The node comes to root a DODAG under the key, where it is in none. -/
inductive RootsUnder (n : Node) (key : DodagKey) : Event → Prop
  | created {id mop : UInt8} (named : key = ⟨clearDFlag id, n.getGlobalAddress⟩)
      (address : n.getGlobalAddress.isAny = false) : RootsUnder n key (.createLocalDodag id mop)
  | addressed {address : Ipv6Address} (named : key = ⟨defaultInstance, address⟩)
      (global : address.isLinkLocal = false) (root : n.isRoot = true)
      (apart : n.isJoined = false) : RootsUnder n key (.dadSuccess address)
  | discovers {target : Ipv6Address} {hopByHop : Bool} {id : UInt8}
      (asked : (target.isAny || n.ipv6.isOwnAddress target || n.getGlobalAddress.isAny) = false)
      (allocates : n.AllocatesRreqId id) (named : key = ⟨clearDFlag id, n.getGlobalAddress⟩) :
      RootsUnder n key (.discoverRoute target hopByHop)
  | discoversP2p {target : Ipv6Address} {hopByHop : Bool} {id : UInt8}
      (asked : (target.isAny || n.ipv6.isOwnAddress target || n.getGlobalAddress.isAny) = false)
      (allocates : n.AllocatesP2pId target id)
      (named : key = ⟨clearDFlag id, n.getGlobalAddress⟩) :
      RootsUnder n key (.discoverP2pRoute target hopByHop)
  /-- An RREQ is answered with an RREP-Instance. -/
  | answers {heard : Reception} {dio : DioHeader} {m : Node} {rreqDodag : DodagMembership}
      {id : UInt8} (takes : n.takesDio dio heard = true) (rreq : dio.rreq.isSome = true)
      (answering : n.AnswersAsTargNode dio heard m) (held : m.dodags[dio.key]? = some rreqDodag)
      (asymmetric : rreqDodag.aodv.symmetric = false)
      (address : (m.getGlobalAddressIn rreqDodag).isAny = false)
      (unanswered : (m.findAodvRrepInstance dio.key.dodagId dio.key.instanceId).isSome = false)
      (allocates : m.allocateRrepInstanceId dio.instanceId (m.getGlobalAddressIn rreqDodag)
        m.getGlobalAddress = some id)
      (named : key = ⟨clearDFlag id, m.getGlobalAddress⟩) :
      RootsUnder n key (.receive heard (.dio dio))

theorem rootsUnder_of_roots {stake : Stake} (roots : n.Roots e s key stake) :
    n.RootsUnder key e := by
  cases roots with
  | ordinary fresh event =>
    rcases event with ⟨id, rfl, named, address⟩ | ⟨address, rfl, named, global, root, apart⟩
    · exact .created named address
    · exact .addressed named global root apart
  | rreq fresh event asked allocates named =>
    subst event
    exact .discovers asked allocates named
  | p2p fresh event asked allocates named =>
    subst event
    exact .discoversP2p asked allocates named
  | rrep _ takes rreq held _ address allocates named answering asymmetric unanswered =>
    obtain ⟨event, taken⟩ := takes
    subst event
    exact .answers taken rreq answering held asymmetric address unanswered allocates named

/-- The step keeps to the stop of the discovery under the key: it does not end the membership
early, no DIO of another kind makes the node a member again, the node does not root the DODAG,
and no DIO of AODV-RPL has it send one under the key. -/
structure KeepsToStop (key : DodagKey) (n : Node) (e : Event) : Prop where
  lasts : ¬n.LeavesEarly key e
  joins : ∀ dio heard, n.Takes e dio heard → dio.key = key → n.joinsBy dio = true →
    dio.p2pRdo.isSome = true
  roots : n.dodags[key]? = none → ¬n.RootsUnder key e
  begets : ∀ dio heard ipv6 reply, e = .receive heard (.dio dio) →
    ipv6 = n.ipv6 ∨ ipv6 = (n.autoconfigure dio heard.interface).ipv6 →
      dio.Begets ipv6 heard reply → reply.key ≠ key

/-- The step sends no DIO of the key, and takes in no P2P mode DIO for it. -/
structure StaysQuiet (key : DodagKey) (n : Node) (e : Event) : Prop where
  silent : (n.apply e).stakes.SilentSince key n.stakes.dios
  refuses : ∀ dio heard, n.Takes e dio heard → dio.key = key → dio.p2pRdo.isSome = false

/-- A run from the stop on, in steps that all satisfy `good`: until the membership ends the time
up to which the stop binds is open, and then it is one lifetime later. -/
inductive AfterStop (good : Node → Event → Prop) (key : DodagKey) : Node → Option Time → Prop
  | stop {n : Node} {e : Event} (reachable : nodeSystem.Reachable n) (enabled : n.Enabled e)
      (stops : n.StopsDiscovery e key) : AfterStop good key (n.apply e) none
  | member {n : Node} {e : Event} (before : AfterStop good key n none) (enabled : n.Enabled e)
      (condition : good n e) (stays : (n.apply e).departures key = n.departures key) :
      AfterStop good key (n.apply e) none
  | ends {n : Node} {e : Event} {dodag : DodagMembership} (before : AfterStop good key n none)
      (enabled : n.Enabled e) (condition : good n e)
      (leaves : (n.apply e).departures key ≠ n.departures key)
      (held : n.dodags[key]? = some dodag) :
      AfterStop good key (n.apply e)
        (some (n.now + seconds (p2pLifetimeSeconds dodag.p2p.lifetimeField)))
  | later {n : Node} {e : Event} {until_ : Time} (before : AfterStop good key n (some until_))
      (enabled : n.Enabled e) (condition : good n e) :
      AfterStop good key (n.apply e) (some until_)

theorem AfterStop.reachable {good : Node → Event → Prop} {until_ : Option Time}
    (run : AfterStop good key n until_) : nodeSystem.Reachable n := by
  induction run with
  | stop reachable enabled => exact run_apply reachable enabled trivial
  | member _ enabled _ _ ih => exact run_apply ih enabled trivial
  | ends _ enabled _ _ _ ih => exact run_apply ih enabled trivial
  | later _ enabled _ ih => exact run_apply ih enabled trivial

/-! ### While it is a member -/

/-- A Trickle timer at rest has no transmission due. -/
theorem not_transmits_of_stopped (inOrder : n.stakes.InOrder) (held : n.dodags[key]? = some dodag)
    (stopped : dodag.p2p.stopped = true) (enabled : n.Enabled e) :
    e ≠ .fire (.trickleTransmit key) := by
  rintro rfl
  obtain ⟨other, heldOther, running⟩ := timerOf_isSome enabled
  cases held.symm.trans heldOther
  have atRest : dodag.dioTrickle.active = false := (inOrder key _ (held_stake held)).2 stopped
  rw [TrickleTimer.active, running] at atRest
  simp only [Timer.isRunning, Option.isSome_some, Bool.or_true, Bool.true_or,
    Bool.true_eq_false] at atRest

/-- The membership is still there, stopped, and nothing has been said under its key. -/
structure QuietMember (n : Node) (key : DodagKey) (s : Stakes) : Prop where
  held : ∃ stake, s.held[key]? = some stake ∧ stake.p2p.stopped = true ∧ stake.temporary = true
  silent : s.SilentSince key n.stakes.dios

/-- The node's addresses within the event of a DIO. -/
def AddressesOf (n : Node) (e : Event) (s : Stakes) : Prop :=
  ∀ dio heard, e = .receive heard (.dio dio) →
    s.ipv6 = n.ipv6 ∨ s.ipv6 = (n.autoconfigure dio heard.interface).ipv6

theorem addressesOf_shift (shift : Shift n e late s after) (addresses : n.AddressesOf e s) :
    n.AddressesOf e after := by
  intro dio heard event
  cases shift with
  | readdress cause =>
    rcases cause with ⟨interfaces, readdressed⟩ | ⟨taken, takenHeard, takes, -, same⟩
    · cases event.symm.trans readdressed
    · cases event.symm.trans takes.event
      exact .inr same
  | _ => exact addresses dio heard event

/-- A shift says nothing under the key, unless a membership there loses its last parent. -/
theorem silent_shift (shift : Shift n e late s after) (inOrder : s.InOrder)
    (addresses : n.AddressesOf e s) (keeps : KeepsToStop key n e)
    (rests : e ≠ .fire (.trickleTransmit key))
    (unasked : ∀ heard, e = .receive heard .dis → ∀ stake, s.held[key]? = some stake →
      stake.temporary = true)
    (silent : s.SilentSince key n.stakes.dios) :
    after.SilentSince key n.stakes.dios ∨
      (∃ stake, s.held[key]? = some stake) ∧ after.ended = key :: s.ended := by
  cases shift with
  | @speak other dodag sent held occasion speaks =>
    have keyed : dodag.key = other := (inOrder other _ held).1
    refine .inl (silent.sends fun said mem isKey => ?_)
    rw [speaks.key_eq mem, keyed] at isKey
    subst isKey
    rcases occasion with fires | ⟨ordinary, heard, dis⟩
    · exact rests fires
    · have temporary : dodag.isTemporary = true := unasked heard dis _ held
      rw [ordinary] at temporary
      cases temporary
  | @lose other dodag sent held _ speaks =>
    have keyed : dodag.key = other := (inOrder other _ held).1
    by_cases isKey : other = key
    · subst isKey
      exact .inr ⟨⟨_, held⟩, rfl⟩
    · refine .inl (@Stakes.SilentSince.sends _ _ _ sent silent fun said mem => ?_)
      rw [speaks.key_eq mem, keyed]
      exact isKey
  | @whisper sent dio heard event aside =>
    refine .inl (silent.sends fun said mem => ?_)
    exact keeps.begets dio heard _ _ event (addresses dio heard event) (aside said mem).2
  | _ => exact .inl silent

/-- What is kept of a member while its membership does not end. -/
theorem quietMember_shift (shift : Shift n e late s after) (inOrder : s.InOrder)
    (addresses : n.AddressesOf e s) (keeps : KeepsToStop key n e)
    (rests : e ≠ .fire (.trickleTransmit key)) (quiet : n.QuietMember key s) :
    n.QuietMember key after ∨ after.ended = key :: s.ended := by
  obtain ⟨⟨stake, held, stopped, temporary⟩, silent⟩ := quiet
  have unasked : ∀ heard, e = .receive heard .dis → ∀ stake, s.held[key]? = some stake →
      stake.temporary = true := by
    intro heard dis other heldOther
    cases held.symm.trans heldOther
    exact temporary
  rcases silent_shift shift inOrder addresses keeps rests unasked silent with
    silentAfter | ⟨-, ended⟩
  · cases shift.turn key with
    | stays sameHeld =>
      exact .inl ⟨⟨stake, sameHeld.trans held, stopped, temporary⟩, silentAfter⟩
    | unbars _ _ _ _ heldBefore still =>
      rw [heldBefore, ← still] at held
      exact .inl ⟨⟨stake, held, stopped, temporary⟩, silentAfter⟩
    | begins absent =>
      rw [absent] at held
      cases held
    | ends _ _ _ ended => exact .inr ended
    | @rewrites _ other heldBefore rewrites rewritten =>
      cases heldBefore.symm.trans held
      refine .inl ⟨⟨other, rewritten, ?_⟩, silentAfter⟩
      cases rewrites with
      | rest => exact ⟨stopped, temporary⟩
      | rreq => exact ⟨stopped, temporary⟩
      | rrep => exact ⟨stopped, temporary⟩
      | rdo => exact ⟨stopped, temporary⟩
      | armAodv => exact ⟨stopped, temporary⟩
      | armP2p => exact ⟨stopped, temporary⟩
      | stop => exact ⟨rfl, temporary⟩
  · exact .inr ended

theorem quietMember_apply (inOrder : n.stakes.InOrder) (enabled : n.Enabled e)
    (keeps : KeepsToStop key n e) (member : n.StoppedMember key)
    (stays : (n.apply e).departures key = n.departures key) :
    n.QuietMember key (n.apply e).stakes := by
  obtain ⟨dodag, held, stopped, temporary⟩ := member
  have rests := not_transmits_of_stopped inOrder held stopped enabled
  have kept : (n.apply e).stakes.InOrder ∧ n.AddressesOf e (n.apply e).stakes ∧
      n.departures key ≤ (n.apply e).departures key ∧
      (n.QuietMember key (n.apply e).stakes ∨ n.departures key < (n.apply e).departures key) := by
    refine keeps_apply (I := fun s => s.InOrder ∧ n.AddressesOf e s ∧
      n.departures key ≤ s.ended.count key ∧
      (n.QuietMember key s ∨ n.departures key < s.ended.count key)) enabled ?_
      ⟨inOrder, fun _ _ _ => .inl rfl, Nat.le_refl _, .inl ⟨⟨_, held_stake held, stopped,
        temporary⟩, n.stakes.silentSince_self key⟩⟩
    rintro s after - shift ⟨order, addresses, counted, quiet⟩
    have more : s.ended.count key ≤ after.ended.count key :=
      shift.ended_suffix.sublist.count_le key
    refine ⟨inOrder_shift shift order, addressesOf_shift shift addresses,
      Nat.le_trans counted more, ?_⟩
    rcases quiet with quiet | gone
    · rcases quietMember_shift shift order addresses keeps rests quiet with still | ended
      · exact .inl still
      · rw [ended, List.count_cons_self]
        exact .inr (Nat.lt_succ_of_le counted)
    · exact .inr (Nat.lt_of_lt_of_le gone more)
  obtain ⟨-, -, -, quiet | gone⟩ := kept
  · exact quiet
  · exact absurd stays (Nat.ne_of_gt gone)

/-- A stopped member refuses P2P mode DIOs. -/
theorem refuses_of_stopped (stopped : n.p2pStopped key = true) (takes : n.Takes e dio heard)
    (keyed : dio.key = key) : dio.p2pRdo.isSome = false := by
  subst keyed
  have kept := takes.takes
  simp only [takesDio, refusesDiscovery, shouldRefuseP2pRdo, stopped, Bool.or_true, Bool.true_or,
    Bool.and_true, Bool.and_eq_true, Bool.not_eq_true', Bool.or_eq_false_iff] at kept
  exact kept.1.2.2

theorem StoppedMember.refuses (member : n.StoppedMember key) (takes : n.Takes e dio heard)
    (keyed : dio.key = key) : dio.p2pRdo.isSome = false := by
  obtain ⟨dodag, held, stopped, -⟩ := member
  refine refuses_of_stopped ?_ takes keyed
  rw [p2pStopped, held]
  exact stopped

/-- A stopped membership that keeps to its stop ends at its deadline. -/
theorem StoppedMember.deadline (member : n.StoppedMember key) (keeps : KeepsToStop key n e)
    (leaves : (n.apply e).departures key ≠ n.departures key) : e = .fire (.p2pExpiry key) := by
  obtain ⟨dodag, held, -, temporary⟩ := id member
  exact (leavesEarly_of_departs held temporary (fun _ _ => member.refuses) leaves).resolve_right
    keeps.lasts

/-! ### At the deadline and after it -/

/-- The stop is remembered for the key, where the membership was. -/
structure StopRemembered (n : Node) (key : DodagKey) (until_ : Time) : Prop where
  absent : n.dodags[key]? = none
  memory : n.now < until_ → n.p2pStopMemory[key]? = some until_

/-- A stopped membership goes into the memory of stops at its deadline. -/
theorem stopRemembered_of_deadline (held : n.dodags[key]? = some dodag)
    (stopped : dodag.p2p.stopped = true) :
    (n.apply (.fire (.p2pExpiry key))).StopRemembered key
        (n.now + seconds (p2pLifetimeSeconds dodag.p2p.lifetimeField)) ∧
      (n.apply (.fire (.p2pExpiry key))).stakes.dios = n.stakes.dios := by
  have whole : (n.apply (.fire (.p2pExpiry key))).stakes =
      (n.stakes.remember key dodag.stake).leave key dodag.stake := stakes_p2pExpiry held
  have stoppedStake : dodag.stake.p2p.stopped = true := stopped
  refine ⟨⟨?_, fun _ => ?_⟩, ?_⟩
  · have gone : (n.apply (.fire (.p2pExpiry key))).stakes.held[key]? = none := by
      rw [whole, Stakes.leave_held, if_pos rfl]
    rw [stakes_held, Option.map_eq_none_iff] at gone
    exact gone
  · have memory := congrArg Stakes.stopMemory whole
    change (n.apply (.fire (.p2pExpiry key))).p2pStopMemory = _ at memory
    rw [memory, Stakes.leave, Stakes.remember, stoppedStake, if_pos rfl]
    exact ExtTreeMap.getElem?_insert_self
  · rw [whole]
    rfl

/-- The key is free, and the stop is remembered. -/
structure QuietMemory (n : Node) (key : DodagKey) (until_ : Time) (s : Stakes) : Prop where
  absent : s.held[key]? = none
  memory : s.now < until_ → s.stopMemory[key]? = some until_
  silent : s.SilentSince key n.stakes.dios

/-- The memory of a stop lasts as long as it binds. -/
theorem stopMemory_shift {until_ : Time} (shift : Shift n e late s after)
    (expires : e ≠ .fire (.p2pExpiry key))
    (memory : s.now < until_ → s.stopMemory[key]? = some until_) :
    after.now < until_ → after.stopMemory[key]? = some until_ := by
  intro early
  have remembered := memory (Int.lt_of_le_of_lt shift.now_le early)
  cases shift with
  | @p2pExpired other stake event held =>
    have different : key ≠ other := by
      rintro rfl
      exact expires event
    have kept : (OrderedMap.eraseIf (fun _ until_ => until_ ≤ s.now) s.stopMemory)[key]? =
        some until_ :=
      OrderedMap.getElem?_eraseIf_eq_some.mpr
        ⟨remembered, decide_eq_false (Int.not_le.mpr early)⟩
    change (if stake.p2p.stopped then _ else _ : ExtTreeMap DodagKey Time)[key]? = some until_
    split
    · rw [OrderedMap.getElem?_insert_eq, if_neg different]
      exact kept
    · exact kept
  | _ => exact remembered

theorem quietMemory_shift {until_ : Time} (shift : Shift n e false s after) (inOrder : s.InOrder)
    (addresses : n.AddressesOf e s) (keeps : KeepsToStop key n e)
    (free : n.dodags[key]? = none) (rests : e ≠ .fire (.trickleTransmit key))
    (expires : e ≠ .fire (.p2pExpiry key))
    (refuses : ∀ dio heard, n.Takes e dio heard → dio.key = key → dio.p2pRdo.isSome = false)
    (quiet : n.QuietMemory key until_ s) : n.QuietMemory key until_ after := by
  obtain ⟨absent, memory, silent⟩ := quiet
  have unheld {stake : Stake} (held : s.held[key]? = some stake) : False := by
    rw [absent] at held
    cases held
  refine ⟨?_, stopMemory_shift shift expires memory, ?_⟩
  · cases shift.turn key with
    | stays sameHeld => rw [sameHeld, absent]
    | unbars _ _ _ _ held => exact (unheld held).elim
    | ends held => exact (unheld held).elim
    | rewrites held => exact (unheld held).elim
    | begins _ begins =>
      cases begins with
      | @join dio heard _ takes joins keyed =>
        have rdo := keeps.joins dio heard takes keyed joins
        rw [refuses dio heard takes keyed] at rdo
        cases rdo
      | root roots => exact absurd (rootsUnder_of_roots roots) (keeps.roots free)
  · rcases silent_shift shift inOrder addresses keeps rests
      (fun _ _ _ held => (unheld held).elim) silent with still | ⟨⟨_, held⟩, -⟩
    · exact still
    · exact (unheld held).elim

theorem stopRemembered_apply {until_ : Time} (inOrder : n.stakes.InOrder) (enabled : n.Enabled e)
    (keeps : KeepsToStop key n e) (early : n.now < until_)
    (remembered : n.StopRemembered key until_) :
    StaysQuiet key n e ∧
      ((n.apply e).now < until_ → (n.apply e).StopRemembered key until_) := by
  obtain ⟨absent, memory⟩ := remembered
  have untimed {timer : DodagMembership → Timer} : n.timerOf key timer ≠ some n.now := by
    intro due
    obtain ⟨dodag, held, -⟩ := timerOf_isSome due
    rw [absent] at held
    cases held
  have rests : e ≠ .fire (.trickleTransmit key) := by
    rintro rfl
    exact untimed enabled
  have expires : e ≠ .fire (.p2pExpiry key) := by
    rintro rfl
    exact untimed enabled
  have stopped : n.p2pStopped key = true := by
    rw [p2pStopped, absent]
    dsimp only
    rw [memory early, Option.any_some, decide_eq_true early]
  have refuses : ∀ dio heard, n.Takes e dio heard → dio.key = key → dio.p2pRdo.isSome = false :=
    fun dio heard takes keyed => refuses_of_stopped stopped takes keyed
  have kept : (n.apply e).stakes.InOrder ∧ n.AddressesOf e (n.apply e).stakes ∧
      n.QuietMemory key until_ (n.apply e).stakes := by
    refine keeps_apply (I := fun s => s.InOrder ∧ n.AddressesOf e s ∧
      n.QuietMemory key until_ s) enabled ?_
      ⟨inOrder, fun _ _ _ => .inl rfl,
        ⟨by rw [stakes_held, absent]; rfl, memory, n.stakes.silentSince_self key⟩⟩
    rintro s after - shift ⟨order, addresses, quiet⟩
    exact ⟨inOrder_shift shift order, addressesOf_shift shift addresses,
      quietMemory_shift shift order addresses keeps absent rests expires refuses quiet⟩
  obtain ⟨-, -, absentAfter, memoryAfter, silent⟩ := kept
  rw [stakes_held, Option.map_eq_none_iff] at absentAfter
  exact ⟨⟨silent, refuses⟩, fun _ => ⟨absentAfter, memoryAfter⟩⟩

/-! ## The run -/

/-- Where a run after the stop is: still a member, or with the stop remembered. -/
def BoundByStop (n : Node) (key : DodagKey) : Option Time → Prop
  | none => n.StoppedMember key
  | some until_ => n.now < until_ → n.StopRemembered key until_

theorem boundByStop_of_afterStop {until_ : Option Time}
    (run : AfterStop (KeepsToStop key) key n until_) : n.BoundByStop key until_ := by
  induction run with
  | stop reachable enabled stops => exact stoppedMember_of_stops stops
  | member before enabled keeps stays ih =>
    have inOrder := inOrder_of_reachable before.reachable
    obtain ⟨⟨stake, held, stopped, temporary⟩, -⟩ :=
      quietMember_apply inOrder enabled keeps ih stays
    rw [stakes_held, Option.map_eq_some_iff] at held
    obtain ⟨dodag, held, rfl⟩ := held
    exact ⟨dodag, held, stopped, temporary⟩
  | ends before enabled keeps leaves held ih =>
    have deadline := ih.deadline keeps leaves
    obtain ⟨dodag, heldBefore, stopped, -⟩ := ih
    cases heldBefore.symm.trans held
    subst deadline
    exact fun _ => (stopRemembered_of_deadline held stopped).1
  | later before enabled keeps ih =>
    intro early
    have now := (shifts_apply _ _ enabled).now_le
    have earlier := Int.lt_of_le_of_lt now early
    exact (stopRemembered_apply (inOrder_of_reachable before.reachable) enabled keeps earlier
      (ih earlier)).2 early

/-- In a run that keeps to the stop of a discovery, a router sends no DIO of the key and takes
in no P2P mode DIO for it, from the stop until one lifetime after its membership has ended. -/
theorem staysQuiet_of_afterStop {until_ : Option Time}
    (run : AfterStop (KeepsToStop key) key n until_)
    (binds : ∀ bound, until_ = some bound → n.now < bound) (enabled : n.Enabled e)
    (keeps : KeepsToStop key n e) : StaysQuiet key n e := by
  have inOrder := inOrder_of_reachable run.reachable
  have bound := boundByStop_of_afterStop run
  cases until_ with
  | some time =>
    have early := binds time rfl
    exact (stopRemembered_apply inOrder enabled keeps early (bound early)).1
  | none =>
    have refuses : ∀ dio heard, n.Takes e dio heard → dio.key = key →
        dio.p2pRdo.isSome = false := fun _ _ => StoppedMember.refuses bound
    by_cases stays : (n.apply e).departures key = n.departures key
    · exact ⟨(quietMember_apply inOrder enabled keeps bound stays).silent, refuses⟩
    · have deadline := StoppedMember.deadline bound keeps stays
      obtain ⟨dodag, held, stopped, -⟩ := bound
      subst deadline
      refine ⟨?_, refuses⟩
      rw [Stakes.SilentSince, (stopRemembered_of_deadline held stopped).2]
      exact n.stakes.silentSince_self key

/-! ## A router told to stop -/

/-- A P2P mode DIO of 2001:db8::1 for 2001:db8::9. -/
def wanted : DioHeader :=
  { instanceId := 0x80
    rank := 256
    mop := mopP2pRouteDiscovery
    grounded := true
    dodagId := 0x20010db8000000000000000000000001#128
    p2pRdo := some { target := 0x20010db8000000000000000000000009#128, lifetime := 3 } }

/-- A P2P-DRO for it, with the Stop flag, on its way through other routers. -/
def halt : Event :=
  .receive { sender := 0xfe800000000000000000000000000003#128, interface := 1 }
    (.p2pDro
      { instanceId := 0x80
        stop := true
        dodagId := 0x20010db8000000000000000000000001#128
        p2pRdo := some { target := 0x20010db8000000000000000000000009#128 } })

/-- A router in the temporary DAG. -/
def helping : Node := (started leafIpv6).apply (hears wanted)

/-- It has been told to stop. -/
def halted : Node := helping.apply halt

theorem helping_reachable : nodeSystem.Reachable helping :=
  run_hears (started_run leafIpv6) (started_listens _) trivial

theorem helping_stops : helping.StopsDiscovery halt wanted.key := by
  have held : (helping.dodags[wanted.key]?).any (fun dodag => dodag.isTemporary &&
      !dodag.p2p.target.isAny && !dodag.p2p.isOrigin) = true := by decide +kernel
  obtain ⟨dodag, held, found⟩ := (Option.any_eq_true _ _).mp held
  simp only [Bool.and_eq_true, Bool.not_eq_true'] at found
  refine .dro (by decide +kernel) rfl rfl held found.1.1 found.1.2 fun origin => ?_
  rw [found.2] at origin
  cases origin

theorem halted_afterStop {good : Node → Event → Prop} :
    AfterStop good wanted.key halted none :=
  .stop helping_reachable (by change 1 ∈ helping.sockets; decide +kernel) helping_stops

/-- The DIO heard again begets no answer. -/
theorem wanted_begets {ipv6 : Ipv6L3Protocol} {reply : DioHeader} :
    ¬wanted.Begets ipv6 heard reply := by
  intro begets
  cases begets with
  | relay discovery =>
    rcases discovery with rreq | rrep
    · cases rreq
    · cases rrep.1
  | answer rreq => cases rreq

/-- Its membership has lasted for the 64 s of L. -/
def outlasted : Node := halted.apply (.tick (seconds 64))

/-- The deadline has passed. -/
def outlived : Node := outlasted.apply (.fire (.p2pExpiry wanted.key))

theorem halted_enabled_tick : halted.Enabled (.tick (seconds 64)) :=
  enabled_tick (by decide +kernel) (by decide +kernel)

theorem halted_keepsToStop : KeepsToStop wanted.key halted (.tick (seconds 64)) where
  lasts early := by cases early
  joins dio heard takes := by cases takes.event
  roots _ rooting := by cases rooting
  begets dio heard ipv6 reply event := by cases event

theorem outlasted_enabled : outlasted.Enabled (.fire (.p2pExpiry wanted.key)) := by
  change outlasted.timerOf wanted.key (·.p2p.expiry) = some outlasted.now
  decide +kernel

theorem outlasted_keepsToStop :
    KeepsToStop wanted.key outlasted (.fire (.p2pExpiry wanted.key)) where
  lasts early := by cases early
  joins dio heard takes := by cases takes.event
  roots _ rooting := by cases rooting
  begets dio heard ipv6 reply event := by cases event

theorem outlived_keepsToStop : KeepsToStop wanted.key outlived (hears wanted) where
  lasts early := by
    cases early with
    | heard takes => exact absurd takes (by decide +kernel)
    | poisoned takes => exact absurd takes (by decide +kernel)
    | overflowed takes => exact absurd takes (by decide +kernel)
  joins dio heard takes _ joins := by
    cases takes.event
    rfl
  roots _ rooting := by
    cases rooting with
    | answers _ rreq => cases rreq
  begets dio heard ipv6 reply event _ begets := by
    cases event
    exact absurd begets wanted_begets

theorem outlived_afterStop :
    AfterStop (KeepsToStop wanted.key) wanted.key outlived (some (seconds 128)) := by
  have held : (outlasted.dodags[wanted.key]?).any (fun dodag =>
      outlasted.now + seconds (p2pLifetimeSeconds dodag.p2p.lifetimeField) =
        seconds 128) = true := by decide +kernel
  obtain ⟨dodag, held, lifetime⟩ := (Option.any_eq_true _ _).mp held
  have waited : AfterStop (KeepsToStop wanted.key) wanted.key outlasted none :=
    .member (e := .tick (seconds 64)) halted_afterStop halted_enabled_tick halted_keepsToStop
      (by decide +kernel)
  have ended := AfterStop.ends (e := .fire (.p2pExpiry wanted.key)) waited outlasted_enabled
    outlasted_keepsToStop (by decide +kernel) held
  rwa [of_decide_eq_true lifetime] at ended

/-- After the deadline it still does not take in the DIO, for another 64 s. -/
theorem halted_staysQuiet : StaysQuiet wanted.key outlived (hears wanted) :=
  staysQuiet_of_afterStop outlived_afterStop
    (fun bound isBound => by
      cases isBound
      decide +kernel)
    (by change 1 ∈ outlived.sockets; decide +kernel) outlived_keepsToStop

/-- Its interface has stopped and started again. -/
def restarted : Node := (halted.apply (.stopInterface 1)).apply (.startInterface 1)

theorem restarted_afterStop :
    AfterStop (fun _ _ => True) wanted.key restarted (some (seconds 64)) := by
  have held : (halted.dodags[wanted.key]?).any (fun dodag =>
      seconds (p2pLifetimeSeconds dodag.p2p.lifetimeField) = seconds 64) = true := by decide +kernel
  obtain ⟨dodag, held, lifetime⟩ := (Option.any_eq_true _ _).mp held
  have left : AfterStop (fun _ _ => True) wanted.key (halted.apply (.stopInterface 1))
      (some (halted.now + seconds (p2pLifetimeSeconds dodag.p2p.lifetimeField))) :=
    .ends (e := .stopInterface 1) halted_afterStop trivial trivial (by decide +kernel) held
  have now : halted.now = 0 := by decide +kernel
  rw [of_decide_eq_true lifetime, now, Int.zero_add] at left
  exact .later (e := .startInterface 1) left (by change 1 ≠ 0; decide) trivial

/-- Then it takes the DIO in, within the lifetime. -/
theorem restarted_not_staysQuiet :
    AfterStop (fun _ _ => True) wanted.key restarted (some (seconds 64)) ∧
      restarted.now < seconds 64 ∧ restarted.Enabled (hears wanted) ∧
      ¬StaysQuiet wanted.key restarted (hears wanted) := by
  refine ⟨restarted_afterStop, by decide +kernel,
    by change 1 ∈ restarted.sockets; decide +kernel, fun quiet => ?_⟩
  have taken := quiet.refuses _ _ ⟨rfl, by decide +kernel⟩ rfl
  cases taken

end Node

end Rpl
