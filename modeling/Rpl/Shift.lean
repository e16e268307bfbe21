import Rpl.Stakes

/-!
# Shifts of a node's stakes

Whatever an event does to a node's stakes is made of a few kinds of shifts, and a
`Shift` says of each what it does and what the event must be for it.  The node the
event happens to is a parameter, so that a shift can say what was checked at the
start of the event.  A property of runs that speaks of stakes is then shown shift
by shift.
-/

namespace Rpl

open Std

/-! ## What the shifts are made of -/

namespace Stake

/-- The stake of a DODAG just joined. -/
def joined (dio : DioHeader) : Stake :=
  { key := dio.key, isRoot := false, mop := dio.mop, active := true }

/-- What an RREQ says of the discovery. -/
def withRreq (dio : DioHeader) (stake : Stake) : Stake :=
  { stake with
    aodv := { stake.aodv with
      target := dio.getArt.target
      isOrigin := false
      lifetimeField := dio.getRreq.lifetime } }

/-- What an RREP-Instance DIO says of the discovery. -/
def withRrep (ipv6 : Ipv6L3Protocol) (dio : DioHeader) (stake : Stake) : Stake :=
  { stake with
    aodv := { stake.aodv with
      target := dio.dodagId
      isOrigin := ipv6.isOwnAddress dio.getArt.target
      isRrepInstance := true
      pairedInstanceId := dio.instanceId - dio.getRrep.delta
      origNode := dio.getArt.target
      lifetimeField := dio.getRrep.lifetime } }

/-- What a P2P mode DIO says of the discovery. -/
def withP2pRdo (dio : DioHeader) (stake : Stake) : Stake :=
  { stake with
    p2p := { stake.p2p with
      target := dio.getP2pRdo.target
      lifetimeField := dio.getP2pRdo.lifetime } }

def withAodvExpiry (at_ : Time) (stake : Stake) : Stake :=
  { stake with aodv := { stake.aodv with expiry := some at_ } }

def withP2pExpiry (at_ : Time) (stake : Stake) : Stake :=
  { stake with p2p := { stake.p2p with expiry := some at_ } }

/-- The discovery has stopped, and with it the Trickle timer. -/
def stop (stake : Stake) : Stake :=
  { stake with active := false, p2p := { stake.p2p with stopped := true } }

end Stake

namespace Stakes

/-- The memory of stopped discoveries at the deadline of a temporary DAG. -/
def remember (s : Stakes) (key : DodagKey) (stake : Stake) : Stakes :=
  let memory := OrderedMap.eraseIf (fun _ until_ => until_ ≤ s.now) s.stopMemory
  { s with
    stopMemory :=
      if stake.p2p.stopped then
        memory.insert key (s.now + seconds (p2pLifetimeSeconds stake.p2p.lifetimeField))
      else memory }

/-- What a temporary DAG was before its deadline matters only as far as it is remembered. -/
theorem put_remember_leave {s : Stakes} {key : DodagKey} {stake first second : Stake}
    (target : first.aodv.target = second.aodv.target)
    (stopped : first.p2p.stopped = second.p2p.stopped)
    (lifetime : first.p2p.lifetimeField = second.p2p.lifetimeField) :
    ((s.put key stake).remember key first).leave key first =
      (s.remember key second).leave key second := by
  simp only [put, remember, leave, OrderedMap.erase_insert, target, stopped, lifetime]
  rfl

end Stakes

/-- The DIOs, with their destinations, are DIOs of the membership; those of a temporary DODAG
are multicast. -/
def DodagMembership.Speaks (dodag : DodagMembership) (sent : List (Ipv6Address × DioHeader)) :
    Prop :=
  ∀ said ∈ sent, (dodag.isTemporary = true → said.1 = allNodesMulticast) ∧
    ∃ enableLql route, said.2 = dodag.dioMessage enableLql route

/-- A DIO that goes to one neighbour on account of one received: the DIO itself, or an answer to
an RREQ in the name of the target asked for or in the node's own. -/
inductive DioHeader.Begets (ipv6 : Ipv6L3Protocol) (dio : DioHeader) (heard : Reception) :
    DioHeader → Prop
  | relay (discovery : dio.rreq.isSome = true ∨
      dio.rrep.isSome = true ∧ heard.toMulticast = false) : Begets ipv6 dio heard dio
  | answer {reply : DioHeader} (rreq : dio.rreq.isSome = true)
      (instanceId : reply.instanceId = dio.instanceId)
      (name : reply.dodagId = dio.getArt.target ∨ ipv6.isOwnAddress reply.dodagId = true) :
      Begets ipv6 dio heard reply

namespace Node

/-- The event is the receipt of a DIO that the node takes in. -/
structure Takes (n : Node) (e : Event) (dio : DioHeader) (heard : Reception) : Prop where
  event : e = .receive heard (.dio dio)
  takes : n.takesDio dio heard = true

/-- The node that handles the discovery part of a DIO: it has entered the Version the DIO is
for and selected a parent. -/
def beforeDiscovery (n : Node) (dio : DioHeader) (heard : Reception) : Option Node :=
  (n.enterVersion dio heard.interface).map fun n =>
    (n.updateParent dio heard).selectAfterDio dio heard.sender

/-- A node on which the bar on a key is lifted. -/
def unbarred (n : Node) (key : DodagKey) : Node :=
  { n with aodvRejoinBlocked := n.aodvRejoinBlocked.erase key }

/-- The node with an RREQ recorded. -/
def recordRreq (n : Node) (dodag : DodagMembership) (dio : DioHeader) : Node :=
  ((n.unbarred dio.key).modifyAodv dio.key fun _ =>
    ((n.unbarred dio.key).takeRreq dodag dio).2).armAodvExpiry dio.key

/-- The node at a call of `SendAodvRrep`: it is a target of the RREQ taken in, which is recorded,
and the route of its kind is stored. -/
inductive AnswersAsTargNode (n : Node) (dio : DioHeader) (heard : Reception) : Node → Prop
  | rreq {before recorded : Node} {dodag : DodagMembership}
      (handles : n.beforeDiscovery dio heard = some before)
      (held : before.dodags[dio.key]? = some dodag)
      (heeds : (before.unbarred dio.key).ignoresRreq dodag dio heard = false)
      (reached : ((before.unbarred dio.key).takeRreq dodag dio).1 = true)
      (records : recorded = before.recordRreq dodag dio ∨
        recorded = (before.recordRreq dodag dio).log (.discoveryTargetReached dio.key))
      (goesOn : (recorded.routeRreq dio.key dio heard.sender).1 = true) :
      AnswersAsTargNode n dio heard
        ((recorded.routeRreq dio.key dio heard.sender).2.armAodvExpiry dio.key)

/-- The ID `DiscoverRoute` starts a discovery under. -/
def AllocatesRreqId (n : Node) (id : UInt8) : Prop :=
  allocateInstanceId localInstanceIds (n.isJoinedTo · n.getGlobalAddress)
    (fun localId => (n.rejoinBar ⟨localId, n.getGlobalAddress⟩).or (n.p2pIdBarred localId)) =
      some id

/-- The ID `DiscoverP2pRoute` starts a discovery of the target under. -/
def AllocatesP2pId (n : Node) (target : Ipv6Address) (id : UInt8) : Prop :=
  allocateInstanceId localInstanceIds (n.isJoinedTo · n.getGlobalAddress)
    (fun localId => (n.aodvIdBarred localId n.getGlobalAddress).or
      (n.p2pReuseBar target localId)) = some id

/-- A DODAG comes to be rooted, under the key and with the stake. -/
inductive Roots (n : Node) (e : Event) (s : Stakes) : DodagKey → Stake → Prop
  /-- An ordinary one. -/
  | ordinary {key : DodagKey} {mop : UInt8} (fresh : n.dodags[key]? = none)
      (event : (∃ id, e = .createLocalDodag id mop ∧ key = ⟨clearDFlag id, n.getGlobalAddress⟩ ∧
          n.getGlobalAddress.isAny = false) ∨
        ∃ address, e = .dadSuccess address ∧ key = ⟨defaultInstance, address⟩ ∧
          address.isLinkLocal = false ∧ n.isRoot = true ∧ n.isJoined = false) :
      Roots n e s key { key := key, isRoot := true, mop := mop, active := true }
  /-- An RREQ-Instance. -/
  | rreq {key : DodagKey} {target : Ipv6Address} {hopByHop : Bool} {id : UInt8} {expiry : Timer}
      (fresh : n.dodags[key]? = none) (event : e = .discoverRoute target hopByHop)
      (asked : (target.isAny || n.ipv6.isOwnAddress target || n.getGlobalAddress.isAny) = false)
      (allocates : n.AllocatesRreqId id) (named : key = ⟨clearDFlag id, n.getGlobalAddress⟩) :
      Roots n e s key
        { key := key
          isRoot := true
          mop := mopP2pRouteDiscovery
          active := true
          aodv :=
            { target := target
              isOrigin := true
              lifetimeField := s.attributes.aodvLifetime
              expiry := expiry } }
  /-- A temporary DAG. -/
  | p2p {key : DodagKey} {target : Ipv6Address} {hopByHop : Bool} {id : UInt8} {expiry : Timer}
      (fresh : n.dodags[key]? = none) (event : e = .discoverP2pRoute target hopByHop)
      (asked : (target.isAny || n.ipv6.isOwnAddress target || n.getGlobalAddress.isAny) = false)
      (allocates : n.AllocatesP2pId target id)
      (named : key = ⟨clearDFlag id, n.getGlobalAddress⟩) :
      Roots n e s key
        { key := key
          isRoot := true
          mop := mopP2pRouteDiscovery
          active := true
          p2p :=
            { target := target
              isOrigin := true
              lifetimeField := s.attributes.p2pLifetime
              expiry := expiry } }
  /-- An RREP-Instance that answers an RREQ-Instance, the last thing the event does. -/
  | rrep {m : Node} {rreqDodag : DodagMembership} {key : DodagKey} {dio : DioHeader}
      {heard : Reception} {id lifetimeField : UInt8} {expiry : Timer} (stakes : m.stakes = s)
      (takes : n.Takes e dio heard)
      (rreq : dio.rreq.isSome = true)
      (held : m.dodags[dio.key]? = some rreqDodag)
      (answers : n.apply e = m.startAodvRrepInstance rreqDodag dio.key)
      (address : (m.getGlobalAddressIn rreqDodag).isAny = false)
      (allocates : m.allocateRrepInstanceId dio.instanceId (m.getGlobalAddressIn rreqDodag)
        m.getGlobalAddress = some id)
      (rooted : key = ⟨clearDFlag id, m.getGlobalAddress⟩)
      (answering : n.AnswersAsTargNode dio heard m) (asymmetric : rreqDodag.aodv.symmetric = false)
      (unanswered :
        (m.findAodvRrepInstance dio.key.dodagId dio.key.instanceId).isSome = false) :
      Roots n e s key
        { key := key
          isRoot := true
          mop := mopP2pRouteDiscovery
          active := true
          aodv :=
            { target := m.getGlobalAddressIn rreqDodag
              isRrepInstance := true
              pairedInstanceId := dio.instanceId
              origNode := dio.dodagId
              lifetimeField := lifetimeField
              expiry := expiry } }

/-- A DODAG comes to be held, under the key and with the stake. -/
inductive Begins (n : Node) (e : Event) (late : Bool) (s : Stakes) (key : DodagKey) :
    Stake → Prop
  | join {dio : DioHeader} {heard : Reception} (early : late = false)
      (takes : n.Takes e dio heard) (joins : n.joinsBy dio = true) (keyed : dio.key = key) :
      Begins n e late s key (.joined dio)
  | root {stake : Stake} (roots : n.Roots e s key stake) : Begins n e late s key stake

/-- What becomes of the stake of a DODAG that stays. -/
inductive Rewrites (n : Node) (e : Event) (late : Bool) (s : Stakes) (key : DodagKey) :
    Stake → Stake → Prop
  /-- An event of the Trickle timer has been the last one. -/
  | rest {stake : Stake} {active : Bool} (still : active = true → stake.active = true) :
      Rewrites n e late s key stake { stake with active := active }
  | rreq {dio : DioHeader} {heard : Reception} {stake : Stake} (early : late = false)
      (takes : n.Takes e dio heard) (rreq : dio.rreq.isSome = true) (keyed : dio.key = key) :
      Rewrites n e late s key stake (stake.withRreq dio)
  | rrep {dio : DioHeader} {heard : Reception} {stake : Stake} (early : late = false)
      (takes : n.Takes e dio heard) (rrep : dio.rrep.isSome = true) (keyed : dio.key = key) :
      Rewrites n e late s key stake (stake.withRrep s.ipv6 dio)
  | armAodv {dio : DioHeader} {heard : Reception} {stake : Stake} {at_ : Time}
      (takes : n.Takes e dio heard)
      (discovery : dio.rreq.isSome = true ∨ dio.rrep.isSome = true) (keyed : dio.key = key)
      (unarmed : stake.aodv.expiry = none)
      (bound : at_ ≤ s.now + seconds (aodvLifetimeSeconds stake.aodv.lifetimeField)) :
      Rewrites n e late s key stake (stake.withAodvExpiry at_)
  | rdo {dio : DioHeader} {heard : Reception} {stake : Stake} (early : late = false)
      (takes : n.Takes e dio heard) (rdo : dio.p2pRdo.isSome = true) (keyed : dio.key = key)
      (notOrigin : stake.p2p.isOrigin = false) :
      Rewrites n e late s key stake (stake.withP2pRdo dio)
  | armP2p {dio : DioHeader} {heard : Reception} {stake : Stake} {at_ : Time}
      (takes : n.Takes e dio heard) (rdo : dio.p2pRdo.isSome = true) (keyed : dio.key = key)
      (unarmed : stake.p2p.expiry = none)
      (bound : at_ ≤ s.now + seconds (p2pLifetimeSeconds stake.p2p.lifetimeField)) :
      Rewrites n e late s key stake (stake.withP2pExpiry at_)
  /-- A P2P-DRO stops the discovery. -/
  | stop {heard : Reception} {dro : P2pDroHeader} {stake : Stake}
      (event : e = .receive heard (.p2pDro dro)) (stops : dro.stop = true)
      (keyed : (⟨dro.instanceId, dro.dodagId⟩ : DodagKey) = key) :
      Rewrites n e late s key stake stake.stop

/-- A message that gives the node an AODV-RPL route to the target. -/
inductive GivesAodvRoute (n : Node) (e : Event) (s : Stakes) : Ipv6Address → Prop
  /-- A reply by unicast, that names the target last in its address vector. -/
  | reply {dio : DioHeader} {heard : Reception} {dodag : DodagMembership} {target : Ipv6Address}
      (event : e = .receive heard (.dio dio)) (unicast : heard.toMulticast = false)
      (kept : n.dropsDio dio heard.sender = false) (rrep : dio.rrep.isSome = true)
      (sourceRouted : dio.getRrep.hopByHop = false) (named : dio.arts ≠ [])
      (held : n.dodags[(⟨dio.instanceId - dio.getRrep.delta, dio.getArt.target⟩ : DodagKey)]? =
        some dodag)
      (unhandled : dodag.aodv.rrepHandled.contains dio.dodagId = false)
      (own : n.ipv6.isOwnAddress dio.getArt.target = true)
      (last : dio.getRrep.addressVector.getLast? = some target) : GivesAodvRoute n e s target
  /-- A DIO of the target's RREP-Instance. -/
  | rrepInstance {dio : DioHeader} {heard : Reception} (takes : n.Takes e dio heard)
      (rrep : dio.rrep.isSome = true) (sourceRouted : dio.getRrep.hopByHop = false)
      (own : s.ipv6.isOwnAddress dio.getArt.target = true) : GivesAodvRoute n e s dio.dodagId

/-- A message that gives the Origin of a temporary DAG a route to the target. -/
inductive GivesP2pRoute (n : Node) (e : Event) : Ipv6Address → Prop
  | dro {heard : Reception} {dro : P2pDroHeader} {rdo : P2pRdoOption} {dodag : DodagMembership}
      (event : e = .receive heard (.p2pDro dro)) (option : dro.p2pRdo = some rdo)
      (held : n.dodags[(⟨dro.instanceId, dro.dodagId⟩ : DodagKey)]? = some dodag)
      (temporary : dodag.isTemporary = true) (origin : dodag.p2p.isOrigin = true)
      (sought : rdo.target = dodag.p2p.target) : GivesP2pRoute n e rdo.target

end Node

/-! ## Shifts -/

/-- One shift of an event `e` that happens to the node `n`. A late one comes after what a DIO
says has been recorded: nothing is joined, unbarred or recorded any more. -/
inductive Shift (n : Node) (e : Event) (late : Bool) : Stakes → Stakes → Prop
  /-- Time passes, up to the next deadline. -/
  | elapse {s : Stakes} {later : Time} (event : e = .tick later) (forward : s.now ≤ later)
      (due : ∀ (key : DodagKey) (stake : Stake) (at_ : Time), s.held[key]? = some stake →
        stake.aodv.expiry = some at_ ∨ stake.p2p.expiry = some at_ → later ≤ at_) :
      Shift n e late s { s with now := later }
  /-- The IPv6 layer changes. -/
  | readdress {s : Stakes} {ipv6 : Ipv6L3Protocol}
      (cause : (∃ interfaces, e = .readdress interfaces) ∨ ∃ dio heard,
        n.Takes e dio heard ∧ s.ipv6 = n.ipv6 ∧
          ipv6 = (n.autoconfigure dio heard.interface).ipv6) :
      Shift n e late s { s with ipv6 := ipv6 }
  /-- DIOs of a membership go out. -/
  | speak {s : Stakes} {key : DodagKey} {dodag : DodagMembership}
      {sent : List (Ipv6Address × DioHeader)} (held : s.held[key]? = some dodag.stake)
      (occasion : e = .fire (.trickleTransmit key) ∨
        dodag.isTemporary = false ∧ ∃ heard, e = .receive heard .dis)
      (speaks : dodag.Speaks sent) : Shift n e late s (s.sends sent)
  /-- A membership has lost its last parent, and goes with a poisoning DIO. -/
  | lose {s : Stakes} {key : DodagKey} {dodag : DodagMembership}
      {sent : List (Ipv6Address × DioHeader)} (held : s.held[key]? = some dodag.stake)
      (notRoot : dodag.isRoot = false) (speaks : dodag.Speaks sent) :
      Shift n e late s ((s.sends sent).leave key dodag.stake)
  /-- An RREP, or a relayed RREQ, goes to one neighbour. -/
  | whisper {s : Stakes} {sent : List (Ipv6Address × DioHeader)} {dio : DioHeader}
      {heard : Reception} (event : e = .receive heard (.dio dio))
      (aside : ∀ said ∈ sent, said.1.isLinkLocal = true ∧ dio.Begets s.ipv6 heard said.2) :
      Shift n e late s (s.sends sent)
  /-- A membership ends in silence. -/
  | leave {s : Stakes} {key : DodagKey} {stake : Stake} (held : s.held[key]? = some stake) :
      Shift n e late s (s.leave key stake)
  | begins {s : Stakes} {key : DodagKey} {stake : Stake} (absent : s.held[key]? = none)
      (begins : n.Begins e late s key stake) : Shift n e late s (s.put key stake)
  | rewrites {s : Stakes} {key : DodagKey} {stake after : Stake} (held : s.held[key]? = some stake)
      (rewrites : n.Rewrites e late s key stake after) : Shift n e late s (s.put key after)
  /-- A DIO accepted for a discovery lifts the bar on its key. -/
  | unbar {s : Stakes} {dio : DioHeader} {heard : Reception} {stake : Stake}
      (early : late = false) (takes : n.Takes e dio heard)
      (discovery : dio.rreq.isSome = true ∨ dio.rrep.isSome = true)
      (held : s.held[dio.key]? = some stake) :
      Shift n e late s { s with rejoinBlocked := s.rejoinBlocked.erase dio.key }
  /-- The deadline of a temporary DAG has passed. -/
  | p2pExpired {s : Stakes} {key : DodagKey} {stake : Stake} (event : e = .fire (.p2pExpiry key))
      (held : s.held[key]? = some stake) : Shift n e late s ((s.remember key stake).leave key stake)
  /-- A P2P-RPL discovery takes an RPLInstanceID. -/
  | useId {s : Stakes} {id : UInt8} {used : P2pInstanceUse}
      (event : ∃ target hopByHop, e = .discoverP2pRoute target hopByHop)
      (now : used.started = s.now) :
      Shift n e late s { s with p2pInstanceUse := s.p2pInstanceUse.insert id used }
  | aodvRoute {s : Stakes} {target : Ipv6Address} {route : AodvRoute}
      (gives : n.GivesAodvRoute e s target) :
      Shift n e late s { s with aodvRoutes := s.aodvRoutes.insert target route }
  | p2pRoute {s : Stakes} {target : Ipv6Address} {route : P2pRoute}
      (gives : n.GivesP2pRoute e target) :
      Shift n e late s { s with p2pRoutes := s.p2pRoutes.insert target route }

/-- Any number of shifts. -/
abbrev Shifts (n : Node) (e : Event) (late : Bool) : Stakes → Stakes → Prop :=
  Relation.ReflTransGen (Shift n e late)

end Rpl
