import Rpl.Lib.Forest
import Rpl.LoopAvoidance
import Rpl.RouteInput

/-!
# Any to any in Storing mode

In a Storing DODAG that has settled, every router has its preferred parent and a downward route
for everything below it.  `RouteOutput` and `RouteInput` then take a packet up to the first
router that its target is below, and down from there.
-/

namespace Rpl

open Std

/-- A link-local address is an address. -/
theorem not_isAny_of_isLinkLocal {a : Ipv6Address} (isLinkLocal : a.isLinkLocal = true) :
    a.isAny = false := by
  refine decide_eq_false fun isAny => ?_
  rw [isAny] at isLinkLocal
  exact absurd isLinkLocal (by decide)

/-! ## The routers -/

/-- The routers of a Storing mode DODAG: the state each is in, its membership, its global address
and its preferred parent, and the router that has a link-local address. -/
structure StoringDodag (ι : Type) where
  key : DodagKey
  node : ι → Node
  base : ι → DodagMembership
  address : ι → Ipv6Address
  parent : ι → Option ι
  router : Ipv6Address → Option ι

namespace StoringDodag

variable {ι : Type} {net : StoringDodag ι}

/-- The link-local address a router sends with. -/
def linkLocal (net : StoringDodag ι) (i : ι) : Ipv6Address := linkLocalOf (net.address i)

/-- Nothing has been discovered toward an address. -/
structure Undiscovered (n : Node) (destination : Ipv6Address) : Prop where
  aodv : n.findAodvRoute destination = none
  p2p : n.findP2pRoute destination = none
  hopByHop : n.findHopByHopRoute destination = none

/-- The DODAG has settled: ranks grow along the parent edges, and every router has a live
downward route through the child that leads to it for each router below, and no other. -/
structure Settled (net : StoringDodag ι) : Prop where
  router : ∀ i, net.router (net.linkLocal i) = some i
  unicast : ∀ i, (net.address i).isGlobalUnicast = true
  runsRpl : ∀ i, (net.node i).firstSocket ≠ 0
  joined : ∀ i, (net.node i).getBaseDodag = some (net.base i)
  alone : ∀ i, (net.node i).dodags.toList = [(net.key, net.base i)]
  keyed : ∀ i, (net.base i).key = net.key
  storing : ∀ i, (net.base i).storing = true
  undiscovered : ∀ i target, Undiscovered (net.node i) (net.address target)
  upward : ∀ i above, net.parent i = some above →
    (net.base i).isRoot = false ∧ (net.base i).preferredParent = net.linkLocal above ∧
      ∃ entry, (net.base i).preferredEntry = some entry ∧
        ((net.node i).ipv6.addressesOf entry.interface).any (fun a => a.scope = .global) = true
  ranks : ∀ i above, net.parent i = some above → (net.base above).rank < (net.base i).rank
  downward : ∀ i child target, Forest.Down net.parent target i child →
    ∃ route, (net.base i).findDownwardRoute (net.node i).now (net.address target) = some route ∧
      route.nextHop = net.linkLocal child ∧ route.interface ≠ 0
  nowhere : ∀ i target, ¬Forest.Below net.parent target i →
    (net.base i).findDownwardRoute (net.node i).now (net.address target) = none

variable {i above child target : ι}

/-! ## Up and down -/

theorem Settled.rank_lt_of_below (settled : net.Settled)
    (below : Forest.Below net.parent child above) :
    (net.base above).rank < (net.base child).rank := by
  induction below with
  | single leads => exact settled.ranks _ _ leads
  | tail _ leads ih => exact UInt16.lt_trans (settled.ranks _ _ leads) ih

theorem Settled.acyclic (settled : net.Settled) (i : ι) : ¬Forest.Below net.parent i i :=
  fun below => UInt16.lt_irrefl _ (settled.rank_lt_of_below below)

/-- The route up: its gateway is the parent. -/
theorem Settled.routeViaPreferredParent (settled : net.Settled)
    (leads : net.parent i = some above) (destination : Ipv6Address) :
    ∃ route, (net.node i).routeViaPreferredParent (net.base i) destination = some route ∧
      route.gateway = net.linkLocal above := by
  obtain ⟨-, isParent, entry, isEntry, reachable⟩ := settled.upward i above leads
  have isAddress : (net.linkLocal above).isAny = false :=
    not_isAny_of_isLinkLocal (isLinkLocal_linkLocalOf _)
  rw [Node.routeViaPreferredParent, isParent, isAddress, if_neg Bool.false_ne_true, isEntry]
  exact ⟨_, if_pos reachable, rfl⟩

/-- The route down: its gateway is the child. -/
theorem Settled.routeDown (settled : net.Settled)
    (descends : Forest.Down net.parent target i child) (destination : Ipv6Address) :
    ∃ downward route,
      (net.base i).findDownwardRoute (net.node i).now (net.address target) = some downward ∧
        (net.node i).routeToNeighbourOn downward.interface downward.nextHop destination =
          some route ∧
        route.gateway = net.linkLocal child := by
  obtain ⟨downward, found, nextHop, interface⟩ := settled.downward i child target descends
  refine ⟨downward, _, found, if_neg interface, ?_⟩
  rw [nextHop]
  exact if_pos (isLinkLocal_linkLocalOf _)

/-! ## The base DODAG is the only one -/

theorem Settled.isBase (settled : net.Settled) (i : ι) :
    (net.node i).isBase net.key = true := by
  have joined := settled.joined i
  rw [Node.getBaseDodag] at joined
  split at joined
  · next has =>
    have mem : ((net.node i).baseDodagKey, net.base i) ∈ (net.node i).dodags.toList :=
      ExtTreeMap.mem_toList_iff_getElem?_eq_some.mpr joined
    rw [settled.alone i, List.mem_singleton, Prod.mk.injEq] at mem
    rw [Node.isBase, has, mem.1]
    simp only [Bool.true_and, decide_true]
  · cases joined

theorem Settled.otherDodags (settled : net.Settled) (i : ι) :
    (net.node i).otherDodags = [] := by
  rw [Node.otherDodags, settled.alone i, List.filter_singleton, settled.isBase i]
  rfl

/-- Who has a parent is no root, and has no topology to route by. -/
theorem Settled.findRootDodagFor (settled : net.Settled) (leads : net.parent i = some above)
    (destination : Ipv6Address) : (net.node i).findRootDodagFor destination = none := by
  have notRoot : (net.node i).rootRouteIn destination (net.base i) = none := by
    rw [Node.rootRouteIn, (settled.upward i above leads).1]
    rfl
  rw [Node.findRootDodagFor, Node.baseFirst, settled.alone i, List.filter_singleton,
    List.filter_singleton, settled.isBase i]
  simp only [Bool.not_true, cond_true, cond_false, List.append_nil, List.findSome?_cons, notRoot,
    List.findSome?_nil]

theorem Settled.getDownwardRoute (settled : net.Settled) (i : ι) (destination : Ipv6Address) :
    (net.node i).getDownwardRoute (net.base i).key destination =
      (net.base i).findDownwardRoute (net.node i).now destination := by
  have mem : (net.key, net.base i) ∈ (net.node i).dodags.toList :=
    settled.alone i ▸ List.mem_singleton_self _
  rw [Node.getDownwardRoute, settled.keyed i,
    ExtTreeMap.mem_toList_iff_getElem?_eq_some.mp mem, Option.bind_some]

theorem Settled.getRankForInstance (settled : net.Settled) (i : ι) :
    (net.node i).getRankForInstance net.key.instanceId = (net.base i).rank := by
  have found : (net.node i).findDodagByInstance net.key.instanceId =
      some (net.key, net.base i) := by
    rw [Node.findDodagByInstance, OrderedMap.first, settled.alone i]
    exact List.find?_cons_of_pos (decide_eq_true rfl)
  rw [Node.getRankForInstance, found]
  rfl

/-! ## The steps -/

/-- `RouteOutput` takes the step toward the target. -/
theorem Settled.routeOutput (settled : net.Settled)
    (step : Forest.Toward net.parent target i above) :
    ∃ source route, (net.node i).routeOutput (net.address target) none = some (source, route) ∧
      route.gateway = net.linkLocal above := by
  obtain ⟨aodv, p2p, hopByHop⟩ := settled.undiscovered i target
  have discovered : (net.node i).lookupDiscovered (net.address target) = none := by
    rw [Node.lookupDiscovered, aodv, p2p, hopByHop]
    rfl
  have cascade : (net.node i).routeOutput (net.address target) none =
      ((net.node i).lookupStoring (net.address target)).or
        (((net.node i).lookupRoot (net.address target)).or
          ((net.node i).lookupUpward (net.address target))) := by
    have runsRpl : (net.node i).outputInterface none ≠ 0 := settled.runsRpl i
    simp only [Node.routeOutput, if_neg runsRpl, settled.unicast target, Bool.not_true,
      Bool.false_eq_true, if_false, Node.lookupRoute, discovered, Option.none_or]
  cases step with
  | down descends =>
    obtain ⟨downward, route, found, isRoute, gateway⟩ :=
      settled.routeDown descends (net.address target)
    refine ⟨.storing (net.base i), route, ?_, gateway⟩
    rw [cascade, Node.lookupStoring, Node.findStoringRoute, settled.joined i]
    simp only [settled.storing i, if_true, found, Option.map_some, Option.bind_some, isRoute,
      Option.some_or]
  | up elsewhere leads =>
    obtain ⟨route, isRoute, gateway⟩ := settled.routeViaPreferredParent leads (net.address target)
    refine ⟨.preferredParent (net.base i), route, ?_, gateway⟩
    have nothing := settled.nowhere i target fun below => elsewhere below.to_reflTransGen
    rw [cascade, Node.lookupStoring, Node.findStoringRoute, Node.lookupRoot, Node.lookupUpward,
      settled.findRootDodagFor leads, settled.joined i, settled.otherDodags i]
    simp only [settled.storing i, if_true, nothing, Option.map_none, Option.bind_none,
      Option.none_or, List.findSome?_nil, Option.bind_some, isRoute, Option.map_some]

/-- A packet as a router receives it. -/
structure Arrival where
  octets : List UInt8
  header : Ipv6Header
  interface : Option Nat

theorem Settled.not_isLinkLocalMulticast (settled : net.Settled) (i : ι) :
    (net.address i).isLinkLocalMulticast = false := by
  have unicast := settled.unicast i
  rw [Ipv6Address.isGlobalUnicast, Bool.and_eq_true, Bool.not_eq_true'] at unicast
  refine decide_eq_false fun linkLocalMulticast => ?_
  have first : (net.address i).extractLsb' 120 8 =
      ((net.address i).extractLsb' 112 16).extractLsb' 8 8 := by
    ext place within
    simp only [BitVec.getElem_extractLsb', BitVec.getLsbD_extractLsb']
    rw [decide_eq_true (by omega), Bool.true_and, ← Nat.add_assoc]
  rw [linkLocalMulticast] at first
  have isMulticast : (net.address i).isMulticast = true := decide_eq_true (first.trans (by decide))
  rw [unicast.1] at isMulticast
  cases isMulticast

/-- `RouteInput` takes it too, where the O flag is set only on the way down. -/
theorem Settled.routeInput (settled : net.Settled)
    (step : Forest.Toward net.parent target i above) {arrival : Arrival}
    (destination : arrival.header.destination = net.address target)
    (forwards : (net.node i).forwardsFrom arrival.interface = true)
    (down : readRpiDown arrival.octets arrival.header = some true →
      Forest.Below net.parent target i) :
    ∃ source route,
      (net.node i).routeInput arrival.octets arrival.header arrival.interface =
        .forward source route arrival.octets ∧ route.gateway = net.linkLocal above := by
  have undiscovered : (net.node i).inputHopByHop arrival.octets arrival.header = none := by
    rw [Node.inputHopByHop, Node.inputEntry, destination]
    simp only [Node.findHopByHopRouteIn, (settled.undiscovered i target).hopByHop,
      Option.filter_none, Option.bind_none, Option.bind_fun_none]
  have storingBase : (net.node i).storingBase = some (net.base i) := by
    rw [Node.storingBase, settled.joined i, Option.filter_some, settled.storing i]
    rfl
  suffices ∃ source route, (net.node i).inputRoute arrival.octets arrival.header =
      some (source, route, arrival.octets) ∧ route.gateway = net.linkLocal above by
    obtain ⟨source, route, isRoute, gateway⟩ := this
    refine ⟨source, route, ?_, gateway⟩
    rw [Node.routeInput, destination, settled.not_isLinkLocalMulticast target, forwards,
      if_neg Bool.false_ne_true, isRoute]
    rfl
  rw [Node.inputRoute, undiscovered, Option.none_or, Node.inputStoring, storingBase,
    Option.bind_some, destination]
  cases step with
  | down descends =>
    obtain ⟨downward, route, found, isRoute, gateway⟩ :=
      settled.routeDown descends (net.address target)
    refine ⟨.storing (net.base i), route, ?_, gateway⟩
    simp only [found, isRoute, Option.map_some, Option.some_or]
  | up elsewhere leads =>
    have outside : ¬Forest.Below net.parent target i :=
      fun below => elsewhere below.to_reflTransGen
    have dodag : (net.node i).inputDodag arrival.octets arrival.header = some (net.base i) := by
      have size : (net.node i).dodags.size = 1 := by
        rw [← ExtTreeMap.length_toList, settled.alone i]
        rfl
      rw [Node.inputDodag, size, if_neg (lt_irrefl 1), settled.joined i]
    obtain ⟨route, isRoute, gateway⟩ := settled.routeViaPreferredParent leads (net.address target)
    refine ⟨.preferredParent (net.base i), route, ?_, gateway⟩
    simp only [settled.nowhere i target outside, if_neg fun set => outside (down set),
      Option.none_or, Node.inputUpward, dodag, Option.bind_some, destination, isRoute,
      Option.map_some]

/-- The source stamps a packet as going down exactly where its target is below. -/
theorem Settled.stamped (settled : net.Settled)
    (step : Forest.Toward net.parent target i above) :
    ∃ down, (down = true ↔ Forest.Below net.parent target i) ∧
      ((net.node i).headersFor (net.address target)).packetInfo =
        some ⟨down, net.key.instanceId, (net.base i).rank⟩ := by
  obtain ⟨aodv, p2p, hopByHop⟩ := settled.undiscovered i target
  have stamping : (net.node i).stampingStoring (net.address target) =
      if ((net.base i).findDownwardRoute (net.node i).now (net.address target)).isSome then
        some (net.base i) else none := by
    rw [Node.stampingStoring, settled.joined i, Option.filter_some, settled.storing i,
      settled.getDownwardRoute]
    rfl
  have instanceId : (net.base i).instanceId = net.key.instanceId :=
    congrArg DodagKey.instanceId (settled.keyed i)
  rw [Node.headersFor, hopByHop, stamping]
  cases step with
  | down descends =>
    obtain ⟨downward, -, found, -, -⟩ := settled.routeDown descends (net.address target)
    rw [found]
    exact ⟨true, iff_of_true rfl descends.below, by rw [← instanceId]; rfl⟩
  | up elsewhere leads =>
    have outside : ¬Forest.Below net.parent target i :=
      fun below => elsewhere below.to_reflTransGen
    refine ⟨false, iff_of_false Bool.false_ne_true outside, ?_⟩
    rw [settled.nowhere i target outside]
    simp only [Option.isSome_none, Bool.false_eq_true, if_false, aodv, p2p, Option.none_or,
      settled.findRootDodagFor leads, Node.defaultInfo, Node.stampingDodag, settled.otherDodags i,
      List.find?_nil, settled.joined i, Node.membershipInfo, (settled.upward i above leads).1,
      instanceId]

/-! ## The way of a packet -/

variable [DecidableEq ι] {source : ι} {arrival : ι → Arrival}

/-- The gateway a router sends a packet to: as `RouteOutput` finds it at its source, and as
`RouteInput` does where it arrives. -/
def gateway (net : StoringDodag ι) (source target : ι) (arrival : ι → Arrival) (i : ι) :
    Option Ipv6Address :=
  if i = source then
    ((net.node i).routeOutput (net.address target) none).map fun (_, route) => route.gateway
  else
    match (net.node i).routeInput (arrival i).octets (arrival i).header (arrival i).interface with
    | .forward _ route _ => some route.gateway
    | _ => none

/-- The router that gets it next. -/
def handsTo (net : StoringDodag ι) (source target : ι) (arrival : ι → Arrival) (i : ι) :
    Option ι :=
  (net.gateway source target arrival i).bind net.router

/-- The packet that the source sends to the target, as the routers may receive it: what they
make of its R flag, its rank and its hop limit is theirs, and the O flag stays as the source has
set it. -/
structure Carried (net : StoringDodag ι) (source target : ι) (arrival : ι → Arrival) : Prop where
  destination : ∀ i, (arrival i).header.destination = net.address target
  forwards : ∀ i, (net.node i).forwardsFrom (arrival i).interface = true
  down : ∀ i, readRpiDown (arrival i).octets (arrival i).header =
    ((net.node source).headersFor (net.address target)).packetInfo.map PacketInfo.down

theorem Settled.handsTo (settled : net.Settled) (carried : net.Carried source target arrival)
    (step : Forest.Toward net.parent target i above)
    (down : i ≠ source → readRpiDown (arrival i).octets (arrival i).header = some true →
      Forest.Below net.parent target i) :
    net.handsTo source target arrival i = some above := by
  have isGateway : net.gateway source target arrival i = some (net.linkLocal above) := by
    unfold StoringDodag.gateway
    split
    · obtain ⟨lookup, route, isRoute, gateway⟩ := settled.routeOutput step
      rw [isRoute]
      exact congrArg some gateway
    · next relays =>
      obtain ⟨lookup, route, isRoute, gateway⟩ :=
        settled.routeInput step (carried.destination i) (carried.forwards i) (down relays)
      rw [isRoute]
      exact congrArg some gateway
  rw [StoringDodag.handsTo, isGateway, Option.bind_some, settled.router above]

/-- A packet gets from every router to every other that has a router above it in common with it,
and meets no router twice. -/
theorem delivers (settled : net.Settled) (carried : net.Carried source target arrival)
    (apart : source ≠ target) (under : Forest.Under net.parent source above)
    (targetUnder : Forest.Under net.parent target above) :
    ∃ (length : Nat) (path : Nat → ι), path 0 = source ∧
      Forest.Way net.parent target length path ∧
      (∀ i < length, net.handsTo source target arrival (path i) = some (path (i + 1))) ∧
      Set.InjOn path (Set.Iic length) := by
  have reaches := Forest.reaches apart under targetUnder
  obtain ⟨first, step, -⟩ := Relation.TransGen.head'_iff.mp reaches
  obtain ⟨down, goesDown, stamped⟩ := settled.stamped step
  have leads : Relation.TransGen (fun here there => Forest.Toward net.parent target here there ∧
      net.handsTo source target arrival here = some there) source target := by
    by_cases below : Forest.Below net.parent target source
    · refine Relation.TransGen.mono (fun here there descends => ?_) _ _
        (Forest.Below.descends below)
      exact ⟨.down descends, settled.handsTo carried (.down descends) fun _ _ => descends.below⟩
    · refine Relation.TransGen.mono (fun here there step => ?_) _ _ reaches
      refine ⟨step, settled.handsTo carried step fun _ set => ?_⟩
      rw [carried.down, stamped, Option.map_some, Option.some.injEq] at set
      exact absurd (goesDown.mp set) below
  obtain ⟨length, path, starts, arrives, steps⟩ := Forest.exists_path leads
  have way : Forest.Way net.parent target length path :=
    ⟨fun i within => (steps i within).1, arrives⟩
  exact ⟨length, path, starts, way, fun i within => (steps i within).2,
    way.injOn settled.acyclic fun i within => (steps i within).2⟩

/-! ## What the routers report -/

/-- A packet sets out with the O flag it is given, and neither R nor F. -/
theorem flags_ofPacketInfo (info : PacketInfo) :
    (PacketInfoHeader.ofPacketInfo info).getDown = info.down ∧
      (PacketInfoHeader.ofPacketInfo info).getRankError = false ∧
      (PacketInfoHeader.ofPacketInfo info).getForwardingError = false := by
  have flags (down : Bool) : (({} : PacketInfoHeader).setDown down).getDown = down ∧
      (({} : PacketInfoHeader).setDown down).getRankError = false ∧
      (({} : PacketInfoHeader).setDown down).getForwardingError = false := by
    cases down with
    | true => decide
    | false => decide
  exact flags info.down

section Reports

omit [DecidableEq ι]

variable {length : Nat} {path : Nat → ι} {info : PacketInfo} {visits : Nat → Visit}

/-- The routers of the way process the packet as it arrives, each once. -/
structure Visits (net : StoringDodag ι) (target : ι) (length : Nat) (path : Nat → ι)
    (visits : Nat → Visit) : Prop where
  node : ∀ i < length, (visits i).node = net.node (path (i + 1))
  destination : ∀ i < length, (visits i).header.destination = net.address target
  distinct : ∀ i < length, ¬((visits i).uid = (visits i).state.lastProcessedUid ∧
    (visits i).node.now = (visits i).state.lastProcessedTime)

theorem Settled.applies (settled : net.Settled) (visited : net.Visits target length path visits)
    {i : Nat} (within : i < length) : (visits i).Applies net.key.instanceId where
  distinct := visited.distinct i within
  noRoute := by
    rw [visited.node i within, visited.destination i within, Node.hasHopByHopRoute,
      (settled.undiscovered _ target).hopByHop, Option.any_none]

/-- A step is inconsistent with the O flag exactly where a packet that first went up goes
down. -/
theorem Settled.rankInconsistent_iff (settled : net.Settled)
    (way : Forest.Way net.parent target length path) {down : Bool}
    (goesDown : down = true ↔ Forest.Below net.parent target (path 0)) {i : Nat}
    (within : i < length) :
    rankInconsistent down (net.base (path i)).rank (net.base (path (i + 1))).rank = true ↔
      ¬Forest.Below net.parent target (path 0) ∧ Forest.Below net.parent target (path i) := by
  have step := way.toward i within
  have turn := step.down_iff settled.acyclic
  cases down with
  | true =>
    have below := goesDown.mp rfl
    have still := way.stays_below settled.acyclic (Nat.zero_le i) within below
    have grows := settled.ranks _ _ (turn.mpr still)
    refine iff_of_false (fun inconsistent => ?_) fun holds => holds.1 below
    exact absurd grows (UInt16.not_lt.mpr (of_decide_eq_true inconsistent))
  | false =>
    have outside : ¬Forest.Below net.parent target (path 0) :=
      fun below => Bool.false_ne_true (goesDown.mpr below)
    rw [and_iff_right outside, ← turn, rankInconsistent, if_neg Bool.false_ne_true,
      decide_eq_true_eq]
    cases step with
    | down descends =>
      exact iff_of_true (UInt16.le_of_lt (settled.ranks _ _ descends.leads)) descends.leads
    | up elsewhere leads =>
      refine iff_of_false (UInt16.not_le.mpr (settled.ranks _ _ leads)) fun back => ?_
      exact settled.acyclic _ (.head leads (.single back))

/-- The option as it arrives at the routers of the way. -/
theorem Settled.arrives (settled : net.Settled) (way : Forest.Way net.parent target length path)
    (visited : net.Visits target length path visits)
    (goesDown : info.down = true ↔ Forest.Below net.parent target (path 0))
    (instanceId : info.instanceId = net.key.instanceId)
    (sender : info.senderRank = (net.base (path 0)).rank) {i : Nat} (within : i ≤ length) :
    ∃ arriving, Visit.arrival visits (.ofPacketInfo info) i = some arriving ∧
      Visit.Underway (.ofPacketInfo info) arriving ∧
      arriving.senderRank = (net.base (path i)).rank ∧
      (arriving.getRankError = true ↔ ¬Forest.Below net.parent target (path 0) ∧
        0 < i ∧ Forest.Below net.parent target (path (i - 1))) := by
  obtain ⟨isDown, noRankError, noForwardingError⟩ := flags_ofPacketInfo info
  induction i with
  | zero =>
    refine ⟨_, rfl, Visit.underway_start (PacketInfoHeader.readable_ofPacketInfo _)
      noForwardingError, sender, ?_⟩
    rw [noRankError]
    exact iff_of_false Bool.false_ne_true fun holds => absurd holds.2.1 (lt_irrefl 0)
  | succ i ih =>
    obtain ⟨arriving, arrives, underway, before, flagged⟩ := ih (Nat.le_of_succ_le within)
    have isInstance : (PacketInfoHeader.ofPacketInfo info).instanceId = net.key.instanceId :=
      instanceId
    have applies : (visits i).Applies (PacketInfoHeader.ofPacketInfo info).instanceId :=
      isInstance ▸ settled.applies visited within
    have rank : (visits i).rank (PacketInfoHeader.ofPacketInfo info).instanceId =
        (net.base (path (i + 1))).rank := by
      rw [isInstance, Visit.rank, visited.node i within, settled.getRankForInstance]
    refine ⟨_, (Visit.arrival_succ arrives underway applies).1, underway.checked _, rank, ?_⟩
    rw [PacketInfoHeader.checked_getRankError, Bool.or_eq_true, flagged, underway.down, isDown,
      before, rank, settled.rankInconsistent_iff way goesDown within, Nat.add_sub_cancel,
      and_iff_right (Nat.succ_pos i)]
    constructor
    · rintro (⟨outside, positive, below⟩ | turns)
      · exact ⟨outside, way.stays_below settled.acyclic (Nat.sub_le i 1) within below⟩
      · exact turns
    · exact .inr

/-- A packet whose way goes down from its source is never flagged nor reported. One that first goes
up is flagged by the router where it first comes down, and reported by every router after
that. -/
theorem reported_iff (settled : net.Settled) (way : Forest.Way net.parent target length path)
    (stamped : ((net.node (path 0)).headersFor (net.address target)).packetInfo = some info)
    (visited : net.Visits target length path visits) {i : Nat} (within : i < length) :
    (∃ leaving, Visit.arrival visits (.ofPacketInfo info) (i + 1) = some leaving ∧
      (leaving.getRankError = true ↔ ¬Forest.Below net.parent target (path 0) ∧
        Forest.Below net.parent target (path i))) ∧
    (Visit.reports visits (.ofPacketInfo info) i = some true ↔
      ¬Forest.Below net.parent target (path 0) ∧
        0 < i ∧ Forest.Below net.parent target (path (i - 1))) := by
  obtain ⟨down, goesDown, isInfo⟩ := settled.stamped (way.toward 0 (Nat.zero_lt_of_lt within))
  rw [stamped, Option.some.injEq] at isInfo
  have isDown : info.down = down := congrArg PacketInfo.down isInfo
  have isInstance : (PacketInfoHeader.ofPacketInfo info).instanceId = net.key.instanceId :=
    congrArg PacketInfo.instanceId isInfo
  have sender : info.senderRank = (net.base (path 0)).rank := congrArg PacketInfo.senderRank isInfo
  obtain ⟨arriving, arrives, underway, before, flagged⟩ :=
    settled.arrives way visited (isDown ▸ goesDown) isInstance sender within.le
  obtain ⟨leaving, leaves, -, -, set⟩ :=
    settled.arrives way visited (isDown ▸ goesDown) isInstance sender within
  change leaving.getRankError = true ↔
    _ ∧ 0 < i + 1 ∧ Forest.Below net.parent target (path i) at set
  rw [and_iff_right (Nat.succ_pos i)] at set
  refine ⟨⟨leaving, leaves, set⟩, ?_⟩
  have applies : (visits i).Applies (PacketInfoHeader.ofPacketInfo info).instanceId :=
    isInstance ▸ settled.applies visited within
  have rank : (visits i).rank (PacketInfoHeader.ofPacketInfo info).instanceId =
      (net.base (path (i + 1))).rank := by
    rw [isInstance, Visit.rank, visited.node i within, settled.getRankForInstance]
  rw [(Visit.arrival_succ arrives underway applies).2, Option.some.injEq, Bool.and_eq_true, flagged,
    (flags_ofPacketInfo info).1, isDown, before, rank]
  refine and_iff_right_of_imp ?_
  rintro ⟨outside, positive, below⟩
  exact (settled.rankInconsistent_iff way goesDown within).mpr
    ⟨outside, way.stays_below settled.acyclic (Nat.sub_le i 1) within below⟩

end Reports

/-! ## A root with two children, one of which has a child -/

inductive Fork
  | root
  | left
  | right
  /-- The child of the right one. -/
  | leaf
  deriving DecidableEq

def forkRouters : List Fork := [.root, .left, .right, .leaf]

instance : Fintype Fork :=
  Fintype.ofList forkRouters fun i => by
    cases i with
    | _ => decide

def forkParent : Fork → Option Fork
  | .root => none
  | .left => some .root
  | .right => some .root
  | .leaf => some .right

/-- The child of a router that leads to another. -/
def forkChild : Fork → Fork → Option Fork
  | .root, .left => some .left
  | .root, .right => some .right
  | .root, .leaf => some .right
  | .right, .leaf => some .leaf
  | _, _ => none

def forkAddress : Fork → Ipv6Address
  | .root => 0x20010db8000000000000000000000001#128
  | .left => 0x20010db8000000000000000000000002#128
  | .right => 0x20010db8000000000000000000000003#128
  | .leaf => 0x20010db8000000000000000000000004#128

def forkIpv6 (i : Fork) : Ipv6L3Protocol :=
  .ofInterfaces
    [{}, { addresses := [{ address := forkAddress i, scope := .global }] }]

def forkBase (i : Fork) : DodagMembership :=
  let parent := (forkParent i).map fun above => linkLocalOf (forkAddress above)
  { instanceId := 0
    dodagId := forkAddress .root
    mop := mopStoringNoMulticast
    isRoot := i = .root
    rank := if i = .root then 128 else if i = .leaf then 384 else 256
    preferredParent := parent.getD anyAddress
    parents := .ofList (parent.toList.map fun address =>
      (address, ({ address := address, interface := 1 } : Parent)))
    downwardRoutes := .ofList (forkRouters.filterMap fun target =>
      (forkChild i target).map fun child =>
        (forkAddress target,
          ({ nextHop := linkLocalOf (forkAddress child), interface := 1, expire := timeMax } :
            DownwardRoute))) }

def fork : StoringDodag (Fork) where
  key := (forkBase .root).key
  node i := Node.inDodag (forkIpv6 i) (forkBase i)
  base := forkBase
  address := forkAddress
  parent := forkParent
  router a := forkRouters.find? fun i => linkLocalOf (forkAddress i) = a

theorem fork_alone (i : Fork) : (fork.node i).dodags.toList = [(fork.key, fork.base i)] := by
  rfl

/-- What the tables of the four say. -/
theorem fork_facts :
    (∀ i, fork.router (fork.linkLocal i) = some i ∧ (fork.address i).isGlobalUnicast = true ∧
      (fork.node i).firstSocket ≠ 0 ∧ (fork.base i).storing = true) ∧
    (∀ i above, fork.parent i = some above →
      (fork.base i).isRoot = false ∧ (fork.base i).preferredParent = fork.linkLocal above ∧
      (fork.base above).rank < (fork.base i).rank) ∧
    (∀ i, i ≠ Fork.root → ((fork.base i).preferredEntry).any (fun entry =>
      ((fork.node i).ipv6.addressesOf entry.interface).any (fun a => a.scope = .global)) = true) ∧
    (∀ i target,
      ((fork.base i).findDownwardRoute (fork.node i).now (fork.address target)).map
          (fun route => (route.nextHop, route.interface)) =
        (forkChild i target).map fun child => (fork.linkLocal child, 1)) := by
  decide +kernel

/-- The child that leads to a router leads down to it. -/
theorem fork_under {target child : Fork} (under : Forest.Under forkParent target child) :
    target = child ∨ forkChild child target ≠ none := by
  induction under with
  | refl => exact .inl rfl
  | @tail child above _ leads ih =>
    have closed : ∀ target child above : Fork, (target = child ∨ forkChild child target ≠ none) →
        forkParent child = some above → target = above ∨ forkChild above target ≠ none := by
      decide
    exact closed target child above ih leads

theorem fork_down {i target child : Fork} (descends : Forest.Down forkParent target i child) :
    forkChild i target = some child := by
  have closed : ∀ i target child : Fork, (target = child ∨ forkChild child target ≠ none) →
      forkParent child = some i → forkChild i target = some child := by
    decide
  exact closed i target child (fork_under descends.under) descends.leads

theorem fork_below {i target child : Fork} (leads : forkChild i target = some child) :
    Forest.Below forkParent target i := by
  have chain : ∀ i target child : Fork, forkChild i target = some child →
      forkParent target = some i ∨ (forkParent target).bind forkParent = some i := by
    decide
  rcases chain i target child leads with edge | edges
  · exact .single edge
  · obtain ⟨between, first, second⟩ := Option.bind_eq_some_iff.mp edges
    exact .tail (.single first) second

theorem fork_settled : fork.Settled where
  router i := (fork_facts.1 i).1
  unicast i := (fork_facts.1 i).2.1
  runsRpl i := (fork_facts.1 i).2.2.1
  joined i := Node.inDodag_dodags_self _ _
  alone := fork_alone
  keyed i := rfl
  storing i := (fork_facts.1 i).2.2.2
  undiscovered i target := ⟨rfl, rfl, rfl⟩
  upward i above leads := by
    obtain ⟨notRoot, isParent, -⟩ := fork_facts.2.1 i above leads
    have notRootItself : i ≠ .root := by
      rintro rfl
      cases leads
    obtain ⟨entry, isEntry, reachable⟩ :=
      (Option.any_eq_true _ _).mp (fork_facts.2.2.1 i notRootItself)
    exact ⟨notRoot, isParent, entry, isEntry, reachable⟩
  ranks i above leads := (fork_facts.2.1 i above leads).2.2
  downward i child target descends := by
    have found := fork_facts.2.2.2 i target
    rw [fork_down descends, Option.map_some, Option.map_eq_some_iff] at found
    obtain ⟨route, isRoute, fields⟩ := found
    rw [Prod.mk.injEq] at fields
    exact ⟨route, isRoute, fields.1, fields.2 ▸ one_ne_zero⟩
  nowhere i target outside := by
    have found := fork_facts.2.2.2 i target
    cases leads : forkChild i target with
    | none => rwa [leads, Option.map_none, Option.map_eq_none_iff] at found
    | some child => exact absurd (fork_below leads) outside

/-- A packet from the left router to the leaf, as the others receive it. -/
def forkArrival : Arrival where
  octets := [59, 0] ++ (PacketInfoHeader.ofPacketInfo
    { down := false, instanceId := 0, senderRank := 256 }).serialize
  header :=
    { source := forkAddress .left
      destination := forkAddress .leaf
      nextHeader := nextHeaderHopByHop
      hopLimit := 64 }
  interface := some 1

theorem fork_carried : fork.Carried .left .leaf fun _ => forkArrival where
  destination _ := rfl
  forwards := by decide +kernel
  down := by decide +kernel

theorem fork_delivers :
    ∃ (length : Nat) (path : Nat → Fork), path 0 = .left ∧
      Forest.Way fork.parent .leaf length path ∧
      (∀ i < length,
        fork.handsTo .left .leaf (fun _ => forkArrival) (path i) = some (path (i + 1))) ∧
      Set.InjOn path (Set.Iic length) :=
  delivers fork_settled fork_carried (by decide) (.single rfl)
    (.tail (.single (show fork.parent .leaf = some .right from rfl)) rfl)

/-- From the left router up to the root, and down to the right one and the leaf. -/
def forkPath : Nat → Fork
  | 0 => .left
  | 1 => .root
  | 2 => .right
  | _ => .leaf

def forkVisit (i : Nat) : Visit where
  node := fork.node (forkPath (i + 1))
  state := { lastProcessedTime := 0 }
  uid := 1
  header := forkArrival.header
  front := [59, 0]
  back := []

theorem fork_not_below : ¬Forest.Below forkParent .leaf .left := by
  intro below
  obtain ⟨child, under, leads⟩ := Relation.TransGen.tail'_iff.mp below
  cases fork_down ⟨leads, under⟩

theorem forkPath_way : Forest.Way fork.parent .leaf 3 forkPath where
  toward i within := by
    obtain rfl | rfl | rfl : i = 0 ∨ i = 1 ∨ i = 2 := by omega
    · refine .up (fun under => ?_) rfl
      rcases Relation.reflTransGen_iff_eq_or_transGen.mp under with same | below
      · exact absurd same (by decide)
      · exact fork_not_below below
    · exact .down ⟨rfl, .single rfl⟩
    · exact .down ⟨rfl, .refl⟩
  arrives := rfl

/-- The right router flags the packet, which has gone up to the root, and the leaf reports it. -/
theorem fork_reported :
    (∃ leaving, Visit.arrival forkVisit
        (.ofPacketInfo { down := false, instanceId := 0, senderRank := 256 }) 2 = some leaving ∧
      leaving.getRankError = true) ∧
    Visit.reports forkVisit (.ofPacketInfo { down := false, instanceId := 0, senderRank := 256 })
      2 = some true := by
  have stamped : ((fork.node .left).headersFor (fork.address .leaf)).packetInfo =
      some { down := false, instanceId := 0, senderRank := 256 } := by
    decide +kernel
  have visited : fork.Visits .leaf 3 forkPath forkVisit :=
    ⟨fun _ _ => rfl, fun _ _ => rfl, fun _ _ same => absurd same.1 one_ne_zero⟩
  obtain ⟨⟨leaving, leaves, set⟩, -⟩ :=
    @reported_iff _ fork _ _ _ _ _ fork_settled forkPath_way stamped visited 1 (by decide)
  exact ⟨⟨leaving, leaves, set.mpr ⟨fork_not_below, .tail (.single rfl) rfl⟩⟩,
    (reported_iff fork_settled forkPath_way stamped visited (by decide)).2.mpr
      ⟨fork_not_below, by decide, .tail (.single rfl) rfl⟩⟩

end StoringDodag

end Rpl
