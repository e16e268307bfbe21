import Rpl.SourceRoute
import Rpl.RouteAgreement
import Rpl.SourceRouteLearning

/-!
# Delivery in a Non-Storing DODAG

The root that has heard the routers on the way to a destination sends a packet there over a
Routing Header, and the routers that sent the DAOs relay it.
-/

namespace Rpl

open Std

namespace NonStoringDodag

open Node

variable {ι : Type} {net : NonStoringDodag ι} {root n : Node} {dodag : DodagMembership}
  {i j : ι} {routers : List ι} {now : Time}

/-- The DODAG is the base one of its root, which has no discovered route to any of the routers. -/
structure Rooted (net : NonStoringDodag ι) (root : Node) : Prop where
  runs : root.RunsRpl
  hasBase : root.hasBaseDodag = true
  isBase : root.baseDodagKey = net.key
  noHopByHop : ∀ i, root.hopByHopRoutes[net.address i]? = none
  noAodv : ∀ i, root.aodvRoutes[net.address i]? = none
  noP2p : ∀ i, root.p2pRoutes[net.address i]? = none

/-- Every router runs RPL, and holds its two addresses alone of those of the routers. -/
structure Relaying (net : NonStoringDodag ι) : Prop where
  runs : ∀ i, (net.node i).RunsRpl
  global : ∀ i, (net.address i).isGlobalUnicast = true
  holds : ∀ i, (net.node i).ipv6.holdsAddress (linkLocalOf (net.address i)) = true
  ownLinkLocal : ∀ i j,
    (net.node i).ipv6.holdsAddress (linkLocalOf (net.address j)) = true → i = j
  ownGlobal : ∀ i j, (net.node i).ipv6.holdsAddress (net.address j) = true → i = j

/-- The link-local addresses of the routers on a way, the highest first. -/
def hops (net : NonStoringDodag ι) (routers : List ι) : List Ipv6Address :=
  (routers.reverse.map net.address).map linkLocalOf

/-! ## The root's lookups -/

theorem Rooted.hear (rooted : net.Rooted root) (hosts : net.Hosts root dodag)
    (settled : net.Settled) (arrival : Arrival ι) : net.Rooted (net.hear root arrival) := by
  obtain ⟨dao, hears, instanceId, dodagId, -⟩ := hear_eq settled root arrival
  have takes := (hosts.tick arrival.at_).takesDao settled.named instanceId dodagId
    arrival.sender
  obtain ⟨outputs, handles⟩ := handleDao_eq arrival.interface takes
  rw [hears, handles]
  exact
    { runs := ⟨rooted.runs.interface, rooted.runs.loopback⟩
      hasBase := rooted.hasBase
      isBase := rooted.isBase
      noHopByHop := rooted.noHopByHop
      noAodv := rooted.noAodv
      noP2p := rooted.noP2p }

theorem Rooted.hearAll [DecidableEq ι] (rooted : net.Rooted root)
    (collects : net.Collects root dodag) (settled : net.Settled) (arrivals : List (Arrival ι)) :
    net.Rooted (net.hearAll root arrivals) := by
  induction arrivals using List.reverseRecOn with
  | nil => exact rooted
  | append_singleton arrivals arrival ih =>
    obtain ⟨before, collectsBefore, -⟩ := collects.hearAll settled arrivals
    rw [NonStoringDodag.hearAll, List.foldl_concat]
    exact ih.hear collectsBefore.toHosts settled arrival

theorem Rooted.tick (rooted : net.Rooted root) (now : Time) :
    net.Rooted (root.apply (.tick now)) where
  runs := ⟨rooted.runs.interface, rooted.runs.loopback⟩
  hasBase := rooted.hasBase
  isBase := rooted.isBase
  noHopByHop := rooted.noHopByHop
  noAodv := rooted.noAodv
  noP2p := rooted.noP2p

/-- The base DODAG is the first whose topology is asked. -/
theorem Rooted.findRootDodagFor {hops : List Ipv6Address} {destination : Ipv6Address}
    (rooted : net.Rooted n) (hosts : net.Hosts n dodag)
    (found : (dodag.purgeTopology n.now).computeSourceRoute n.now destination = some hops) :
    n.findRootDodagFor destination = some (dodag.purgeTopology n.now, hops) := by
  have here : n.rootRouteIn destination dodag = some (dodag.purgeTopology n.now, hops) := by
    rw [rootRouteIn, hosts.isRoot, found]
    rfl
  have isBase : n.isBase net.key = true := by
    rw [Node.isBase, rooted.hasBase, rooted.isBase]
    exact decide_eq_true rfl
  have base : ∀ entry ∈ n.dodags.toList.filter (fun entry => n.isBase entry.1),
      n.rootRouteIn destination entry.2 = some (dodag.purgeTopology n.now, hops) := by
    rintro ⟨key, other⟩ mem
    obtain ⟨listed, named⟩ := List.mem_filter.mp mem
    dsimp only at named
    have same : key = net.key := by
      rw [Node.isBase, rooted.hasBase, rooted.isBase, Bool.true_and] at named
      exact of_decide_eq_true named
    have held := ExtTreeMap.mem_toList_iff_getElem?_eq_some.mp listed
    rw [same, hosts.held, Option.some.injEq] at held
    exact held ▸ here
  have listed : (net.key, dodag) ∈ n.dodags.toList.filter (fun entry => n.isBase entry.1) :=
    List.mem_filter.mpr
      ⟨ExtTreeMap.mem_toList_iff_getElem?_eq_some.mpr hosts.held, isBase⟩
  rw [Node.findRootDodagFor, baseFirst, List.findSome?_append]
  cases entries : n.dodags.toList.filter (fun entry => n.isBase entry.1) with
  | nil =>
    rw [entries] at listed
    cases listed
  | cons first rest =>
    rw [entries] at base
    rw [List.findSome?_cons_of_isSome (by rw [base first List.mem_cons_self]; rfl),
      base first List.mem_cons_self]
    rfl

/-- Nothing else in its tables has a route for a router. -/
theorem Rooted.findHopByHopRoute (rooted : net.Rooted n) (i : ι) :
    n.findHopByHopRoute (net.address i) = none := by
  rw [Node.findHopByHopRoute, rooted.noHopByHop]
  rfl

theorem Rooted.undiscovered (rooted : net.Rooted n) (i : ι) :
    n.findAodvRoute (net.address i) = none ∧ n.findP2pRoute (net.address i) = none := by
  constructor
  · rw [findAodvRoute, rooted.noAodv]
    rfl
  · rw [findP2pRoute, rooted.noP2p]
    rfl

theorem Rooted.getBaseDodag (rooted : net.Rooted n) (hosts : net.Hosts n dodag) :
    n.getBaseDodag = some dodag := by
  rw [Node.getBaseDodag, rooted.hasBase, if_pos rfl, rooted.isBase, hosts.held]

/-- `PrepareOutgoingPacket` writes the route of the topology. -/
theorem Rooted.leavesOver {hops : List Ipv6Address} (rooted : net.Rooted n)
    (hosts : net.Hosts n dodag)
    (global : (net.address i).isGlobalUnicast = true)
    (found : (dodag.purgeTopology n.now).computeSourceRoute n.now (net.address i) = some hops)
    {route : Ipv6Route} (onSocket : route.interface ∈ n.sockets) :
    n.LeavesOver route (net.address i) (dodag.purgeTopology n.now) hops where
  global := global
  onSocket := onSocket
  noHopByHop := rooted.findHopByHopRoute i
  noStoring := by
    rw [stampingStoring, rooted.getBaseDodag hosts, Option.filter_some, hosts.nonStoring]
    rfl
  undiscovered := by
    rw [(rooted.undiscovered i).1, (rooted.undiscovered i).2]
    rfl
  found := rooted.findRootDodagFor hosts found

/-- `RouteOutput` takes it to the first router. -/
theorem Rooted.routeOutput {hops : List Ipv6Address} (rooted : net.Rooted n)
    (hosts : net.Hosts n dodag) (global : (net.address i).isGlobalUnicast = true)
    (found : (dodag.purgeTopology n.now).computeSourceRoute n.now (net.address i) = some hops)
    {oif : Option Nat} (bound : oif ≠ some 0) :
    ∃ source route, n.routeOutput (net.address i) oif = some (source, route) ∧
      hops.head? = some route.gateway := by
  obtain ⟨-, nonempty, linkLocal⟩ :=
    findRootDodagFor_hops (rooted.findRootDodagFor hosts found)
  cases hops with
  | nil => exact absurd rfl nonempty
  | cons first rest =>
    obtain ⟨route, routed, gateway⟩ := rooted.runs.routeToNeighbour
      (dodag.purgeTopology n.now).instanceId first (net.address i)
    have interface : n.outputInterface oif ≠ 0 := by
      rw [outputInterface]
      cases oif with
      | none => exact rooted.runs.firstSocket_ne_zero
      | some interface => exact fun zero => bound (congrArg some zero)
    have discovered : n.lookupDiscovered (net.address i) = none := by
      rw [lookupDiscovered, (rooted.undiscovered i).1, (rooted.undiscovered i).2,
        rooted.findHopByHopRoute i]
      rfl
    have storing : n.lookupStoring (net.address i) = none := by
      have unrouted : n.findStoringRoute (net.address i) = none := by
        rw [findStoringRoute, rooted.getBaseDodag hosts]
        exact if_neg (ne_true_of_eq_false hosts.nonStoring)
      rw [lookupStoring, unrouted]
      rfl
    have taken : n.lookupRoot (net.address i) =
        some (.root (dodag.purgeTopology n.now) (first :: rest), route) := by
      have through : n.routeOver (net.address i) (fun _ => .root (dodag.purgeTopology n.now))
          (some ((dodag.purgeTopology n.now).instanceId, first :: rest)) =
            some (.root (dodag.purgeTopology n.now) (first :: rest), route) := by
        rw [routeOver, routed]
        rfl
      rw [lookupRoot, rooted.findRootDodagFor hosts found]
      exact through
    refine ⟨.root (dodag.purgeTopology n.now) (first :: rest), route, ?_,
      congrArg some (gateway (linkLocal first List.mem_cons_self)).symm⟩
    rw [Node.routeOutput, if_neg interface, global, if_neg (by decide), lookupRoute, discovered,
      storing, taken]
    rfl

/-! ## The way down -/

/-- What has expired is not what the root holds of a router. -/
theorem Holds.purgeTopology (holds : net.Holds dodag now i) :
    net.Holds (dodag.purgeTopology now) now i := by
  obtain ⟨at_, held, unexpired⟩ := holds
  refine ⟨at_, ?_, unexpired⟩
  rw [DodagMembership.purgeTopology, OrderedMap.getElem?_eraseIf, held]
  have live : ¬(net.link i at_).expire ≤ now := Int.not_le.mpr unexpired
  simp [Option.filter, live]

/-- A way goes down to the router it is for. -/
theorem Way.ends (way : net.Way i routers) : ∃ above, routers = i :: above := by
  cases way with
  | top _ => exact ⟨_, rfl⟩
  | on _ _ => exact ⟨_, rfl⟩

/-- With what it holds of the routers on the way, the root finds the way down, on which no
router is twice. -/
theorem Way.computeSourceRoute (way : net.Way i routers) (settled : net.Settled)
    (hosts : net.Hosts n dodag) (holds : ∀ j ∈ routers, net.Holds dodag now j) :
    (dodag.purgeTopology now).computeSourceRoute now (net.address i) =
        some (net.hops routers) ∧
      routers.Nodup := by
  have dodagId : (dodag.purgeTopology now).dodagId = net.key.dodagId :=
    congrArg DodagKey.dodagId hosts.keyed
  have chain := way.chain settled dodagId fun j mem => (holds j mem).purgeTopology
  refine ⟨DodagMembership.computeSourceRoute_eq_some.mpr ⟨hosts.isRoot, _, chain, ?_⟩,
    chain.nodup.of_map _⟩
  rw [hops, List.map_reverse]

/-- Two routers have no link-local address in common. -/
theorem Relaying.injective (relaying : net.Relaying) :
    Function.Injective fun i => linkLocalOf (net.address i) := by
  intro i j same
  refine relaying.ownLinkLocal i j ?_
  have shared : linkLocalOf (net.address i) = linkLocalOf (net.address j) := same
  exact shared ▸ relaying.holds i

theorem Relaying.hops_nodup (relaying : net.Relaying) (distinct : routers.Nodup) :
    (net.hops routers).Nodup := by
  rw [hops, List.map_map]
  exact (List.nodup_reverse.mpr distinct).map relaying.injective

/-- Every router on the way but the last relays for the target it is. -/
theorem Relaying.relayAt (relaying : net.Relaying) {above : List ι}
    (distinct : (i :: above).Nodup) :
    List.Forall₂ (RelayAt (Node.targetsOf (net.hops (i :: above)) (net.address i)))
      (net.hops (i :: above)).dropLast ((i :: above).reverse.dropLast.map net.node) := by
  have passed : (net.hops (i :: above)).dropLast =
      above.reverse.map fun j => linkLocalOf (net.address j) := by
    rw [hops, List.reverse_cons, List.map_map, List.map_append, List.map_singleton,
      List.dropLast_concat]
    rfl
  rw [Node.targetsOf, passed, List.reverse_cons, List.dropLast_concat, List.forall₂_map_left_iff,
    List.forall₂_map_right_iff, List.forall₂_same]
  intro j mem
  refine ⟨relaying.runs j, relaying.holds j, fun target isTarget held => ?_⟩
  rcases List.mem_append.mp isTarget with hop | last
  · obtain ⟨other, -, rfl⟩ := List.mem_map.mp hop
    rw [relaying.ownLinkLocal j other held]
  · rw [List.mem_singleton.mp last] at held
    have same := relaying.ownGlobal j i held
    exact absurd (same ▸ List.mem_reverse.mp mem) (List.nodup_cons.mp distinct).1

/-! ## Delivery -/

/-- From the DAOs that the routers send, in whatever order and however often they arrive, to a
packet for one of the routers: where the root has lately heard all on the way, `RouteOutput`
takes the packet to the highest of them, and relayed by one after the other it comes to its
destination with its payload. -/
theorem root_delivers [DecidableEq ι] (collects : net.Collects root dodag) (settled : net.Settled)
    (rooted : net.Rooted root) (relaying : net.Relaying) (arrivals : List (Arrival ι))
    (now : Time) (way : net.Way i routers) (heard : ∀ j ∈ routers, net.Heard arrivals now j)
    {header : Ipv6Header} (isDestination : header.destination = net.address i)
    {oif : Option Nat} (bound : oif ≠ some 0)
    (fits : RouteFits (net.hops routers) header.destination)
    (lives : routers.length < header.hopLimit.toNat)
    (ipv6rp : Node → List UInt8 → Ipv6Header → Option Ipv6Route)
    (hopByHopHeader : UInt8 → List UInt8 → List UInt8) (payload : List UInt8) :
    let n := (net.hearAll root arrivals).apply (.tick now)
    ∃ after, n.dodags[net.key]? = some after ∧
      ∃ source route, n.routeOutput header.destination oif = some (source, route) ∧
        (net.hops routers).head? = some route.gateway ∧
        (route.interface ∈ n.sockets → ∃ arrived octets,
          carried ipv6rp (hopByHopHeader nextHeaderRouting
              (PacketInfoHeader.ofPacketInfo (membershipInfo after true)).serialize).length
            (routers.reverse.dropLast.map net.node)
            (outgoingPacket hopByHopHeader (n.prepareOutgoingPacket header.destination route)
              header payload) = some (arrived, octets ++ payload) ∧
          arrived.destination = header.destination) := by
  intro n
  obtain ⟨after, collectsBefore, topology⟩ := collects.hearAll settled arrivals
  have hostsAfter : net.Hosts n after := collectsBefore.toHosts.tick now
  have rootedAfter : net.Rooted n := (rooted.hearAll collects settled arrivals).tick now
  have holds : ∀ j ∈ routers, net.Holds after now j := fun j mem => (heard j mem).holds topology
  obtain ⟨found, distinct⟩ := way.computeSourceRoute settled hostsAfter holds
  have global := relaying.global i
  obtain ⟨source, route, routed, starts⟩ := rootedAfter.routeOutput hostsAfter global found bound
  have linkLocal := (findRootDodagFor_hops (rootedAfter.findRootDodagFor hostsAfter found)).2.2
  have info : membershipInfo (after.purgeTopology n.now) (after.purgeTopology n.now).isRoot =
      membershipInfo after true :=
    congrArg (membershipInfo after) hostsAfter.isRoot
  obtain ⟨above, rfl⟩ := way.ends
  have relayed := relaying.relayAt distinct
  refine ⟨after, hostsAfter.held, source, route, isDestination ▸ routed, starts,
    fun onSocket => ?_⟩
  have leaves := rootedAfter.leavesOver hostsAfter global found onSocket
  rw [← isDestination] at leaves relayed global
  by_cases alone : above = []
  · subst alone
    have none : sourceRouteOver header.destination (net.hops [i]) = none := rfl
    rw [leaves.prepareOutgoingPacket, none, info]
    exact ⟨_, _, rfl, rfl⟩
  · have length : (net.hops (i :: above)).length = above.length + 1 := by
      rw [hops, List.length_map, List.length_map, List.length_reverse, List.length_cons]
    have several : 2 ≤ (net.hops (i :: above)).length := by
      have := List.length_pos_iff.mpr alone
      omega
    have routable := fits.routable several linkLocal (relaying.hops_nodup distinct) global
    obtain ⟨first, rest, begins⟩ : ∃ first rest,
        Node.targetsOf (net.hops (i :: above)) header.destination = first :: rest :=
      List.exists_cons_of_ne_nil (List.concat_ne_nil _ _)
    have under := leaves.underway fits several routable begins hopByHopHeader payload
    have passing : List.Forall₂ (RelayAt ([] ++ (net.hops (i :: above)).dropLast ++
        header.destination :: [])) (net.hops (i :: above)).dropLast
        ((i :: above).reverse.dropLast.map net.node) := relayed
    rw [List.length_cons] at lives
    have enough : header.hopLimit.toNat = header.hopLimit.toNat -
        (net.hops (i :: above)).dropLast.length + (net.hops (i :: above)).dropLast.length := by
      rw [List.length_dropLast]
      omega
    rw [enough, info] at under
    obtain ⟨arrived, carries, there⟩ := @Underway.carried _ _ _ _ _ _ _ _ ipv6rp _ _ passing
      routable _ _ begins under (by rw [List.length_dropLast]; omega)
    obtain ⟨octets, behind, -⟩ := there.routed
    rw [← List.append_assoc] at behind
    exact ⟨arrived.1, _, carries.trans (congrArg some (Prod.ext rfl behind)), there.addressed⟩

/-! ### The router below another -/

theorem twig_relaying : twig.Relaying := by
  refine ⟨fun i => ⟨⟨1, ?_⟩, ?_⟩, ?_, ?_, ?_, ?_⟩
  · cases i with
    | upper => decide +kernel
    | lower => decide +kernel
  · cases i with
    | upper => decide +kernel
    | lower => decide +kernel
  · intro i
    cases i with
    | upper => decide
    | lower => decide
  · intro i
    cases i with
    | upper => decide +kernel
    | lower => decide +kernel
  · intro i j
    cases i with
    | upper =>
      cases j with
      | upper => exact fun _ => rfl
      | lower => exact fun held => absurd held (by decide +kernel)
    | lower =>
      cases j with
      | upper => exact fun held => absurd held (by decide +kernel)
      | lower => exact fun _ => rfl
  · intro i j
    cases i with
    | upper =>
      cases j with
      | upper => exact fun _ => rfl
      | lower => exact fun held => absurd held (by decide +kernel)
    | lower =>
      cases j with
      | upper => exact fun held => absurd held (by decide +kernel)
      | lower => exact fun _ => rfl

theorem twigRoot_rooted : twig.Rooted twigRoot where
  runs := ⟨⟨1, by decide +kernel⟩, by decide +kernel⟩
  hasBase := rfl
  isBase := rfl
  noHopByHop _ := rfl
  noAodv _ := rfl
  noP2p _ := rfl

def twigHeader : Ipv6Header :=
  { source := twigRootAddress
    destination := twigAddress .lower
    nextHeader := 17
    hopLimit := 64 }

/-- The root's packet goes over the upper router to the lower one. -/
theorem twig_delivers :
    let n := (twig.hearAll twigRoot twigArrivals).apply (.tick (seconds 9))
    ∃ after, n.dodags[twig.key]? = some after ∧
      ∃ source route, n.routeOutput twigHeader.destination none = some (source, route) ∧
        some (linkLocalOf (twigAddress .upper)) = some route.gateway ∧
        (route.interface ∈ n.sockets → ∃ arrived octets,
          carried (fun _ _ _ => none) (eightOctets nextHeaderRouting
              (PacketInfoHeader.ofPacketInfo (membershipInfo after true)).serialize).length
            [twigNode .upper]
            (outgoingPacket eightOctets (n.prepareOutgoingPacket twigHeader.destination route)
              twigHeader [1, 2, 3]) = some (arrived, octets ++ [1, 2, 3]) ∧
          arrived.destination = twigAddress .lower) :=
  root_delivers twigRoot_collects twig_settled twigRoot_rooted twig_relaying twigArrivals
    (seconds 9) (.on rfl (.top rfl)) (fun j _ => twig_heard j) rfl (by decide)
    ⟨by decide, by decide +kernel⟩ (by decide) (fun _ _ _ => none) eightOctets [1, 2, 3]

end NonStoringDodag

end Rpl
