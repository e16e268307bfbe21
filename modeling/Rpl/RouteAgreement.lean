import Rpl.Purge

/-!
# Gateway and headers of one packet

`RouteOutput` chooses a gateway and `PrepareOutgoingPacket` the headers of the same
packet, each by its own cascade.  The first tries the source routes of AODV-RPL
and P2P-RPL before the hop-by-hop routes and the Storing routes, the second after
them, and where only an upward route is left the second takes the first DODAG
named by the destination even if it is temporary.  `Uncontested` says when the
order makes no difference, and `headersAgree_iff` that it says so exactly.
-/

namespace Rpl

open Std

namespace RouteSource

/-- The RPLInstanceID of the route. -/
def instanceId : RouteSource → UInt8
  | .onLink => defaultInstance
  | .aodv instanceId _ => instanceId
  | .p2p instanceId _ => instanceId
  | .hopByHop held => held.instanceId
  | .storing base => base.instanceId
  | .root dodag _ => dodag.instanceId
  | .preferredParent dodag => dodag.instanceId

/-- The route leads away from the root of its DODAG; a discovered source route leads away from
this node, which rooted the discovery. -/
def down (destination : Ipv6Address) : RouteSource → Bool
  | .onLink => false
  | .aodv _ _ => true
  | .p2p _ _ => true
  | .hopByHop held => held.dodagId ≠ destination
  | .storing _ => true
  | .root _ _ => true
  | .preferredParent _ => false

/-- Every router on the way looks the next hop up in a table of its own. -/
def byTable : RouteSource → Bool
  | .hopByHop _ => true
  | .storing _ => true
  | _ => false

end RouteSource

/-- Two octets name one instance: the D flag of a Local RPLInstanceID is not part of it. -/
def sameInstance (a b : UInt8) : Bool := Node.clearDFlag a = Node.clearDFlag b

@[simp] theorem sameInstance_self (a : UInt8) : sameInstance a a = true := by
  simp [sameInstance]

/-- The D flag, set where the instance is local, does not change the instance. -/
theorem sameInstance_withDFlag (a : UInt8) (up : Bool) :
    sameInstance
      (if !up && a &&& localInstanceFlag ≠ 0 then a ||| localInstanceDFlag else a) a = true := by
  have octets : ∀ (up : Bool) (i : Fin 256), sameInstance
      (if !up && UInt8.ofFin i &&& localInstanceFlag ≠ 0 then
        UInt8.ofFin i ||| localInstanceDFlag else UInt8.ofFin i) (UInt8.ofFin i) = true := by
    decide +kernel
  exact octets up a.toFin

/-- The headers added to a packet belong to the route its gateway was taken from. -/
structure HeadersAgree (destination : Ipv6Address) (source : RouteSource) (route : Ipv6Route)
    (headers : AddedHeaders) : Prop where
  firstHop : ∀ first srh, headers.sourceRoute = some (first, srh) → first = route.gateway
  tableRoute : source.byTable = true → headers.sourceRoute = none
  packetInfo : ∀ info, headers.packetInfo = some info →
    sameInstance info.instanceId source.instanceId = true ∧ info.down = source.down destination

namespace Node

variable {n : Node} {destination : Ipv6Address}

/-! ## The condition -/

/-- Nothing `PrepareOutgoingPacket` looks up earlier than `RouteOutput` does speaks for another
instance or another direction than the route taken. -/
def Uncontested (n : Node) (destination : Ipv6Address) : RouteSource → Prop
  | .onLink => True
  | .aodv instanceId _ | .p2p instanceId _ =>
    match n.findHopByHopRoute destination with
    | some held => sameInstance held.instanceId instanceId = true ∧ held.dodagId ≠ destination
    | none => ∀ base, n.stampingStoring destination = some base →
        sameInstance base.instanceId instanceId = true
  | .hopByHop _ | .storing _ => True
  | .root dodag _ => ∀ base, n.stampingStoring destination = some base →
      sameInstance base.instanceId dodag.instanceId = true
  | .preferredParent dodag =>
    n.stampingStoring destination = none ∧
      ((n.findAodvRoute destination).or (n.findP2pRoute destination) = none →
        ∃ stamping, n.stampingDodag destination = some stamping ∧
          sameInstance stamping.instanceId dodag.instanceId = true ∧ stamping.isRoot = false)

/-! ## What `RouteOutput` found -/

/-- RPL runs on some interface, and not on the loopback. -/
structure RunsRpl (n : Node) : Prop where
  interface : ∃ interface, interface ∈ n.sockets
  loopback : 0 ∉ n.sockets

theorem RunsRpl.firstSocket_ne_zero (runs : n.RunsRpl) : n.firstSocket ≠ 0 := by
  obtain ⟨interface, mem⟩ := runs.interface
  unfold firstSocket
  cases first : n.sockets.toList with
  | nil =>
    have := ExtTreeSet.mem_toList.mpr mem
    rw [first] at this
    exact absurd this (List.not_mem_nil)
  | cons head rest =>
    have inSet : head ∈ n.sockets := by
      rw [← ExtTreeSet.mem_toList, first]
      exact List.mem_cons_self
    rintro rfl
    exact runs.loopback inSet

/-- The interface a packet leaves on, the one its next hop was heard on or the first one, is
there. -/
theorem RunsRpl.chosenSocket_ne_zero (runs : n.RunsRpl) (heard : Nat) :
    ¬(if heard = 0 then n.firstSocket else heard) = 0 := by
  split
  · exact runs.firstSocket_ne_zero
  · assumption

/-- A neighbour always has a route. -/
theorem RunsRpl.routeToNeighbour (runs : n.RunsRpl) (instanceId : UInt8)
    (neighbour destination : Ipv6Address) :
    ∃ route, n.routeToNeighbour instanceId neighbour destination = some route ∧
      (neighbour.isLinkLocal = true → route.gateway = neighbour) := by
  unfold Node.routeToNeighbour
  dsimp only
  rw [if_neg (runs.chosenSocket_ne_zero _)]
  exact ⟨_, rfl, fun isLinkLocal => if_pos isLinkLocal⟩

/-- A source route a lookup of discovered routes gives has hops, all link-local. -/
def LinkLocalHops (found : Option (UInt8 × List Ipv6Address)) : Prop :=
  ∀ instanceId hops, found = some (instanceId, hops) → ∀ hop ∈ hops, hop.isLinkLocal = true

theorem findAodvRoute_linkLocal : LinkLocalHops (n.findAodvRoute destination) := by
  intro instanceId hops found hop mem
  obtain ⟨held, -, same⟩ := Option.map_eq_some_iff.mp found
  cases same
  obtain ⟨address, -, rfl⟩ := List.mem_map.mp mem
  exact isLinkLocal_linkLocalOf address

theorem findP2pRoute_linkLocal : LinkLocalHops (n.findP2pRoute destination) := by
  intro instanceId hops found hop mem
  obtain ⟨held, -, same⟩ := Option.map_eq_some_iff.mp found
  cases same
  obtain ⟨address, -, rfl⟩ := List.mem_map.mp mem
  exact isLinkLocal_linkLocalOf address

/-- The gateway of a route over a source route is the first hop of it. -/
theorem RunsRpl.routeOver_some (runs : n.RunsRpl)
    {lookup : UInt8 → List Ipv6Address → RouteSource}
    {found : Option (UInt8 × List Ipv6Address)} {source : RouteSource} {route : Ipv6Route}
    (linkLocal : LinkLocalHops found)
    (taken : n.routeOver destination lookup found = some (source, route)) :
    ∃ instanceId hops, found = some (instanceId, hops) ∧ source = lookup instanceId hops ∧
      hops.head? = some route.gateway := by
  match found with
  | none => exact nomatch taken
  | some (_, []) => exact nomatch taken
  | some (instanceId, first :: rest) =>
    obtain ⟨route', routed, gateway⟩ := runs.routeToNeighbour instanceId first destination
    rw [routeOver, routed] at taken
    cases taken
    refine ⟨instanceId, first :: rest, rfl, rfl, ?_⟩
    rw [gateway (linkLocal _ _ rfl first List.mem_cons_self)]
    rfl

/-- Only a source route without hops gives no route. -/
theorem RunsRpl.routeOver_none (runs : n.RunsRpl)
    {lookup : UInt8 → List Ipv6Address → RouteSource}
    {found : Option (UInt8 × List Ipv6Address)}
    (untaken : n.routeOver destination lookup found = none) :
    ∀ instanceId hops, found = some (instanceId, hops) → hops = [] := by
  intro instanceId hops here
  subst here
  cases hops with
  | nil => rfl
  | cons first rest =>
    obtain ⟨route, routed, -⟩ := runs.routeToNeighbour instanceId first destination
    rw [routeOver, routed] at untaken
    exact nomatch untaken

/-- No discovered source route with hops is held for the destination. -/
def Unsourced (n : Node) (destination : Ipv6Address) : Prop :=
  ∀ instanceId hops, (n.findAodvRoute destination).or (n.findP2pRoute destination) =
    some (instanceId, hops) → hops = []

/-- What holds of the tables when `RouteOutput` takes a route from a lookup. -/
def TakenFrom (n : Node) (destination : Ipv6Address) (route : Ipv6Route) : RouteSource → Prop
  | .onLink => False
  | .aodv instanceId hops =>
    n.findAodvRoute destination = some (instanceId, hops) ∧ hops.head? = some route.gateway
  | .p2p instanceId hops =>
    n.findP2pRoute destination = some (instanceId, hops) ∧ hops.head? = some route.gateway ∧
      ∀ otherId others, n.findAodvRoute destination = some (otherId, others) → others = []
  | .hopByHop held => n.findHopByHopRoute destination = some held
  | .storing base =>
    n.findHopByHopRoute destination = none ∧
      ∃ downward, n.findStoringRoute destination = some (base, downward)
  | .root dodag hops =>
    n.findHopByHopRoute destination = none ∧ n.Unsourced destination ∧
      n.findRootDodagFor destination = some (dodag, hops) ∧ hops.head? = some route.gateway
  | .preferredParent _ =>
    n.findHopByHopRoute destination = none ∧ n.Unsourced destination ∧
      n.findRootDodagFor destination = none ∧
      ∃ stamping, n.stampingDodag destination = some stamping

theorem findRootDodagFor_hops {dodag : DodagMembership} {hops : List Ipv6Address}
    (found : n.findRootDodagFor destination = some (dodag, hops)) :
    dodag.isRoot = true ∧ hops ≠ [] ∧ ∀ hop ∈ hops, hop.isLinkLocal = true := by
  obtain ⟨entry, -, here⟩ := List.exists_of_findSome?_eq_some found
  unfold rootRouteIn at here
  split at here
  · exact nomatch here
  rename_i root
  obtain ⟨hops', computed, same⟩ := Option.map_eq_some_iff.mp here
  cases same
  refine ⟨?_, DodagMembership.computeSourceRoute_hops computed⟩
  change entry.2.isRoot = true
  simpa using root

/-- The lookups of discovered routes, where RPL runs on some interface. -/
theorem RunsRpl.lookupDiscovered_some (runs : n.RunsRpl) {source : RouteSource}
    {route : Ipv6Route} (found : n.lookupDiscovered destination = some (source, route)) :
    n.TakenFrom destination route source := by
  rcases Option.or_eq_some_iff.mp found with aodv | ⟨noAodv, found⟩
  · obtain ⟨instanceId, hops, held, rfl, gateway⟩ :=
      runs.routeOver_some findAodvRoute_linkLocal aodv
    exact ⟨held, gateway⟩
  rcases Option.or_eq_some_iff.mp found with p2p | ⟨-, hopByHop⟩
  · obtain ⟨instanceId, hops, held, rfl, gateway⟩ :=
      runs.routeOver_some findP2pRoute_linkLocal p2p
    exact ⟨held, gateway, runs.routeOver_none noAodv⟩
  · obtain ⟨held, live, routed⟩ := Option.bind_eq_some_iff.mp hopByHop
    obtain ⟨route', -, same⟩ := Option.map_eq_some_iff.mp routed
    cases same
    exact live

theorem RunsRpl.lookupDiscovered_none (runs : n.RunsRpl)
    (missing : n.lookupDiscovered destination = none) :
    n.findHopByHopRoute destination = none ∧ n.Unsourced destination := by
  obtain ⟨noAodv, missing⟩ := Option.or_eq_none_iff.mp missing
  obtain ⟨noP2p, noHopByHop⟩ := Option.or_eq_none_iff.mp missing
  refine ⟨?_, ?_⟩
  · cases held : n.findHopByHopRoute destination with
    | none => rfl
    | some held' =>
      obtain ⟨route, routed, -⟩ :=
        runs.routeToNeighbour held'.instanceId held'.nextHop destination
      rw [held, Option.bind_some, routed] at noHopByHop
      exact nomatch noHopByHop
  · intro instanceId hops found
    rcases Option.or_eq_some_iff.mp found with aodv | ⟨-, p2p⟩
    · exact runs.routeOver_none noAodv _ _ aodv
    · exact runs.routeOver_none noP2p _ _ p2p

theorem RunsRpl.lookupRoute_some (runs : n.RunsRpl) {source : RouteSource} {route : Ipv6Route}
    (found : n.lookupRoute destination = some (source, route)) :
    n.TakenFrom destination route source := by
  rcases Option.or_eq_some_iff.mp found with discovered | ⟨missing, found⟩
  · exact runs.lookupDiscovered_some discovered
  obtain ⟨noHopByHop, unsourced⟩ := runs.lookupDiscovered_none missing
  rcases Option.or_eq_some_iff.mp found with storing | ⟨-, found⟩
  · obtain ⟨⟨base, downward⟩, live, routed⟩ := Option.bind_eq_some_iff.mp storing
    obtain ⟨route', -, same⟩ := Option.map_eq_some_iff.mp routed
    cases same
    exact ⟨noHopByHop, downward, live⟩
  rcases Option.or_eq_some_iff.mp found with root | ⟨noRoot, upward⟩
  · obtain ⟨⟨dodag, hops⟩, rooted, sourced⟩ := Option.bind_eq_some_iff.mp root
    obtain ⟨-, -, linkLocal⟩ := findRootDodagFor_hops rooted
    obtain ⟨instanceId, hops', held, rfl, gateway⟩ := runs.routeOver_some
      (fun _ _ same => by cases same; exact linkLocal) sourced
    cases held
    exact ⟨noHopByHop, unsourced, rooted, gateway⟩
  · have unrooted : n.findRootDodagFor destination = none := by
      cases rooted : n.findRootDodagFor destination with
      | none => rfl
      | some found' =>
        obtain ⟨dodag, hops⟩ := found'
        obtain ⟨-, nonempty, -⟩ := findRootDodagFor_hops rooted
        rw [lookupRoot, rooted, Option.bind_some] at noRoot
        exact absurd (runs.routeOver_none noRoot _ _ rfl) nonempty
    -- a DODAG that leads to the destination, or else the base DODAG, is there to be stamped
    have stamped : ∃ stamping, n.stampingDodag destination = some stamping := by
      rw [← Option.isSome_iff_exists, stampingDodag, Option.isSome_or, Bool.or_eq_true]
      rcases Option.or_eq_some_iff.mp upward with other | ⟨-, base⟩
      · obtain ⟨dodag, mem, routed⟩ := List.exists_of_findSome?_eq_some other
        split at routed
        · exact nomatch routed
        · next leads =>
          rw [Bool.or_eq_true, decide_eq_true_eq, not_or, not_not] at leads
          exact .inl (List.find?_isSome.mpr ⟨dodag, mem, decide_eq_true leads.1⟩)
      · obtain ⟨dodag, held, -⟩ := Option.bind_eq_some_iff.mp base
        exact .inr (Option.isSome_of_eq_some held)
    rcases Option.or_eq_some_iff.mp upward with other | ⟨-, base⟩
    · obtain ⟨dodag, -, routed⟩ := List.exists_of_findSome?_eq_some other
      split at routed
      · exact nomatch routed
      · obtain ⟨route', -, same⟩ := Option.map_eq_some_iff.mp routed
        cases same
        exact ⟨noHopByHop, unsourced, unrooted, stamped⟩
    · obtain ⟨dodag, -, routed⟩ := Option.bind_eq_some_iff.mp base
      obtain ⟨route', -, same⟩ := Option.map_eq_some_iff.mp routed
      cases same
      exact ⟨noHopByHop, unsourced, unrooted, stamped⟩

/-! ## What `PrepareOutgoingPacket` adds -/

/-- A Routing Header starts at the first hop of the source route. -/
theorem sourceRouteOver_first {hops : List Ipv6Address} {first : Ipv6Address}
    {srh : SourceRoutingHeader} (added : sourceRouteOver destination hops = some (first, srh)) :
    hops.head? = some first := by
  match hops with
  | [] => exact nomatch added
  | [_] => exact nomatch added
  | head :: second :: rest =>
    simp only [sourceRouteOver] at added
    split at added
    · cases added
      rfl
    · exact nomatch added

section

variable {source : RouteSource} {route : Ipv6Route}

/-- Headers without a Routing Header agree when the RPL Packet Information does. -/
theorem headersAgree_packetInfo {info : PacketInfo} :
    HeadersAgree destination source route { packetInfo := some info } ↔
      sameInstance info.instanceId source.instanceId = true ∧
        info.down = source.down destination := by
  constructor
  · intro agrees
    exact agrees.packetInfo info rfl
  · intro same
    exact
      { firstHop := fun _ _ added => nomatch added
        tableRoute := fun _ => rfl
        packetInfo := fun info' added => by cases added; exact same }

/-- A Routing Header over hops that start at the gateway agrees with a route that is not by
table. -/
theorem headersAgree_sourceRoute {hops : List Ipv6Address} {info : Option PacketInfo}
    (sourced : source.byTable = false) (first : hops = [] ∨ hops.head? = some route.gateway)
    (same : ∀ info', info = some info' →
      sameInstance info'.instanceId source.instanceId = true ∧
        info'.down = source.down destination) :
    HeadersAgree destination source route
      { sourceRoute := sourceRouteOver destination hops, packetInfo := info } where
  firstHop hop srh added := by
    have head := sourceRouteOver_first added
    rcases first with rfl | gateway
    · exact nomatch head
    · exact Option.some_inj.mp (head.symm.trans gateway)
  tableRoute byTable := absurd (sourced.symm.trans byTable) Bool.false_ne_true
  packetInfo := same

/-- A hop-by-hop route speaks for its own instance and direction. -/
theorem hopByHopInfo_same (n : Node) (destination : Ipv6Address) (held : HopByHopRoute)
    (instanceId : UInt8) :
    sameInstance (n.hopByHopInfo destination held).instanceId instanceId =
        sameInstance held.instanceId instanceId ∧
      (n.hopByHopInfo destination held).down = decide (held.dodagId ≠ destination) := by
  have stamped : sameInstance (n.hopByHopInfo destination held).instanceId held.instanceId = true :=
    sameInstance_withDFlag held.instanceId (decide (held.dodagId ≠ destination))
  refine ⟨?_, rfl⟩
  rw [sameInstance, decide_eq_true_iff] at stamped
  rw [sameInstance, sameInstance, stamped]

/-- The cascade of `PrepareOutgoingPacket` for a packet that goes over a discovered source
route. -/
theorem headersAgree_discovered {instanceId : UInt8} (hops : List Ipv6Address)
    {found : UInt8 × List Ipv6Address} (sourced : source.byTable = false)
    (id : source.instanceId = instanceId) (down : source.down destination = true)
    (held : (n.findAodvRoute destination).or (n.findP2pRoute destination) = some found)
    (first : found.2 = [] ∨ found.2.head? = some route.gateway) :
    HeadersAgree destination source route (n.headersFor destination) ↔
      n.Uncontested destination (.aodv instanceId hops) := by
  unfold headersFor Uncontested
  cases n.findHopByHopRoute destination with
  | some hopByHop =>
    dsimp only
    obtain ⟨same, direction⟩ := n.hopByHopInfo_same destination hopByHop instanceId
    rw [headersAgree_packetInfo, id, down, same, direction, decide_eq_true_iff]
  | none =>
    dsimp only
    cases n.stampingStoring destination with
    | some base =>
      dsimp only
      rw [headersAgree_packetInfo, id, down]
      constructor
      · rintro ⟨same, -⟩ base' found
        cases found
        exact same
      · exact fun same => ⟨same base rfl, rfl⟩
    | none =>
      dsimp only
      rw [held]
      exact iff_of_true (headersAgree_sourceRoute sourced first fun _ added => nomatch added)
        fun _ added => nomatch added

end

/-! ## The agreement -/

/-- What holds of a node at all times: each membership is held under its own key, and RPL does
not run on the loopback. -/
structure WellFormed (n : Node) : Prop where
  keyed : ∀ (key : DodagKey) (dodag : DodagMembership), n.dodags[key]? = some dodag →
    dodag.key = key
  loopback : 0 ∉ n.sockets

/-- The two cascades mean the same by a Storing downward route. -/
theorem WellFormed.stampingStoring (wellFormed : n.WellFormed) (destination : Ipv6Address) :
    n.stampingStoring destination = (n.findStoringRoute destination).map Prod.fst := by
  unfold Node.stampingStoring findStoringRoute
  cases base : n.getBaseDodag with
  | none => rfl
  | some dodag =>
    have held : n.dodags[dodag.key]? = some dodag := by
      unfold getBaseDodag at base
      split at base
      · rwa [wellFormed.keyed _ _ base]
      · exact nomatch base
    have route : n.getDownwardRoute dodag.key destination =
        dodag.findDownwardRoute n.now destination := by
      rw [getDownwardRoute, held, Option.bind_some]
    by_cases storing : dodag.storing = true
    · cases found : dodag.findDownwardRoute n.now destination with
      | none => simp [Option.filter, storing, route, found]
      | some downward => simp [Option.filter, storing, route, found]
    · simp [Option.filter, storing]

/-- Where RPL runs on the interface of the route, gateway and headers agree exactly when the
route is uncontested. -/
theorem headersFor_agree_iff (wellFormed : n.WellFormed) {source : RouteSource}
    {route : Ipv6Route} (taken : n.TakenFrom destination route source) :
    HeadersAgree destination source route (n.headersFor destination) ↔
      n.Uncontested destination source := by
  cases source with
  | onLink => exact taken.elim
  | aodv instanceId hops =>
    obtain ⟨held, gateway⟩ := taken
    exact headersAgree_discovered hops rfl rfl rfl (by rw [held]; rfl) (.inr gateway)
  | p2p instanceId hops =>
    obtain ⟨held, gateway, noAodv⟩ := taken
    cases aodv : n.findAodvRoute destination with
    | none =>
      exact headersAgree_discovered hops rfl rfl rfl (by rw [aodv, held]; rfl)
        (.inr gateway)
    | some other =>
      exact headersAgree_discovered hops rfl rfl rfl (by rw [aodv]; rfl)
        (.inl (noAodv other.1 other.2 aodv))
  | hopByHop held =>
    have live : n.findHopByHopRoute destination = some held := taken
    obtain ⟨same, direction⟩ :=
      n.hopByHopInfo_same destination held held.instanceId
    unfold headersFor
    rw [live]
    dsimp only
    rw [headersAgree_packetInfo]
    exact iff_of_true ⟨same.trans (sameInstance_self _), direction⟩ trivial
  | storing base =>
    obtain ⟨noHopByHop, downward, live⟩ := taken
    have stamped := wellFormed.stampingStoring destination
    rw [live, Option.map_some] at stamped
    unfold headersFor
    rw [noHopByHop, stamped]
    dsimp only
    rw [headersAgree_packetInfo]
    exact iff_of_true ⟨sameInstance_self _, rfl⟩ trivial
  | root dodag hops =>
    obtain ⟨noHopByHop, unsourced, rooted, gateway⟩ := taken
    unfold headersFor Uncontested
    rw [noHopByHop]
    dsimp only
    cases n.stampingStoring destination with
    | some base =>
      dsimp only
      rw [headersAgree_packetInfo]
      constructor
      · rintro ⟨same, -⟩ base' found
        cases found
        exact same
      · exact fun same => ⟨same base rfl, rfl⟩
    | none =>
      refine iff_of_true ?_ fun _ added => nomatch added
      dsimp only
      cases found : (n.findAodvRoute destination).or (n.findP2pRoute destination) with
      | some other =>
        exact headersAgree_sourceRoute rfl (.inl (unsourced other.1 other.2 found))
          fun _ added => nomatch added
      | none =>
        rw [rooted]
        refine headersAgree_sourceRoute rfl (.inr gateway) fun info added => ?_
        cases added
        exact ⟨sameInstance_self _, (findRootDodagFor_hops rooted).1⟩
  | preferredParent dodag =>
    obtain ⟨noHopByHop, unsourced, unrooted, stamping, stamps⟩ := taken
    unfold headersFor Uncontested
    rw [noHopByHop]
    dsimp only
    cases n.stampingStoring destination with
    | some base =>
      dsimp only
      rw [headersAgree_packetInfo]
      exact iff_of_false (fun same => Bool.noConfusion same.2) fun free => nomatch free.1
    | none =>
      dsimp only
      cases found : (n.findAodvRoute destination).or (n.findP2pRoute destination) with
      | some other =>
        refine iff_of_true (headersAgree_sourceRoute rfl
          (.inl (unsourced other.1 other.2 found)) fun _ added => nomatch added)
            ⟨rfl, fun none => nomatch none⟩
      | none =>
        rw [unrooted]
        dsimp only
        rw [headersAgree_packetInfo, defaultInfo, stamps]
        constructor
        · exact fun same => ⟨rfl, fun _ => ⟨stamping, rfl, same⟩⟩
        · intro free
          obtain ⟨_, same, agrees⟩ := free.2 rfl
          cases same
          exact agrees

/-- For a route to a global unicast destination, the gateway and the headers added to the same
packet belong to one route exactly when nothing is added, since RPL does not run on the route's
interface, or no other route held for the destination speaks first. -/
theorem headersAgree_iff (wellFormed : n.WellFormed) (oif : Option Nat)
    (global : destination.isGlobalUnicast = true) {source : RouteSource} {route : Ipv6Route}
    (found : n.routeOutput destination oif = some (source, route)) :
    HeadersAgree destination source route
        ((n.afterRouteOutput destination oif).prepareOutgoingPacket destination route) ↔
      (route.interface ∈ n.sockets → n.Uncontested destination source) := by
  rw [(Purged.afterRouteOutput n destination oif).prepareOutgoingPacket, prepareOutgoingPacket,
    global]
  by_cases rplRuns : route.interface ∈ n.sockets
  · have runs : n.RunsRpl := ⟨⟨_, rplRuns⟩, wellFormed.loopback⟩
    have looked : n.lookupRoute destination = some (source, route) := by
      unfold routeOutput at found
      dsimp only at found
      rw [global] at found
      split at found
      · cases found
      · exact found
    simp only [rplRuns, Bool.not_true, Bool.false_eq_true, not_true_eq_false, decide_false,
      Bool.or_self, if_false, forall_const]
    exact headersFor_agree_iff wellFormed (runs.lookupRoute_some looked)
  · simp only [rplRuns, not_false_eq_true, decide_true, Bool.or_true, if_true,
      false_implies, iff_true]
    exact
      { firstHop := fun _ _ added => by cases added
        tableRoute := fun _ => rfl
        packetInfo := fun _ added => by cases added }

/-! ### Two discoveries of one target -/

/-- The router of a base DODAG, 2001:db8::5 on interface 1. -/
def discoveringDodag : DodagMembership :=
  { dodagId := 0x20010db8000000000000000000000001#128, rank := 256 }

def discoveringIpv6 : Ipv6L3Protocol :=
  .ofInterfaces
    [{}, { addresses :=
        [{ address := 0xfe800000000000000000000000000005#128, scope := .linkLocal },
         { address := 0x20010db8000000000000000000000005#128, scope := .global }] }]

/-- It has discovered 2001:db8::9 as a source route through 2001:db8::6. -/
def sourceRoutingNode : Node :=
  { inDodag discoveringIpv6 discoveringDodag with
    aodvRoutes := (∅ : ExtTreeMap Ipv6Address AodvRoute).insert
      0x20010db8000000000000000000000009#128
      { hops :=
          [0x20010db8000000000000000000000006#128, 0x20010db8000000000000000000000009#128]
        rreqInstanceId := 0x80
        expire := seconds 1800 } }

/-- And again, as a hop-by-hop route through 2001:db8::7. -/
def contestedNode : Node :=
  { sourceRoutingNode with
    hopByHopRoutes := (∅ : ExtTreeMap Ipv6Address HopByHopRoute).insert
      0x20010db8000000000000000000000009#128
      { instanceId := 0x81
        dodagId := 0x20010db8000000000000000000000005#128
        nextHop := 0x20010db8000000000000000000000007#128
        expire := seconds 1800 } }

/-- The route both nodes take: over the source route, to its first hop. -/
def discoveredSource : RouteSource :=
  .aodv 0x80 [0xfe800000000000000000000000000006#128, 0xfe800000000000000000000000000009#128]

def discoveredRoute : Ipv6Route :=
  { destination := 0x20010db8000000000000000000000009#128
    gateway := 0xfe800000000000000000000000000006#128
    interface := 1
    source := 0x20010db8000000000000000000000005#128 }

theorem inDodag_wellFormed (ipv6 : Ipv6L3Protocol) (dodag : DodagMembership) :
    (inDodag ipv6 dodag).WellFormed where
  keyed key held found := by
    unfold inDodag at found
    rw [OrderedMap.getElem?_insert_eq] at found
    split at found
    · rename_i same
      cases found
      exact same.symm
    · exact absurd found (by simp)
  loopback := by
    change (0 : Nat) ∉ ({1} : ExtTreeSet Nat)
    decide +kernel

/-- The packet goes to the first hop of the source route, with the RPL Packet Information of
the hop-by-hop route and without a Routing Header. -/
theorem contested_not_headersAgree :
    contestedNode.WellFormed ∧
      Ipv6Address.isGlobalUnicast 0x20010db8000000000000000000000009#128 = true ∧
      contestedNode.routeOutput 0x20010db8000000000000000000000009#128 none =
        some (discoveredSource, discoveredRoute) ∧
      ¬HeadersAgree 0x20010db8000000000000000000000009#128 discoveredSource discoveredRoute
        ((contestedNode.afterRouteOutput 0x20010db8000000000000000000000009#128
          none).prepareOutgoingPacket 0x20010db8000000000000000000000009#128 discoveredRoute) := by
  have wellFormed := inDodag_wellFormed discoveringIpv6 discoveringDodag
  refine ⟨⟨wellFormed.keyed, wellFormed.loopback⟩, by decide, by rfl, fun agrees => ?_⟩
  have stamped : ((contestedNode.afterRouteOutput 0x20010db8000000000000000000000009#128
      none).prepareOutgoingPacket 0x20010db8000000000000000000000009#128
      discoveredRoute).packetInfo =
      some { down := true, instanceId := 0x81, senderRank := 128 } := by
    decide +kernel
  exact absurd (agrees.packetInfo _ stamped).1 (by decide)

/-- Without the second discovery they agree. -/
theorem sourceRouting_headersAgree :
    HeadersAgree 0x20010db8000000000000000000000009#128 discoveredSource discoveredRoute
      ((sourceRoutingNode.afterRouteOutput 0x20010db8000000000000000000000009#128
        none).prepareOutgoingPacket 0x20010db8000000000000000000000009#128 discoveredRoute) := by
  have wellFormed := inDodag_wellFormed discoveringIpv6 discoveringDodag
  refine (headersAgree_iff (n := sourceRoutingNode) ⟨wellFormed.keyed, wellFormed.loopback⟩ none
    (by decide) (by rfl)).mpr fun _ => ?_
  have noHopByHop : sourceRoutingNode.findHopByHopRoute
      0x20010db8000000000000000000000009#128 = none := by
    decide +kernel
  have noStoring : (sourceRoutingNode.stampingStoring
      0x20010db8000000000000000000000009#128).isNone = true := by
    decide +kernel
  unfold Uncontested discoveredSource
  rw [noHopByHop, Option.isNone_iff_eq_none.mp noStoring]
  exact fun _ held => nomatch held

end Node

end Rpl
