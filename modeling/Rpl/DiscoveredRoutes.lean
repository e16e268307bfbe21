import Rpl.AskedRoutes
import Rpl.SourceRoute

/-!
# Where discovered routes end

A route by AODV-RPL or P2P-RPL is stored with its routers in order under the address it is
for.  Whatever messages have come in, the last of the routers is the node at that address, so
the source route that `PrepareOutgoingPacket` writes for it loses nothing by naming the
destination itself in its last place.
-/

namespace Rpl

open Std

namespace Node

/-- Every source route that a discovery has stored ends at the node it is stored for. -/
structure RoutesEnd (n : Node) : Prop where
  aodv : ∀ (target : Ipv6Address) (route : AodvRoute), n.aodvRoutes[target]? = some route →
    route.hops.getLast? = some target
  p2p : ∀ (target : Ipv6Address) (route : P2pRoute), n.p2pRoutes[target]? = some route →
    route.hops.getLast? = some target

variable {n m : Node} {e : Event} {key : DodagKey} {target : Ipv6Address}

namespace RoutesEnd

theorem of_tables (ends : n.RoutesEnd) (aodvRoutes : m.aodvRoutes = n.aodvRoutes)
    (p2pRoutes : m.p2pRoutes = n.p2pRoutes) : m.RoutesEnd :=
  ⟨by rw [aodvRoutes]; exact ends.aodv, by rw [p2pRoutes]; exact ends.p2p⟩

theorem of_routeTables (ends : n.RoutesEnd) (same : m.routeTables = n.routeTables) :
    m.RoutesEnd :=
  ends.of_tables (congrArg RouteTables.aodv same) (congrArg RouteTables.p2p same)

theorem of_stakes (ends : n.RoutesEnd) (same : m.stakes = n.stakes) : m.RoutesEnd :=
  ends.of_tables (congrArg Stakes.aodvRoutes same) (congrArg Stakes.p2pRoutes same)

theorem insertAodv (ends : n.RoutesEnd) {route : AodvRoute}
    (last : route.hops.getLast? = some target) :
    { n with aodvRoutes := n.aodvRoutes.insert target route }.RoutesEnd := by
  refine ⟨fun other found held => ?_, ends.p2p⟩
  rw [OrderedMap.getElem?_insert_eq] at held
  split at held
  · next same =>
    cases held
    rw [same]
    exact last
  · exact ends.aodv other found held

theorem insertP2p (ends : n.RoutesEnd) {route : P2pRoute}
    (last : route.hops.getLast? = some target) :
    { n with p2pRoutes := n.p2pRoutes.insert target route }.RoutesEnd := by
  refine ⟨ends.aodv, fun other found held => ?_⟩
  rw [OrderedMap.getElem?_insert_eq] at held
  split at held
  · next same =>
    cases held
    rw [same]
    exact last
  · exact ends.p2p other found held

/-! ## Replies -/

theorem storeHopByHopRoute (ends : n.RoutesEnd) (key : DodagKey)
    (destination nextHop : Ipv6Address) (lifetime : Time) (seqNo : Option UInt8)
    (pinNextHop : Bool) :
    (n.storeHopByHopRoute key destination nextHop lifetime seqNo pinNextHop).2.RoutesEnd :=
  ends.of_stakes (n.stakes_storeHopByHopRoute key destination nextHop lifetime seqNo pinNextHop)

theorem completeAodvRoute (ends : n.RoutesEnd) (dio : DioHeader) (rreqInstanceId : UInt8) :
    (n.completeAodvRoute dio rreqInstanceId).RoutesEnd := by
  unfold Node.completeAodvRoute
  split
  · exact ends
  · next last => exact ends.insertAodv last

/-- An RREP by unicast keeps it. -/
theorem handleAodvRrep (ends : n.RoutesEnd) (dio : DioHeader) (sender : Ipv6Address) :
    (n.handleAodvRrep dio sender).RoutesEnd := by
  unfold Node.handleAodvRrep
  extract_lets rrep rreqKey targNode
  split
  · exact ends
  · split
    · exact ends
    · split
      · exact ends
      · have stores : ∀ after : Bool × Node,
            after = (if rrep.hopByHop then
              n.storeHopByHopRoute rreqKey targNode sender n.attributes.routeLifetime
                (some dio.getArt.destSeqNo) true
            else (true, n)) → after.2.RoutesEnd := by
          rintro _ rfl
          split
          · exact ends.storeHopByHopRoute ..
          · exact ends
        split
        next stored after isStored =>
        replace ends : after.RoutesEnd := stores _ isStored.symm
        split
        · exact ends
        · split
          · split
            · exact ends.of_routeTables (routeTables_modifyAodv ..)
            · split
              · exact ends
              · exact (ends.completeAodvRoute dio _).of_routeTables (routeTables_modifyAodv ..)
          · split
            · exact ends
            · exact ends.of_routeTables ((routeTables_sendAodvTo ..).trans
                (routeTables_modifyAodv ..))

theorem completeAsymmetricRoute (ends : n.RoutesEnd) (key : DodagKey) :
    (n.completeAsymmetricRoute key).RoutesEnd := by
  unfold Node.completeAsymmetricRoute
  split
  · exact ends
  · exact ends.insertAodv (List.getLast?_concat ..)

theorem extendVector (ends : n.RoutesEnd) (key : DodagKey) (addressVector : List Ipv6Address) :
    (n.extendVector key addressVector).2.RoutesEnd := by
  unfold Node.extendVector
  split
  · exact ends
  · dsimp only
    split
    · exact ends
    · split
      · exact ends.of_routeTables (routeTables_leaveDodag ..)
      · exact ends.of_routeTables (routeTables_modifyAodv ..)

/-- A DIO of an RREP-Instance keeps it. -/
theorem handleAodvRrepInstance (ends : n.RoutesEnd) (dio : DioHeader) (sender : Ipv6Address) :
    (n.handleAodvRrepInstance dio sender).RoutesEnd := by
  unfold Node.handleAodvRrepInstance
  extract_lets key rrep lifted
  replace ends : lifted.RoutesEnd := ends.of_routeTables rfl
  split
  · exact ends
  · split
    · exact ends
    · next dodag _ _ =>
      extract_lets aodv armed
      replace ends : armed.RoutesEnd := ends.of_routeTables
        ((routeTables_armAodvExpiry ..).trans (routeTables_modifyAodv ..))
      split
      · have kept := ends.storeHopByHopRoute ⟨aodv.pairedInstanceId, aodv.origNode⟩ key.dodagId
          dodag.preferredParent armed.attributes.routeLifetime (some aodv.origSeqNo) false
        split
        · exact ends
        · next after accepted =>
          rw [accepted] at kept
          exact kept.of_routeTables (routeTables_armAodvExpiry ..)
      · have extended := ends.extendVector key rrep.addressVector
        generalize armed.extendVector key rrep.addressVector = result at extended ⊢
        obtain ⟨goesOn, result⟩ := result
        dsimp only at extended ⊢
        split
        · exact extended
        · have rearmed := extended.of_routeTables (routeTables_armAodvExpiry result key)
          split
          · exact rearmed.completeAsymmetricRoute key
          · exact rearmed

theorem storeP2pRoute (ends : n.RoutesEnd) (key : DodagKey) (dodag : DodagMembership)
    (rdo : P2pRdoOption) : (n.storeP2pRoute key dodag rdo).RoutesEnd := by
  unfold Node.storeP2pRoute
  extract_lets hops shorterHeld stored
  have kept : stored.RoutesEnd := by
    unfold stored
    split
    · exact ends
    · exact ends.insertP2p (List.getLast?_concat ..)
  exact kept.of_routeTables (routeTables_modifyDodag ..)

theorem acknowledgeP2pDro (ends : n.RoutesEnd) (dro : P2pDroHeader) (target : Ipv6Address) :
    (n.acknowledgeP2pDro dro target).RoutesEnd := by
  unfold Node.acknowledgeP2pDro
  split
  · obtain ⟨sent, emits⟩ := n.sendRplMessageUnicast_emits (.p2pDroAck
      { instanceId := dro.instanceId, sequence := dro.sequence, dodagId := dro.dodagId }) target
    rw [emits]
    exact ends.of_routeTables (routeTables_emit ..)
  · exact ends

theorem completeP2pRoute (ends : n.RoutesEnd) (key : DodagKey) (dodag : DodagMembership)
    (dro : P2pDroHeader) (rdo : P2pRdoOption) :
    (n.completeP2pRoute key dodag dro rdo).RoutesEnd := by
  unfold Node.completeP2pRoute
  split
  · extract_lets nextHop
    have kept := ends.storeHopByHopRoute key rdo.target nextHop n.attributes.routeLifetime none
      true
    split
    · exact ends
    · next accepted =>
      rw [accepted] at kept
      exact kept.acknowledgeP2pDro dro rdo.target
  · exact (ends.storeP2pRoute key dodag rdo).acknowledgeP2pDro dro rdo.target

/-- A P2P-DRO keeps it. -/
theorem handleP2pDro (ends : n.RoutesEnd) (dro : P2pDroHeader) :
    (n.handleP2pDro dro).RoutesEnd := by
  have records (m : Node) (key : DodagKey) (kept : m.RoutesEnd) :
      (m.recordP2pStop key dro.stop).RoutesEnd := kept.of_routeTables (routeTables_modifyDodag ..)
  unfold Node.handleP2pDro
  dsimp only
  split
  · split
    · exact ends
    · split
      · split
        · exact ends
        · exact records _ _ (ends.completeP2pRoute ..)
      · exact records _ _ (ends.of_stakes (n.stakes_relayP2pDro ..))
  · exact ends

/-! ## Runs -/

/-- The message that gives an AODV-RPL route keeps it. -/
theorem apply_of_givesAodvRoute (ends : n.RoutesEnd) {s : Stakes}
    (gives : n.GivesAodvRoute e s target) : (n.apply e).RoutesEnd := by
  cases gives with
  | @reply dio heard _ _ event unicast kept rrep =>
    rw [event, Node.apply, recvRpl]
    split
    · exact ends
    · rw [handleDio, kept, if_neg Bool.false_ne_true, rrep, unicast]
      exact ends.handleAodvRrep dio heard.sender
  | @rrepInstance dio heard takes rrep =>
    cases handles : n.beforeDiscovery dio heard with
    | none =>
      have entered : n.enterVersion dio heard.interface = none := Option.map_eq_none_iff.mp handles
      rw [takes.apply_eq, entered]
      exact ends
    | some m =>
      obtain ⟨entered, enters, isBefore⟩ := Option.map_eq_some_iff.mp handles
      have sameTables : m.routeTables = n.routeTables := by
        rw [← isBefore, routeTables_selectAfterDio, routeTables_updateParent,
          routeTables_enterVersion enters]
      replace ends := ends.of_routeTables sameTables
      rw [takes.apply_eq_handleDiscovery handles]
      cases holds : m.holds dio.key with
      | false =>
        have skipped : m.handleDiscovery dio heard = m := by
          simp only [handleDiscovery, holds, Bool.and_false, Bool.false_eq_true, if_false]
        rw [skipped]
        exact ends
      | true =>
        rw [handleDiscovery_of_rrep takes rrep holds]
        exact ends.handleAodvRrepInstance dio heard.sender

theorem apply_of_givesP2pRoute (ends : n.RoutesEnd) (gives : n.GivesP2pRoute e target) :
    (n.apply e).RoutesEnd := by
  cases gives with
  | dro event =>
    rw [event, Node.apply, recvRpl]
    split
    · exact ends
    · exact ends.handleP2pDro _

/-- A step keeps it: a route that it leaves alone ends where it did, and what gives another is
one of the three messages. -/
theorem apply (ends : n.RoutesEnd) (enabled : n.Enabled e) : (n.apply e).RoutesEnd := by
  constructor
  · intro target route held
    by_cases same : (n.apply e).aodvRoutes[target]? = n.aodvRoutes[target]?
    · rw [same] at held
      exact ends.aodv target route held
    · obtain ⟨s, gives⟩ := givesAodvRoute_of_changed enabled same
      exact (ends.apply_of_givesAodvRoute gives).aodv target route held
  · intro target route held
    by_cases same : (n.apply e).p2pRoutes[target]? = n.p2pRoutes[target]?
    · rw [same] at held
      exact ends.p2p target route held
    · exact (ends.apply_of_givesP2pRoute (givesP2pRoute_of_changed enabled same)).p2p target route
        held

theorem of_initial (initial : n.Initial) : n.RoutesEnd := by
  constructor
  · intro target route held
    rw [initial.aodvRoutes] at held
    cases held
  · intro target route held
    rw [initial.p2pRoutes] at held
    cases held

theorem of_reachable (reachable : nodeSystem.Reachable n) : n.RoutesEnd :=
  reachable.invariant (I := RoutesEnd) (fun _ => of_initial)
    fun _ _ ends enabled _ => ends.apply enabled

end RoutesEnd

/-! ## Lookups -/

/-- A discovered route that a lookup gives goes over the link-local addresses of its routers,
the last of which is the destination's. -/
theorem RoutesEnd.last_of_found (ends : n.RoutesEnd) {destination : Ipv6Address}
    {instanceId : UInt8} {hops : List Ipv6Address}
    (found : (n.findAodvRoute destination).or (n.findP2pRoute destination) =
      some (instanceId, hops)) :
    hops.getLast? = some (linkLocalOf destination) ∧ ∀ hop ∈ hops, hop.isLinkLocal = true := by
  rcases Option.or_eq_some_iff.mp found with aodv | ⟨-, p2p⟩
  · refine ⟨?_, findAodvRoute_linkLocal _ _ aodv⟩
    obtain ⟨route, live, same⟩ := Option.map_eq_some_iff.mp aodv
    cases same
    rw [List.getLast?_map, ends.aodv _ _ (Option.filter_eq_some_iff.mp live).1]
    rfl
  · refine ⟨?_, findP2pRoute_linkLocal _ _ p2p⟩
    obtain ⟨route, live, same⟩ := Option.map_eq_some_iff.mp p2p
    cases same
    rw [List.getLast?_map, ends.p2p _ _ (Option.filter_eq_some_iff.mp live).1]
    rfl

/-- `RouteOutput` takes a discovered route to its first router. -/
theorem RunsRpl.lookupRoute_of_found (runs : n.RunsRpl) (ends : n.RoutesEnd)
    {destination : Ipv6Address} {instanceId : UInt8} {hops : List Ipv6Address}
    (found : (n.findAodvRoute destination).or (n.findP2pRoute destination) =
      some (instanceId, hops)) :
    ∃ source route, n.lookupRoute destination = some (source, route) ∧
      hops.head? = some route.gateway := by
  obtain ⟨last, linkLocal⟩ := ends.last_of_found found
  cases hops with
  | nil => cases last
  | cons first rest =>
    obtain ⟨route, routed, gateway⟩ := runs.routeToNeighbour instanceId first destination
    have taken (source : UInt8 → List Ipv6Address → RouteSource) :
        n.routeOver destination source (some (instanceId, first :: rest)) =
          some (source instanceId (first :: rest), route) := by
      rw [routeOver, routed]
      rfl
    have starts : some first = some route.gateway :=
      congrArg some (gateway (linkLocal first List.mem_cons_self)).symm
    rcases Option.or_eq_some_iff.mp found with aodv | ⟨noAodv, p2p⟩
    · refine ⟨.aodv instanceId (first :: rest), route, ?_, starts⟩
      rw [lookupRoute, lookupDiscovered, aodv, taken]
      rfl
    · refine ⟨.p2p instanceId (first :: rest), route, ?_, starts⟩
      rw [lookupRoute, lookupDiscovered, noAodv, p2p, taken]
      rfl

/-! ## A packet over a discovered route -/

/-- A discovered route is live for the destination, and neither a hop-by-hop route nor a
downward route of the base DODAG comes before it in `PrepareOutgoingPacket`. -/
structure GoesDiscovered (n : Node) (destination : Ipv6Address) (hops : List Ipv6Address) :
    Prop where
  global : destination.isGlobalUnicast = true
  noHopByHop : n.findHopByHopRoute destination = none
  noStoring : n.stampingStoring destination = none
  found : ∃ instanceId, (n.findAodvRoute destination).or (n.findP2pRoute destination) =
    some (instanceId, hops)

theorem GoesDiscovered.prepareOutgoingPacket {destination : Ipv6Address}
    {hops : List Ipv6Address} (goes : n.GoesDiscovered destination hops) {route : Ipv6Route}
    (onSocket : route.interface ∈ n.sockets) :
    n.prepareOutgoingPacket destination route =
      { sourceRoute := sourceRouteOver destination hops } := by
  obtain ⟨instanceId, found⟩ := goes.found
  rw [Node.prepareOutgoingPacket, if_neg (by simp [goes.global, onSocket]), headersFor,
    goes.noHopByHop, goes.noStoring, found]

/-- The packet has nothing in front of its Routing Header, which starts at the first router. -/
theorem GoesDiscovered.underway {header : Ipv6Header} {first second : Ipv6Address}
    {rest : List Ipv6Address}
    (goes : n.GoesDiscovered header.destination (first :: second :: rest))
    {route : Ipv6Route} (onSocket : route.interface ∈ n.sockets)
    (fits : RouteFits (first :: second :: rest) header.destination)
    (routable : Routable (targetsOf (first :: second :: rest) header.destination))
    (hopByHopHeader : UInt8 → List UInt8 → List UInt8) (payload : List UInt8) :
    Underway [] payload header.nextHeader header.hopLimit.toNat [] first
      (targetsOf (second :: rest) header.destination)
      (outgoingPacket hopByHopHeader (n.prepareOutgoingPacket header.destination route) header
        payload) := by
  have listed : rest.length + 1 = (targetsOf (second :: rest) header.destination).length := by
    rw [targetsOf, List.length_append, List.length_dropLast, List.length_cons,
      List.length_singleton]
    rfl
  have written : sourceRouteOver header.destination (first :: second :: rest) = some
      (first, (routedHeader header.nextHeader []
        (targetsOf (second :: rest) header.destination)).toSourceRoutingHeader) := by
    rw [sourceRouteOver]
    refine (if_pos ⟨?_, ?_⟩).trans rfl
    · change (targetsOf (second :: rest) header.destination).length ≤ 255
      rw [← listed]
      exact fits.1
    · exact fits.2
  rw [goes.prepareOutgoingPacket onSocket, written]
  refine ⟨rfl, rfl, RoutingHeader.serialize (routedHeader header.nextHeader []
    (targetsOf (second :: rest) header.destination)), rfl, ?_⟩
  have whole : Routable ([] ++ first :: targetsOf (second :: rest) header.destination) := routable
  rw [RoutingHeader.deserialize_serialize whole.fits, RoutingHeader.length_serialize]
  rfl

/-- Relayed by each of the recorded routers but the last, the packet comes to its destination
with its payload. -/
theorem GoesDiscovered.carried (ends : n.RoutesEnd) {header : Ipv6Header}
    {hops : List Ipv6Address} (goes : n.GoesDiscovered header.destination hops)
    (distinct : hops.Nodup) (fits : RouteFits hops header.destination)
    (lives : hops.length < header.hopLimit.toNat) {relays : List Node}
    (relayed : List.Forall₂ (RelayAt (targetsOf hops header.destination)) hops.dropLast relays)
    {route : Ipv6Route} (onSocket : route.interface ∈ n.sockets)
    (ipv6rp : Node → List UInt8 → Ipv6Header → Option Ipv6Route)
    (hopByHopHeader : UInt8 → List UInt8 → List UInt8) (payload : List UInt8) :
    ∃ arrived octets,
      Node.carried ipv6rp 0 relays
        (outgoingPacket hopByHopHeader (n.prepareOutgoingPacket header.destination route)
          header payload) = some (arrived, octets ++ payload) ∧
      arrived.destination = header.destination := by
  obtain ⟨instanceId, found⟩ := goes.found
  obtain ⟨last, linkLocal⟩ := ends.last_of_found found
  match hops with
  | [only] =>
    cases relayed
    refine ⟨header, [], ?_, rfl⟩
    rw [goes.prepareOutgoingPacket onSocket]
    rfl
  | first :: second :: rest =>
    have routable := fits.routable (Nat.le_add_left 2 rest.length) linkLocal distinct goes.global
    have under := goes.underway onSocket fits routable hopByHopHeader payload
    have length : (first :: second :: rest).dropLast.length + 1 =
        (first :: second :: rest).length := by
      rw [List.length_dropLast]
      rfl
    have enough : header.hopLimit.toNat = header.hopLimit.toNat -
        (first :: second :: rest).dropLast.length + (first :: second :: rest).dropLast.length := by
      omega
    rw [enough] at under
    have passing : List.Forall₂ (RelayAt ([] ++ (first :: second :: rest).dropLast ++
        header.destination :: [])) (first :: second :: rest).dropLast relays := relayed
    obtain ⟨arrived, carries, there⟩ := @Underway.carried _ _ _ _ _ _ _ _ ipv6rp _ _ passing
      routable _ _ rfl under (by omega)
    obtain ⟨octets, behind, -⟩ := there.routed
    exact ⟨arrived.1, octets, carries.trans (congrArg some (Prod.ext rfl behind)),
      there.addressed⟩

/-- In every reachable state, every route that a discovery has stored ends at the node it is
stored for.  So `RouteOutput` takes every such route that is live to its first router, and a
packet to which nothing else applies comes to its destination with its payload once each of the
routers but the last has relayed it. -/
theorem discovered_carried (reachable : nodeSystem.Reachable n) :
    ((∀ (target : Ipv6Address) (route : AodvRoute), n.aodvRoutes[target]? = some route →
        route.hops.getLast? = some target) ∧
      ∀ (target : Ipv6Address) (route : P2pRoute), n.p2pRoutes[target]? = some route →
        route.hops.getLast? = some target) ∧
    (n.RunsRpl → ∀ (destination : Ipv6Address) (instanceId : UInt8) (hops : List Ipv6Address),
      (n.findAodvRoute destination).or (n.findP2pRoute destination) = some (instanceId, hops) →
      destination.isGlobalUnicast = true → ∀ oif : Option Nat, n.outputInterface oif ≠ 0 →
        ∃ source route, n.routeOutput destination oif = some (source, route) ∧
          hops.head? = some route.gateway) ∧
    ∀ (header : Ipv6Header) (hops : List Ipv6Address),
      n.GoesDiscovered header.destination hops → hops.Nodup →
      RouteFits hops header.destination → hops.length < header.hopLimit.toNat →
      ∀ relays : List Node,
        List.Forall₂ (RelayAt (targetsOf hops header.destination)) hops.dropLast relays →
        ∀ (oif : Option Nat) (source : RouteSource) (route : Ipv6Route),
          n.routeOutput header.destination oif = some (source, route) →
          route.interface ∈ n.sockets →
          ∀ (ipv6rp : Node → List UInt8 → Ipv6Header → Option Ipv6Route)
            (hopByHopHeader : UInt8 → List UInt8 → List UInt8) (payload : List UInt8),
            ∃ arrived octets,
              carried ipv6rp 0 relays
                (outgoingPacket hopByHopHeader
                  (n.prepareOutgoingPacket header.destination route) header payload) =
                some (arrived, octets ++ payload) ∧
              arrived.destination = header.destination := by
  have ends := RoutesEnd.of_reachable reachable
  refine ⟨⟨ends.aodv, ends.p2p⟩, ?_, ?_⟩
  · intro runs destination instanceId hops found global oif bound
    obtain ⟨source, route, looked, starts⟩ := runs.lookupRoute_of_found ends found
    refine ⟨source, route, ?_, starts⟩
    rw [routeOutput, if_neg bound, global]
    exact looked
  · intro header hops goes distinct fits lives relays relayed oif source route _ onSocket ipv6rp
      hopByHopHeader payload
    exact goes.carried ends distinct fits lives relayed onSocket ipv6rp hopByHopHeader payload

/-! ### An OrigNode that has been answered -/

/-- The OrigNode with its route over 2001:db8::5. -/
def answered5 : Node := seeking.apply soughtReply

def soughtHeader : Ipv6Header :=
  { source := 0x20010db8000000000000000000000001#128
    destination := 0x20010db8000000000000000000000009#128
    nextHeader := 17
    hopLimit := 64 }

/-- The router at 2001:db8::5. -/
def soughtRelay : Node :=
  { ipv6 := .ofInterfaces
      [{}, { addresses :=
          [{ address := 0xfe800000000000000000000000000005#128, scope := .linkLocal }] }]
    sockets := {1} }

/-- Its route ends with 2001:db8::9, and its packet goes to the router and over it. -/
theorem soughtRelay_carries :
    (∀ route, answered5.aodvRoutes[soughtHeader.destination]? = some route →
      route.hops.getLast? = some soughtHeader.destination) ∧
    ∃ source route arrived octets,
      answered5.routeOutput soughtHeader.destination none = some (source, route) ∧
        route.gateway = 0xfe800000000000000000000000000005#128 ∧
        carried (fun _ _ _ => none) 0 [soughtRelay]
          (outgoingPacket eightOctets
            (answered5.prepareOutgoingPacket soughtHeader.destination route) soughtHeader
            [1, 2, 3]) = some (arrived, octets ++ [1, 2, 3]) ∧
        arrived.destination = soughtHeader.destination := by
  have reachable : nodeSystem.Reachable answered5 :=
    run_apply seeking_reachable (by change 1 ∈ seeking.sockets; decide +kernel) trivial
  have goes : answered5.GoesDiscovered soughtHeader.destination
      [0xfe800000000000000000000000000005#128, 0xfe800000000000000000000000000009#128] :=
    ⟨by decide, by decide +kernel, Option.isNone_iff_eq_none.mp (by decide +kernel), 0x80,
      by decide +kernel⟩
  have relay : RelayAt
      [0xfe800000000000000000000000000005#128, 0x20010db8000000000000000000000009#128]
      0xfe800000000000000000000000000005#128 soughtRelay := by
    refine ⟨⟨⟨1, by decide +kernel⟩, by decide +kernel⟩, by decide +kernel, ?_⟩
    intro target mem held
    rcases List.mem_cons.mp mem with own | last
    · exact own
    · rw [List.mem_singleton.mp last] at held
      exact absurd held (by decide +kernel)
  obtain ⟨instanceId, found⟩ := goes.found
  obtain ⟨⟨aodv, -⟩, starts, carries⟩ := discovered_carried reachable
  obtain ⟨source, route, routed, first⟩ := starts ⟨⟨1, by decide +kernel⟩, by decide +kernel⟩
    soughtHeader.destination instanceId _ found goes.global none (by decide +kernel)
  have onSocket : (answered5.routeOutput soughtHeader.destination none).all
      (fun found => found.2.interface ∈ answered5.sockets) = true := by decide +kernel
  rw [routed, Option.all_some, decide_eq_true_eq] at onSocket
  obtain ⟨arrived, octets, carries, addressed⟩ := carries soughtHeader _ goes
    (by decide +kernel) (by unfold RouteFits; decide +kernel) (by decide) [soughtRelay]
    (.cons relay .nil) none source route routed onSocket (fun _ _ _ => none) eightOctets [1, 2, 3]
  exact ⟨aodv _, source, route, arrived, octets, routed, (Option.some.inj first).symm, carries,
    addressed⟩

end Node

end Rpl
