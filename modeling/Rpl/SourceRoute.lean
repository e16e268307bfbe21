import Rpl.HopByHopStamping
import Rpl.SourceRelay

/-!
# A source route from end to end

`PrepareOutgoingPacket` addresses a packet to the first router of its route and lists the
others and the destination in a Routing Header, and every router on the route moves the
packet on by one.  Under way a packet is described by the targets it has visited, the
one it is addressed to and those still ahead: the Routing Header lists the first and
the last of these, and Segments Left counts the last.
-/

namespace Rpl

open Std

/-- `Ipv6Header::IPV6_EXT_ROUTING`. -/
def nextHeaderRouting : UInt8 := 43

namespace Node

/-! ## Building the packet -/

/-- The packet `PrepareOutgoingPacket` makes of a payload, with its IPv6 header: the Routing
Header in front of the payload, the RPL Option in front of that. -/
def outgoingPacket (hopByHopHeader : UInt8 → List UInt8 → List UInt8) (added : AddedHeaders)
    (header : Ipv6Header) (payload : List UInt8) : Ipv6Header × List UInt8 :=
  let (header, innerNextHeader, packet) :=
    match added.sourceRoute with
    | some (first, srh) =>
      ({ header with destination := first }, nextHeaderRouting,
        RoutingHeader.serialize { toSourceRoutingHeader := srh, nextHeader := header.nextHeader } ++
          payload)
    | none => (header, header.nextHeader, payload)
  match added.packetInfo with
  | some info =>
    ({ header with nextHeader := nextHeaderHopByHop },
      stampedPacket hopByHopHeader info innerNextHeader packet)
  | none => ({ header with nextHeader := innerNextHeader }, packet)

/-- The packet leaves its root over the topology of a DODAG: no other lookup of
`PrepareOutgoingPacket` has a route for its destination. -/
structure LeavesOver (root : Node) (route : Ipv6Route) (destination : Ipv6Address)
    (dodag : DodagMembership) (hops : List Ipv6Address) : Prop where
  global : destination.isGlobalUnicast = true
  onSocket : route.interface ∈ root.sockets
  noHopByHop : root.findHopByHopRoute destination = none
  noStoring : root.stampingStoring destination = none
  undiscovered : (root.findAodvRoute destination).or (root.findP2pRoute destination) = none
  found : root.findRootDodagFor destination = some (dodag, hops)

theorem LeavesOver.prepareOutgoingPacket {root : Node} {route : Ipv6Route}
    {destination : Ipv6Address} {dodag : DodagMembership} {hops : List Ipv6Address}
    (leaves : root.LeavesOver route destination dodag hops) :
    root.prepareOutgoingPacket destination route =
      { sourceRoute := sourceRouteOver destination hops
        packetInfo := some (membershipInfo dodag dodag.isRoot) } := by
  rw [Node.prepareOutgoingPacket, if_neg (by simp [leaves.global, leaves.onSocket]), headersFor,
    leaves.noHopByHop, leaves.noStoring, leaves.undiscovered, leaves.found]

/-! ## Relaying it -/

/-- What a router that is a target of the packet sends on. -/
def relaySourceRouted (n : Node) (ipv6rp : List UInt8 → Ipv6Header → Option Ipv6Route)
    (offset : Nat) (datagram : Ipv6Header × List UInt8) : Option (Ipv6Header × List UInt8) :=
  (n.processRouting ipv6rp datagram.2 offset datagram.1).bind fun processed =>
    match processed.outcome with
    | .resend (some _) header packet => some (header, packet)
    | _ => none

/-- The packet after the given routers have relayed it, one after the other. -/
def carried (ipv6rp : Node → List UInt8 → Ipv6Header → Option Ipv6Route) (offset : Nat) :
    List Node → Ipv6Header × List UInt8 → Option (Ipv6Header × List UInt8)
  | [], datagram => some datagram
  | relay :: rest, datagram =>
    (relay.relaySourceRouted (ipv6rp relay) offset datagram).bind (carried ipv6rp offset rest)

/-- A packet under way: addressed to the current target, with the targets visited and those
ahead in its Routing Header, and the given octets in front of that and behind it. -/
structure Underway (before behind : List UInt8) (nextHeader : UInt8) (hopLimit : Nat)
    (visited : List Ipv6Address) (current : Ipv6Address) (ahead : List Ipv6Address)
    (datagram : Ipv6Header × List UInt8) : Prop where
  addressed : datagram.1.destination = current
  hopLimit : datagram.1.hopLimit.toNat = hopLimit
  routed : ∃ octets, datagram.2 = before ++ (octets ++ behind) ∧
    RoutingHeader.deserialize (octets ++ behind) = some
      ({ nextHeader := nextHeader
         segmentsLeft := UInt8.ofNat ahead.length
         addresses := visited ++ ahead }, octets.length)

/-- A router relays for the target it is: it has a started interface, and none of the
addresses of the other targets. -/
structure RelayAt (targets : List Ipv6Address) (own : Ipv6Address) (relay : Node) : Prop where
  runs : relay.RunsRpl
  holds : relay.ipv6.holdsAddress own = true
  only : ∀ target ∈ targets, relay.ipv6.holdsAddress target = true → target = own

/-- The targets of a route a Routing Header can be written for: none comes twice, all but the
last are link-local. -/
structure Routable (targets : List Ipv6Address) : Prop where
  distinct : targets.Nodup
  unicast : ∀ target ∈ targets, target.isMulticast = false
  linkLocal : ∀ target ∈ targets.dropLast, target.isLinkLocal = true
  few : targets.length ≤ 255

/-! ## One relay -/

/-- Addresses of which all but the last are link-local fit a header up to 254 of them. -/
theorem fits_of_linkLocal {srh : RoutingHeader}
    (linkLocal : ∀ address ∈ srh.addresses.dropLast, address.isLinkLocal = true)
    (few : srh.addresses.length ≤ 254) : srh.Fits := by
  have units : addressUnits srh.addresses ≤ srh.addresses.length + 1 := by
    rw [addressUnits, if_pos (List.all_eq_true.mpr linkLocal)]
    cases srh.addresses with
    | nil => exact Nat.zero_le _
    | cons address rest =>
      simp only [List.isEmpty_cons, Bool.false_eq_true, if_false, List.length_cons]
      split
      · omega
      · omega
  rw [RoutingHeader.Fits, serializedSize_eq_units, SourceRoutingHeader.maxSerializedSize]
  omega

/-- More do not if the last is not link-local. -/
theorem few_of_fits {srh : RoutingHeader} (fits : srh.Fits) {last : Ipv6Address}
    (ends : srh.addresses.getLast? = some last) (wide : last.isLinkLocal = false) :
    srh.addresses.length ≤ 254 := by
  rw [RoutingHeader.Fits, serializedSize_eq_units, SourceRoutingHeader.maxSerializedSize,
    addressUnits, ends, Option.any_some, wide] at fits
  have least : srh.addresses.length - 1 ≤ (srh.addresses.length - 1) *
      (if srh.addresses.dropLast.all Ipv6Address.isLinkLocal then 1 else 2) :=
    Nat.le_mul_of_pos_right _ (by split <;> omega)
  split at fits
  · next empty =>
    rw [List.isEmpty_iff] at empty
    rw [empty] at ends
    cases ends
  · simp only [Bool.false_eq_true, if_false] at fits
    omega

/-- Addresses none of which is local are no loop. -/
theorem routingLoop_of_foreign {isLocal : Ipv6Address → Bool} {addresses : List Ipv6Address}
    (foreign : ∀ address ∈ addresses, isLocal address = false) (sawOther : Bool) :
    routingLoop isLocal false sawOther addresses = false := by
  induction addresses generalizing sawOther with
  | nil => rfl
  | cons address rest ih =>
    rw [routingLoop, if_neg (by simp [foreign address List.mem_cons_self])]
    exact ih (fun a mem => foreign a (List.mem_cons_of_mem _ mem)) _

theorem RunsRpl.relayRoute {n : Node} (runs : n.RunsRpl)
    (ipv6rp : List UInt8 → Ipv6Header → Option Ipv6Route) (packet resent : List UInt8)
    (header : Ipv6Header) : ∃ route, n.relayRoute ipv6rp packet resent header = some route := by
  have based : ∃ route, n.routeToNeighbourIn n.getBaseDodag header.destination
      header.destination = some route := by
    unfold routeToNeighbourIn routeToNeighbourOn
    dsimp only
    rw [if_neg (runs.chosenSocket_ne_zero _)]
    exact ⟨_, rfl⟩
  obtain ⟨route, based⟩ := based
  rw [Node.relayRoute, based]
  cases (readRpiInstanceId packet header).bind fun instanceId =>
      n.routeToNeighbour instanceId header.destination header.destination with
  | none => exact ⟨route, rfl⟩
  | some inInstance => exact ⟨inInstance, rfl⟩

variable {n : Node} {ipv6rp : List UInt8 → Ipv6Header → Option Ipv6Route}
  {before behind : List UInt8} {nextHeader : UInt8} {hopLimit : Nat}
  {visited ahead : List Ipv6Address} {own next : Ipv6Address}
  {datagram : Ipv6Header × List UInt8}

/-- The Routing Header of a packet under way. -/
def routedHeader (nextHeader : UInt8) (visited ahead : List Ipv6Address) : RoutingHeader :=
  { nextHeader := nextHeader
    segmentsLeft := UInt8.ofNat ahead.length
    addresses := visited ++ ahead }

/-- The Routing Header of a packet under way fits, whatever the target it is at. -/
theorem Routable.fits (routable : Routable (visited ++ own :: ahead)) :
    (routedHeader nextHeader visited ahead).Fits := by
  apply fits_of_linkLocal
  · intro address mem
    apply routable.linkLocal
    cases ahead with
    | nil =>
      rw [routedHeader, List.append_nil] at mem
      rw [List.dropLast_concat]
      exact List.mem_of_mem_dropLast mem
    | cons next ahead =>
      rw [routedHeader, List.dropLast_append_of_ne_nil (List.cons_ne_nil _ _)] at mem
      rw [List.dropLast_append_of_ne_nil (List.cons_ne_nil _ _), List.dropLast_cons_of_ne_nil
        (List.cons_ne_nil _ _)]
      rcases List.mem_append.mp mem with left | right
      · exact List.mem_append_left _ left
      · exact List.mem_append_right _ (List.mem_cons_of_mem _ right)
  · have few := routable.few
    rw [List.length_append, List.length_cons] at few
    rw [routedHeader, List.length_append]
    omega

/-- The router the packet is addressed to finds nothing wrong with it. -/
theorem RelayAt.relayable (relay : RelayAt (visited ++ own :: next :: ahead) own n)
    (nextHeader : UInt8) (routable : Routable (visited ++ own :: next :: ahead))
    {header : Ipv6Header} (addressed : header.destination = own)
    (hops : 1 < header.hopLimit.toNat) :
    n.Relayable (routedHeader nextHeader visited (next :: ahead)) header ∧
      slotOf (routedHeader nextHeader visited (next :: ahead)) = visited.length := by
  have few := routable.few
  rw [List.length_append, List.length_cons, List.length_cons] at few
  have left : (UInt8.ofNat (next :: ahead).length).toNat = ahead.length + 1 := by
    rw [UInt8.toNat_ofNat', List.length_cons]
    exact Nat.mod_eq_of_lt (by omega)
  have slot : slotOf (routedHeader nextHeader visited (next :: ahead)) = visited.length := by
    rw [slotOf, routedHeader, left, List.length_append, List.length_cons]
    omega
  refine ⟨⟨?_, ?_, ?_, ?_, ?_, ?_⟩, slot⟩
  · intro zero
    have := congrArg UInt8.toNat zero
    rw [routedHeader, left] at this
    exact absurd this (Nat.succ_ne_zero _)
  · rw [routedHeader, left, List.length_append, List.length_cons]
    omega
  · rw [slot, routedHeader, List.getD_append_right _ _ _ _ (Nat.le_refl _), Nat.sub_self,
      List.getD_cons_zero]
    exact routable.unicast next (by simp)
  · rw [addressed]
    exact routable.unicast own (by simp)
  · rw [slot, routedHeader, List.eraseIdx_append_of_length_le (Nat.le_refl _), Nat.sub_self,
      List.eraseIdx_zero, List.tail_cons]
    apply routingLoop_of_foreign
    intro address mem
    -- an address of this router would be its own, which is in the list only once
    refine Bool.eq_false_iff.mpr fun held => ?_
    have apart := List.nodup_middle.mp routable.distinct
    have same : address = own := relay.only address (by grind) held
    rw [List.nodup_cons] at apart
    apply apart.1
    rw [← same]
    grind
  · rw [UInt8.lt_iff_toNat_lt]
    exact hops

/-- Relaying, a router replaces the current target by the next one, and keeps it among those
visited. -/
theorem relayedHeader_routedHeader (few : ahead.length < 255) :
    relayedHeader (routedHeader nextHeader visited (next :: ahead)) visited.length own =
      routedHeader nextHeader (visited ++ [own]) ahead := by
  have one : UInt8.ofNat (next :: ahead).length - 1 = UInt8.ofNat ahead.length := by
    rw [← UInt8.toNat_inj, UInt8.toNat_sub_of_le, UInt8.toNat_ofNat', UInt8.toNat_ofNat',
      List.length_cons, Nat.mod_eq_of_lt (by omega), Nat.mod_eq_of_lt (by omega)]
    · exact Nat.add_sub_cancel _ _
    · rw [UInt8.le_iff_toNat_le, UInt8.toNat_ofNat', List.length_cons,
        Nat.mod_eq_of_lt (by omega)]
      exact Nat.le_add_left _ _
  simp only [relayedHeader, routedHeader, one, List.set_append_right _ _ (Nat.le_refl _),
    Nat.sub_self, List.set_cons_zero, List.append_assoc, List.singleton_append]

/-- A packet is moved on by one target, between the same octets. -/
theorem Underway.relaySourceRouted
    (under : Underway before behind nextHeader (hopLimit + 1) visited own (next :: ahead) datagram)
    (relay : RelayAt (visited ++ own :: next :: ahead) own n)
    (routable : Routable (visited ++ own :: next :: ahead)) (hops : 0 < hopLimit) :
    ∃ sent, n.relaySourceRouted ipv6rp before.length datagram = some sent ∧
      Underway before behind nextHeader hopLimit (visited ++ [own]) next ahead sent := by
  obtain ⟨header, packet⟩ := datagram
  obtain ⟨octets, packed, read⟩ := under.routed
  change packet = _ at packed
  subst packed
  have lives : header.hopLimit.toNat = hopLimit + 1 := under.hopLimit
  have addressed : header.destination = own := under.addressed
  obtain ⟨relayable, slot⟩ := relay.relayable nextHeader routable addressed (by omega)
  have few := routable.few
  rw [List.length_append, List.length_cons, List.length_cons] at few
  have counted : (routedHeader nextHeader visited (next :: ahead)).addresses.length ≤ 255 := by
    rw [routedHeader, List.length_append, List.length_cons]
    omega
  have found : RoutingHeader.deserialize ((before ++ (octets ++ behind)).drop before.length) =
      some (routedHeader nextHeader visited (next :: ahead), octets.length) := by
    rw [List.drop_left]
    exact read
  have process := @processRouting_of_relayable n ipv6rp _ _ _ _ _ found relayable counted
  have reached : (routedHeader nextHeader visited (next :: ahead)).addresses.getD visited.length
      anyAddress = next := by
    rw [routedHeader, List.getD_append_right _ _ _ _ (Nat.le_refl _), Nat.sub_self,
      List.getD_cons_zero]
  dsimp only at process
  rw [slot, addressed, relayedHeader_routedHeader (by omega), reached] at process
  generalize isResent : spliced (before ++ (octets ++ behind)) before.length octets.length
    (routedHeader nextHeader (visited ++ [own]) ahead).serialize = resent at process
  obtain ⟨route, routed⟩ := relay.runs.relayRoute ipv6rp (before ++ (octets ++ behind)) resent
    (relayedIpv6 header next resent)
  rw [routed] at process
  refine ⟨(relayedIpv6 header next resent, resent), by rw [Node.relaySourceRouted, process]; rfl,
    rfl, ?_,
    (routedHeader nextHeader (visited ++ [own]) ahead).serialize, ?_, ?_⟩
  · change (header.hopLimit - 1).toNat = hopLimit
    rw [UInt8.toNat_sub_of_le _ _ (by rw [UInt8.le_iff_toNat_le, lives]; exact Nat.le_add_left _ _),
      lives]
    exact Nat.add_sub_cancel _ _
  · rw [← isResent, spliced, List.take_left, ← List.drop_drop, List.drop_left, List.drop_left]
  · have again : Routable ((visited ++ [own]) ++ next :: ahead) := by
      rw [List.append_assoc]
      exact routable
    rw [RoutingHeader.deserialize_serialize again.fits, RoutingHeader.length_serialize]
    rfl

/-! ## The whole route -/

/-- Relay after relay, the packet comes to every target on its way: the relays it passes are
those for the targets before it. -/
theorem Underway.carried {ipv6rp : Node → List UInt8 → Ipv6Header → Option Ipv6Route}
    {passed : List Ipv6Address} {relays : List Node}
    (relayed : List.Forall₂ (RelayAt (visited ++ passed ++ own :: ahead)) passed relays)
    (routable : Routable (visited ++ passed ++ own :: ahead))
    {first : Ipv6Address} {rest : List Ipv6Address}
    (starts : passed ++ own :: ahead = first :: rest)
    (under : Underway before behind nextHeader (hopLimit + passed.length) visited first rest
      datagram)
    (hops : 0 < hopLimit) :
    ∃ sent, carried ipv6rp before.length relays datagram = some sent ∧
      Underway before behind nextHeader hopLimit (visited ++ passed) own ahead sent := by
  induction passed generalizing visited relays first rest datagram with
  | nil =>
    cases relayed
    rw [List.nil_append, List.cons.injEq] at starts
    rw [← starts.1, ← starts.2] at under
    rw [List.append_nil]
    exact ⟨datagram, rfl, under⟩
  | cons target passed ih =>
    cases relayed with
    | cons relay relayed =>
      rw [List.cons_append, List.cons.injEq] at starts
      obtain ⟨rfl, rfl⟩ := starts
      obtain ⟨next, ahead', starts⟩ : ∃ next ahead', passed ++ own :: ahead = next :: ahead' := by
        cases passed with
        | nil => exact ⟨_, _, rfl⟩
        | cons => exact ⟨_, _, rfl⟩
      have split : visited ++ target :: passed ++ own :: ahead =
          visited ++ target :: next :: ahead' := by
        rw [List.append_assoc, List.cons_append, starts]
      have regrouped : visited ++ target :: passed = (visited ++ [target]) ++ passed := by
        rw [List.append_assoc, List.singleton_append]
      rw [starts, List.length_cons, ← Nat.add_assoc] at under
      rw [split] at relay routable
      obtain ⟨sent, sends, under⟩ := under.relaySourceRouted relay routable (by omega)
      rw [← split] at routable
      rw [regrouped] at relayed routable ⊢
      obtain ⟨last, carries, under⟩ := ih relayed routable starts under
      exact ⟨last, by rw [Node.carried, sends]; exact carries, under⟩

/-- The addresses a packet goes to: those of the routers but the last, which is reached under
the destination itself. -/
def targetsOf (hops : List Ipv6Address) (destination : Ipv6Address) : List Ipv6Address :=
  hops.dropLast ++ [destination]

/-- A Routing Header can say the route: at most 255 addresses, in at most 2048 octets. -/
def RouteFits (hops : List Ipv6Address) (destination : Ipv6Address) : Prop :=
  hops.length - 1 ≤ 255 ∧
    ({ segmentsLeft := UInt8.ofNat (hops.length - 1)
       addresses := (targetsOf hops destination).tail } : SourceRoutingHeader).serializedSize ≤
      SourceRoutingHeader.maxSerializedSize

theorem unicast_of_linkLocal {address : Ipv6Address} (linkLocal : address.isLinkLocal = true) :
    address.isMulticast = false := by
  have half := of_decide_eq_true linkLocal
  refine decide_eq_false fun multicast => ?_
  have octet : address.extractLsb' 120 8 = (address.extractLsb' 64 64).extractLsb' 56 8 := by
    ext bit inside
    simp only [BitVec.getElem_extractLsb', BitVec.getLsbD_extractLsb']
    rw [decide_eq_true (by omega), Bool.true_and, ← Nat.add_assoc]
  rw [octet, half] at multicast
  exact absurd multicast (by decide)

section Route

variable {hops : List Ipv6Address} {destination : Ipv6Address}

/-- The targets of a route that fits can be routed over. -/
theorem RouteFits.routable (fits : RouteFits hops destination) (several : 2 ≤ hops.length)
    (linkLocal : ∀ hop ∈ hops, hop.isLinkLocal = true) (distinct : hops.Nodup)
    (global : destination.isGlobalUnicast = true) : Routable (targetsOf hops destination) := by
  rw [Ipv6Address.isGlobalUnicast, Bool.and_eq_true, Bool.not_eq_true', Bool.not_eq_true']
    at global
  have kept : ∀ hop ∈ hops.dropLast, hop.isLinkLocal = true := fun hop mem =>
    linkLocal hop (List.mem_of_mem_dropLast mem)
  refine ⟨?_, ?_, ?_, ?_⟩
  · refine List.nodup_append.mpr ⟨distinct.sublist (List.dropLast_sublist _), by simp, ?_⟩
    intro hop mem other last same
    rw [List.mem_singleton.mp last] at same
    rw [← same, kept hop mem] at global
    exact absurd global.2 (by simp)
  · intro target mem
    rcases List.mem_append.mp mem with hop | last
    · exact unicast_of_linkLocal (kept target hop)
    · rw [List.mem_singleton.mp last]
      exact global.1
  · rw [targetsOf, List.dropLast_concat]
    exact kept
  · have listed : (targetsOf hops destination).tail.length = hops.length - 1 := by
      rw [targetsOf, List.length_tail, List.length_append, List.length_dropLast,
        List.length_singleton]
      omega
    have ends : (targetsOf hops destination).tail.getLast? = some destination := by
      rw [targetsOf, List.tail_append_of_ne_nil, List.getLast?_append]
      · rfl
      · intro empty
        have := congrArg List.length empty
        rw [List.length_dropLast, List.length_nil] at this
        omega
    have few : (targetsOf hops destination).tail.length ≤ 254 :=
      @few_of_fits { segmentsLeft := _, addresses := _, nextHeader := 0 } fits.2 _ ends global.2
    rw [targetsOf, List.length_append, List.length_dropLast, List.length_singleton]
    omega

/-- The packet of a root is under way to the first target, with all others ahead. -/
theorem LeavesOver.underway {root : Node} {route : Ipv6Route} {header : Ipv6Header}
    {dodag : DodagMembership}
    (leaves : root.LeavesOver route header.destination dodag hops)
    (fits : RouteFits hops header.destination) (several : 2 ≤ hops.length)
    (routable : Routable (targetsOf hops header.destination))
    {first : Ipv6Address} {rest : List Ipv6Address}
    (starts : targetsOf hops header.destination = first :: rest)
    (hopByHopHeader : UInt8 → List UInt8 → List UInt8) (payload : List UInt8) :
    Underway
      (hopByHopHeader nextHeaderRouting
        (PacketInfoHeader.ofPacketInfo (membershipInfo dodag dodag.isRoot)).serialize)
      payload header.nextHeader header.hopLimit.toNat [] first rest
      (outgoingPacket hopByHopHeader (root.prepareOutgoingPacket header.destination route) header
        payload) := by
  match hops with
  | hop :: second :: more =>
    rw [targetsOf, List.dropLast_cons_of_ne_nil (List.cons_ne_nil _ _), List.cons_append,
      List.cons.injEq] at starts
    obtain ⟨rfl, rfl⟩ := starts
    have listed :
        (more.length + 1) = ((second :: more).dropLast ++ [header.destination]).length := by
      rw [List.length_append, List.length_dropLast, List.length_cons, List.length_singleton]
      rfl
    have written : sourceRouteOver header.destination (hop :: second :: more) = some
        (hop, (routedHeader header.nextHeader []
          ((second :: more).dropLast ++ [header.destination])).toSourceRoutingHeader) := by
      rw [sourceRouteOver]
      refine (if_pos ⟨?_, ?_⟩).trans rfl
      · rw [← listed]
        exact fits.1
      · exact fits.2
    rw [leaves.prepareOutgoingPacket, written]
    refine ⟨rfl, rfl, RoutingHeader.serialize (routedHeader header.nextHeader []
      ((second :: more).dropLast ++ [header.destination])), rfl, ?_⟩
    have whole : Routable ([] ++ hop :: ((second :: more).dropLast ++ [header.destination])) :=
      routable
    rw [RoutingHeader.deserialize_serialize whole.fits, RoutingHeader.length_serialize]
    rfl

end Route

/-- A packet that leaves a root over a route of two routers or more comes to every target of
the route in turn, relayed by the routers before it, with Segments Left counting the targets
ahead and the targets visited in their places in the Routing Header. The octets before and
behind that header are those the root wrote. -/
theorem carried_target {root : Node} {route : Ipv6Route} {header : Ipv6Header}
    {dodag : DodagMembership} {hops : List Ipv6Address} {relays : List Node}
    (leaves : root.LeavesOver route header.destination dodag hops)
    (several : 2 ≤ hops.length) (linkLocal : ∀ hop ∈ hops, hop.isLinkLocal = true)
    (distinct : hops.Nodup) (fits : RouteFits hops header.destination)
    (lives : hops.length < header.hopLimit.toNat)
    (relayed : List.Forall₂ (RelayAt (targetsOf hops header.destination)) hops.dropLast relays)
    (ipv6rp : Node → List UInt8 → Ipv6Header → Option Ipv6Route)
    (hopByHopHeader : UInt8 → List UInt8 → List UInt8) (payload : List UInt8)
    (visited : List Ipv6Address) (current : Ipv6Address) (ahead : List Ipv6Address)
    (here : targetsOf hops header.destination = visited ++ current :: ahead) :
    let before := hopByHopHeader nextHeaderRouting
      (PacketInfoHeader.ofPacketInfo (membershipInfo dodag dodag.isRoot)).serialize
    ∃ datagram,
      carried ipv6rp before.length (relays.take visited.length)
        (outgoingPacket hopByHopHeader (root.prepareOutgoingPacket header.destination route)
          header payload) = some datagram ∧
      Underway before payload header.nextHeader (header.hopLimit.toNat - visited.length)
        visited current ahead datagram := by
  intro before
  have routable := fits.routable several linkLocal distinct leaves.global
  have shorter : visited.length ≤ hops.dropLast.length := by
    have length := congrArg List.length here
    rw [targetsOf, List.length_append, List.length_append, List.length_singleton,
      List.length_cons] at length
    omega
  have passed : hops.dropLast.take visited.length = visited := by
    have := congrArg (List.take visited.length) here
    rwa [targetsOf, List.take_append_of_le_length shorter, List.take_left] at this
  have passing : List.Forall₂ (RelayAt (visited ++ current :: ahead)) visited
      (relays.take visited.length) := by
    have := List.forall₂_take visited.length relayed
    rwa [passed, here] at this
  obtain ⟨first, rest, starts⟩ : ∃ first rest, visited ++ current :: ahead = first :: rest := by
    cases visited with
    | nil => exact ⟨_, _, rfl⟩
    | cons => exact ⟨_, _, rfl⟩
  have under := leaves.underway fits several routable (here.trans starts) hopByHopHeader payload
  have few : visited.length < header.hopLimit.toNat := by
    rw [List.length_dropLast] at shorter
    omega
  have enough : header.hopLimit.toNat =
      header.hopLimit.toNat - visited.length + visited.length := by omega
  rw [here] at routable
  rw [enough] at under
  exact Underway.carried passing routable starts under (by omega)

/-! ### A route of two routers -/

/-- A root that has heard of 2001:db8::7, and of 2001:db8::9 under it. -/
def twoHopDodag : DodagMembership :=
  { dodagId := 0x20010db8000000000000000000000001#128
    isRoot := true
    mop := mopNonStoring
    rank := 128
    topology := (∅ : ExtTreeMap Ipv6Address TopologyEntry)
      |>.insert 0x20010db8000000000000000000000007#128
        { parent := 0x20010db8000000000000000000000001#128, expire := timeMax }
      |>.insert 0x20010db8000000000000000000000009#128
        { parent := 0x20010db8000000000000000000000007#128, expire := timeMax } }

def twoHopRoot : Node := inDodag leafIpv6 twoHopDodag

/-- The router 2001:db8::7. -/
def twoHopRelay : Node :=
  { ipv6 := .ofInterfaces
      [{}, { addresses :=
          [{ address := 0xfe800000000000000000000000000007#128, scope := .linkLocal }] }]
    sockets := {1} }

def twoHopHeader : Ipv6Header :=
  { source := 0x20010db8000000000000000000000001#128
    destination := 0x20010db8000000000000000000000009#128
    nextHeader := 17
    hopLimit := 64 }

def twoHopRoute : Ipv6Route :=
  { destination := 0x20010db8000000000000000000000009#128
    gateway := 0xfe800000000000000000000000000007#128
    interface := 1
    source := 0x20010db8000000000000000000000001#128 }

/-- Its packet comes to 2001:db8::9 with the relay in the place of the destination. -/
theorem twoHop_carried :
    ∃ before datagram,
      carried (fun _ _ _ => none) before [twoHopRelay]
        (outgoingPacket eightOctets
          (twoHopRoot.prepareOutgoingPacket twoHopHeader.destination twoHopRoute) twoHopHeader
          [1, 2, 3]) = some datagram ∧
      datagram.1.destination = 0x20010db8000000000000000000000009#128 := by
  have hops : (twoHopRoot.findRootDodagFor twoHopHeader.destination).map Prod.snd =
      some [0xfe800000000000000000000000000007#128, 0xfe800000000000000000000000000009#128] := by
    decide +kernel
  obtain ⟨⟨dodag, _⟩, found, rfl⟩ := Option.map_eq_some_iff.mp hops
  have leaves : twoHopRoot.LeavesOver twoHopRoute twoHopHeader.destination dodag
      [0xfe800000000000000000000000000007#128, 0xfe800000000000000000000000000009#128] :=
    ⟨by decide, by decide +kernel, by decide +kernel,
      Option.isNone_iff_eq_none.mp (by decide +kernel), by decide +kernel, found⟩
  have relay : RelayAt
      [0xfe800000000000000000000000000007#128, 0x20010db8000000000000000000000009#128]
      0xfe800000000000000000000000000007#128 twoHopRelay := by
    refine ⟨⟨⟨1, by decide +kernel⟩, by decide +kernel⟩, by decide +kernel, ?_⟩
    intro target mem held
    rcases List.mem_cons.mp mem with own | last
    · exact own
    · rw [List.mem_singleton.mp last] at held
      exact absurd held (by decide +kernel)
  obtain ⟨datagram, carries, under⟩ := carried_target leaves (by decide)
    (List.all_eq_true.mp (by decide +kernel)) (by decide +kernel)
    (by unfold RouteFits; decide +kernel) (by decide) (.cons relay .nil) (fun _ _ _ => none)
    eightOctets [1, 2, 3] [0xfe800000000000000000000000000007#128] twoHopHeader.destination [] rfl
  exact ⟨_, datagram, carries, under.addressed⟩

end Node

end Rpl
