import Rpl.RouteInput

/-!
# Stamping and looking up hop-by-hop routes

The originator of a packet knows which hop-by-hop route it takes.  The next router has
to tell from the RPL Packet Information and the addresses of the packet: the D flag of
a local instance says whether the DODAGID is the destination, and otherwise it can only
be the source.  So the two agree if the originator is at one end of the route.
-/

namespace Rpl

open Std

/-- The packet is stamped at an end of the route: the route leads to its DODAGID, or the packet
comes from there. Only a local instance, held without its D flag, can say the former. -/
def HopByHopRoute.FromEnd (entry : HopByHopRoute) (source destination : Ipv6Address) : Prop :=
  if entry.instanceId &&& localInstanceFlag ≠ 0 then
    entry.instanceId &&& localInstanceDFlag = 0 ∧
      (entry.dodagId = destination ∨ entry.dodagId = source)
  else entry.dodagId = source

namespace Node

variable {n m : Node} {source destination : Ipv6Address}

/-! ## Instances on the wire -/

/-- A local instance with its D flag set is read as one, and its flag is cleared again. -/
theorem withDFlag_local (instanceId : UInt8) (isLocal : instanceId &&& localInstanceFlag ≠ 0) :
    (instanceId ||| localInstanceDFlag) &&& localInstanceFlag ≠ 0 ∧
      (instanceId ||| localInstanceDFlag) &&& localInstanceDFlag ≠ 0 ∧
      (clearDFlag (instanceId ||| localInstanceDFlag) = instanceId ↔
        instanceId &&& localInstanceDFlag = 0) := by
  have octets : ∀ i : Fin 256, UInt8.ofFin i &&& localInstanceFlag ≠ 0 →
      (UInt8.ofFin i ||| localInstanceDFlag) &&& localInstanceFlag ≠ 0 ∧
        (UInt8.ofFin i ||| localInstanceDFlag) &&& localInstanceDFlag ≠ 0 ∧
        (clearDFlag (UInt8.ofFin i ||| localInstanceDFlag) = UInt8.ofFin i ↔
          UInt8.ofFin i &&& localInstanceDFlag = 0) := by
    decide +kernel
  exact octets instanceId.toFin isLocal

theorem clearDFlag_eq_self (instanceId : UInt8) :
    clearDFlag instanceId = instanceId ↔
      (instanceId &&& localInstanceFlag ≠ 0 → instanceId &&& localInstanceDFlag = 0) := by
  have octets : ∀ i : Fin 256, clearDFlag (UInt8.ofFin i) = UInt8.ofFin i ↔
      (UInt8.ofFin i &&& localInstanceFlag ≠ 0 → UInt8.ofFin i &&& localInstanceDFlag = 0) := by
    decide +kernel
  exact octets instanceId.toFin

/-- What a packet is stamped with stands for the route at the next router exactly if it is
stamped at an end of it. -/
theorem hopByHopKey_hopByHopInfo (entry : HopByHopRoute) :
    hopByHopKey (n.hopByHopInfo destination entry).instanceId source destination =
        ⟨entry.instanceId, entry.dodagId⟩ ↔ entry.FromEnd source destination := by
  unfold hopByHopKey hopByHopInfo HopByHopRoute.FromEnd
  simp only [DodagKey.mk.injEq, ne_eq, decide_not, Bool.not_not, Bool.and_eq_true,
    decide_eq_true_eq, Bool.not_eq_true', decide_eq_false_iff_not]
  by_cases isLocal : entry.instanceId &&& localInstanceFlag = 0
  · -- a global instance has no D flag
    have same := (clearDFlag_eq_self entry.instanceId).mpr fun flag => absurd isLocal flag
    simp only [isLocal, not_true_eq_false, and_false, false_and, if_false, same, true_and]
    exact eq_comm
  · by_cases up : entry.dodagId = destination
    · obtain ⟨stillLocal, flagged, cleared⟩ := withDFlag_local entry.instanceId isLocal
      simp only [isLocal, up, not_false_eq_true, and_self, if_true, stillLocal, flagged, cleared,
        true_or, and_true]
    · have cleared := clearDFlag_eq_self entry.instanceId
      simp only [isLocal, up, not_false_eq_true, false_and, if_false, if_true, true_and, cleared,
        ne_eq, forall_const, false_or]
      refine and_congr_right fun plain => ?_
      rw [plain, if_neg (by simp)]
      exact eq_comm

/-! ## The lookup of the next router -/

/-- The header `Ipv6ExtensionHopByHopHeader` writes around an option: after its first two
octets comes the option. -/
def HopByHopFormat (hopByHopHeader : UInt8 → List UInt8 → List UInt8) : Prop :=
  ∀ nextHeader option, ∃ first second padding,
    hopByHopHeader nextHeader option = first :: second :: (option ++ padding)

/-- A packet as it leaves its originator: its RPL Packet Information in a Hop-by-Hop header,
before what is behind that. -/
def stampedPacket (hopByHopHeader : UInt8 → List UInt8 → List UInt8) (info : PacketInfo)
    (nextHeader : UInt8) (behind : List UInt8) : List UInt8 :=
  hopByHopHeader nextHeader (PacketInfoHeader.ofPacketInfo info).serialize ++ behind

theorem readRpiInstanceId_stampedPacket {hopByHopHeader : UInt8 → List UInt8 → List UInt8}
    (format : HopByHopFormat hopByHopHeader) {header : Ipv6Header}
    (hopByHop : header.nextHeader = nextHeaderHopByHop) (info : PacketInfo) (nextHeader : UInt8)
    (behind : List UInt8) :
    readRpiInstanceId (stampedPacket hopByHopHeader info nextHeader behind) header =
      some info.instanceId := by
  obtain ⟨first, second, padding, written⟩ :=
    format nextHeader (PacketInfoHeader.ofPacketInfo info).serialize
  rw [stampedPacket, written, readRpiInstanceId, List.cons_append, List.cons_append,
    List.append_assoc, readRpi_serialize (PacketInfoHeader.readable_ofPacketInfo info) rfl hopByHop]
  rfl

/-- The entry two routers share is what the next router looks up for a packet the other has
stamped exactly if the packet is stamped at an end of the route. -/
theorem inputEntry_iff_fromEnd {hopByHopHeader : UInt8 → List UInt8 → List UInt8}
    (format : HopByHopFormat hopByHopHeader) (header : Ipv6Header)
    (hopByHop : header.nextHeader = nextHeaderHopByHop) {route : Ipv6Route} {info : PacketInfo}
    {entry other : HopByHopRoute} (held : n.findHopByHopRoute header.destination = some entry)
    (heldNext : m.findHopByHopRoute header.destination = some other)
    (sameInstance : other.instanceId = entry.instanceId) (sameDodag : other.dodagId = entry.dodagId)
    (stamped : (n.prepareOutgoingPacket header.destination route).packetInfo = some info)
    (nextHeader : UInt8) (behind : List UInt8) :
    m.inputEntry (stampedPacket hopByHopHeader info nextHeader behind) header = some other ↔
      entry.FromEnd header.source header.destination := by
  have isInfo : info = n.hopByHopInfo header.destination entry := by
    unfold prepareOutgoingPacket at stamped
    split at stamped
    · cases stamped
    · rw [headersFor, held] at stamped
      exact (Option.some.inj stamped).symm
  rw [inputEntry, readRpiInstanceId_stampedPacket format hopByHop, Option.bind_some, isInfo,
    ← hopByHopKey_hopByHopInfo (n := n) entry, findHopByHopRouteIn, heldNext, Option.filter_some]
  constructor
  · intro found
    split at found
    · next same =>
      simp only [Bool.and_eq_true, decide_eq_true_eq] at same
      rw [← sameInstance, ← sameDodag, same.1, same.2]
    · cases found
  · intro key
    rw [key, sameInstance, sameDodag, if_pos (by simp)]

/-! ## A packet of a router on the way -/

/-- The route to 2001:db8::9 of a discovery by 2001:db8::5. -/
def discoveredEntry : HopByHopRoute :=
  { instanceId := 0x80
    dodagId := 0x20010db8000000000000000000000005#128
    nextHop := 0x20010db8000000000000000000000007#128
    expire := seconds 1800 }

/-- A router at the address that holds it. -/
def onDiscoveredRoute (address : Ipv6Address) : Node :=
  { ipv6 := .ofInterfaces
      [{}, { addresses :=
          [{ address := 0xfe800000000000000000000000000002#128, scope := .linkLocal },
            { address := address, scope := .global }] }]
    sockets := {1}
    hopByHopRoutes := ExtTreeMap.empty.insert 0x20010db8000000000000000000000009#128
      discoveredEntry }

/-- The RPL Packet Information it stamps. -/
def discoveredInfo : PacketInfo :=
  { down := true, instanceId := 0x80, senderRank := minHopRankIncDefault }

/-- A packet for 2001:db8::9. -/
def discoveredHeader (source : Ipv6Address) : Ipv6Header :=
  { source := source
    destination := 0x20010db8000000000000000000000009#128
    nextHeader := nextHeaderHopByHop
    hopLimit := 64 }

/-- The route such a packet takes. -/
def discoveredGateway (source : Ipv6Address) : Ipv6Route :=
  { destination := 0x20010db8000000000000000000000009#128
    gateway := 0xfe800000000000000000000000000007#128
    interface := 1
    source := source }

/-- A Hop-by-Hop header of eight octets. -/
def eightOctets (nextHeader : UInt8) (option : List UInt8) : List UInt8 := nextHeader :: 0 :: option

/-- Where the packet is stamped as one that goes over the route. -/
def Stamps (n : Node) (source : Ipv6Address) : Prop :=
  n.ipv6.isOwnAddress source = true ∧
    n.findHopByHopRoute (discoveredHeader source).destination = some discoveredEntry ∧
    (n.prepareOutgoingPacket (discoveredHeader source).destination
      (discoveredGateway source)).packetInfo = some discoveredInfo

instance (n : Node) (source : Ipv6Address) : Decidable (n.Stamps source) :=
  inferInstanceAs (Decidable (_ ∧ _ ∧ _))

/-- The packet of the router that made the discovery is looked up under the route. -/
theorem discovered_inputEntry :
    (onDiscoveredRoute 0x20010db8000000000000000000000007#128).inputEntry
        (stampedPacket eightOctets discoveredInfo 17 [])
        (discoveredHeader 0x20010db8000000000000000000000005#128) =
      some discoveredEntry := by
  have format : HopByHopFormat eightOctets := fun _ _ =>
    ⟨_, _, [], by rw [eightOctets, List.append_nil]⟩
  have stamps : (onDiscoveredRoute 0x20010db8000000000000000000000005#128).Stamps
      0x20010db8000000000000000000000005#128 := by decide +kernel
  have held : (onDiscoveredRoute 0x20010db8000000000000000000000007#128).findHopByHopRoute
      (discoveredHeader 0x20010db8000000000000000000000005#128).destination =
        some discoveredEntry := by decide +kernel
  have agree := inputEntry_iff_fromEnd format
    (discoveredHeader 0x20010db8000000000000000000000005#128) rfl stamps.2.1 held rfl rfl
    stamps.2.2 17 []
  exact agree.mpr ⟨by decide, .inr rfl⟩

/-- That of a router on the way, 2001:db8::6, is stamped the same and is not: the next router
looks for a DODAG of 2001:db8::6. -/
theorem onTheWay_not_inputEntry :
    (onDiscoveredRoute 0x20010db8000000000000000000000006#128).Stamps
      0x20010db8000000000000000000000006#128 ∧
    (onDiscoveredRoute 0x20010db8000000000000000000000007#128).findHopByHopRoute
        (discoveredHeader 0x20010db8000000000000000000000006#128).destination =
      some discoveredEntry ∧
    (onDiscoveredRoute 0x20010db8000000000000000000000007#128).inputEntry
        (stampedPacket eightOctets discoveredInfo 17 [])
        (discoveredHeader 0x20010db8000000000000000000000006#128) ≠
      some discoveredEntry := by
  refine ⟨by decide +kernel, by decide +kernel, ?_⟩
  have nothing : (onDiscoveredRoute 0x20010db8000000000000000000000007#128).inputEntry
      (stampedPacket eightOctets discoveredInfo 17 [])
      (discoveredHeader 0x20010db8000000000000000000000006#128) = none := by
    decide +kernel
  rw [nothing]
  exact nofun

end Node

end Rpl
