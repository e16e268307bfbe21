import Rpl.Forwarding
import Rpl.PacketInfoHeader
import Rpl.RouteAgreement
import Rpl.RoutingHeader

/-!
# Relaying a source-routed packet

`RplIpv6ExtensionSourceRouting::Process`: the router a packet is addressed to puts the
next address of the Routing Header in its IPv6 Destination, its own address in the
place of that one, and sends the packet on.  The header is read under whatever
compression its sender chose and written under this module's own.
-/

namespace Rpl

open Std

/-- `Ipv6L3Protocol::DropReason`, as far as `Process` uses it. -/
inductive DropReason
  | malformedHeader
  | routeError
  deriving DecidableEq, Repr

/-- The ICMPv6 errors `Process` answers with. -/
inductive Icmpv6Error
  /-- An erroneous header field, at the given octet of the invoking packet. -/
  | parameterProblem (pointer : Nat)
  | timeExceeded
  deriving DecidableEq, Repr

/-- The octets of an IPv6 header. -/
def ipv6HeaderSize : Nat := 40

/-- What becomes of a packet with a Routing Header. -/
inductive RoutingOutcome
  /-- The packet is where it is going: what comes after the header is processed. -/
  | deliver
  | drop (reason : DropReason) (error : Option Icmpv6Error)
  /-- The packet is sent on over the route, or dropped for want of one. -/
  | resend (route : Option Ipv6Route) (header : Ipv6Header) (packet : List UInt8)
  deriving DecidableEq, Repr

/-- What `Process` gives back. -/
structure RoutingProcessed where
  nextHeader : UInt8
  size : UInt8
  outcome : RoutingOutcome
  deriving DecidableEq, Repr

/-- An address of some interface of the node. -/
def Ipv6L3Protocol.holdsAddress (ipv6 : Ipv6L3Protocol) (address : Ipv6Address) : Bool :=
  ipv6.interfaces.any fun interface => interface.addresses.any fun a => a.address = address

/-- The loop check over the addresses of a Routing Header: one of this router's comes after
another, with a different address in between. -/
def routingLoop (isLocal : Ipv6Address → Bool) : Bool → Bool → List Ipv6Address → Bool
  | _, _, [] => false
  | sawLocal, sawOther, address :: rest =>
    if isLocal address then (sawLocal && sawOther) || routingLoop isLocal true false rest
    else routingLoop isLocal sawLocal (sawLocal || sawOther) rest

namespace Node

/-- `RouteToNeighbour`, within the given membership. -/
def routeToNeighbourIn (n : Node) (dodag : Option DodagMembership)
    (neighbour destination : Ipv6Address) : Option Ipv6Route :=
  let interface :=
    match dodag with
    | some dodag => n.interfaceForNeighbour dodag neighbour
    | none => 0
  n.routeToNeighbourOn (if interface = 0 then n.firstSocket else interface) neighbour destination

/-- The route of a source-routed packet to its next address: within the membership of its
instance, or the base DODAG, or as the node routes packets at large. -/
def relayRoute (n : Node) (ipv6rp : List UInt8 → Ipv6Header → Option Ipv6Route)
    (packet : List UInt8) (resent : List UInt8) (header : Ipv6Header) : Option Ipv6Route :=
  ((readRpiInstanceId packet header).bind fun instanceId =>
    n.routeToNeighbour instanceId header.destination header.destination).or <|
  (n.routeToNeighbourIn n.getBaseDodag header.destination header.destination).or <|
  ipv6rp resent header

/-- The header a router sends on: Segments Left one less, the address it was reached under in
place of the next one. -/
def relayedHeader (srh : RoutingHeader) (index : Nat) (own : Ipv6Address) : RoutingHeader :=
  { srh with segmentsLeft := srh.segmentsLeft - 1, addresses := srh.addresses.set index own }

/-- `RplIpv6ExtensionSourceRouting::Process`. The count of addresses and the index are eight
bits wide. Nothing where the packet ends before the first eight octets of the header, which the
source reads unchecked. -/
def processRouting (n : Node) (ipv6rp : List UInt8 → Ipv6Header → Option Ipv6Route)
    (packet : List UInt8) (offset : Nat) (header : Ipv6Header) : Option RoutingProcessed :=
  (RoutingHeader.deserialize (packet.drop offset)).map fun (srh, consumed) =>
    let finish (srh : RoutingHeader) (outcome : RoutingOutcome) : RoutingProcessed :=
      ⟨srh.nextHeader, UInt8.ofNat srh.serializedSize, outcome⟩
    let nbAddress := UInt8.ofNat srh.addresses.length
    if srh.segmentsLeft = 0 then finish srh .deliver
    else if nbAddress < srh.segmentsLeft then
      finish srh (.drop .malformedHeader (some (.parameterProblem (ipv6HeaderSize + offset + 3))))
    else
      let index := (nbAddress - srh.segmentsLeft).toNat
      let next := srh.addresses.getD index anyAddress
      if next.isMulticast || header.destination.isMulticast then
        finish srh (.drop .malformedHeader none)
      else if routingLoop n.ipv6.holdsAddress false false
          ((srh.addresses.take nbAddress.toNat).eraseIdx index) then
        finish srh (.drop .routeError (some (.parameterProblem (ipv6HeaderSize + offset + 2))))
      else if header.hopLimit ≤ 1 then finish srh (.drop .malformedHeader (some .timeExceeded))
      else
        let relayed := relayedHeader srh index header.destination
        let resent := packet.take offset ++ (relayed.serialize ++ packet.drop (offset + consumed))
        let header :=
          { header with
            destination := next
            hopLimit := header.hopLimit - 1
            payloadLength := UInt16.ofNat resent.length }
        finish relayed (.resend (n.relayRoute ipv6rp packet resent header) header resent)

/-! ## What a relay sends -/

/-- The slot Segments Left points at. -/
def slotOf (srh : RoutingHeader) : Nat := srh.addresses.length - srh.segmentsLeft.toNat

/-- The errors `Process` looks for in a header whose Segments Left is within its addresses: a
multicast address, a loop, a hop limit that has run out. -/
structure Relayable (n : Node) (srh : RoutingHeader) (header : Ipv6Header) : Prop where
  left : srh.segmentsLeft ≠ 0
  within : srh.segmentsLeft.toNat ≤ srh.addresses.length
  nextUnicast : (srh.addresses.getD (slotOf srh) anyAddress).isMulticast = false
  ownUnicast : header.destination.isMulticast = false
  noLoop : routingLoop n.ipv6.holdsAddress false false (srh.addresses.eraseIdx (slotOf srh)) = false
  hopLimit : 1 < header.hopLimit

/-- The packet with another Routing Header in place of the one read. -/
def spliced (packet : List UInt8) (offset consumed : Nat) (octets : List UInt8) : List UInt8 :=
  packet.take offset ++ (octets ++ packet.drop (offset + consumed))

/-- The IPv6 header of the packet a relay sends. -/
def relayedIpv6 (header : Ipv6Header) (next : Ipv6Address) (resent : List UInt8) : Ipv6Header :=
  { header with
    destination := next
    hopLimit := header.hopLimit - 1
    payloadLength := UInt16.ofNat resent.length }

variable {n : Node} {ipv6rp : List UInt8 → Ipv6Header → Option Ipv6Route} {packet : List UInt8}
  {offset consumed : Nat} {header : Ipv6Header} {srh : RoutingHeader}

/-- As long as eight bits count the addresses, the next address takes the Destination and the
Destination takes its slot. -/
theorem processRouting_of_relayable
    (read : RoutingHeader.deserialize (packet.drop offset) = some (srh, consumed))
    (relayable : n.Relayable srh header) (few : srh.addresses.length ≤ 255) :
    let relayed := relayedHeader srh (slotOf srh) header.destination
    let resent := spliced packet offset consumed relayed.serialize
    let sent := relayedIpv6 header (srh.addresses.getD (slotOf srh) anyAddress) resent
    n.processRouting ipv6rp packet offset header = some
      ⟨srh.nextHeader, UInt8.ofNat relayed.serializedSize,
        .resend (n.relayRoute ipv6rp packet resent sent) sent resent⟩ := by
  have counted : (UInt8.ofNat srh.addresses.length).toNat = srh.addresses.length := by
    rw [UInt8.toNat_ofNat']
    exact Nat.mod_eq_of_lt (by omega)
  have enough : ¬UInt8.ofNat srh.addresses.length < srh.segmentsLeft := by
    rw [UInt8.lt_iff_toNat_lt, counted]
    exact Nat.not_lt.mpr relayable.within
  have index : (UInt8.ofNat srh.addresses.length - srh.segmentsLeft).toNat = slotOf srh := by
    rw [UInt8.toNat_sub_of_le _ _ (UInt8.not_lt.mp enough), counted, slotOf]
  have hopLimit : ¬header.hopLimit ≤ 1 := UInt8.not_le.mpr relayable.hopLimit
  simp only [processRouting, read, Option.map_some, if_neg relayable.left, if_neg enough, index,
    relayable.nextUnicast, relayable.ownUnicast, Bool.or_self, Bool.false_eq_true, if_false,
    counted, List.take_length, relayable.noLoop, if_neg hopLimit]
  rfl

/-- A router only sends on the header it rewrote, at the slot it takes Segments Left to point
at. -/
theorem resent_of_processRouting {processed : RoutingProcessed} {route : Option Ipv6Route}
    {sent : Ipv6Header} {resent : List UInt8}
    (read : RoutingHeader.deserialize (packet.drop offset) = some (srh, consumed))
    (process : n.processRouting ipv6rp packet offset header = some processed)
    (resends : processed.outcome = .resend route sent resent) :
    srh.segmentsLeft ≤ UInt8.ofNat srh.addresses.length ∧
      resent = spliced packet offset consumed (relayedHeader srh
        (UInt8.ofNat srh.addresses.length - srh.segmentsLeft).toNat
          header.destination).serialize := by
  simp only [processRouting, read, Option.map_some, Option.some.injEq] at process
  split at process
  · rw [← process] at resends
    cases resends
  split at process
  · rw [← process] at resends
    cases resends
  · next enough =>
    split at process
    · rw [← process] at resends
      cases resends
    split at process
    · rw [← process] at resends
      cases resends
    split at process
    · rw [← process] at resends
      cases resends
    · rw [← process] at resends
      injection resends with _ _ same
      exact ⟨UInt8.not_lt.mp enough, same.symm⟩

end Node

end Rpl
