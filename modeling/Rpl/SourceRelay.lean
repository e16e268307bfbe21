import Rpl.SourceRouting
import Rpl.Step

/-!
# Routing Headers of any sender

A router relays a header written under a compression it would not have chosen.  It
does what is asked of it as long as the header it writes instead still fits Hdr Ext
Len.  At the destination the length of the header is computed as if this module had
written it, and in eight bits.
-/

namespace Rpl

open Std

/-! ## Lengths -/

namespace RoutingHeader

/-- Every address takes at least eight octets. -/
theorem le_serializedSize (srh : RoutingHeader) :
    8 + 8 * srh.addresses.length ≤ srh.serializedSize := by
  have inner := srh.cmprI_le
  have last := srh.cmprE_le
  rw [serializedSize_eq, length_entries]
  cases srh.addresses with
  | nil => exact Nat.le_refl _
  | cons address rest =>
    simp only [List.isEmpty_cons, Bool.false_eq_true, if_false, List.length_cons,
      Nat.add_sub_cancel]
    have each : rest.length * 8 ≤ rest.length * (16 - srh.cmprI) :=
      Nat.mul_le_mul_left _ (by omega)
    omega

/-- Hdr Ext Len of a header on the wire. -/
def hdrExtLen (octets : List UInt8) : UInt8 := octets.getD 1 0

theorem hdrExtLen_serialize (srh : RoutingHeader) (rest : List UInt8) :
    hdrExtLen (srh.serialize ++ rest) = UInt8.ofNat ((srh.serializedSize - 8) / 8) := rfl

/-- The octets of a header on the wire, as its Hdr Ext Len has it. -/
def wireLength (octets : List UInt8) : Nat := ((hdrExtLen octets).toNat + 1) * 8

/-- The length of a header that fits is what its Hdr Ext Len says. -/
theorem wireLength_serialize {srh : RoutingHeader}
    (fits : srh.serializedSize ≤ SourceRoutingHeader.maxSerializedSize) (rest : List UInt8) :
    wireLength (srh.serialize ++ rest) = srh.serializedSize := by
  obtain ⟨units, size⟩ := srh.eight_dvd_serializedSize
  have sized := srh.serializedSize_eq
  rw [SourceRoutingHeader.maxSerializedSize] at fits
  rw [wireLength, hdrExtLen_serialize, UInt8.toNat_ofNat', Nat.mod_eq_of_lt (by omega)]
  omega

end RoutingHeader

/-- The header fits Hdr Ext Len. -/
def RoutingHeader.Fits (srh : RoutingHeader) : Prop :=
  srh.serializedSize ≤ SourceRoutingHeader.maxSerializedSize

theorem RoutingHeader.Fits.few {srh : RoutingHeader} (fits : srh.Fits) :
    srh.addresses.length ≤ 255 := by
  have least := srh.le_serializedSize
  have most : srh.serializedSize ≤ 2048 := fits
  omega

namespace Node

variable {n : Node} {ipv6rp : List UInt8 → Ipv6Header → Option Ipv6Route} {packet : List UInt8}
  {offset consumed : Nat} {header : Ipv6Header} {srh : RoutingHeader}

/-! ## Relaying -/

/-- The router makes the address Segments Left points at the new Destination, and the header it
forwards is read as the old one with that slot taken by the old Destination and Segments Left
one less, its Hdr Ext Len saying how long it is. -/
def RelaysAs (packet : List UInt8) (offset consumed : Nat) (header : Ipv6Header)
    (srh : RoutingHeader) (outcome : RoutingOutcome) : Prop :=
  ∃ route sent octets, outcome = .resend route sent (spliced packet offset consumed octets) ∧
    sent.destination = srh.addresses.getD (slotOf srh) anyAddress ∧
    RoutingHeader.deserialize (octets ++ packet.drop (offset + consumed)) =
      some (relayedHeader srh (slotOf srh) header.destination, octets.length) ∧
    RoutingHeader.wireLength octets = octets.length

/-- Whatever a router sends on has as many addresses as it received, and the header says how
long it is only if it fits. -/
theorem fits_of_relaysAs {processed : RoutingProcessed}
    (read : RoutingHeader.deserialize (packet.drop offset) = some (srh, consumed))
    (process : n.processRouting ipv6rp packet offset header = some processed)
    (relays : RelaysAs packet offset consumed header srh processed.outcome) :
    (relayedHeader srh (slotOf srh) header.destination).Fits := by
  obtain ⟨route, sent, octets, outcome, -, -, length⟩ := relays
  obtain ⟨enough, resent⟩ := resent_of_processRouting read process outcome
  have written := List.append_cancel_right (List.append_cancel_left resent)
  have fits : (relayedHeader srh (UInt8.ofNat srh.addresses.length - srh.segmentsLeft).toNat
      header.destination).Fits := by
    have most := (RoutingHeader.hdrExtLen octets).toNat_lt
    rw [RoutingHeader.Fits, ← RoutingHeader.length_serialize, ← written, ← length,
      SourceRoutingHeader.maxSerializedSize, RoutingHeader.wireLength]
    omega
  have few : srh.addresses.length ≤ 255 := by
    have counted := fits.few
    rwa [relayedHeader, List.length_set] at counted
  have counted : (UInt8.ofNat srh.addresses.length).toNat = srh.addresses.length := by
    rw [UInt8.toNat_ofNat']
    exact Nat.mod_eq_of_lt (by omega)
  rwa [UInt8.toNat_sub_of_le _ _ enough, counted] at fits

theorem relaysAs_of_fits {processed : RoutingProcessed}
    (read : RoutingHeader.deserialize (packet.drop offset) = some (srh, consumed))
    (relayable : n.Relayable srh header)
    (process : n.processRouting ipv6rp packet offset header = some processed)
    (fits : (relayedHeader srh (slotOf srh) header.destination).Fits) :
    RelaysAs packet offset consumed header srh processed.outcome := by
  have few : srh.addresses.length ≤ 255 := by
    have counted := fits.few
    rwa [relayedHeader, List.length_set] at counted
  rw [processRouting_of_relayable read relayable few, Option.some.injEq] at process
  rw [← process]
  refine ⟨_, _, (relayedHeader srh (slotOf srh) header.destination).serialize, rfl, rfl, ?_, ?_⟩
  · rw [RoutingHeader.deserialize_serialize fits, RoutingHeader.length_serialize]
  · have written := RoutingHeader.wireLength_serialize fits []
    rwa [List.append_nil, ← RoutingHeader.length_serialize] at written

/-- A Routing Header with some Segments Left, none more than its addresses, and none of the
errors `Process` looks for, is relayed as it asks exactly if the header with the old
Destination in its slot fits Hdr Ext Len. -/
theorem relaysAs_iff {processed : RoutingProcessed}
    (read : RoutingHeader.deserialize (packet.drop offset) = some (srh, consumed))
    (relayable : n.Relayable srh header)
    (process : n.processRouting ipv6rp packet offset header = some processed) :
    RelaysAs packet offset consumed header srh processed.outcome ↔
      (relayedHeader srh (slotOf srh) header.destination).Fits :=
  ⟨fits_of_relaysAs read process, relaysAs_of_fits read relayable process⟩

/-! ### A destination that does not compress -/

/-- A router of 2001:db8::5. -/
def relayNode : Node :=
  { ipv6 := .ofInterfaces
      [{}, { addresses :=
          [{ address := 0xfe800000000000000000000000000005#128, scope := .linkLocal },
           { address := 0x20010db8000000000000000000000005#128, scope := .global }] }]
    sockets := {1} }

/-- A packet that reaches it under its global address. -/
def relayIpv6 : Ipv6Header :=
  { source := 0x20010db8000000000000000000000001#128
    destination := 0x20010db8000000000000000000000005#128
    nextHeader := 43
    hopLimit := 255 }

/-- A Routing Header with that many link-local addresses, all of them left. -/
def linkLocalHeader (count : Nat) : RoutingHeader :=
  { nextHeader := 17
    segmentsLeft := UInt8.ofNat count
    addresses := List.replicate count 0xfe800000000000000000000000000007#128 }

/-- The packet with that header and nothing after it. -/
def linkLocalPacket (count : Nat) : List UInt8 := (linkLocalHeader count).serialize

theorem read_linkLocalPacket {count : Nat}
    (fits : (linkLocalHeader count).serializedSize ≤ SourceRoutingHeader.maxSerializedSize) :
    RoutingHeader.deserialize ((linkLocalPacket count).drop 0) =
      some (linkLocalHeader count, (linkLocalHeader count).serializedSize) := by
  have read := RoutingHeader.deserialize_serialize fits []
  rwa [List.append_nil] at read

/-- Of three addresses the first gives way to a global one, which still fits. -/
theorem short_relaysAs :
    ∃ processed, relayNode.processRouting (fun _ _ => none) (linkLocalPacket 3) 0 relayIpv6 =
        some processed ∧
      RelaysAs (linkLocalPacket 3) 0 (linkLocalHeader 3).serializedSize relayIpv6
        (linkLocalHeader 3) processed.outcome := by
  have read := @read_linkLocalPacket 3 (by decide +kernel)
  have relayable : relayNode.Relayable (linkLocalHeader 3) relayIpv6 :=
    ⟨by decide, by decide, by decide, by decide, by decide +kernel, by decide⟩
  have process : relayNode.processRouting (fun _ _ => none) (linkLocalPacket 3) 0 relayIpv6 =
      some _ := processRouting_of_relayable read relayable (by decide)
  exact ⟨_, process, (relaysAs_iff read relayable process).mpr (by
    unfold RoutingHeader.Fits
    decide +kernel)⟩

/-- The header of a packet for 130 link-local addresses fits. The router it reaches under a global
address puts that one among them, none is elided any more, and the header is too long. -/
theorem long_not_relaysAs :
    (linkLocalHeader 130).serializedSize ≤ SourceRoutingHeader.maxSerializedSize ∧
      relayNode.Relayable (linkLocalHeader 130) relayIpv6 ∧
      ∃ processed, relayNode.processRouting (fun _ _ => none) (linkLocalPacket 130) 0 relayIpv6 =
          some processed ∧
        ¬RelaysAs (linkLocalPacket 130) 0 (linkLocalHeader 130).serializedSize relayIpv6
          (linkLocalHeader 130) processed.outcome := by
  have fits : (linkLocalHeader 130).serializedSize ≤ SourceRoutingHeader.maxSerializedSize := by
    decide +kernel
  have read := read_linkLocalPacket fits
  have relayable : relayNode.Relayable (linkLocalHeader 130) relayIpv6 :=
    ⟨by decide, by decide +kernel, by decide +kernel, by decide, by decide +kernel, by decide⟩
  have process : relayNode.processRouting (fun _ _ => none) (linkLocalPacket 130) 0 relayIpv6 =
      some _ := processRouting_of_relayable read relayable (by decide +kernel)
  refine ⟨fits, relayable, _, process, fun relays => ?_⟩
  have tooLong : ¬(relayedHeader (linkLocalHeader 130) (slotOf (linkLocalHeader 130))
      relayIpv6.destination).Fits := by
    unfold RoutingHeader.Fits
    decide +kernel
  exact tooLong (fits_of_relaysAs read process relays)

/-! ## Arriving -/

/-- The addresses in units of eight octets: a link-local one takes a unit, any other two, and
all but the last take two as soon as one of them does. -/
def addressUnits (addresses : List Ipv6Address) : Nat :=
  if addresses.isEmpty then 0
  else (addresses.length - 1) * (if addresses.dropLast.all Ipv6Address.isLinkLocal then 1 else 2) +
    (if addresses.getLast?.any Ipv6Address.isLinkLocal then 1 else 2)

theorem serializedSize_eq_units (srh : RoutingHeader) :
    srh.serializedSize = (addressUnits srh.addresses + 1) * 8 := by
  rw [SourceRoutingHeader.serializedSize, addressUnits, SourceRoutingHeader.cmprI,
    SourceRoutingHeader.cmprE]
  cases srh.addresses with
  | nil => rfl
  | cons address rest =>
    cases rest with
    | nil =>
      simp only [List.isEmpty_cons, Bool.false_eq_true, if_false, List.length_singleton,
        Nat.sub_self, Nat.zero_mul]
      split <;> rfl
    | cons next rest =>
      have several : ¬(address :: next :: rest).length < 2 := by simp
      simp only [List.isEmpty_cons, Bool.false_eq_true, if_false, if_neg several]
      split <;> split <;> omega

/-- What comes after the header is delivered, from the octet at which its Hdr Ext Len ends it. -/
def DeliversAfter (octets : List UInt8) (processed : RoutingProcessed) : Prop :=
  processed.outcome = .deliver ∧ processed.size.toNat = RoutingHeader.wireLength octets

/-- At the end of the route the octets after the header are taken for the payload exactly if
the header is at most 248 octets long and its addresses, as this module would write them, take
as many octets as they do, up to a multiple of 256. -/
theorem deliversAfter_iff {processed : RoutingProcessed}
    (read : RoutingHeader.deserialize (packet.drop offset) =
      some (srh, RoutingHeader.wireLength (packet.drop offset)))
    (arrived : srh.segmentsLeft = 0)
    (process : n.processRouting ipv6rp packet offset header = some processed) :
    DeliversAfter (packet.drop offset) processed ↔
      (RoutingHeader.hdrExtLen (packet.drop offset)).toNat ≤ 30 ∧
        addressUnits srh.addresses % 32 = (RoutingHeader.hdrExtLen (packet.drop offset)).toNat := by
  simp only [processRouting, read, Option.map_some, if_pos arrived, Option.some.injEq] at process
  rw [← process, DeliversAfter, RoutingHeader.wireLength]
  have size : (UInt8.ofNat srh.serializedSize).toNat =
      (addressUnits srh.addresses + 1) * 8 % 256 := by
    rw [UInt8.toNat_ofNat', serializedSize_eq_units]
  rw [size]
  have octet := (RoutingHeader.hdrExtLen (packet.drop offset)).toNat_lt
  constructor
  · rintro ⟨-, same⟩
    omega
  · rintro ⟨short, same⟩
    exact ⟨rfl, by omega⟩

/-- A Routing Header that has come all its way over that many link-local addresses. -/
def arrivedHeader (count : Nat) : RoutingHeader := { linkLocalHeader count with segmentsLeft := 0 }

/-- The packet with that header, and a payload. -/
def arrivedPacket (count : Nat) : List UInt8 := (arrivedHeader count).serialize ++ [1, 2, 3]

theorem read_arrivedPacket {count : Nat}
    (fits : (arrivedHeader count).serializedSize ≤ SourceRoutingHeader.maxSerializedSize) :
    RoutingHeader.deserialize ((arrivedPacket count).drop 0) =
      some (arrivedHeader count, RoutingHeader.wireLength ((arrivedPacket count).drop 0)) := by
  rw [List.drop_zero, arrivedPacket, RoutingHeader.wireLength_serialize fits]
  exact RoutingHeader.deserialize_serialize fits _

theorem short_deliversAfter :
    ∃ processed, relayNode.processRouting (fun _ _ => none) (arrivedPacket 3) 0 relayIpv6 =
        some processed ∧
      DeliversAfter ((arrivedPacket 3).drop 0) processed := by
  have read := @read_arrivedPacket 3 (by decide +kernel)
  obtain ⟨processed, process⟩ : ∃ processed,
      relayNode.processRouting (fun _ _ => none) (arrivedPacket 3) 0 relayIpv6 =
        some processed := by
    rw [processRouting, read]
    exact ⟨_, rfl⟩
  exact ⟨processed, process, (deliversAfter_iff read rfl process).mpr (by decide +kernel)⟩

/-- The header of a packet that came over 32 routers is 256 octets long, which is none in eight
bits. -/
theorem long_not_deliversAfter :
    ∃ processed, relayNode.processRouting (fun _ _ => none) (arrivedPacket 31) 0 relayIpv6 =
        some processed ∧
      processed.outcome = .deliver ∧ processed.size = 0 ∧
      ¬DeliversAfter ((arrivedPacket 31).drop 0) processed := by
  have fits : (arrivedHeader 31).serializedSize ≤ SourceRoutingHeader.maxSerializedSize := by
    decide +kernel
  have read := read_arrivedPacket fits
  refine ⟨_, by rw [processRouting, read]; rfl, rfl, by decide +kernel, fun delivers => ?_⟩
  have none : (UInt8.ofNat (arrivedHeader 31).serializedSize).toNat = 0 := by decide +kernel
  have long : RoutingHeader.wireLength ((arrivedPacket 31).drop 0) = 256 := by decide +kernel
  have same := none.symm.trans (delivers.2.trans long)
  exact absurd same (by decide)

end Node

end Rpl
