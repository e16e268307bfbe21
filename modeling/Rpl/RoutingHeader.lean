import Rpl.DaoCodec

/-!
# The Source Routing Header on the wire

`Serialize` and `Deserialize` of `RplSourceRoutingHeader`.  Eight octets are followed
by the addresses, the first octets of which are elided: as many from every address
but the last, and as many from the last, as the header says.  What is written is
read back, provided its length fits the eight bits of Hdr Ext Len.
-/

namespace Rpl

/-- `RplSourceRoutingHeader` with the fields every Routing Header has. -/
structure RoutingHeader extends SourceRoutingHeader where
  nextHeader : UInt8
  typeRouting : UInt8 := 3
  deriving DecidableEq, Repr

/-- The octets of fe80::/64, the one prefix that is elided. -/
def linkLocalPrefix : List UInt8 := [0xfe, 0x80, 0, 0, 0, 0, 0, 0]

/-- An address from what is on the wire of it: the elided octets are those of the link-local
prefix, and 0 past it. -/
def expandAddress (elided : Nat) (octets : List UInt8) : Ipv6Address :=
  addressOf (linkLocalPrefix.take (min elided 8) ++ List.replicate (elided - 8) 0 ++ octets)

namespace RoutingHeader

/-! ## Writing -/

/-- The addresses on the wire. -/
def entries (cmprI cmprE : Nat) : List Ipv6Address → List UInt8
  | [] => []
  | [last] => (addressOctets last).drop cmprE
  | address :: next :: rest =>
    (addressOctets address).drop cmprI ++ entries cmprI cmprE (next :: rest)

/-- `Serialize`. A length that does not fit Hdr Ext Len, which the source only asserts against,
is cut down to eight bits. -/
def serialize (srh : RoutingHeader) : List UInt8 :=
  [srh.nextHeader, UInt8.ofNat ((srh.serializedSize - 8) / 8), srh.typeRouting, srh.segmentsLeft,
    UInt8.ofNat srh.cmprI <<< 4 ||| UInt8.ofNat srh.cmprE, 0, 0, 0] ++
    entries srh.cmprI srh.cmprE srh.addresses

/-! ## Reading -/

/-- Addresses from the wire, the given number of them. -/
def readEntries (cmprI cmprE : Nat) : Nat → List UInt8 → List Ipv6Address
  | 0, _ => []
  | 1, octets => [expandAddress cmprE (octets.take (16 - cmprE))]
  | n + 2, octets =>
    expandAddress cmprI (octets.take (16 - cmprI)) ::
      readEntries cmprI cmprE (n + 1) (octets.drop (16 - cmprI))

/-- How many addresses there are in so many octets. -/
def entryCount (cmprI cmprE addressBytes : Nat) : Nat :=
  if 16 - cmprE ≤ addressBytes then (addressBytes - (16 - cmprE)) / (16 - cmprI) + 1 else 0

/-- `Deserialize`, with the number of octets it takes: what Hdr Ext Len says, or what there is
if that is less. Nothing where not even the first eight octets are there, which the source
reads unchecked. -/
def deserialize : List UInt8 → Option (RoutingHeader × Nat)
  | nextHeader :: hdrExtLen :: typeRouting :: segmentsLeft :: cmpr :: pad :: _ :: _ :: rest =>
    let cmprI := (cmpr >>> 4).toNat
    let cmprE := (cmpr &&& 0x0f).toNat
    let declaredSize := min ((hdrExtLen.toNat + 1) * 8) (8 + rest.length)
    let addressBytes := declaredSize - 8 - (pad >>> 4).toNat
    some
      ({ nextHeader := nextHeader
         typeRouting := typeRouting
         segmentsLeft := segmentsLeft
         addresses := readEntries cmprI cmprE (entryCount cmprI cmprE addressBytes) rest },
        declaredSize)
  | _ => none

/-! ## The round trip -/

theorem length_entries (cmprI cmprE : Nat) (addresses : List Ipv6Address) :
    (entries cmprI cmprE addresses).length =
      if addresses.isEmpty then 0 else (addresses.length - 1) * (16 - cmprI) + (16 - cmprE) := by
  induction addresses with
  | nil => rfl
  | cons address rest ih =>
    cases rest with
    | nil => simp [entries]
    | cons next rest =>
      rw [entries, List.length_append, ih, List.length_drop, length_addressOctets]
      simp only [List.isEmpty_cons, Bool.false_eq_true, if_false, List.length_cons,
        Nat.add_sub_cancel]
      rw [Nat.succ_mul]
      omega

/-- The first half of a link-local address is the prefix that is elided. -/
theorem addressOctets_of_linkLocal {address : Ipv6Address}
    (linkLocal : address.isLinkLocal = true) :
    addressOctets address = linkLocalPrefix ++ (addressOctets address).drop 8 := by
  have half : address.toNat / 256 ^ 8 = 0xfe80000000000000 := by
    have same := congrArg BitVec.toNat (of_decide_eq_true linkLocal)
    rw [BitVec.extractLsb'_toNat, Nat.shiftRight_eq_div_pow] at same
    have below : address.toNat / 2 ^ 64 < 2 ^ 64 := by
      have := address.isLt
      omega
    rw [Nat.mod_eq_of_lt below] at same
    exact same
  have split := Octets.bigEndian_add 8 8 address.toNat
  rw [half] at split
  have spelled : Octets.bigEndian 8 0xfe80000000000000 = linkLocalPrefix := by decide
  rw [spelled] at split
  rw [addressOctets, split]
  rfl

/-- What is elided is put back: nothing, or the link-local prefix. -/
theorem expandAddress_drop {address : Ipv6Address} {elided : Nat}
    (known : elided = 0 ∨ elided = 8 ∧ address.isLinkLocal = true) :
    expandAddress elided ((addressOctets address).drop elided) = address := by
  rcases known with rfl | ⟨rfl, linkLocal⟩
  · have kept : linkLocalPrefix.take (min 0 8) ++ List.replicate (0 - 8) 0 = [] := rfl
    rw [expandAddress, kept, List.nil_append, List.drop_zero, addressOf_addressOctets]
  · have kept : linkLocalPrefix.take (min 8 8) ++ List.replicate (8 - 8) 0 = linkLocalPrefix := rfl
    rw [expandAddress, kept, ← addressOctets_of_linkLocal linkLocal, addressOf_addressOctets]

/-- The octets that may be elided from the addresses. -/
structure Elides (cmprI cmprE : Nat) (addresses : List Ipv6Address) : Prop where
  inner : cmprI = 0 ∨ cmprI = 8 ∧ ∀ address ∈ addresses.dropLast, address.isLinkLocal = true
  last : cmprE = 0 ∨ cmprE = 8 ∧ ∀ address ∈ addresses.getLast?, address.isLinkLocal = true

theorem readEntries_entries {cmprI cmprE : Nat} {addresses : List Ipv6Address}
    (elides : Elides cmprI cmprE addresses) (rest : List UInt8) :
    readEntries cmprI cmprE addresses.length (entries cmprI cmprE addresses ++ rest) =
      addresses := by
  induction addresses with
  | nil => rfl
  | cons address tail ih =>
    cases tail with
    | nil =>
      have width : ((addressOctets address).drop cmprE).length = 16 - cmprE := by simp
      have known : cmprE = 0 ∨ cmprE = 8 ∧ address.isLinkLocal = true :=
        elides.last.imp_right fun known => ⟨known.1, known.2 address rfl⟩
      rw [entries, List.length_singleton, readEntries, ← width, List.take_left,
        expandAddress_drop known]
    | cons next tail =>
      have width : ((addressOctets address).drop cmprI).length = 16 - cmprI := by simp
      have inner : Elides cmprI cmprE (next :: tail) :=
        ⟨elides.inner.imp_right fun known => ⟨known.1, fun a mem =>
            known.2 a (List.mem_cons_of_mem _ mem)⟩,
          elides.last.imp_right fun known => ⟨known.1, fun a mem =>
            known.2 a (by rwa [List.getLast?_cons_cons])⟩⟩
      have known : cmprI = 0 ∨ cmprI = 8 ∧ address.isLinkLocal = true :=
        elides.inner.imp_right fun known => ⟨known.1, known.2 address List.mem_cons_self⟩
      rw [entries, List.length_cons, List.length_cons, readEntries, List.append_assoc, ← width,
        List.take_left, List.drop_left, ← List.length_cons, ih inner, expandAddress_drop known]

/-- What a header elides can be put back. -/
theorem elides (srh : RoutingHeader) : Elides srh.cmprI srh.cmprE srh.addresses := by
  constructor
  · unfold SourceRoutingHeader.cmprI
    split
    · exact .inl rfl
    split
    · next all => exact .inr ⟨rfl, List.all_eq_true.mp all⟩
    · exact .inl rfl
  · unfold SourceRoutingHeader.cmprE
    split
    · next all => exact .inr ⟨rfl, fun address mem => by rwa [mem, Option.any_some] at all⟩
    · exact .inl rfl

theorem cmprI_le (srh : RoutingHeader) : srh.cmprI ≤ 8 := by
  rcases srh.elides.inner with zero | ⟨eight, -⟩
  · omega
  · omega

theorem cmprE_le (srh : RoutingHeader) : srh.cmprE ≤ 8 := by
  rcases srh.elides.last with zero | ⟨eight, -⟩
  · omega
  · omega

/-- The two nibbles of the octet that says what is elided. -/
theorem compression_nibbles (srh : RoutingHeader) :
    ((UInt8.ofNat srh.cmprI <<< 4 ||| UInt8.ofNat srh.cmprE) >>> 4).toNat = srh.cmprI ∧
      ((UInt8.ofNat srh.cmprI <<< 4 ||| UInt8.ofNat srh.cmprE) &&& 0x0f).toNat = srh.cmprE := by
  rcases srh.elides.inner with inner | ⟨inner, -⟩
  · rcases srh.elides.last with last | ⟨last, -⟩
    · rw [inner, last]
      decide
    · rw [inner, last]
      decide
  · rcases srh.elides.last with last | ⟨last, -⟩
    · rw [inner, last]
      decide
    · rw [inner, last]
      decide

theorem serializedSize_eq (srh : RoutingHeader) :
    srh.serializedSize = 8 + (entries srh.cmprI srh.cmprE srh.addresses).length := by
  rw [SourceRoutingHeader.serializedSize, length_entries]
  split
  · rfl
  · rw [Nat.add_assoc]

theorem length_serialize (srh : RoutingHeader) : srh.serialize.length = srh.serializedSize := by
  rw [serialize, List.length_append, serializedSize_eq]
  rfl

/-- The length of a header is a multiple of eight octets. -/
theorem eight_dvd_serializedSize (srh : RoutingHeader) : 8 ∣ srh.serializedSize := by
  have inner : 8 ∣ 16 - srh.cmprI := by
    rcases srh.elides.inner with zero | ⟨eight, -⟩
    · rw [zero]
      decide
    · rw [eight]
  have last : 8 ∣ 16 - srh.cmprE := by
    rcases srh.elides.last with zero | ⟨eight, -⟩
    · rw [zero]
      decide
    · rw [eight]
  rw [SourceRoutingHeader.serializedSize]
  split
  · decide
  · exact Nat.dvd_add (Nat.dvd_add (by decide) (Dvd.dvd.mul_left inner _)) last

/-- As many addresses fit their octets as there are. -/
theorem entryCount_length {cmprI cmprE : Nat} (inner : cmprI ≤ 8) (last : cmprE ≤ 8)
    (addresses : List Ipv6Address) :
    entryCount cmprI cmprE (entries cmprI cmprE addresses).length = addresses.length := by
  rw [length_entries, entryCount]
  cases addresses with
  | nil => exact if_neg (by simp; omega)
  | cons address rest =>
    simp only [List.isEmpty_cons, Bool.false_eq_true, if_false, List.length_cons,
      Nat.add_sub_cancel]
    rw [if_pos (by omega), Nat.mul_div_cancel _ (by omega)]

/-- A header that fits Hdr Ext Len is read back, whatever follows it. -/
theorem deserialize_serialize {srh : RoutingHeader}
    (fits : srh.serializedSize ≤ SourceRoutingHeader.maxSerializedSize) (rest : List UInt8) :
    deserialize (srh.serialize ++ rest) = some (srh, srh.serializedSize) := by
  obtain ⟨nibbleI, nibbleE⟩ := srh.compression_nibbles
  obtain ⟨units, size⟩ := srh.eight_dvd_serializedSize
  rw [SourceRoutingHeader.maxSerializedSize] at fits
  have sized := srh.serializedSize_eq
  have declared : (UInt8.ofNat ((srh.serializedSize - 8) / 8)).toNat =
      (srh.serializedSize - 8) / 8 := by
    rw [UInt8.toNat_ofNat']
    exact Nat.mod_eq_of_lt (by omega)
  have all : min (((srh.serializedSize - 8) / 8 + 1) * 8)
      (8 + (entries srh.cmprI srh.cmprE srh.addresses ++ rest).length) = srh.serializedSize := by
    rw [List.length_append]
    omega
  have addressBytes : srh.serializedSize - 8 - ((0 : UInt8) >>> 4).toNat =
      (entries srh.cmprI srh.cmprE srh.addresses).length := by
    have zero : ((0 : UInt8) >>> 4).toNat = 0 := by decide
    omega
  simp only [serialize, List.cons_append, List.nil_append, deserialize, nibbleI, nibbleE, declared,
    all, addressBytes, entryCount_length srh.cmprI_le srh.cmprE_le,
    readEntries_entries srh.elides]

/-- Hdr Ext Len counts the units of eight octets past the first eight. -/
theorem hdrExtLen_describes {srh : RoutingHeader}
    (fits : srh.serializedSize ≤ SourceRoutingHeader.maxSerializedSize) :
    ∃ hdrExtLen, srh.serialize[1]? = some hdrExtLen ∧
      (hdrExtLen.toNat + 1) * 8 = srh.serializedSize := by
  refine ⟨_, rfl, ?_⟩
  obtain ⟨units, size⟩ := srh.eight_dvd_serializedSize
  rw [SourceRoutingHeader.maxSerializedSize] at fits
  have least : 8 ≤ srh.serializedSize := by
    rw [serializedSize_eq]
    omega
  rw [UInt8.toNat_ofNat', Nat.mod_eq_of_lt (by omega)]
  omega

/-- A header that fits Hdr Ext Len is read back with the addresses and Segments Left it was
written with, whatever follows it, and Hdr Ext Len describes the octets that are written. -/
theorem routingHeader_roundTrip (srh : RoutingHeader)
    (fits : srh.serializedSize ≤ SourceRoutingHeader.maxSerializedSize) (rest : List UInt8) :
    deserialize (srh.serialize ++ rest) = some (srh, srh.serializedSize) ∧
      srh.serialize.length = srh.serializedSize ∧
      ∃ hdrExtLen, srh.serialize[1]? = some hdrExtLen ∧
        (hdrExtLen.toNat + 1) * 8 = srh.serializedSize :=
  ⟨deserialize_serialize fits rest, srh.length_serialize, hdrExtLen_describes fits⟩

/-- Two link-local hops and a destination outside the prefix. -/
def mixedHops : RoutingHeader :=
  { nextHeader := 17
    segmentsLeft := 2
    addresses :=
      [0xfe800000000000000000000000000002#128, 0xfe800000000000000000000000000003#128,
        0x20010db8000000000000000000000004#128] }

theorem mixedHops_roundTrip :
    deserialize (mixedHops.serialize ++ []) = some (mixedHops, mixedHops.serializedSize) ∧
      mixedHops.serialize.length = mixedHops.serializedSize ∧
      ∃ hdrExtLen, mixedHops.serialize[1]? = some hdrExtLen ∧
        (hdrExtLen.toNat + 1) * 8 = mixedHops.serializedSize :=
  routingHeader_roundTrip mixedHops (by decide) []

end RoutingHeader

end Rpl
