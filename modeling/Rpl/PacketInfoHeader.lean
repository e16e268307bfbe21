import Rpl.DaoCodec

/-!
# The RPL Packet Information on the wire

`Serialize` and `Deserialize` of `RplPacketInfoHeader`, and the three readers of the
routing protocol that look for the option at the front of a packet's Hop-by-Hop
header.  An option that is read can be written again and read back, sub-TLVs and
all, which is what lets every router on the path touch its flags and its rank.
-/

namespace Rpl

/-- `Ipv6Header`, without the fields no one here reads. -/
structure Ipv6Header where
  source : Ipv6Address
  destination : Ipv6Address
  nextHeader : UInt8
  hopLimit : UInt8
  payloadLength : UInt16 := 0
  deriving DecidableEq, Repr

/-- `Ipv6Header::IPV6_EXT_HOP_BY_HOP`. -/
def nextHeaderHopByHop : UInt8 := 0

/-- `RPL_HBH_OPTION_TYPE`. -/
def hbhOptionType : UInt8 := 0x63

def hdrOptDown : UInt8 := 0x80
def hdrOptRankErr : UInt8 := 0x40
def hdrOptFwdErr : UInt8 := 0x20

/-- `RPI_BASE_LENGTH`. -/
def rpiBaseLength : Nat := 4

/-- `RplPacketInfoHeader`. -/
structure PacketInfoHeader where
  type : UInt8 := hbhOptionType
  flags : UInt8 := 0
  instanceId : UInt8 := defaultInstance
  senderRank : UInt16 := 0
  subTlvs : List UInt8 := []
  malformed : Bool := false
  deriving DecidableEq, Repr

namespace PacketInfoHeader

/-! ## Flags -/

/-- A flag set or cleared, the other bits as they were. -/
def setFlag (rpi : PacketInfoHeader) (flag : UInt8) (on : Bool) : PacketInfoHeader :=
  { rpi with flags := if on then rpi.flags ||| flag else rpi.flags &&& ~~~flag }

def getFlag (rpi : PacketInfoHeader) (flag : UInt8) : Bool := rpi.flags &&& flag ≠ 0

def setDown (rpi : PacketInfoHeader) (down : Bool) : PacketInfoHeader := rpi.setFlag hdrOptDown down
def getDown (rpi : PacketInfoHeader) : Bool := rpi.getFlag hdrOptDown

def setRankError (rpi : PacketInfoHeader) (rankError : Bool) : PacketInfoHeader :=
  rpi.setFlag hdrOptRankErr rankError

def getRankError (rpi : PacketInfoHeader) : Bool := rpi.getFlag hdrOptRankErr

def setForwardingError (rpi : PacketInfoHeader) (forwardingError : Bool) : PacketInfoHeader :=
  rpi.setFlag hdrOptFwdErr forwardingError

def getForwardingError (rpi : PacketInfoHeader) : Bool := rpi.getFlag hdrOptFwdErr

@[simp] theorem setFlag_subTlvs (rpi : PacketInfoHeader) (flag : UInt8) (on : Bool) :
    (rpi.setFlag flag on).subTlvs = rpi.subTlvs := rfl

@[simp] theorem setFlag_malformed (rpi : PacketInfoHeader) (flag : UInt8) (on : Bool) :
    (rpi.setFlag flag on).malformed = rpi.malformed := rfl

@[simp] theorem setFlag_instanceId (rpi : PacketInfoHeader) (flag : UInt8) (on : Bool) :
    (rpi.setFlag flag on).instanceId = rpi.instanceId := rfl

@[simp] theorem setFlag_senderRank (rpi : PacketInfoHeader) (flag : UInt8) (on : Bool) :
    (rpi.setFlag flag on).senderRank = rpi.senderRank := rfl

theorem not_and_of_apart {a b : UInt8} (apart : a &&& b = 0) : ~~~b &&& a = a := by
  rw [← UInt8.toBitVec_inj] at apart ⊢
  ext i inside
  have bit := congrArg (fun x => x[i]) apart
  simp only [UInt8.toBitVec_and, BitVec.getElem_and, UInt8.toBitVec_ofNat, BitVec.getElem_zero,
    UInt8.toBitVec_not, BitVec.getElem_not] at bit ⊢
  grind

theorem or_and_self (a b : UInt8) : (a ||| b) &&& b = b := by
  rw [← UInt8.toBitVec_inj]
  ext i inside
  simp only [UInt8.toBitVec_and, UInt8.toBitVec_or, BitVec.getElem_and, BitVec.getElem_or]
  grind

theorem or_and_of_apart {a b : UInt8} (c : UInt8) (apart : a &&& b = 0) :
    (c ||| b) &&& a = c &&& a := by
  rw [← UInt8.toBitVec_inj] at apart ⊢
  ext i inside
  have bit := congrArg (fun x => x[i]) apart
  simp only [UInt8.toBitVec_and, BitVec.getElem_and, UInt8.toBitVec_ofNat, BitVec.getElem_zero,
    UInt8.toBitVec_or, BitVec.getElem_or] at bit ⊢
  grind

theorem getFlag_setFlag (rpi : PacketInfoHeader) {flag : UInt8} (bit : flag ≠ 0) (on : Bool) :
    (rpi.setFlag flag on).getFlag flag = on := by
  cases on with
  | true =>
    rw [getFlag, setFlag, if_pos rfl, or_and_self]
    exact decide_eq_true bit
  | false =>
    rw [getFlag, setFlag, if_neg Bool.false_ne_true, UInt8.and_assoc, UInt8.not_and_self,
      UInt8.and_zero]
    exact decide_eq_false fun differs => differs rfl

/-- Setting one flag leaves another as it was. -/
theorem getFlag_setFlag_other (rpi : PacketInfoHeader) {flag other : UInt8}
    (apart : other &&& flag = 0) (on : Bool) :
    (rpi.setFlag flag on).getFlag other = rpi.getFlag other := by
  cases on with
  | true => rw [getFlag, setFlag, if_pos rfl, or_and_of_apart _ apart, getFlag]
  | false =>
    rw [getFlag, setFlag, if_neg Bool.false_ne_true, UInt8.and_assoc, not_and_of_apart apart,
      getFlag]

/-! ## The codec -/

/-- `GetSerializedSize`. -/
def serializedSize (rpi : PacketInfoHeader) : Nat := rpiBaseLength + 2 + rpi.subTlvs.length

/-- `Serialize`. -/
def serialize (rpi : PacketInfoHeader) : List UInt8 :=
  rpi.type :: UInt8.ofNat (rpiBaseLength + rpi.subTlvs.length) :: rpi.flags :: rpi.instanceId ::
    (Octets.bigEndian 2 rpi.senderRank.toNat ++ rpi.subTlvs)

/-- `Deserialize`: the option and the octets after what was read of it. Nothing where not even
its type and length are there, which the source reads unchecked. -/
def deserialize : List UInt8 → Option (PacketInfoHeader × List UInt8)
  | type :: length :: rest =>
    if length.toNat < rpiBaseLength ∨ rest.length < length.toNat ∨ 255 < length.toNat + 2 then
      some ({ type := type, malformed := true }, rest)
    else
      match rest with
      | flags :: instanceId :: high :: low :: tail =>
        some
          ({ type := type
             flags := flags
             instanceId := instanceId
             senderRank := UInt16.ofNat (Octets.ofBigEndian [high, low])
             subTlvs := tail.take (length.toNat - rpiBaseLength) },
            tail.drop (length.toNat - rpiBaseLength))
      | _ => none
  | _ => none

/-- The option could be read, or could have been. -/
structure Readable (rpi : PacketInfoHeader) : Prop where
  wellFormed : rpi.malformed = false
  fits : rpi.serializedSize ≤ 255

theorem length_serialize (rpi : PacketInfoHeader) : rpi.serialize.length = rpi.serializedSize := by
  simp only [serialize, serializedSize, rpiBaseLength, List.length_cons, List.length_append,
    Octets.length_bigEndian]
  omega

/-- What is written is read back, and what follows is left. -/
theorem deserialize_serialize {rpi : PacketInfoHeader} (readable : rpi.Readable)
    (rest : List UInt8) : deserialize (rpi.serialize ++ rest) = some (rpi, rest) := by
  have fits := readable.fits
  simp only [serializedSize, rpiBaseLength] at fits
  have length : (UInt8.ofNat (rpiBaseLength + rpi.subTlvs.length)).toNat =
      4 + rpi.subTlvs.length := by
    rw [UInt8.toNat_ofNat', rpiBaseLength]
    exact Nat.mod_eq_of_lt (by omega)
  have two (value : Nat) : ∃ high low, Octets.bigEndian 2 value = [high, low] := ⟨_, _, rfl⟩
  obtain ⟨high, low, rank⟩ := two rpi.senderRank.toNat
  have spelled : UInt16.ofNat (Octets.ofBigEndian [high, low]) = rpi.senderRank := by
    rw [← rank, Octets.ofBigEndian_bigEndian rpi.senderRank.toNat_lt, UInt16.ofNat_toNat]
  simp only [serialize, rank, List.cons_append, List.nil_append, deserialize, length]
  rw [if_neg (by simp only [rpiBaseLength, List.length_cons, List.length_append]; omega)]
  simp only [spelled, rpiBaseLength, Nat.add_sub_cancel_left, List.take_left, List.drop_left,
    Option.some.injEq, Prod.mk.injEq, and_true]
  rw [← readable.wellFormed]

/-- The header with the fields `PrepareOutgoingPacket` sets. -/
def ofPacketInfo (info : PacketInfo) : PacketInfoHeader :=
  { ({} : PacketInfoHeader).setDown info.down with
    instanceId := info.instanceId
    senderRank := info.senderRank }

theorem readable_ofPacketInfo (info : PacketInfo) : (ofPacketInfo info).Readable :=
  ⟨rfl, by change 6 ≤ 255; decide⟩

end PacketInfoHeader

/-! ## Reading the option of a packet -/

/-- The option at the front of a packet's Hop-by-Hop header and the octets after it, if it is
an RPL Option that can be parsed. -/
def readRpi (packet : List UInt8) (header : Ipv6Header) : Option (PacketInfoHeader × List UInt8) :=
  if header.nextHeader ≠ nextHeaderHopByHop ∨ packet.length < 2 then none
  else
    let fragment := packet.drop 2
    if fragment.length < ({} : PacketInfoHeader).serializedSize then none
    else
      (PacketInfoHeader.deserialize fragment).filter fun (rpi, _) =>
        !rpi.malformed && rpi.type = hbhOptionType

/-- `ReadRpiInstanceId`. -/
def readRpiInstanceId (packet : List UInt8) (header : Ipv6Header) : Option UInt8 :=
  (readRpi packet header).map fun (rpi, _) => rpi.instanceId

/-- `ReadRpiDown`. -/
def readRpiDown (packet : List UInt8) (header : Ipv6Header) : Option Bool :=
  (readRpi packet header).map fun (rpi, _) => rpi.getDown

/-- `MarkForwardingError`: the packet with the F flag of its option set. -/
def markForwardingError (packet : List UInt8) (header : Ipv6Header) : Option (List UInt8) :=
  (readRpi packet header).map fun (rpi, rest) =>
    packet.take 2 ++ ((rpi.setForwardingError true).serialize ++ rest)

/-- A packet that has such an option is read. -/
theorem readRpi_serialize {rpi : PacketInfoHeader} (readable : rpi.Readable)
    (type : rpi.type = hbhOptionType) {header : Ipv6Header}
    (hopByHop : header.nextHeader = nextHeaderHopByHop) (first second : UInt8)
    (rest : List UInt8) :
    readRpi (first :: second :: (rpi.serialize ++ rest)) header = some (rpi, rest) := by
  have long : ¬(rpi.serialize ++ rest).length < ({} : PacketInfoHeader).serializedSize := by
    rw [List.length_append, rpi.length_serialize]
    simp only [PacketInfoHeader.serializedSize, List.length_nil]
    omega
  have present : ¬(header.nextHeader ≠ nextHeaderHopByHop ∨
      (first :: second :: (rpi.serialize ++ rest)).length < 2) := by
    simp only [hopByHop, ne_eq, not_true_eq_false, List.length_cons, false_or]
    omega
  rw [readRpi, if_neg present]
  simp only [List.drop_succ_cons, List.drop_zero]
  rw [if_neg long, PacketInfoHeader.deserialize_serialize readable, Option.filter_some, if_pos]
  simp only [readable.wellFormed, type, Bool.not_false, decide_true, Bool.and_self]

end Rpl
