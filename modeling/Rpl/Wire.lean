import Rpl.RouteDiscoveryOption
import Rpl.DaoSerialize

/-!
# A message from node to node

`SendRplMessageOn` puts a message behind the code of its kind, and `RecvRpl` calls the
`Deserialize` of the code.  The two of each kind fit each other: what one node writes another
reads to the last octet, and has the message that was sent.
-/

namespace Rpl

open Cursor

/-! ## Writing the smaller messages -/

/-- `Serialize` of a DIS: the flags, and a reserved octet. -/
def disOctets : List UInt8 := [0, 0]

namespace DaoAckHeader

/-- The flags octet: D where the message names its DODAG. -/
def flags (ack : DaoAckHeader) : UInt8 := if ack.dodagId.isAny then 0 else daoDFlag

/-- `Serialize`. -/
def serialize (ack : DaoAckHeader) : List UInt8 :=
  [ack.instanceId, ack.flags, ack.sequence, ack.status] ++
    if ack.dodagId.isAny then [] else addressOctets ack.dodagId

/-- `GetSerializedSize`. -/
def serializedSize (ack : DaoAckHeader) : Nat := if ack.dodagId.isAny then 4 else 20

theorem length_serialize (ack : DaoAckHeader) : ack.serialize.length = ack.serializedSize := by
  unfold serialize serializedSize
  split
  · rfl
  · rw [List.length_append, length_addressOctets]
    rfl

theorem readFrom_written (ack : DaoAckHeader) : readFrom ack.serialize = .ok (ack, []) := by
  have named : decide (ack.flags &&& daoDFlag ≠ 0) = !ack.dodagId.isAny := by
    unfold flags
    cases ack.dodagId.isAny with
    | true => rfl
    | false => rfl
  rw [serialize]
  simp only [List.cons_append, List.nil_append, readFrom, readU8_bind, named]
  cases unnamed : ack.dodagId.isAny with
  | true =>
    have any : ack.dodagId = anyAddress := of_decide_eq_true unnamed
    rw [Bool.not_true, readDodagId, if_neg Bool.false_ne_true, ← any]
    rfl
  | false =>
    have address := readAddress_append [] (length_addressOctets ack.dodagId)
    rw [List.append_nil, addressOf_addressOctets] at address
    rw [Bool.not_false, readDodagId, if_pos rfl, if_neg Bool.false_ne_true, bind_ok address,
      pure_apply]

end DaoAckHeader

namespace P2pDroAckHeader

/-- `Serialize`. -/
def serialize (ack : P2pDroAckHeader) : List UInt8 :=
  [ack.instanceId, 0, (ack.sequence <<< 6) &&& p2pDroAckSeqMask, 0] ++ addressOctets ack.dodagId

theorem length_serialize (ack : P2pDroAckHeader) : ack.serialize.length = p2pDroAckSize := by
  rw [serialize, List.length_append, length_addressOctets]
  rfl

theorem sequence_field {sequence : UInt8} (small : sequence < 4) :
    (((sequence <<< 6) &&& p2pDroAckSeqMask) &&& p2pDroAckSeqMask) >>> 6 = sequence := by
  obtain ⟨n, rfl⟩ := octet_of_lt 4 small
  revert n
  decide +kernel

theorem readFrom_written {ack : P2pDroAckHeader} (small : ack.sequence < 4) :
    readFrom ack.serialize = .ok (ack, []) := by
  have based : ¬ack.serialize.length < p2pDroAckSize := by
    rw [ack.length_serialize]
    exact Nat.lt_irrefl _
  have address := readAddress_append [] (length_addressOctets ack.dodagId)
  rw [List.append_nil, addressOf_addressOctets] at address
  rw [readFrom, remainingSize_bind, if_neg based, serialize]
  simp only [List.cons_append, List.nil_append, readU8_bind]
  rw [bind_ok address, pure_apply, sequence_field small]

end P2pDroAckHeader

namespace P2pDroHeader

/-- `GetSerializedSize`. -/
def serializedSize (dro : P2pDroHeader) : Nat :=
  20 + (dro.p2pRdo.map (DioHeader.p2pRdoSerializedSize dro.dodagId)).getD 0

theorem length_serialize (dro : P2pDroHeader) : dro.serialize.length = dro.serializedSize := by
  rw [serialize, serializedSize, List.length_append, List.length_append, length_addressOctets]
  cases dro.p2pRdo with
  | none => rfl
  | some rdo =>
    have body := @DioHeader.p2pRdo_body_length dro.dodagId rdo
    rw [Option.toList_some, List.map_singleton, List.flatMap_singleton, Option.map_some,
      Option.getD_some, ← body]
    simp only [Tlv.encode, List.length_cons, List.length_nil]
    omega

/-- What the octets have room for. -/
structure Encodable (dro : P2pDroHeader) : Prop where
  sequence : dro.sequence < 4
  p2pRdo : ∀ rdo, dro.p2pRdo = some rdo → rdo.Fits dro.dodagId

theorem readFrom_written {dro : P2pDroHeader} (encodable : dro.Encodable) :
    readFrom dro.serialize = .ok (dro.compressed, []) := by
  have options : ∀ option ∈ dro.p2pRdo.toList.map (P2pRdoOption.serialize dro.dodagId),
      Tlv.Fits optionPad1 option := by
    intro option mem
    obtain ⟨rdo, held, rfl⟩ := List.mem_map.mp mem
    exact P2pRdoOption.serialize_fits (encodable.p2pRdo rdo (Option.mem_toList.mp held))
  have walked (base : P2pDroHeader) := whileNotEnd_encode takes_readOption (fun _ _ => rfl)
    options (le_refl ((dro.p2pRdo.toList.map (P2pRdoOption.serialize dro.dodagId)).flatMap
      Tlv.encode).length) base
  have based : ¬dro.serialize.length < p2pDroBaseSize := by
    rw [dro.length_serialize, serializedSize, p2pDroBaseSize]
    omega
  obtain ⟨stop, ackRequested, sequence⟩ :=
    flags_fields dro.stop dro.ackRequested encodable.sequence
  have written := deserialize_serialize encodable.sequence encodable.p2pRdo
  rw [readFrom, remainingSize_bind, if_neg based]
  rw [serialize] at written ⊢
  simp only [List.cons_append, List.nil_append, readU8_bind] at written ⊢
  rw [bind_ok (readAddress_append _ (length_addressOctets dro.dodagId)), remainingSize_bind]
  refine (walked _).trans ?_
  rw [deserialize_octets, Tlv.options_flatMap_encode options, Option.some.injEq] at written
  rw [← written, addressOf_addressOctets]

end P2pDroHeader

/-! ## The messages -/

namespace RplMessage

/-- The code that is sent with the message. -/
def code : RplMessage → RplCode
  | .dis => .dis
  | .dio _ => .dio
  | .dao _ => .dao
  | .daoAck _ => .daoAck
  | .p2pDro _ => .p2pDro
  | .p2pDroAck _ => .p2pDroAck

/-- The `Serialize` of the message's header. -/
def serialize : RplMessage → List UInt8
  | .dis => disOctets
  | .dio header => header.serialize
  | .dao header => header.serialize
  | .daoAck ack => ack.serialize
  | .p2pDro dro => dro.serialize
  | .p2pDroAck ack => ack.serialize

/-- The `GetSerializedSize` of the message's header. -/
def serializedSize : RplMessage → Nat
  | .dis => 2
  | .dio header => header.serializedSize
  | .dao header => header.serializedSize
  | .daoAck ack => ack.serializedSize
  | .p2pDro dro => dro.serializedSize
  | .p2pDroAck _ => p2pDroAckSize

/-- The octets have room for what is in the header. -/
def Encodable : RplMessage → Prop
  | .dio header => header.Encodable
  | .p2pDro dro => dro.Encodable
  | .p2pDroAck ack => ack.sequence < 4
  | .dis | .dao _ | .daoAck _ => True

/-- The message with the Compr of its address vectors, which the encoder chooses. -/
def compressed : RplMessage → RplMessage
  | .dio header => .dio header.compressed
  | .p2pDro dro => .p2pDro dro.compressed
  | message => message

/-- What one node sends the next reads: as many octets are written as were asked for, and the
`Deserialize` of the code takes them all and gives the message back. -/
theorem deserialize_code {message : RplMessage} (encodable : message.Encodable) :
    message.serialize.length = message.serializedSize ∧
      message.code.deserialize message.serialize = .ok (message.compressed, []) := by
  cases message with
  | dis => exact ⟨rfl, rfl⟩
  | dio header =>
    exact ⟨header.length_serialize, bind_ok (DioHeader.readFrom_serialize_encodable encodable) _⟩
  | dao header =>
    have whole := header.deserialize_serialize
    have reads : DaoHeader.readFrom header.serialize = .ok (header, []) := by
      rw [DaoHeader.serialize, DaoHeader.deserialize_message] at whole
      rw [DaoHeader.serialize]
      rw [DaoHeader.pairs] at whole ⊢
      rw [DaoHeader.readFrom_message, Option.some.inj whole]
    exact ⟨header.length_serialize, bind_ok reads _⟩
  | daoAck ack => exact ⟨ack.length_serialize, bind_ok ack.readFrom_written _⟩
  | p2pDro dro => exact ⟨dro.length_serialize, bind_ok (dro.readFrom_written encodable) _⟩
  | p2pDroAck ack => exact ⟨ack.length_serialize, bind_ok (ack.readFrom_written encodable) _⟩

/-- A P2P-DRO with the Stop flag, that asks for an acknowledgement and carries an option. -/
def stoppingDro : RplMessage :=
  .p2pDro
    { instanceId := 0x82
      stop := true
      ackRequested := true
      sequence := 3
      dodagId := 0x20010db8000000000000000000000001#128
      p2pRdo := some
        { maxRankOrNh := 1
          target := 0x20010db8000000000000000000000009#128
          addressVector := [0x20010db8000000000000000000000002#128] } }

theorem stoppingDro_readBack :
    stoppingDro.serialize.length = stoppingDro.serializedSize ∧
      stoppingDro.code.deserialize stoppingDro.serialize = .ok (stoppingDro.compressed, []) :=
  deserialize_code
    { sequence := by decide
      p2pRdo := fun _ held => by
        cases held
        exact ⟨by decide, by decide, by decide, by decide⟩ }

end RplMessage

end Rpl
