import Rpl.DioSerialize
import Rpl.RecvRpl

/-!
# The P2P Route Discovery Option in its messages

The option elides what its addresses share with a DODAGID that is somewhere else in the
message.  Whichever message carries it, a DIO with other options around it or a P2P-DRO, it
is read with the DODAGID it was written with, and comes out as it went in.
-/

namespace Rpl

open Cursor

namespace P2pRdoOption

/-- The option with the Compr the encoder chooses for it. -/
def written (dodagId : Ipv6Address) (rdo : P2pRdoOption) : P2pRdoOption :=
  { rdo with compr := p2pRdoCompr rdo.target rdo.addressVector dodagId }

/-- The length octet of an option whose fields fit is the number of octets behind it. -/
theorem lengthOctet_of_fits {dodagId : Ipv6Address} {rdo : P2pRdoOption} (fits : rdo.Fits dodagId) :
    ∃ length, (Tlv.encode (rdo.serialize dodagId))[1]? = some length ∧
      length.toNat = 2 + (1 + rdo.addressVector.length) *
        (16 - (p2pRdoCompr rdo.target rdo.addressVector dodagId).toNat) := by
  have short := (serialize_fits fits).2
  have sized : 2 + (rdo.serialize dodagId).2.length = DioHeader.p2pRdoSerializedSize dodagId rdo :=
    DioHeader.p2pRdo_body_length rdo
  rw [DioHeader.p2pRdoSerializedSize] at sized
  refine ⟨_, rfl, ?_⟩
  rw [UInt8.toNat_ofNat', Nat.mod_eq_of_lt short]
  omega

end P2pRdoOption

namespace DioHeader

/-- Of the options behind a P2P-RDO none is one, so it is the one that is read. -/
theorem foldl_options_p2pRdo {dio base : DioHeader} {rdo : P2pRdoOption}
    (held : dio.p2pRdo = some rdo) (same : base.dodagId = dio.dodagId)
    (fits : rdo.Fits dio.dodagId) :
    (dio.options.foldl readOption base).p2pRdo = some (rdo.written dio.dodagId) := by
  rw [options, List.foldl_append, List.foldl_append, foldl_targets, held, Option.toList_some,
    List.map_singleton, List.foldl_cons, List.foldl_nil]
  have before (front : List Tlv.TypedBody) : (front.foldl readOption base).dodagId = dio.dodagId :=
    (foldl_dodagId base front).trans same
  have read (header : DioHeader) (sameToo : header.dodagId = dio.dodagId) :
      (header.readOption (rdo.serialize dio.dodagId)).p2pRdo = some (rdo.written dio.dodagId) := by
    have option := @readOption_rdo (rdo.serialize dio.dodagId).2 header
    rw [sameToo, P2pRdoOption.deserialize_serialize fits] at option
    exact congrArg DioHeader.p2pRdo option
  exact read _ (before _)

/-- The base is read, whatever is in its fields. -/
theorem readBaseFrom_serialize (dio : DioHeader) (rest : List UInt8) :
    ∃ base, readBaseFrom (dio.base ++ rest) = .ok (base, rest) ∧ base.dodagId = dio.dodagId := by
  obtain ⟨high, low, octets, -⟩ := u16Octets_eq dio.rank
  rw [base, octets]
  simp only [List.cons_append, List.nil_append, readBaseFrom, readU8_bind, readNtohU16_bind]
  rw [bind_ok (readAddress_append rest (length_addressOctets dio.dodagId)), pure_apply,
    addressOf_addressOctets]
  exact ⟨_, rfl, rfl⟩

theorem readFrom_p2pRdo {dio : DioHeader} {rdo : P2pRdoOption} (held : dio.p2pRdo = some rdo)
    (fits : rdo.Fits dio.dodagId) (vectors : dio.VectorsFit) :
    ∃ read, readFrom dio.serialize = .ok (read, []) ∧
      read.p2pRdo = some (rdo.written dio.dodagId) := by
  have fitsHeld : ∀ other, dio.p2pRdo = some other → other.Fits dio.dodagId := fun other found =>
    Option.some.inj (held.symm.trans found) ▸ fits
  obtain ⟨base, based, same⟩ := dio.readBaseFrom_serialize (dio.options.flatMap Tlv.encode)
  have walked := whileNotEnd_encode takes_readOption (fun _ _ => rfl)
    (options_fit vectors fitsHeld) (le_refl (dio.options.flatMap Tlv.encode).length) base
  refine ⟨_, ?_, foldl_options_p2pRdo held same fits⟩
  rw [readFrom, serialize, bind_ok based, remainingSize_bind]
  exact walked

end DioHeader

namespace P2pDroHeader

theorem readFrom_p2pRdo {dro : P2pDroHeader} {rdo : P2pRdoOption} (held : dro.p2pRdo = some rdo)
    (fits : rdo.Fits dro.dodagId) :
    ∃ read, readFrom dro.serialize = .ok (read, []) ∧
      read.p2pRdo = some (rdo.written dro.dodagId) := by
  have options : ∀ option ∈ [rdo.serialize dro.dodagId], Tlv.Fits optionPad1 option :=
    List.forall_mem_singleton.mpr (P2pRdoOption.serialize_fits fits)
  have walked (base : P2pDroHeader) := whileNotEnd_encode takes_readOption (fun _ _ => rfl)
    options (le_refl ([rdo.serialize dro.dodagId].flatMap Tlv.encode).length) base
  have read (base : P2pDroHeader) (same : base.dodagId = dro.dodagId) :
      (base.readOption (rdo.serialize dro.dodagId)).p2pRdo = some (rdo.written dro.dodagId) := by
    rw [readOption, if_pos (show (rdo.serialize dro.dodagId).1 = optionP2pRdo from rfl), same,
      P2pRdoOption.deserialize_serialize fits]
    rfl
  have based : ¬dro.serialize.length < p2pDroBaseSize := by
    rw [serialize, List.length_append, List.length_append, length_addressOctets, p2pDroBaseSize]
    simp only [List.length_cons, List.length_nil]
    omega
  rw [readFrom, remainingSize_bind, if_neg based]
  rw [serialize, held, Option.toList_some, List.map_singleton]
  simp only [List.cons_append, List.nil_append, readU8_bind]
  rw [bind_ok (readAddress_append _ (length_addressOctets dro.dodagId)), remainingSize_bind]
  refine ⟨_, walked _, read _ ?_⟩
  exact addressOf_addressOctets _

end P2pDroHeader

namespace P2pRdoOption

/-- An option whose fields and addresses fit has a length octet that says its length, and is
read back as it was written, by itself, in a DIO and in a P2P-DRO. -/
theorem p2pRdo_roundTrip {dodagId : Ipv6Address} {rdo : P2pRdoOption} (fits : rdo.Fits dodagId) :
    (∃ length, (Tlv.encode (rdo.serialize dodagId))[1]? = some length ∧
      length.toNat = 2 + (1 + rdo.addressVector.length) *
        (16 - (p2pRdoCompr rdo.target rdo.addressVector dodagId).toNat)) ∧
      deserialize dodagId (rdo.serialize dodagId).2 = some (rdo.written dodagId) ∧
      (∀ dio : DioHeader, dio.dodagId = dodagId → dio.p2pRdo = some rdo → dio.VectorsFit →
        ∃ read, DioHeader.readFrom dio.serialize = .ok (read, []) ∧
          read.p2pRdo = some (rdo.written dodagId)) ∧
      ∀ dro : P2pDroHeader, dro.dodagId = dodagId → dro.p2pRdo = some rdo →
        ∃ read, P2pDroHeader.readFrom dro.serialize = .ok (read, []) ∧
          read.p2pRdo = some (rdo.written dodagId) := by
  refine ⟨lengthOctet_of_fits fits, deserialize_serialize fits, ?dio, ?dro⟩
  case dio =>
    rintro dio rfl held vectors
    exact dio.readFrom_p2pRdo held fits vectors
  case dro =>
    rintro dro rfl held
    exact dro.readFrom_p2pRdo held fits

/-- An option with one address outside the DODAGID's prefix, so that none is elided. -/
def oddAddress : P2pRdoOption :=
  { reply := true
    hopByHop := true
    numRoutes := 2
    lifetime := 3
    maxRankOrNh := 9
    target := 0x20010db8000000000000000000000009#128
    addressVector :=
      [0x20010db8000000000000000000000002#128, 0xfd000000000000000000000000000003#128] }

theorem oddAddress_readBack :
    deserialize 0x20010db8000000000000000000000001#128
        (oddAddress.serialize 0x20010db8000000000000000000000001#128).2 =
      some (oddAddress.written 0x20010db8000000000000000000000001#128) := by
  have fits : oddAddress.Fits 0x20010db8000000000000000000000001#128 :=
    ⟨by decide, by decide, by decide, by decide⟩
  exact (p2pRdo_roundTrip fits).2.1

end P2pRdoOption

end Rpl
