import Rpl.AddressVector

/-!
# The options of AODV-RPL on the wire

The RREQ, RREP and ART options of a DIO, as `RplDioHeader` writes them and reads them back.
An address vector is written without the octets its addresses share with the DODAGID, and
of a lifetime, a rank limit, a delta or a prefix length only some bits are written.
-/

namespace Rpl

/-! ## Constants -/

def optionAodvRreq : UInt8 := 0x0b
def optionAodvRrep : UInt8 := 0x0c
def optionAodvArt : UInt8 := 0x0d
/-- S of an RREQ and G of an RREP. -/
def aodvTopFlag : UInt8 := 0x80
def aodvHFlag : UInt8 := 0x40
def aodvComprMask : UInt8 := 0x1e
def aodvRankLimitMask : UInt8 := 0x7f
def aodvLifetimeHighBit : UInt8 := 0x01
def aodvLifetimeLowBit : UInt8 := 0x80
def aodvLifetimeMask : UInt8 := 0x03
def aodvDeltaMask : UInt8 := 0xfc
def aodvArtOptionLength : Nat := 18

/-- `AodvMaxAddressVectorEntries`. -/
def aodvMaxAddressVectorEntries (compr : UInt8) : Nat := 252 / (16 - (compr &&& 0x0f).toNat)

/-- `ElidedPrefixLength`. -/
def elidedPrefixLength (dodagId : Ipv6Address) (addressVector : List Ipv6Address) : UInt8 :=
  if addressVector.isEmpty then 0
  else if addressVector.any fun address => address.prefixHalf ≠ dodagId.prefixHalf then 0
  else 8

theorem elidedPrefixLength_cases (dodagId : Ipv6Address) (addressVector : List Ipv6Address) :
    elidedPrefixLength dodagId addressVector = 0 ∨
      elidedPrefixLength dodagId addressVector = 8 ∧
        ∀ address ∈ addressVector, address.prefixHalf = dodagId.prefixHalf := by
  unfold elidedPrefixLength
  split
  · exact .inl rfl
  · split
    · exact .inl rfl
    · next shares =>
      refine .inr ⟨rfl, fun address mem => ?_⟩
      simp only [List.any_eq_true, decide_eq_true_eq, not_exists, not_and, not_not] at shares
      exact shares address mem

theorem elidedPrefixLength_elides (dodagId : Ipv6Address) (addressVector : List Ipv6Address) :
    AddressVector.Elides dodagId (elidedPrefixLength dodagId addressVector).toNat
      addressVector := by
  rcases elidedPrefixLength_cases dodagId addressVector with none_ | ⟨eight, shares⟩
  · exact .inl (by rw [none_]; rfl)
  · exact .inr ⟨by rw [eight]; rfl, shares⟩

/-- The entries fit the length octet of the option, under the Compr they are written with. -/
def VectorFits (dodagId : Ipv6Address) (addressVector : List Ipv6Address) : Prop :=
  addressVector.length ≤
    aodvMaxAddressVectorEntries (elidedPrefixLength dodagId addressVector)

instance (dodagId : Ipv6Address) (addressVector : List Ipv6Address) :
    Decidable (VectorFits dodagId addressVector) :=
  inferInstanceAs (Decidable (_ ≤ _))

/-- As many entries as this module ever adds fit under either Compr. -/
theorem vectorFits_of_le {dodagId : Ipv6Address} {addressVector : List Ipv6Address}
    (few : addressVector.length ≤ aodvAddressVectorMaxEntries) :
    VectorFits dodagId addressVector := by
  refine few.trans ?_
  rcases elidedPrefixLength_cases dodagId addressVector with zero | ⟨eight, -⟩
  · rw [zero]
    decide
  · rw [eight]
    decide

/-- A vector fits when its octets leave room for the three before them. -/
theorem vectorFits_iff {dodagId : Ipv6Address} {addressVector : List Ipv6Address} :
    VectorFits dodagId addressVector ↔
      addressVector.length * (16 - (elidedPrefixLength dodagId addressVector).toNat) ≤ 252 := by
  unfold VectorFits aodvMaxAddressVectorEntries
  rcases elidedPrefixLength_cases dodagId addressVector with zero | ⟨eight, -⟩
  · rw [zero, show 252 / (16 - ((0 : UInt8) &&& 0x0f).toNat) = 15 by decide,
      show 16 - (0 : UInt8).toNat = 16 from rfl]
    omega
  · rw [eight, show 252 / (16 - ((8 : UInt8) &&& 0x0f).toNat) = 31 by decide,
      show 16 - (8 : UInt8).toNat = 8 from rfl]
    omega

/-! ## RREQ and RREP -/

/-- What the two route options are made of: a flag of its own and an octet of its own are
all that sets one apart from the other. -/
structure RouteOption where
  flag : Bool
  hopByHop : Bool
  compr : UInt8 := 0
  lifetime : UInt8
  rankLimit : UInt8
  octet : UInt8
  addressVector : List Ipv6Address
  deriving DecidableEq, Repr

namespace RouteOption

/-- The octet of the flags, Compr and the high bit of the lifetime. -/
def flags (option : RouteOption) (compr : UInt8) : UInt8 :=
  (if option.flag then aodvTopFlag else 0) ||| (if option.hopByHop then aodvHFlag else 0) |||
    ((compr <<< 1) &&& aodvComprMask) ||| ((option.lifetime >>> 1) &&& aodvLifetimeHighBit)

/-- The octet of the low bit of the lifetime and the rank limit. -/
def limits (option : RouteOption) : UInt8 :=
  (if option.lifetime &&& 0x01 ≠ 0 then aodvLifetimeLowBit else 0) |||
    (option.rankLimit &&& aodvRankLimitMask)

def body (dodagId : Ipv6Address) (option : RouteOption) : List UInt8 :=
  let compr := elidedPrefixLength dodagId option.addressVector
  option.flags compr :: option.limits :: option.octet ::
    AddressVector.octets compr.toNat option.addressVector

/-- Nothing when the vector is no whole number of entries or has too many. -/
def read (dodagId : Ipv6Address) (body : List UInt8) : Option RouteOption :=
  match body with
  | flags :: limits :: octet :: rest =>
    let compr := (flags &&& aodvComprMask) >>> 1
    let entrySize := 16 - compr.toNat
    let entries := rest.length / entrySize
    if rest.length % entrySize ≠ 0 ∨ aodvMaxAddressVectorEntries compr < entries then none
    else
      some
        { flag := flags &&& aodvTopFlag ≠ 0
          hopByHop := flags &&& aodvHFlag ≠ 0
          compr := compr
          lifetime := ((flags &&& aodvLifetimeHighBit) <<< 1) |||
            (if limits &&& aodvLifetimeLowBit ≠ 0 then 1 else 0)
          rankLimit := limits &&& aodvRankLimitMask
          octet := octet
          addressVector := AddressVector.read dodagId compr.toNat entries rest }
  | _ => none

/-- The option as it is read back. -/
def carried (dodagId : Ipv6Address) (option : RouteOption) : RouteOption :=
  { option with
    compr := elidedPrefixLength dodagId option.addressVector
    lifetime := option.lifetime &&& aodvLifetimeMask
    rankLimit := option.rankLimit &&& aodvRankLimitMask }

/-- The flags octet keeps its four fields apart. -/
theorem flags_fields (flag hopByHop : Bool) {compr : UInt8} (known : compr = 0 ∨ compr = 8)
    (lifetime : UInt8) :
    let octet := (if flag then aodvTopFlag else 0) ||| (if hopByHop then aodvHFlag else 0) |||
      ((compr <<< 1) &&& aodvComprMask) ||| ((lifetime >>> 1) &&& aodvLifetimeHighBit)
    (octet &&& aodvComprMask) >>> 1 = compr ∧ decide (octet &&& aodvTopFlag ≠ 0) = flag ∧
      decide (octet &&& aodvHFlag ≠ 0) = hopByHop ∧
      octet &&& aodvLifetimeHighBit = (lifetime >>> 1) &&& aodvLifetimeHighBit := by
  revert lifetime
  refine Octets.forall_octet ?_
  rcases known with rfl | rfl
  · revert flag hopByHop
    decide +kernel
  · revert flag hopByHop
    decide +kernel

/-- The octet of limits keeps its two fields apart. -/
theorem limits_fields (low : Bool) (rankLimit : UInt8) :
    let octet := (if low then aodvLifetimeLowBit else 0) ||| (rankLimit &&& aodvRankLimitMask)
    decide (octet &&& aodvLifetimeLowBit ≠ 0) = low ∧
      octet &&& aodvRankLimitMask = rankLimit &&& aodvRankLimitMask := by
  revert rankLimit
  refine Octets.forall_octet ?_
  revert low
  decide +kernel

/-- The two bits of a lifetime put together again. -/
theorem lifetime_bits (lifetime : UInt8) :
    (((lifetime >>> 1) &&& aodvLifetimeHighBit) <<< 1) |||
      (if lifetime &&& 0x01 ≠ 0 then 1 else 0) = lifetime &&& aodvLifetimeMask := by
  revert lifetime
  refine Octets.forall_octet ?_
  decide +kernel

/-- What is written is read back, for a vector that fits the Compr it is written under. -/
theorem read_body {dodagId : Ipv6Address} {option : RouteOption}
    (fits : VectorFits dodagId option.addressVector) :
    read dodagId (option.body dodagId) = some (option.carried dodagId) := by
  have known := (elidedPrefixLength_cases dodagId option.addressVector).imp_right And.left
  have vector := AddressVector.read_octets (elidedPrefixLength_elides dodagId option.addressVector)
  obtain ⟨comprRead, flagRead, hopByHopRead, highRead⟩ :=
    flags_fields option.flag option.hopByHop known option.lifetime
  obtain ⟨lowRead, rankLimitRead⟩ :=
    limits_fields (decide (option.lifetime &&& 0x01 ≠ 0)) option.rankLimit
  have lifetimeRead := lifetime_bits option.lifetime
  rw [body, read, flags, limits, carried]
  simp only [decide_eq_true_eq] at lowRead rankLimitRead
  have lowIff := decide_eq_decide.mp lowRead
  simp only [comprRead, flagRead, hopByHopRead, highRead, rankLimitRead, lowIff, lifetimeRead]
  clear comprRead flagRead hopByHopRead highRead lowRead rankLimitRead lowIff lifetimeRead
  unfold VectorFits at fits
  generalize elidedPrefixLength dodagId option.addressVector = compr at *
  have size : 0 < 16 - compr.toNat := by
    rcases known with rfl | rfl <;> decide
  rw [AddressVector.length_octets, Nat.mul_mod_left, Nat.mul_div_cancel _ size,
    if_neg (by omega), vector]

theorem length_body {dodagId : Ipv6Address} {option : RouteOption}
    (fits : VectorFits dodagId option.addressVector) :
    (option.body dodagId).length < 256 := by
  have octets := vectorFits_iff.mp fits
  rw [body]
  simp only [List.length_cons, AddressVector.length_octets]
  omega

end RouteOption

/-! ## The options of a DIO -/

namespace RreqOption

def route (rreq : RreqOption) : RouteOption :=
  { flag := rreq.symmetric
    hopByHop := rreq.hopByHop
    compr := rreq.compr
    lifetime := rreq.lifetime
    rankLimit := rreq.rankLimit
    octet := rreq.origSeqNo
    addressVector := rreq.addressVector }

def ofRoute (option : RouteOption) : RreqOption :=
  { symmetric := option.flag
    hopByHop := option.hopByHop
    compr := option.compr
    lifetime := option.lifetime
    rankLimit := option.rankLimit
    origSeqNo := option.octet
    addressVector := option.addressVector }

/-- The RREQ option of `Serialize`. -/
def serialize (dodagId : Ipv6Address) (rreq : RreqOption) : Tlv.TypedBody :=
  (optionAodvRreq, rreq.route.body dodagId)

/-- The RREQ option of `Deserialize`. -/
def deserialize (dodagId : Ipv6Address) (body : List UInt8) : Option RreqOption :=
  (RouteOption.read dodagId body).map ofRoute

/-- The option as it is read back. -/
def carried (dodagId : Ipv6Address) (rreq : RreqOption) : RreqOption :=
  ofRoute (rreq.route.carried dodagId)

end RreqOption

namespace RrepOption

/-- Of Delta six bits are written, above two that are reserved. -/
def route (rrep : RrepOption) : RouteOption :=
  { flag := rrep.gratuitous
    hopByHop := rrep.hopByHop
    compr := rrep.compr
    lifetime := rrep.lifetime
    rankLimit := rrep.rankLimit
    octet := (rrep.delta <<< 2) &&& aodvDeltaMask
    addressVector := rrep.addressVector }

def ofRoute (option : RouteOption) : RrepOption :=
  { gratuitous := option.flag
    hopByHop := option.hopByHop
    compr := option.compr
    lifetime := option.lifetime
    rankLimit := option.rankLimit
    delta := (option.octet &&& aodvDeltaMask) >>> 2
    addressVector := option.addressVector }

/-- The RREP option of `Serialize`. -/
def serialize (dodagId : Ipv6Address) (rrep : RrepOption) : Tlv.TypedBody :=
  (optionAodvRrep, rrep.route.body dodagId)

/-- The RREP option of `Deserialize`. -/
def deserialize (dodagId : Ipv6Address) (body : List UInt8) : Option RrepOption :=
  (RouteOption.read dodagId body).map ofRoute

/-- The option as it is read back. -/
def carried (dodagId : Ipv6Address) (rrep : RrepOption) : RrepOption :=
  ofRoute (rrep.route.carried dodagId)

/-- A delta an RREP-Instance can have is read back. -/
theorem carried_delta {dodagId : Ipv6Address} {rrep : RrepOption}
    (small : rrep.delta ≤ aodvDeltaMax) : (rrep.carried dodagId).delta = rrep.delta := by
  change (((rrep.delta <<< 2) &&& aodvDeltaMask) &&& aodvDeltaMask) >>> 2 = rrep.delta
  generalize rrep.delta = delta at small ⊢
  revert delta
  refine Octets.forall_octet ?_
  decide +kernel

end RrepOption

namespace ArtOption

/-- The ART option of `Serialize`. -/
def serialize (art : ArtOption) : Tlv.TypedBody :=
  (optionAodvArt, art.destSeqNo :: (art.prefixLength &&& aodvPrefixLengthMask) ::
    addressOctets art.target)

/-- The ART option of `Deserialize`. -/
def deserialize (body : List UInt8) : Option ArtOption :=
  match body with
  | destSeqNo :: prefixLength :: target =>
    if body.length = aodvArtOptionLength then
      some
        { destSeqNo := destSeqNo
          prefixLength := prefixLength &&& aodvPrefixLengthMask
          target := addressOf target }
    else none
  | _ => none

/-- The option as it is read back. -/
def carried (art : ArtOption) : ArtOption :=
  { art with prefixLength := art.prefixLength &&& aodvPrefixLengthMask }

theorem deserialize_serialize (art : ArtOption) :
    deserialize art.serialize.2 = some art.carried := by
  rw [serialize, deserialize, if_pos (by simp [aodvArtOptionLength]), addressOf_addressOctets,
    UInt8.and_assoc, UInt8.and_self, carried]

end ArtOption

namespace DioHeader

/-- The options of AODV-RPL, in the order `Serialize` writes them. -/
def aodvOptions (dio : DioHeader) : List Tlv.TypedBody :=
  dio.rreq.toList.map (RreqOption.serialize dio.dodagId) ++
    dio.rrep.toList.map (RrepOption.serialize dio.dodagId) ++ dio.arts.map ArtOption.serialize

/-- One option: a malformed one is passed over. -/
def readAodvOption (dio : DioHeader) (option : Tlv.TypedBody) : DioHeader :=
  if option.1 = optionAodvRreq then
    match RreqOption.deserialize dio.dodagId option.2 with
    | some rreq => { dio with rreq := some rreq }
    | none => dio
  else if option.1 = optionAodvRrep then
    match RrepOption.deserialize dio.dodagId option.2 with
    | some rrep => { dio with rrep := some rrep }
    | none => dio
  else if option.1 = optionAodvArt then
    match ArtOption.deserialize option.2 with
    | some art => { dio with arts := dio.arts ++ [art] }
    | none => dio
  else dio

/-- A DIO after its options of AODV-RPL have been written and read. -/
def carried (dio : DioHeader) : DioHeader :=
  (Tlv.options optionPad1 (dio.aodvOptions.flatMap Tlv.encode)).foldl readAodvOption
    { dio with rreq := none, rrep := none, arts := [] }

/-- The address vectors fit the options. -/
structure VectorsFit (dio : DioHeader) : Prop where
  rreq : ∀ rreq, dio.rreq = some rreq → VectorFits dio.dodagId rreq.addressVector
  rrep : ∀ rrep, dio.rrep = some rrep → VectorFits dio.dodagId rrep.addressVector

theorem aodvOptions_fit {dio : DioHeader} (fits : dio.VectorsFit) :
    ∀ option ∈ dio.aodvOptions, Tlv.Fits optionPad1 option := by
  intro option mem
  rw [aodvOptions, List.mem_append, List.mem_append] at mem
  rcases mem with (mem | mem) | mem
  · obtain ⟨rreq, held, rfl⟩ := List.mem_map.mp mem
    exact ⟨show optionAodvRreq ≠ optionPad1 by decide,
      RouteOption.length_body (fits.rreq rreq (Option.mem_toList.mp held))⟩
  · obtain ⟨rrep, held, rfl⟩ := List.mem_map.mp mem
    exact ⟨show optionAodvRrep ≠ optionPad1 by decide,
      RouteOption.length_body (fits.rrep rrep (Option.mem_toList.mp held))⟩
  · obtain ⟨art, -, rfl⟩ := List.mem_map.mp mem
    refine ⟨show optionAodvArt ≠ optionPad1 by decide, ?_⟩
    simp [ArtOption.serialize]

section Folds

variable {base : DioHeader} {dodagId : Ipv6Address}

theorem foldl_rreq (same : base.dodagId = dodagId) (fresh : base.rreq = none)
    {rreq : Option RreqOption}
    (fits : ∀ held, rreq = some held → VectorFits dodagId held.addressVector) :
    (rreq.toList.map (RreqOption.serialize dodagId)).foldl readAodvOption base =
      { base with rreq := rreq.map (RreqOption.carried dodagId) } := by
  cases rreq with
  | none =>
    rw [Option.toList_none, List.map_nil, List.foldl_nil, Option.map_none, ← fresh]
  | some rreq =>
    have type : (rreq.serialize dodagId).1 = optionAodvRreq := rfl
    rw [Option.toList_some, List.map_cons, List.map_nil, List.foldl_cons, List.foldl_nil,
      readAodvOption, type, if_pos rfl, RreqOption.deserialize, same, RreqOption.serialize,
      RouteOption.read_body (fits rreq rfl), Option.map_some]
    rfl

theorem foldl_rrep (same : base.dodagId = dodagId) (fresh : base.rrep = none)
    {rrep : Option RrepOption}
    (fits : ∀ held, rrep = some held → VectorFits dodagId held.addressVector) :
    (rrep.toList.map (RrepOption.serialize dodagId)).foldl readAodvOption base =
      { base with rrep := rrep.map (RrepOption.carried dodagId) } := by
  cases rrep with
  | none =>
    rw [Option.toList_none, List.map_nil, List.foldl_nil, Option.map_none, ← fresh]
  | some rrep =>
    have type : (rrep.serialize dodagId).1 = optionAodvRrep := rfl
    rw [Option.toList_some, List.map_cons, List.map_nil, List.foldl_cons, List.foldl_nil,
      readAodvOption, type, if_neg (by decide), if_pos rfl, RrepOption.deserialize, same,
      RrepOption.serialize, RouteOption.read_body (fits rrep rfl), Option.map_some]
    rfl

theorem foldl_arts (arts : List ArtOption) (base : DioHeader) :
    (arts.map ArtOption.serialize).foldl readAodvOption base =
      { base with arts := base.arts ++ arts.map ArtOption.carried } := by
  induction arts generalizing base with
  | nil => simp
  | cons art rest ih =>
    have type : art.serialize.1 = optionAodvArt := rfl
    have step : base.readAodvOption art.serialize =
        { base with arts := base.arts ++ [art.carried] } := by
      rw [readAodvOption, type, if_neg (by decide), if_neg (by decide), if_pos rfl,
        ArtOption.deserialize_serialize]
    rw [List.map_cons, List.foldl_cons, step, ih, List.append_assoc, List.map_cons]
    rfl

end Folds

/-- What is written is read back. -/
theorem carried_eq {dio : DioHeader} (fits : dio.VectorsFit) :
    dio.carried =
      { dio with
        rreq := dio.rreq.map (RreqOption.carried dio.dodagId)
        rrep := dio.rrep.map (RrepOption.carried dio.dodagId)
        arts := dio.arts.map ArtOption.carried } := by
  rw [carried, Tlv.options_flatMap_encode (aodvOptions_fit fits), aodvOptions, List.foldl_append,
    List.foldl_append, foldl_rreq _ _ fits.rreq, foldl_rrep _ _ fits.rrep, foldl_arts]
  · rfl
  · rfl
  · rfl
  · rfl
  · rfl

end DioHeader

end Rpl
