import Rpl.DioSerialize
import Rpl.Quiet

/-!
# Replies relayed

A router on the way of an RREP-DIO or of a P2P-DRO writes the header it has read again,
under the Compr its own encoder chooses and not the one it was written with.  A P2P-DRO is
relayed only when its addresses fit that way.  For an RREP-DIO nothing asks whether they
do, and a vector that came in under a longer Compr can be too long for the length octet.
-/

namespace Rpl

open Std

/-! ## What has been read is within its bits -/

/-- Two bits of the lifetime and seven of the rank limit. -/
theorem RouteOption.bits_of_read {dodagId : Ipv6Address} {body : List UInt8} {option : RouteOption}
    (reads : RouteOption.read dodagId body = some option) :
    option.lifetime ≤ 3 ∧ option.rankLimit ≤ 127 := by
  have lifetimes : ∀ (flags : UInt8) (low : Bool),
      ((flags &&& aodvLifetimeHighBit) <<< 1) ||| (if low then 1 else 0) ≤ 3 := by
    refine Octets.forall_octet ?_
    decide +kernel
  have rankLimits (limits : UInt8) : limits &&& aodvRankLimitMask ≤ 127 := UInt8.and_le_right
  unfold RouteOption.read at reads
  split at reads
  · next flags limits octet rest =>
    dsimp only at reads
    split at reads
    · cases reads
    · cases reads
      refine ⟨?_, rankLimits limits⟩
      have lifetime := lifetimes flags (decide (limits &&& aodvLifetimeLowBit ≠ 0))
      simp only [decide_eq_true_eq] at lifetime
      exact lifetime
  · cases reads

/-- Six bits of Delta. -/
theorem RrepOption.bits_of_deserialize {dodagId : Ipv6Address} {body : List UInt8}
    {rrep : RrepOption} (reads : RrepOption.deserialize dodagId body = some rrep) :
    rrep.lifetime ≤ 3 ∧ rrep.rankLimit ≤ 127 ∧ rrep.delta ≤ 63 := by
  have deltas (octet : UInt8) : (octet &&& aodvDeltaMask) >>> 2 ≤ 63 :=
    Octets.field_le octet aodvDeltaMask 2
  obtain ⟨option, read, rfl⟩ := Option.map_eq_some_iff.mp reads
  obtain ⟨lifetime, rankLimit⟩ := RouteOption.bits_of_read read
  exact ⟨lifetime, rankLimit, deltas option.octet⟩

/-- Seven bits of the prefix length. -/
theorem ArtOption.bits_of_deserialize {body : List UInt8} {art : ArtOption}
    (reads : ArtOption.deserialize body = some art) : art.prefixLength ≤ 127 := by
  have lengths (octet : UInt8) : octet &&& aodvPrefixLengthMask ≤ 127 := UInt8.and_le_right
  unfold ArtOption.deserialize at reads
  split at reads
  · next destSeqNo prefixLength target =>
    split at reads
    · cases reads
      exact lengths prefixLength
    · cases reads
  · cases reads

/-- The fields of a P2P-RDO are within their bits. -/
theorem P2pRdoOption.bits_of_deserialize {dodagId : Ipv6Address} {body : List UInt8}
    {rdo : P2pRdoOption} (reads : P2pRdoOption.deserialize dodagId body = some rdo) :
    rdo.numRoutes < 4 ∧ rdo.lifetime < 4 ∧ rdo.maxRankOrNh < 64 := by
  have numRoutes (flags : UInt8) : (flags &&& p2pNMask) >>> 4 < 4 :=
    UInt8.lt_of_le_of_lt (Octets.field_le flags p2pNMask 4) (by decide)
  have lifetimes (limits : UInt8) : (limits &&& p2pLifetimeMask) >>> 6 < 4 :=
    UInt8.lt_of_le_of_lt (Octets.field_le limits p2pLifetimeMask 6) (by decide)
  have places (limits : UInt8) : limits &&& p2pNhMask < 64 :=
    UInt8.lt_of_le_of_lt UInt8.and_le_right (by decide)
  unfold P2pRdoOption.deserialize at reads
  split at reads
  · next flags limits rest =>
    dsimp only at reads
    split at reads
    · cases reads
    · split at reads
      · cases reads
      · cases reads
        exact ⟨numRoutes flags, lifetimes limits, places limits⟩
  · cases reads

namespace DioHeader

/-- The fields of a header with an RREP have values that their bits can spell. -/
structure WithinBits (dio : DioHeader) : Prop where
  mop : dio.mop ≤ 7
  preference : dio.preference ≤ 7
  lql : ∀ lql, dio.lql = some lql → lql ≤ lqlWorst
  rrep : ∀ rrep, dio.rrep = some rrep →
    rrep.lifetime ≤ 3 ∧ rrep.rankLimit ≤ 127 ∧ rrep.delta ≤ 63
  arts : ∀ art ∈ dio.arts, art.prefixLength ≤ 127

variable {dio : DioHeader} {octets : List UInt8}

theorem WithinBits.readMetricContainer (bits : dio.WithinBits) (body : List UInt8) :
    (dio.readMetricContainer body).WithinBits := by
  have levels (second : UInt8) : min (second >>> 4) lqlWorst ≤ lqlWorst := Std.min_le_right
  unfold DioHeader.readMetricContainer
  split
  · split
    · exact ⟨bits.mop, bits.preference, bits.lql, bits.rrep, bits.arts⟩
    · split
      · refine ⟨bits.mop, bits.preference, fun lql held => ?_, bits.rrep, bits.arts⟩
        cases held
        exact levels _
      · exact bits
  · exact bits

theorem WithinBits.readAodvOption (bits : dio.WithinBits) (option : Tlv.TypedBody) :
    (dio.readAodvOption option).WithinBits := by
  unfold DioHeader.readAodvOption
  split_ifs
  · cases RreqOption.deserialize dio.dodagId option.2 with
    | none => exact bits
    | some rreq => exact ⟨bits.mop, bits.preference, bits.lql, bits.rrep, bits.arts⟩
  · cases reads : RrepOption.deserialize dio.dodagId option.2 with
    | none => exact bits
    | some rrep =>
      refine ⟨bits.mop, bits.preference, bits.lql, fun held same => ?_, bits.arts⟩
      cases same
      exact RrepOption.bits_of_deserialize reads
  · cases reads : ArtOption.deserialize option.2 with
    | none => exact bits
    | some art =>
      refine ⟨bits.mop, bits.preference, bits.lql, bits.rrep, fun held mem => ?_⟩
      rcases List.mem_append.mp mem with before | last
      · exact bits.arts held before
      · rw [List.mem_singleton.mp last]
        exact ArtOption.bits_of_deserialize reads
  · exact bits

theorem WithinBits.readOption (bits : dio.WithinBits) (option : Tlv.TypedBody) :
    (dio.readOption option).WithinBits := by
  unfold DioHeader.readOption
  split_ifs
  · exact ⟨bits.mop, bits.preference, bits.lql, bits.rrep, bits.arts⟩
  · exact bits.readMetricContainer option.2
  · exact ⟨bits.mop, bits.preference, bits.lql, bits.rrep, bits.arts⟩
  · exact ⟨bits.mop, bits.preference, bits.lql, bits.rrep, bits.arts⟩
  · exact ⟨bits.mop, bits.preference, bits.lql, bits.rrep, bits.arts⟩
  · exact bits.readAodvOption option

theorem WithinBits.foldl (bits : dio.WithinBits) (options : List Tlv.TypedBody) :
    (options.foldl DioHeader.readOption dio).WithinBits := by
  induction options generalizing dio with
  | nil => exact bits
  | cons option rest ih => exact ih (bits.readOption option)

theorem withinBits_of_readBase {base : DioHeader} {options : List UInt8}
    (reads : readBase octets = some (base, options)) : base.WithinBits := by
  have mops (flags : UInt8) : (flags &&& dioMopMask) >>> dioMopShift ≤ 7 :=
    Octets.field_le flags dioMopMask dioMopShift
  have preferences (flags : UInt8) : flags &&& dioPreferenceMask ≤ 7 := UInt8.and_le_right
  unfold readBase at reads
  split at reads
  · next instanceId version rankHigh rankLow flags dtsn _ _ rest =>
    obtain ⟨_, _, same⟩ := Option.map_eq_some_iff.mp reads
    rw [← (Prod.mk.inj same).1]
    refine ⟨mops flags, preferences flags, ?_, ?_, ?_⟩
    · exact fun _ held => nomatch held
    · exact fun _ held => nomatch held
    · exact fun _ mem => absurd mem List.not_mem_nil
  · cases reads

/-- The base that is read has no options yet. -/
theorem withoutOptions_of_readBase {base : DioHeader} {options : List UInt8}
    (reads : readBase octets = some (base, options)) : base.withoutOptions = base := by
  unfold readBase at reads
  split at reads
  · obtain ⟨_, _, same⟩ := Option.map_eq_some_iff.mp reads
    rw [← (Prod.mk.inj same).1]
    rfl
  · cases reads

theorem withinBits_of_deserialize (reads : deserialize octets = some dio) : dio.WithinBits := by
  obtain ⟨⟨base, options⟩, based, rfl⟩ := Option.map_eq_some_iff.mp reads
  exact (withinBits_of_readBase based).foldl _

/-! ## A vector that fits -/

/-- The octets written of the header are read as the header, but for the Compr. -/
def Survives (dio : DioHeader) : Prop :=
  ∃ again, deserialize dio.serialize = some again ∧ again.compressed = dio.compressed

theorem compressed_compressed (dio : DioHeader) : dio.compressed.compressed = dio.compressed := by
  simp only [compressed, Option.map_map, Function.comp_def]

/-- An RREP is all there is of a discovery in the header. -/
def IsReply (dio : DioHeader) (rrep : RrepOption) : Prop :=
  dio.rrep = some rrep ∧ dio.rreq = none ∧ dio.p2pRdo = none

theorem isReply_of_fit (fit : Node.discoveryOptionsFit dio = true)
    {rrep : RrepOption} (held : dio.rrep = some rrep) : dio.IsReply rrep := by
  have one : dio.p2pRdo.isSome.toNat + dio.rreq.isSome.toNat + 1 ≤ 1 := by
    unfold Node.discoveryOptionsFit at fit
    rw [held] at fit
    dsimp only [Option.isSome_some, Bool.toNat_true] at fit
    split at fit
    · exact (of_decide_eq_true fit).le
    · exact (of_decide_eq_true fit).le.trans (Nat.zero_le 1)
  refine ⟨held, ?_, ?_⟩
  · cases rreq : dio.rreq with
    | none => rfl
    | some rreq =>
      rw [rreq, Option.isSome_some, Bool.toNat_true] at one
      omega
  · cases rdo : dio.p2pRdo with
    | none => rfl
    | some rdo =>
      rw [rdo, Option.isSome_some, Bool.toNat_true] at one
      omega

theorem WithinBits.survives (bits : dio.WithinBits) {rrep : RrepOption}
    (reply : dio.IsReply rrep) (fits : VectorFits dio.dodagId rrep.addressVector) :
    dio.Survives := by
  obtain ⟨held, noRreq, noRdo⟩ := reply
  refine ⟨_, deserialize_serialize ?_, dio.compressed_compressed⟩
  refine
    { mop := bits.mop
      preference := bits.preference
      lql := bits.lql
      rreq := fun _ other => ?_
      rrep := fun _ same => ?_
      arts := bits.arts
      p2pRdo := fun _ other => ?_ }
  · rw [noRreq] at other
    cases other
  · cases held.symm.trans same
    exact ⟨fits, bits.rrep rrep held⟩
  · rw [noRdo] at other
    cases other

/-! ## A vector that does not -/

/-- The RREP that reading options leaves, after one held before. -/
def rrepRead (dodagId : Ipv6Address) (held : Option RrepOption) (option : Tlv.TypedBody) :
    Option RrepOption :=
  if option.1 = optionAodvRrep then (RrepOption.deserialize dodagId option.2).or held else held

theorem rrep_readOption (dio : DioHeader) (option : Tlv.TypedBody) :
    (dio.readOption option).rrep = rrepRead dio.dodagId dio.rrep option := by
  have others : option.1 ≠ optionAodvRrep → (dio.readAodvOption option).rrep = dio.rrep := by
    intro other
    unfold readAodvOption
    rw [if_neg other]
    split_ifs
    · cases RreqOption.deserialize dio.dodagId option.2 <;> rfl
    · cases ArtOption.deserialize option.2 <;> rfl
    · rfl
  unfold rrepRead
  rcases dio.readOption_cases option with ⟨type, read⟩ | ⟨-, read⟩ | ⟨⟨-, other, -⟩, same⟩
  · rw [read, if_neg (by rw [type]; decide)]
  · rw [read]
    split
    · next type =>
      have notRreq : ¬(optionAodvRrep = optionAodvRreq) := by decide
      unfold readAodvOption
      rw [type, if_neg notRreq, if_pos rfl]
      cases RrepOption.deserialize dio.dodagId option.2 <;> rfl
    · next other => exact others other
  · rw [if_neg other]
    exact congrArg (·.2.2.1) same

theorem rrep_foldl (dio : DioHeader) (options : List Tlv.TypedBody) :
    (options.foldl readOption dio).rrep = options.foldl (rrepRead dio.dodagId) dio.rrep := by
  induction options generalizing dio with
  | nil => rfl
  | cons option rest ih => rw [List.foldl_cons, ih, readOption_dodagId, rrep_readOption]; rfl

/-- What options leave does not depend on what was held, unless they leave it. -/
theorem foldl_rrepRead (dodagId : Ipv6Address) (options : List Tlv.TypedBody)
    (held : Option RrepOption) :
    options.foldl (rrepRead dodagId) held = (options.foldl (rrepRead dodagId) none).or held := by
  induction options generalizing held with
  | nil => rfl
  | cons option rest ih =>
    rw [List.foldl_cons, List.foldl_cons, ih, ih (rrepRead dodagId none option), Option.or_assoc]
    unfold rrepRead
    split
    · rw [Option.or_none]
    · rfl

theorem foldl_rrepRead_of_others {dodagId : Ipv6Address} {options : List Tlv.TypedBody}
    (others : ∀ option ∈ options, option.1 ≠ optionAodvRrep) (held : Option RrepOption) :
    options.foldl (rrepRead dodagId) held = held := by
  induction options with
  | nil => rfl
  | cons option rest ih =>
    rw [List.forall_mem_cons] at others
    rw [List.foldl_cons, rrepRead, if_neg others.1, ih others.2]

/-- The octets of a vector that the length octet of its option does not count. -/
def overflow (dodagId : Ipv6Address) (addressVector : List Ipv6Address) : List UInt8 :=
  let octets := AddressVector.octets (elidedPrefixLength dodagId addressVector).toNat addressVector
  octets.drop (octets.length % 256)

/-- What is read behind the RREP: the rest of its vector, and the options behind it. -/
def behindRrep (dio : DioHeader) (addressVector : List Ipv6Address) : List Tlv.TypedBody :=
  Tlv.options optionPad1 (overflow dio.dodagId addressVector ++
    (dio.arts.map ArtOption.serialize ++ dio.targets.map TargetOption.serialize).flatMap Tlv.encode)

/-- The options written before the RREP. -/
def beforeRrep (dio : DioHeader) : List Tlv.TypedBody :=
  dio.dagConf.toList.map DagConfiguration.serialize ++
    dio.metricContainer.toList.map serializeMetricContainer ++
    dio.lql.toList.map serializeLql ++ dio.prefixInfo.toList.map PrefixInfo.serialize

theorem options_of_isReply {rrep : RrepOption} (reply : dio.IsReply rrep) :
    dio.options = dio.beforeRrep ++ rrep.serialize dio.dodagId ::
      (dio.arts.map ArtOption.serialize ++ dio.targets.map TargetOption.serialize) := by
  obtain ⟨held, noRreq, noRdo⟩ := reply
  rw [options, aodvOptions, held, noRreq, noRdo, beforeRrep]
  simp only [Option.toList_none, Option.toList_some, List.map_nil, List.map_singleton,
    List.nil_append, List.append_nil, List.append_assoc, List.cons_append]

theorem beforeRrep_others (dio : DioHeader) :
    ∀ option ∈ dio.beforeRrep, Tlv.Fits optionPad1 option ∧ option.1 ≠ optionAodvRrep := by
  intro option mem
  simp only [beforeRrep, List.mem_append] at mem
  rcases mem with ((mem | mem) | mem) | mem
  · obtain ⟨conf, -, rfl⟩ := List.mem_map.mp mem
    exact ⟨⟨show optionDagConf ≠ optionPad1 by decide,
      by simp [DagConfiguration.serialize, u16Octets]⟩, show optionDagConf ≠ _ by decide⟩
  · obtain ⟨pathEtx, -, rfl⟩ := List.mem_map.mp mem
    exact ⟨⟨show optionDagMetricContainer ≠ optionPad1 by decide,
      by simp [serializeMetricContainer, u16Octets]⟩, show optionDagMetricContainer ≠ _ by decide⟩
  · obtain ⟨lql, -, rfl⟩ := List.mem_map.mp mem
    exact ⟨⟨show optionDagMetricContainer ≠ optionPad1 by decide, by simp [serializeLql]⟩,
      show optionDagMetricContainer ≠ _ by decide⟩
  · obtain ⟨info, -, rfl⟩ := List.mem_map.mp mem
    exact ⟨⟨show optionPrefixInfo ≠ optionPad1 by decide, by simp [PrefixInfo.serialize]⟩,
      show optionPrefixInfo ≠ _ by decide⟩

end DioHeader

theorem AddressVector.length_read (dodagId : Ipv6Address) (compr count : Nat)
    (octets : List UInt8) : (AddressVector.read dodagId compr count octets).length = count := by
  induction count generalizing octets with
  | zero => rfl
  | succ count ih => rw [AddressVector.read, List.length_cons, ih]

/-- Of a vector too long for the option the first entries are read, and not all. -/
theorem RouteOption.read_take {dodagId : Ipv6Address} {option : RouteOption}
    (overlong : ¬VectorFits dodagId option.addressVector) :
    (option.body dodagId).drop ((option.body dodagId).length % 256) =
        DioHeader.overflow dodagId option.addressVector ∧
      ∃ short, RouteOption.read dodagId
          ((option.body dodagId).take ((option.body dodagId).length % 256)) = some short ∧
        short.addressVector.length < option.addressVector.length := by
  rw [vectorFits_iff] at overlong
  have known := (elidedPrefixLength_cases dodagId option.addressVector).imp_right And.left
  have comprRead := (flags_fields option.flag option.hopByHop known option.lifetime).1
  have len := AddressVector.length_octets
    (elidedPrefixLength dodagId option.addressVector).toNat option.addressVector
  rw [body, DioHeader.overflow]
  dsimp only [List.length_cons]
  generalize AddressVector.octets (elidedPrefixLength dodagId option.addressVector).toNat
    option.addressVector = octets at len ⊢
  rw [← flags] at comprRead
  generalize elidedPrefixLength dodagId option.addressVector = compr at *
  -- The octets of whole entries are left, as both widths divide 256.
  obtain ⟨width, widths, most⟩ : ∃ width, 16 - compr.toNat = width ∧
      (width = 16 ∧ aodvMaxAddressVectorEntries compr = 15 ∨
        width = 8 ∧ aodvMaxAddressVectorEntries compr = 31) := by
    rcases known with rfl | rfl
    · exact ⟨16, rfl, .inl ⟨rfl, by decide⟩⟩
    · exact ⟨8, rfl, .inr ⟨rfl, by decide⟩⟩
  rw [widths] at len overlong
  have counted : (octets.length + 1 + 1 + 1) % 256 = octets.length % 256 + 3 := by
    rcases most with ⟨rfl, -⟩ | ⟨rfl, -⟩
    · omega
    · omega
  rw [counted]
  refine ⟨rfl, ?_⟩
  have front : (octets.take (octets.length % 256)).length = octets.length % 256 :=
    List.length_take_of_le (Nat.mod_le ..)
  simp only [List.take_succ_cons, RouteOption.read, comprRead, widths, front]
  rw [if_neg]
  · refine ⟨_, rfl, ?_⟩
    dsimp only
    rw [AddressVector.length_read]
    rcases most with ⟨rfl, -⟩ | ⟨rfl, -⟩
    · omega
    · omega
  · rcases most with ⟨rfl, entries⟩ | ⟨rfl, entries⟩
    · omega
    · omega

namespace DioHeader

variable {dio : DioHeader} {rrep : RrepOption}

/-- What is read of an RREP too long: the RREP read behind it, or else a shorter one. -/
theorem rrep_of_overlong (mop : dio.mop ≤ 7) (preference : dio.preference ≤ 7)
    (reply : dio.IsReply rrep) (overlong : ¬VectorFits dio.dodagId rrep.addressVector) :
    ∃ again short, deserialize dio.serialize = some again ∧
      short.addressVector.length < rrep.addressVector.length ∧
      again.rrep = ((dio.behindRrep rrep.addressVector).foldl (rrepRead dio.dodagId) none).or
        (some short) := by
  have overlongRoute : ¬VectorFits dio.dodagId rrep.route.addressVector := overlong
  obtain ⟨rest, short, read, shorter⟩ := RouteOption.read_take overlongRoute
  have fits (option : Tlv.TypedBody) (mem : option ∈ dio.beforeRrep) :=
    (dio.beforeRrep_others option mem).1
  have others (option : Tlv.TypedBody) (mem : option ∈ dio.beforeRrep) :=
    (dio.beforeRrep_others option mem).2
  refine ⟨_, .ofRoute short, deserialize_serialize_eq mop preference, shorter, ?_⟩
  rw [rrep_foldl, options_of_isReply reply, List.flatMap_append,
    Tlv.options_flatMap_encode_append fits, List.flatMap_cons, RrepOption.serialize,
    Tlv.options_encode_append_mod (by decide), rest, List.foldl_append,
    foldl_rrepRead_of_others others, List.foldl_cons, foldl_rrepRead]
  have held : rrepRead dio.withoutOptions.dodagId dio.withoutOptions.rrep
      (optionAodvRrep, (rrep.route.body dio.dodagId).take
        ((rrep.route.body dio.dodagId).length % 256)) = some (.ofRoute short) := by
    rw [rrepRead, if_pos rfl]
    change ((RouteOption.read dio.dodagId _).map RrepOption.ofRoute).or none = _
    rw [read]
    rfl
  rw [held]
  rfl

/-! ## Whichever Delta pairs the reply -/

/-- The same reply to the same RREQ-Instance, under the RREP InstanceID that is the given
Delta away from that of the RREQ. -/
def underDelta (dio : DioHeader) (delta : UInt8) : DioHeader :=
  { dio with
    instanceId := dio.instanceId - dio.getRrep.delta + delta
    rrep := dio.rrep.map fun rrep => { rrep with delta := delta } }

theorem IsReply.underDelta (reply : dio.IsReply rrep) (delta : UInt8) :
    (dio.underDelta delta).IsReply { rrep with delta := delta } := by
  obtain ⟨held, noRreq, noRdo⟩ := reply
  exact ⟨by rw [DioHeader.underDelta, held]; rfl, noRreq, noRdo⟩

/-- What is read behind an RREP too long does not depend on its Delta, so there is a Delta
under which the reply does not survive. -/
theorem exists_not_survives (mop : dio.mop ≤ 7) (preference : dio.preference ≤ 7)
    (reply : dio.IsReply rrep) (overlong : ¬VectorFits dio.dodagId rrep.addressVector) :
    ∃ delta, delta ≤ 63 ∧ ¬(dio.underDelta delta).Survives := by
  by_contra fails
  simp only [not_exists, not_and, not_not] at fails
  have left (delta : UInt8) (small : delta ≤ 63) :
      ∃ last, (dio.behindRrep rrep.addressVector).foldl (rrepRead dio.dodagId) none = some last ∧
        last.delta = delta := by
    have relabelled := reply.underDelta delta
    obtain ⟨again, short, read, shorter, held⟩ :=
      @rrep_of_overlong (dio.underDelta delta) _ mop preference relabelled overlong
    obtain ⟨_, readToo, same⟩ := fails delta small
    cases read.symm.trans readToo
    have rreps := congrArg DioHeader.rrep same
    rw [compressed, compressed, relabelled.1] at rreps
    change again.rrep =
      ((dio.behindRrep rrep.addressVector).foldl (rrepRead dio.dodagId) none).or _ at held
    rw [held] at rreps
    cases behind : (dio.behindRrep rrep.addressVector).foldl (rrepRead dio.dodagId) none with
    | none =>
      rw [behind, Option.none_or] at rreps
      have vectors := congrArg RrepOption.addressVector (Option.some.inj rreps)
      exact absurd (congrArg List.length vectors) shorter.ne
    | some last =>
      rw [behind, Option.some_or] at rreps
      exact ⟨last, rfl, congrArg RrepOption.delta (Option.some.inj rreps)⟩
  obtain ⟨last, read, zero⟩ := left 0 (by decide)
  obtain ⟨_, again, one⟩ := left 1 (by decide)
  cases read.symm.trans again
  rw [zero] at one
  cases one

/-- The body of an option with Delta rewritten, when it is that of an RREP. -/
def respelled (delta : UInt8) (option : Tlv.TypedBody) : Tlv.TypedBody :=
  match option with
  | (type, flags :: limits :: octet :: rest) =>
    (type, flags :: limits ::
      (if type = optionAodvRrep then (delta <<< 2) &&& aodvDeltaMask else octet) :: rest)
  | short => short

theorem respelled_fst (delta : UInt8) (option : Tlv.TypedBody) :
    (respelled delta option).1 = option.1 := by
  unfold respelled
  split <;> rfl

theorem length_respelled (delta : UInt8) (option : Tlv.TypedBody) :
    (respelled delta option).2.length = option.2.length := by
  unfold respelled
  split <;> rfl

theorem respelled_of_other {delta : UInt8} {option : Tlv.TypedBody}
    (other : option.1 ≠ optionAodvRrep) : respelled delta option = option := by
  unfold respelled
  split
  · rw [if_neg other]
  · rfl

theorem deserialize_respelled (dodagId : Ipv6Address) {delta : UInt8} (small : delta ≤ 63)
    (body : List UInt8) :
    RrepOption.deserialize dodagId (respelled delta (optionAodvRrep, body)).2 =
      (RrepOption.deserialize dodagId body).map fun rrep => { rrep with delta := delta } := by
  have sixBits : ∀ delta : UInt8, delta ≤ 63 →
      (((delta <<< 2) &&& aodvDeltaMask) &&& aodvDeltaMask) >>> 2 = delta := by
    refine Octets.forall_octet ?_
    decide +kernel
  match body with
  | [] => rfl
  | [_] => rfl
  | [_, _] => rfl
  | flags :: limits :: octet :: rest =>
    rw [respelled, if_pos rfl]
    unfold RrepOption.deserialize RouteOption.read
    dsimp only
    split
    · rfl
    · simp only [Option.map_some, RrepOption.ofRoute, sixBits delta small]

/-- The header under another InstanceID, its RREP with another Delta. -/
def relabelled (instanceId delta : UInt8) (dio : DioHeader) : DioHeader :=
  { dio with
    instanceId := instanceId
    rrep := dio.rrep.map fun rrep => { rrep with delta := delta } }

theorem readMetricContainer_relabelled (instanceId delta : UInt8) (dio : DioHeader)
    (body : List UInt8) : (relabelled instanceId delta dio).readMetricContainer body =
      relabelled instanceId delta (dio.readMetricContainer body) := by
  unfold readMetricContainer
  split
  · split
    · rfl
    · split <;> rfl
  · rfl

/-- Reading the respelled option is reading the option. -/
theorem readOption_relabelled (instanceId : UInt8) {delta : UInt8} (small : delta ≤ 63)
    (dio : DioHeader) (option : Tlv.TypedBody) :
    (relabelled instanceId delta dio).readOption (respelled delta option) =
      relabelled instanceId delta (dio.readOption option) := by
  by_cases isRrep : option.1 = optionAodvRrep
  · obtain ⟨type, body⟩ := option
    dsimp only at isRrep
    subst isRrep
    have read (dio : DioHeader) (body : List UInt8) := @readOption_aodvRrep body dio
    have given := deserialize_respelled dio.dodagId small body
    have type := respelled_fst delta (optionAodvRrep, body)
    generalize respelled delta (optionAodvRrep, body) = option at given type
    obtain ⟨_, newBody⟩ := option
    dsimp only at type given
    subst type
    have same : (relabelled instanceId delta dio).dodagId = dio.dodagId := rfl
    rw [read, read, same, given]
    cases RrepOption.deserialize dio.dodagId body <;> rfl
  · rw [respelled_of_other isRrep]
    unfold readOption
    split
    · rfl
    split
    · exact readMetricContainer_relabelled ..
    split
    · rfl
    split
    · rfl
    split
    · rfl
    unfold readAodvOption
    rw [if_neg isRrep, if_neg isRrep]
    have same : (relabelled instanceId delta dio).dodagId = dio.dodagId := rfl
    rw [same]
    split
    · cases RreqOption.deserialize dio.dodagId option.2 <;> rfl
    split
    · cases ArtOption.deserialize option.2 <;> rfl
    · rfl

/-- The same reply under another Delta can be received too. -/
theorem exists_octets_underDelta (reads : deserialize octets = some dio) {delta : UInt8}
    (small : delta ≤ 63) : ∃ others, deserialize others = some (dio.underDelta delta) := by
  obtain ⟨⟨base, options⟩, based, rfl⟩ := Option.map_eq_some_iff.mp reads
  have bits := withinBits_of_readBase based
  dsimp only
  generalize read : Tlv.options optionPad1 options = written
  have fits : ∀ option ∈ written.map (respelled delta), Tlv.Fits optionPad1 option := by
    intro option mem
    obtain ⟨option, before, rfl⟩ := List.mem_map.mp mem
    rw [← read] at before
    obtain ⟨notPad, short⟩ := Tlv.fits_of_mem_options before
    exact ⟨by rwa [respelled_fst], by rwa [length_respelled]⟩
  generalize named : (written.foldl readOption base).instanceId -
    (written.foldl readOption base).getRrep.delta + delta = instanceId
  have again (dio : DioHeader) : (written.map (respelled delta)).foldl readOption
      (relabelled instanceId delta dio) =
        relabelled instanceId delta (written.foldl readOption dio) := by
    clear read fits named
    induction written generalizing dio with
    | nil => rfl
    | cons option rest ih =>
      rw [List.map_cons, List.foldl_cons, readOption_relabelled instanceId small, ih,
        List.foldl_cons]
  refine ⟨(relabelled instanceId delta base).base ++
    (written.map (respelled delta)).flatMap Tlv.encode, ?_⟩
  have fixed : (relabelled instanceId delta base).withoutOptions =
      relabelled instanceId delta base := by
    have plain := withoutOptions_of_readBase based
    rw [← plain]
    rfl
  have mop : (relabelled instanceId delta base).mop ≤ 7 := bits.mop
  rw [deserialize, readBase_base mop bits.preference, Option.map_some]
  dsimp only
  rw [Tlv.options_flatMap_encode fits, fixed, again, underDelta, named]
  rfl

end DioHeader

namespace P2pDroHeader

/-- The P2P-RDO of a P2P-DRO read is within its bits, and so is the sequence number. -/
theorem bits_of_deserialize {octets : List UInt8} {dro : P2pDroHeader}
    (reads : deserialize octets = some dro) :
    dro.sequence < 4 ∧ ∀ rdo, dro.p2pRdo = some rdo →
      rdo.numRoutes < 4 ∧ rdo.lifetime < 4 ∧ rdo.maxRankOrNh < 64 := by
  have sequences (flags : UInt8) : (flags &&& p2pDroSeqMask) >>> 4 < 4 :=
    UInt8.lt_of_le_of_lt (Octets.field_le flags p2pDroSeqMask 4) (by decide)
  have run (options : List Tlv.TypedBody) (base : P2pDroHeader) (sequence : base.sequence < 4)
      (rdos : ∀ rdo, base.p2pRdo = some rdo →
        rdo.numRoutes < 4 ∧ rdo.lifetime < 4 ∧ rdo.maxRankOrNh < 64) :
      (options.foldl readOption base).sequence < 4 ∧
        ∀ rdo, (options.foldl readOption base).p2pRdo = some rdo →
          rdo.numRoutes < 4 ∧ rdo.lifetime < 4 ∧ rdo.maxRankOrNh < 64 := by
    induction options generalizing base with
    | nil => exact ⟨sequence, rdos⟩
    | cons option rest ih =>
      refine ih _ ?_ ?_
      · unfold readOption
        split <;> exact sequence
      · unfold readOption
        split
        · exact fun rdo held => P2pRdoOption.bits_of_deserialize held
        · exact rdos
  unfold deserialize at reads
  split at reads
  · next instanceId version flags reserved rest =>
    obtain ⟨⟨dodagId, options⟩, _, rfl⟩ := Option.map_eq_some_iff.mp reads
    exact run _ _ (sequences flags) fun _ held => nomatch held
  · cases reads

end P2pDroHeader

/-! ## What the handlers hand down -/

/-- The message an output is, if it is one. -/
def Output.message? : Output → Option RplMessage
  | .sent _ _ _ message => some message
  | .discoveryTargetReached _ => none

namespace Node

/-- The messages handed down between two states of a node, newest first. -/
def messagesSent (n after : Node) : List RplMessage :=
  (after.outputs.take (after.outputs.length - n.outputs.length)).filterMap Output.message?

variable {n m after : Node} {message : RplMessage} {destination : Ipv6Address}

theorem messagesSent_eq_nil (same : after.outputs = n.outputs) : n.messagesSent after = [] := by
  rw [messagesSent, same, Nat.sub_self, List.take_zero, List.filterMap_nil]

theorem messagesSent_emit (same : m.outputs = n.outputs) (sent : List Output) :
    n.messagesSent (m.emit sent) = sent.filterMap Output.message? := by
  rw [messagesSent, emit_outputs, same, List.length_append, Nat.add_sub_cancel, List.take_left]

theorem eq_of_hands (same : m.outputs = n.outputs) (hands : m.Hands message destination after)
    {said : RplMessage} (sent : said ∈ n.messagesSent after) : said = message := by
  obtain ⟨outputs, rfl, carry⟩ := hands
  rw [messagesSent_emit same] at sent
  obtain ⟨output, mem, speaks⟩ := List.mem_filterMap.mp sent
  obtain ⟨interface, source, rfl⟩ := carry output mem
  cases speaks
  rfl

theorem storeHopByHopRoute_outputs (n : Node) (key : DodagKey) (target nextHop : Ipv6Address)
    (lifetime : Time) (seqNo : Option UInt8) (pinNextHop : Bool) :
    (n.storeHopByHopRoute key target nextHop lifetime seqNo pinNextHop).2.outputs = n.outputs := by
  unfold storeHopByHopRoute
  split
  · rfl
  · rfl

/-! ## A P2P-DRO -/

theorem eq_of_completeP2pRoute {key : DodagKey} {dodag : DodagMembership} {dro : P2pDroHeader}
    {rdo : P2pRdoOption} (sent : message ∈ n.messagesSent (n.completeP2pRoute key dodag dro rdo)) :
    ∃ ack, message = .p2pDroAck ack := by
  have acknowledges (stored : Node) (same : stored.outputs = n.outputs)
      (sent : message ∈ n.messagesSent (stored.acknowledgeP2pDro dro rdo.target)) :
      ∃ ack, message = .p2pDroAck ack := by
    unfold acknowledgeP2pDro at sent
    split at sent
    · exact ⟨_, eq_of_hands same hands_sendRplMessageUnicast sent⟩
    · rw [messagesSent_eq_nil same] at sent
      cases sent
  unfold completeP2pRoute at sent
  split at sent
  · have stores := n.storeHopByHopRoute_outputs key rdo.target
      (rdo.addressVector.head?.getD rdo.target) n.attributes.routeLifetime none true
    dsimp only at sent
    split at sent
    · rw [messagesSent_eq_nil rfl] at sent
      cases sent
    · next accepted =>
      rw [accepted] at stores
      exact acknowledges _ stores sent
  · refine acknowledges _ ?_ sent
    unfold storeP2pRoute
    dsimp only
    split
    · rfl
    · rfl

theorem storeDroRoute_outputs {key : DodagKey} {rdo : P2pRdoOption} {stored : Node}
    (stores : n.storeDroRoute key rdo = some stored) : stored.outputs = n.outputs := by
  unfold storeDroRoute at stores
  split at stores
  · have same := n.storeHopByHopRoute_outputs key rdo.target
      ((rdo.addressVector[rdo.maxRankOrNh.toNat]?).getD rdo.target) n.attributes.routeLifetime none
      true
    dsimp only at stores
    split at stores
    · next accepted =>
      cases stores
      rw [accepted] at same
      exact same
    · cases stores
  · cases stores
    rfl

/-- The P2P-DRO a router relays: one further, its addresses fitting as they will be written. -/
theorem relayed_of_handleP2pDro {dro sent : P2pDroHeader}
    (said : .p2pDro sent ∈ n.messagesSent (n.handleP2pDro dro)) :
    ∃ rdo, dro.p2pRdo = some rdo ∧ 1 ≤ rdo.maxRankOrNh ∧
      rdo.addressVector.length ≤ p2pMaxAddressVectorEntries
        (p2pRdoCompr rdo.target rdo.addressVector dro.dodagId) ∧
      sent = { dro with p2pRdo := some { rdo with maxRankOrNh := rdo.maxRankOrNh - 1 } } := by
  unfold handleP2pDro at said
  dsimp only at said
  split at said
  · next rdo dodag option held =>
    refine ⟨rdo, option, ?_⟩
    split at said
    · rw [messagesSent_eq_nil rfl] at said
      cases said
    split at said
    · split at said
      · rw [messagesSent_eq_nil rfl] at said
        cases said
      · obtain ⟨ack, other⟩ := @eq_of_completeP2pRoute n _ ⟨dro.instanceId, dro.dodagId⟩ dodag dro
          rdo said
        cases other
    · change _ ∈ n.messagesSent (n.relayP2pDro _ dro rdo) at said
      unfold relayP2pDro at said
      split at said
      · rw [messagesSent_eq_nil rfl] at said
        cases said
      · next named =>
        split at said
        · rw [messagesSent_eq_nil rfl] at said
          cases said
        · next stored stores =>
          dsimp only at said
          split at said
          · rw [messagesSent_eq_nil (storeDroRoute_outputs stores)] at said
            cases said
          · next fits =>
            refine ⟨?_, Nat.le_of_not_lt fits, ?_⟩
            · rw [Bool.not_eq_true', Bool.not_eq_false, namedNext] at named
              split at named
              · cases named
              · next index place =>
                rw [UInt8.le_iff_toNat_le, place]
                exact Nat.le_add_left 1 index
            · have same := eq_of_hands (storeDroRoute_outputs stores)
                hands_sendRplMessageMulticast said
              cases same
              rfl
  · rw [messagesSent_eq_nil rfl] at said
    cases said

/-- Whatever Compr and count it came in with, a relayed P2P-DRO is read as it was, NH one
smaller. -/
theorem survives_of_handleP2pDro {octets : List UInt8} {dro sent : P2pDroHeader}
    (reads : P2pDroHeader.deserialize octets = some dro)
    (said : .p2pDro sent ∈ n.messagesSent (n.handleP2pDro dro)) :
    ∃ rdo, dro.p2pRdo = some rdo ∧ 1 ≤ rdo.maxRankOrNh ∧
      sent = { dro with p2pRdo := some { rdo with maxRankOrNh := rdo.maxRankOrNh - 1 } } ∧
      P2pDroHeader.deserialize sent.serialize = some sent.compressed := by
  obtain ⟨rdo, option, place, fits, rfl⟩ := relayed_of_handleP2pDro said
  obtain ⟨sequence, bits⟩ := P2pDroHeader.bits_of_deserialize reads
  obtain ⟨numRoutes, lifetime, nh⟩ := bits rdo option
  have further : rdo.maxRankOrNh - 1 < 64 := by
    rw [UInt8.lt_iff_toNat_lt] at nh ⊢
    rw [UInt8.toNat_sub_of_le _ _ place]
    exact (Nat.sub_le ..).trans_lt nh
  refine ⟨rdo, option, place, rfl,
    P2pDroHeader.deserialize_serialize sequence fun relayed same => ?_⟩
  cases same
  exact ⟨numRoutes, lifetime, further, fits⟩

/-! ## An RREP-DIO -/

/-- The RREQ-Instance an RREP-DIO answers. -/
def answeredKey (dio : DioHeader) : DodagKey :=
  ⟨dio.instanceId - dio.getRrep.delta, dio.getArt.target⟩

/-- A router between the two ends passes an RREP-DIO on, from the state with its route in it,
to the next hop. -/
structure PassesOn (n : Node) (dio : DioHeader) (sender : Ipv6Address) (dodag : DodagMembership)
    (stored : Node) (nextHop : Ipv6Address) : Prop where
  names : dio.arts.isEmpty = false
  held : n.dodags[answeredKey dio]? = some dodag
  first : dodag.aodv.rrepHandled.contains dio.dodagId = false
  stores : (if dio.getRrep.hopByHop then
      n.storeHopByHopRoute (answeredKey dio) dio.dodagId sender n.attributes.routeLifetime
        (some dio.getArt.destSeqNo) true
    else (true, n)) = (true, stored)
  between : stored.ipv6.isOwnAddress (answeredKey dio).dodagId = false
  onward : stored.rrepRelayHop (answeredKey dio) dio.getRrep = some nextHop

variable {dio : DioHeader} {sender : Ipv6Address}

theorem PassesOn.handles {dodag : DodagMembership} {stored : Node} {nextHop : Ipv6Address}
    (passes : n.PassesOn dio sender dodag stored nextHop) :
    n.handleAodvRrep dio sender =
      (stored.markRrepHandled (answeredKey dio) dio.dodagId).sendAodvTo dodag dio nextHop := by
  have stores := passes.stores
  have held := passes.held
  have between := passes.between
  have onward := passes.onward
  unfold answeredKey at stores held between onward
  unfold handleAodvRrep
  dsimp only
  generalize (if dio.getRrep.hopByHop then
      n.storeHopByHopRoute ⟨dio.instanceId - dio.getRrep.delta, dio.getArt.target⟩ dio.dodagId
        sender n.attributes.routeLifetime (some dio.getArt.destSeqNo) true
    else (true, n)) = storing at stores ⊢
  subst stores
  rw [passes.names, if_neg Bool.false_ne_true, held]
  dsimp only
  rw [passes.first, if_neg Bool.false_ne_true, Bool.not_true, if_neg Bool.false_ne_true, between,
    if_neg Bool.false_ne_true, onward]
  rfl

/-- A router hands something down for an RREP-DIO only when it passes the RREP-DIO on. -/
theorem exists_passesOn (sent : message ∈ n.messagesSent (n.handleAodvRrep dio sender)) :
    ∃ dodag stored nextHop, n.PassesOn dio sender dodag stored nextHop ∧
      stored.outputs = n.outputs := by
  have quiet {other : Node} (same : other.outputs = n.outputs)
      (sent : message ∈ n.messagesSent other) : False := by
    rw [messagesSent_eq_nil same] at sent
    cases sent
  unfold handleAodvRrep at sent
  dsimp only at sent
  split at sent
  · exact (quiet rfl sent).elim
  · next names =>
    split at sent
    · exact (quiet rfl sent).elim
    · next dodag held =>
      split at sent
      · exact (quiet rfl sent).elim
      · next first =>
        generalize stores : (if dio.getRrep.hopByHop then
            n.storeHopByHopRoute ⟨dio.instanceId - dio.getRrep.delta, dio.getArt.target⟩
              dio.dodagId sender n.attributes.routeLifetime (some dio.getArt.destSeqNo) true
          else (true, n)) = storing at sent
        obtain ⟨accepted, stored⟩ := storing
        have same : stored.outputs = n.outputs := by
          have kept := congrArg (fun storing : Bool × Node => storing.2.outputs) stores
          dsimp only at kept
          rw [← kept]
          split
          · exact n.storeHopByHopRoute_outputs ..
          · rfl
        dsimp only at sent
        split at sent
        · exact (quiet same sent).elim
        · next goesOn =>
          rw [Bool.not_eq_true', Bool.not_eq_false] at goesOn
          subst goesOn
          have completed : (stored.completeAodvRoute dio
              (dio.instanceId - dio.getRrep.delta)).outputs = n.outputs := by
            unfold completeAodvRoute
            split
            · exact same
            · exact same
          split at sent
          · split at sent
            · exact (quiet same sent).elim
            · split at sent
              · exact (quiet same sent).elim
              · exact (quiet completed sent).elim
          · next between =>
            split at sent
            · exact (quiet same sent).elim
            · next nextHop onward =>
              exact ⟨dodag, stored, nextHop,
                ⟨Bool.eq_false_iff.mpr names, held, Bool.eq_false_iff.mpr first, stores,
                  Bool.eq_false_iff.mpr between, onward⟩, same⟩

theorem answeredKey_underDelta {rrep : RrepOption} (held : dio.rrep = some rrep) (delta : UInt8) :
    answeredKey (dio.underDelta delta) = answeredKey dio := by
  have again : (dio.underDelta delta).getRrep = { rrep with delta := delta } := by
    rw [DioHeader.getRrep, DioHeader.underDelta, held]
    rfl
  rw [answeredKey, answeredKey, again]
  change (⟨dio.instanceId - dio.getRrep.delta + delta - delta, dio.getArt.target⟩ : DodagKey) = _
  rw [UInt8.add_sub_cancel]

/-- The Delta that pairs a reply does not decide whether a router passes it on. -/
theorem PassesOn.underDelta {rrep : RrepOption} {dodag : DodagMembership} {stored : Node}
    {nextHop : Ipv6Address} (held : dio.rrep = some rrep)
    (passes : n.PassesOn dio sender dodag stored nextHop) (delta : UInt8) :
    n.PassesOn (dio.underDelta delta) sender dodag stored nextHop := by
  have given : dio.getRrep = rrep := by rw [DioHeader.getRrep, held]; rfl
  have again : (dio.underDelta delta).getRrep = { rrep with delta := delta } := by
    rw [DioHeader.getRrep, DioHeader.underDelta, held]
    rfl
  have key := answeredKey_underDelta held delta
  obtain ⟨names, member, first, stores, between, onward⟩ := passes
  rw [given] at stores onward
  refine ⟨names, by rw [key, member], first, ?_, by rw [key, between], ?_⟩
  · rw [again, key]
    exact stores
  · rw [again, key]
    exact onward

/-- Where a DIO along a discovery goes does not depend on what is in it. -/
theorem sendAodvTo_eq_emit (n : Node) (dodag : DodagMembership) (nextHop : Ipv6Address) :
    ∃ places : List (Nat × Ipv6Address), ∀ dio, n.sendAodvTo dodag dio nextHop =
      n.emit (places.map fun place => .sent place.1 place.2 (linkLocalOf nextHop) (.dio dio)) := by
  unfold sendAodvTo
  dsimp only
  generalize (if n.interfaceForNeighbour dodag (linkLocalOf nextHop) = 0 then n.firstSocket
    else n.interfaceForNeighbour dodag (linkLocalOf nextHop)) = interface
  split
  · exact ⟨[], fun _ => rfl⟩
  · by_cases running : interface ∈ n.sockets
    · refine ⟨[(interface, n.ipv6.sourceAddressSelection n.ipv6.interfaces interface
        (linkLocalOf nextHop))], fun dio => ?_⟩
      rw [sendRplMessageOn_eq_emit, messageOn, if_pos running]
      rfl
    · refine ⟨[], fun dio => ?_⟩
      rw [sendRplMessageOn_eq_emit, messageOn, if_neg running]
      rfl

theorem PassesOn.messagesSent {dodag : DodagMembership} {stored : Node} {nextHop : Ipv6Address}
    (passes : n.PassesOn dio sender dodag stored nextHop) (same : stored.outputs = n.outputs) :
    ∀ said ∈ n.messagesSent (n.handleAodvRrep dio sender), said = .dio dio := by
  intro said sent
  have outputs : (stored.markRrepHandled (answeredKey dio) dio.dodagId).outputs = n.outputs := same
  rw [passes.handles] at sent
  exact eq_of_hands outputs (hands_sendAodvTo dodag dio nextHop) sent

/-- A router relays the RREP-DIO it has read, and does so whichever Delta pairs it. -/
theorem relays_underDelta {rrep : RrepOption} (held : dio.rrep = some rrep)
    (sent : message ∈ n.messagesSent (n.handleAodvRrep dio sender)) (delta : UInt8) :
    .dio (dio.underDelta delta) ∈
      n.messagesSent (n.handleAodvRrep (dio.underDelta delta) sender) := by
  obtain ⟨dodag, stored, nextHop, passes, same⟩ := exists_passesOn sent
  have outputs : (stored.markRrepHandled (answeredKey dio) dio.dodagId).outputs = n.outputs := same
  rw [passes.handles] at sent
  rw [(passes.underDelta held delta).handles, answeredKey_underDelta held delta]
  change _ ∈ n.messagesSent
    ((stored.markRrepHandled (answeredKey dio) dio.dodagId).sendAodvTo dodag _ nextHop)
  generalize stored.markRrepHandled (answeredKey dio) dio.dodagId = marked at outputs sent ⊢
  obtain ⟨places, emits⟩ := marked.sendAodvTo_eq_emit dodag nextHop
  rw [emits, messagesSent_emit outputs, List.filterMap_map] at sent ⊢
  obtain ⟨place, mem, -⟩ := List.mem_filterMap.mp sent
  exact List.mem_filterMap.mpr ⟨place, mem, rfl⟩

/-! ## The law -/

/-- Whatever Delta pairs the reply with its RREQ-Instance, what a router relays of it is read
as what the router received, but for the Compr.  Under a single Delta a reply too long can be
read so by accident: the entries that overflow can themselves spell the option again. -/
def RelaySurvives (n : Node) (dio : DioHeader) (sender : Ipv6Address) : Prop :=
  ∀ octets delta, DioHeader.deserialize octets = some (dio.underDelta delta) →
    ∀ sent, .dio sent ∈ n.messagesSent (n.handleAodvRrep (dio.underDelta delta) sender) →
      ∃ again, DioHeader.deserialize sent.serialize = some again ∧
        again.compressed = (dio.underDelta delta).compressed

/-- A reply that a router relays survives under every Delta exactly when its vector fits the
option it is written into. -/
theorem relaySurvives_iff {octets : List UInt8} {rrep : RrepOption}
    (reads : DioHeader.deserialize octets = some dio) (held : dio.rrep = some rrep)
    (fit : discoveryOptionsFit dio = true)
    (relays : message ∈ n.messagesSent (n.handleAodvRrep dio sender)) :
    n.RelaySurvives dio sender ↔ VectorFits dio.dodagId rrep.addressVector := by
  have reply := DioHeader.isReply_of_fit fit held
  constructor
  · intro survives
    by_contra overlong
    have bits := DioHeader.withinBits_of_deserialize reads
    obtain ⟨delta, small, lost⟩ :=
      DioHeader.exists_not_survives bits.mop bits.preference reply overlong
    obtain ⟨others, received⟩ := DioHeader.exists_octets_underDelta reads small
    exact lost (survives others delta received _ (relays_underDelta held relays delta))
  · intro fits octets delta received sent said
    obtain ⟨dodag, stored, nextHop, passes, same⟩ := exists_passesOn said
    cases passes.messagesSent same _ said
    exact (DioHeader.withinBits_of_deserialize received).survives (reply.underDelta delta) fits

/-- Replies that routers relay: a P2P-DRO always survives being written again, an RREP-DIO
when its vector fits. -/
theorem relayed_replies_iff (n : Node) :
    (∀ octets dro sent, P2pDroHeader.deserialize octets = some dro →
      .p2pDro sent ∈ n.messagesSent (n.handleP2pDro dro) →
        ∃ rdo, dro.p2pRdo = some rdo ∧ 1 ≤ rdo.maxRankOrNh ∧
          sent = { dro with p2pRdo := some { rdo with maxRankOrNh := rdo.maxRankOrNh - 1 } } ∧
          P2pDroHeader.deserialize sent.serialize = some sent.compressed) ∧
    ∀ octets dio rrep sender, DioHeader.deserialize octets = some dio → dio.rrep = some rrep →
      discoveryOptionsFit dio = true → n.messagesSent (n.handleAodvRrep dio sender) ≠ [] →
        (n.RelaySurvives dio sender ↔ VectorFits dio.dodagId rrep.addressVector) := by
  refine ⟨fun octets dro sent reads said => survives_of_handleP2pDro reads said, ?_⟩
  intro octets dio rrep sender reads held fit relays
  obtain ⟨message, said⟩ := List.exists_mem_of_ne_nil _ relays
  exact relaySurvives_iff reads held fit said

/-! ## A reply that does not survive -/

/-- The n-th address of a link whose addresses differ in their last octet. -/
def linkAddress (n : Nat) : Ipv6Address := BitVec.ofNat 128 (0x20010db8000000000000000000000000 + n)

def askingNode : Ipv6Address := 0xfd000000000000000000000000000009#128

/-- An RREP-DIO with a route of 32 hops, of each of which only the last octet is written. -/
def longReplyOctets : List UInt8 :=
  [0x84, 0, 1, 0, 0x20, 0, 0, 0] ++ addressOctets (linkAddress 40) ++
    [optionAodvRrep, 35, 0x1e, 0, 0x10] ++ (List.range 32).map UInt8.ofNat ++
    [optionAodvArt, 18, 7, 0] ++ addressOctets askingNode

def longReply : DioHeader :=
  { instanceId := 0x84
    rank := 256
    mop := mopP2pRouteDiscovery
    dodagId := linkAddress 40
    rrep := some { compr := 15, delta := 4, addressVector := (List.range 32).map linkAddress }
    arts := [{ destSeqNo := 7, target := askingNode }] }

/-- A router on the way of the reply. -/
def hopOfReply : Node :=
  inDodag (.ofInterfaces [{}, { addresses := [{ address := linkAddress 9, scope := .global }] }])
    { instanceId := 0x80, dodagId := askingNode }

theorem longReply_relayed :
    .dio longReply ∈
      hopOfReply.messagesSent (hopOfReply.handleAodvRrep longReply (linkAddress 10)) := by
  have passes : hopOfReply.PassesOn longReply (linkAddress 10)
      { instanceId := 0x80, dodagId := askingNode } hopOfReply (linkAddress 8) :=
    { names := rfl
      held := inDodag_dodags_self ..
      first := by decide
      stores := rfl
      between := by decide +kernel
      onward := by decide +kernel }
  have outputs : (hopOfReply.markRrepHandled (answeredKey longReply) longReply.dodagId).outputs =
      hopOfReply.outputs := rfl
  have interface (m : Node) (same : m.sockets = hopOfReply.sockets) :
      m.interfaceForNeighbour { instanceId := 0x80, dodagId := askingNode }
        (linkLocalOf (linkAddress 8)) = 1 := by
    unfold interfaceForNeighbour firstSocket
    rw [same]
    decide +kernel
  rw [passes.handles, sendAodvTo,
    interface (hopOfReply.markRrepHandled (answeredKey longReply) longReply.dodagId) rfl]
  rw [if_neg (by decide), if_neg (by decide), sendRplMessageOn_eq_emit,
    messagesSent_emit outputs]
  have running :
      1 ∈ (hopOfReply.markRrepHandled (answeredKey longReply) longReply.dodagId).sockets :=
    ExtTreeSet.mem_insert_self
  rw [messageOn, if_pos running]
  exact List.mem_singleton_self _

/-- Relayed, the reply is read as one without a route, and without the node it is for. -/
theorem longReply_lost :
    DioHeader.deserialize longReplyOctets = some longReply ∧
      discoveryOptionsFit longReply = true ∧
      .dio longReply ∈
        hopOfReply.messagesSent (hopOfReply.handleAodvRrep longReply (linkAddress 10)) ∧
      ∃ again, DioHeader.deserialize longReply.serialize = some again ∧
        again.getRrep.addressVector = [] ∧ again.arts = [] ∧
        again.compressed ≠ longReply.compressed := by
  refine ⟨by decide +kernel, by decide +kernel, longReply_relayed, ?_⟩
  have lost : (DioHeader.deserialize longReply.serialize).map
      (fun again => (again.getRrep.addressVector, again.arts,
        decide (again.compressed = longReply.compressed))) = some ([], [], false) := by
    decide +kernel
  obtain ⟨again, read, fields⟩ := Option.map_eq_some_iff.mp lost
  obtain ⟨route, rest⟩ := Prod.mk.inj fields
  obtain ⟨arts, differs⟩ := Prod.mk.inj rest
  exact ⟨again, read, route, arts, of_decide_eq_false differs⟩

theorem longReply_not_survives : ¬hopOfReply.RelaySurvives longReply (linkAddress 10) := by
  have reads : DioHeader.deserialize longReplyOctets = some longReply := by decide +kernel
  have overlong : ¬VectorFits longReply.dodagId ((List.range 32).map linkAddress) := by
    decide +kernel
  have law := (relayed_replies_iff hopOfReply).2 longReplyOctets longReply _ (linkAddress 10) reads
    rfl (by decide) (List.ne_nil_of_mem longReply_relayed)
  exact fun survives => overlong (law.mp survives)

end Node

end Rpl
