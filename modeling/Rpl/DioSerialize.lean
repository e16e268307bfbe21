import Rpl.Deserialize

/-!
# A DIO on the wire

`Serialize` and `GetSerializedSize` of `RplDioHeader`.  A header that its setters can build
is read back from what is written of it, but for the Compr of its vectors, which the encoder
chooses; and the size that was asked for is the size written, and the size read.
-/

namespace Rpl

open Cursor

/-! ## Writing -/

def u16Octets (value : UInt16) : List UInt8 := Octets.bigEndian 2 value.toNat

def u32Octets (value : UInt32) : List UInt8 := Octets.bigEndian 4 value.toNat

/-- The DODAG Configuration option of `Serialize`. -/
def DagConfiguration.serialize (conf : DagConfiguration) : Tlv.TypedBody :=
  (optionDagConf,
    [conf.flags, conf.intervalDoublings, conf.intervalMin, conf.redundancy] ++
      (u16Octets conf.maxRankIncrease ++ (u16Octets conf.minHopRankIncrease ++
        (u16Octets conf.ocp ++ ([0, conf.defaultLifetime] ++ u16Octets conf.lifetimeUnit)))))

/-- The Prefix Information option of `Serialize`. -/
def PrefixInfo.serialize (info : PrefixInfo) : Tlv.TypedBody :=
  (optionPrefixInfo,
    info.prefixLength ::
      ((if info.onLink then prefixInfoLFlag else 0) |||
        (if info.autonomous then prefixInfoAFlag else 0)) ::
        (u32Octets info.validLifetime ++
          (u32Octets info.preferredLifetime ++ addressOctets info.network)))

/-- A Target option of `Serialize`. -/
def TargetOption.serialize (target : TargetOption) : Tlv.TypedBody :=
  (optionTarget, 0 :: target.prefixLength :: addressOctets target.target)

namespace DioHeader

/-- The DAG Metric Container with the path ETX. -/
def serializeMetricContainer (pathEtx : UInt16) : Tlv.TypedBody :=
  (optionDagMetricContainer, [dagMcEtx, 0, 0, 2] ++ u16Octets pathEtx)

/-- The DAG Metric Container with the Link Quality Level, of one sample. -/
def serializeLql (lql : UInt8) : Tlv.TypedBody :=
  (optionDagMetricContainer, [dagMcLql, 0, 0, 2, 0, (lql <<< 4) ||| 1])

/-- The options, in the order `Serialize` writes them. -/
def options (dio : DioHeader) : List Tlv.TypedBody :=
  dio.dagConf.toList.map DagConfiguration.serialize ++
    dio.metricContainer.toList.map serializeMetricContainer ++
    dio.lql.toList.map serializeLql ++ dio.prefixInfo.toList.map PrefixInfo.serialize ++
    dio.aodvOptions ++ dio.p2pRdo.toList.map (P2pRdoOption.serialize dio.dodagId) ++
    dio.targets.map TargetOption.serialize

/-- The octet of Grounded, MOP and Preference. -/
def flags (dio : DioHeader) : UInt8 :=
  (if dio.grounded then dioGrounded else 0) ||| ((dio.mop <<< dioMopShift) &&& dioMopMask) |||
    (dio.preference &&& dioPreferenceMask)

/-- The fixed part. -/
def base (dio : DioHeader) : List UInt8 :=
  [dio.instanceId, dio.version] ++ (u16Octets dio.rank ++ ([dio.flags, dio.dtsn, 0, 0] ++
    addressOctets dio.dodagId))

/-- `Serialize`. -/
def serialize (dio : DioHeader) : List UInt8 := dio.base ++ dio.options.flatMap Tlv.encode

/-- `P2pRdoSerializedSize`. -/
def p2pRdoSerializedSize (dodagId : Ipv6Address) (rdo : P2pRdoOption) : Nat :=
  4 + (1 + rdo.addressVector.length) *
    (16 - (p2pRdoCompr rdo.target rdo.addressVector dodagId).toNat)

/-- The size of a route option with a vector. -/
def routeOptionSize (dodagId : Ipv6Address) (addressVector : List Ipv6Address) : Nat :=
  2 + 3 + addressVector.length * (16 - (elidedPrefixLength dodagId addressVector).toNat)

/-- `GetSerializedSize`. -/
def serializedSize (dio : DioHeader) : Nat :=
  24 + (if dio.dagConf.isSome then 16 else 0) + (if dio.metricContainer.isSome then 8 else 0) +
    (if dio.lql.isSome then 8 else 0) + (if dio.prefixInfo.isSome then 28 else 0) +
    (dio.rreq.map fun rreq => routeOptionSize dio.dodagId rreq.addressVector).getD 0 +
    (dio.rrep.map fun rrep => routeOptionSize dio.dodagId rrep.addressVector).getD 0 +
    dio.arts.length * 20 + (dio.p2pRdo.map (p2pRdoSerializedSize dio.dodagId)).getD 0 +
    dio.targets.length * 20

/-! ## Headers that can be built -/

/-- What the setters let through, with each field within its bits; `SetLql` clamps. -/
structure Buildable (dio : DioHeader) : Prop where
  mop : dio.mop ≤ 7
  preference : dio.preference ≤ 7
  lql : ∀ lql, dio.lql = some lql → lql ≤ lqlWorst
  rreq : ∀ rreq, dio.rreq = some rreq →
    rreq.addressVector.length ≤ aodvAddressVectorMaxEntries ∧ rreq.lifetime ≤ 3 ∧
      rreq.rankLimit ≤ 127
  rrep : ∀ rrep, dio.rrep = some rrep →
    rrep.addressVector.length ≤ aodvAddressVectorMaxEntries ∧ rrep.lifetime ≤ 3 ∧
      rrep.rankLimit ≤ 127 ∧ rrep.delta ≤ 63
  arts : ∀ art ∈ dio.arts, art.prefixLength ≤ 127
  p2pRdo : ∀ rdo, dio.p2pRdo = some rdo → rdo.Fits dio.dodagId

/-- What the octets of a header have room for: each field within its bits, and each vector
within the option the encoder writes it into. -/
structure Encodable (dio : DioHeader) : Prop where
  mop : dio.mop ≤ 7
  preference : dio.preference ≤ 7
  lql : ∀ lql, dio.lql = some lql → lql ≤ lqlWorst
  rreq : ∀ rreq, dio.rreq = some rreq →
    VectorFits dio.dodagId rreq.addressVector ∧ rreq.lifetime ≤ 3 ∧ rreq.rankLimit ≤ 127
  rrep : ∀ rrep, dio.rrep = some rrep →
    VectorFits dio.dodagId rrep.addressVector ∧ rrep.lifetime ≤ 3 ∧ rrep.rankLimit ≤ 127 ∧
      rrep.delta ≤ 63
  arts : ∀ art ∈ dio.arts, art.prefixLength ≤ 127
  p2pRdo : ∀ rdo, dio.p2pRdo = some rdo → rdo.Fits dio.dodagId

theorem Buildable.encodable {dio : DioHeader} (buildable : dio.Buildable) : dio.Encodable where
  mop := buildable.mop
  preference := buildable.preference
  lql := buildable.lql
  rreq rreq held := (buildable.rreq rreq held).imp_left vectorFits_of_le
  rrep rrep held := (buildable.rrep rrep held).imp_left vectorFits_of_le
  arts := buildable.arts
  p2pRdo := buildable.p2pRdo

/-- The header of the fixed part alone. -/
def withoutOptions (dio : DioHeader) : DioHeader :=
  { instanceId := dio.instanceId
    version := dio.version
    rank := dio.rank
    grounded := dio.grounded
    mop := dio.mop
    preference := dio.preference
    dtsn := dio.dtsn
    dodagId := dio.dodagId }

/-- The header with the Compr the encoder chooses. -/
def compressed (dio : DioHeader) : DioHeader :=
  { dio with
    rreq := dio.rreq.map fun rreq =>
      { rreq with compr := elidedPrefixLength dio.dodagId rreq.addressVector }
    rrep := dio.rrep.map fun rrep =>
      { rrep with compr := elidedPrefixLength dio.dodagId rrep.addressVector }
    p2pRdo := dio.p2pRdo.map fun rdo =>
      { rdo with compr := p2pRdoCompr rdo.target rdo.addressVector dio.dodagId } }

end DioHeader

/-! ## Fields -/

theorem u16Of_u16Octets (value : UInt16) : u16Of (u16Octets value) = value := by
  rw [u16Of, u16Octets, Octets.ofBigEndian_bigEndian value.toNat_lt, UInt16.ofNat_toNat]

theorem u32Of_u32Octets (value : UInt32) : u32Of (u32Octets value) = value := by
  rw [u32Of, u32Octets, Octets.ofBigEndian_bigEndian value.toNat_lt, UInt32.ofNat_toNat]

theorem u16Octets_eq (value : UInt16) : ∃ high low, u16Octets value = [high, low] ∧
    u16Of [high, low] = value := by
  refine ⟨UInt8.ofNat (value.toNat / 256 % 256), UInt8.ofNat (value.toNat % 256), rfl, ?_⟩
  exact u16Of_u16Octets value

@[simp] theorem length_u32Octets (value : UInt32) : (u32Octets value).length = 4 :=
  Octets.length_bigEndian ..

theorem DagConfiguration.deserialize_serialize (conf : DagConfiguration) :
    DagConfiguration.deserialize conf.serialize.2 = some conf := by
  obtain ⟨increaseHigh, increaseLow, increase, readIncrease⟩ := u16Octets_eq conf.maxRankIncrease
  obtain ⟨hopHigh, hopLow, hop, readHop⟩ := u16Octets_eq conf.minHopRankIncrease
  obtain ⟨ocpHigh, ocpLow, ocp, readOcp⟩ := u16Octets_eq conf.ocp
  obtain ⟨unitHigh, unitLow, unit, readUnit⟩ := u16Octets_eq conf.lifetimeUnit
  rw [DagConfiguration.serialize, increase, hop, ocp, unit]
  simp only [List.cons_append, List.nil_append, DagConfiguration.deserialize, readIncrease,
    readHop, readOcp, readUnit]

theorem prefixInfo_flags (onLink autonomous : Bool) :
    let octet := (if onLink then prefixInfoLFlag else 0) |||
      (if autonomous then prefixInfoAFlag else 0)
    decide (octet &&& prefixInfoLFlag ≠ 0) = onLink ∧
      decide (octet &&& prefixInfoAFlag ≠ 0) = autonomous := by
  revert onLink autonomous
  decide

theorem PrefixInfo.deserialize_serialize (info : PrefixInfo) :
    PrefixInfo.deserialize info.serialize.2 = some info := by
  obtain ⟨onLink, autonomous⟩ := prefixInfo_flags info.onLink info.autonomous
  have valid (rest : List UInt8) : (u32Octets info.validLifetime ++ rest).take 4 =
      u32Octets info.validLifetime := List.take_left' (length_u32Octets _)
  have behind (rest : List UInt8) : (u32Octets info.validLifetime ++ rest).drop 4 = rest :=
    List.drop_left' (length_u32Octets _)
  have preferred (rest : List UInt8) : (u32Octets info.preferredLifetime ++ rest).take 4 =
      u32Octets info.preferredLifetime := List.take_left' (length_u32Octets _)
  have network : (u32Octets info.validLifetime ++
      (u32Octets info.preferredLifetime ++ addressOctets info.network)).drop 8 =
        addressOctets info.network := by
    rw [← List.append_assoc]
    exact List.drop_left' (by simp)
  rw [PrefixInfo.serialize, PrefixInfo.deserialize, if_pos (by simp), network, valid, behind,
    preferred, u32Of_u32Octets, u32Of_u32Octets, addressOf_addressOctets, onLink, autonomous]

theorem TargetOption.deserialize_serialize (target : TargetOption) :
    TargetOption.deserialize target.serialize.2 = some target := by
  rw [TargetOption.serialize, TargetOption.deserialize, if_pos (by simp), addressOf_addressOctets]

/-- A lifetime of two bits and a rank limit of seven are carried whole. -/
theorem masks_carried {lifetime rankLimit : UInt8} (two : lifetime ≤ 3) (seven : rankLimit ≤ 127) :
    lifetime &&& aodvLifetimeMask = lifetime ∧ rankLimit &&& aodvRankLimitMask = rankLimit := by
  have lifetimes : ∀ octet : UInt8, octet ≤ 3 → octet &&& aodvLifetimeMask = octet := by
    refine Octets.forall_octet ?_
    decide +kernel
  have rankLimits : ∀ octet : UInt8, octet ≤ 127 → octet &&& aodvRankLimitMask = octet := by
    refine Octets.forall_octet ?_
    decide +kernel
  exact ⟨lifetimes lifetime two, rankLimits rankLimit seven⟩

theorem RreqOption.carried_eq {rreq : RreqOption} (two : rreq.lifetime ≤ 3)
    (seven : rreq.rankLimit ≤ 127) (dodagId : Ipv6Address) :
    rreq.carried dodagId =
      { rreq with compr := elidedPrefixLength dodagId rreq.addressVector } := by
  obtain ⟨lifetime, rankLimit⟩ := masks_carried two seven
  unfold RreqOption.carried RouteOption.carried RreqOption.ofRoute RreqOption.route
  dsimp only
  rw [lifetime, rankLimit]

theorem RrepOption.carried_eq {rrep : RrepOption} (two : rrep.lifetime ≤ 3)
    (seven : rrep.rankLimit ≤ 127) (six : rrep.delta ≤ 63) (dodagId : Ipv6Address) :
    rrep.carried dodagId =
      { rrep with compr := elidedPrefixLength dodagId rrep.addressVector } := by
  obtain ⟨lifetime, rankLimit⟩ := masks_carried two seven
  have delta : (rrep.carried dodagId).delta = rrep.delta := RrepOption.carried_delta six
  unfold RrepOption.carried RouteOption.carried RrepOption.ofRoute RrepOption.route at delta ⊢
  dsimp only at delta ⊢
  rw [lifetime, rankLimit, delta]

theorem ArtOption.carried_eq {art : ArtOption} (seven : art.prefixLength ≤ 127) :
    art.carried = art := by
  have lengths : ∀ octet : UInt8, octet ≤ 127 → octet &&& aodvPrefixLengthMask = octet := by
    refine Octets.forall_octet ?_
    decide +kernel
  rw [ArtOption.carried, lengths art.prefixLength seven]

theorem lql_carried {lql : UInt8} (known : lql ≤ lqlWorst) :
    min (((lql <<< 4) ||| 1) >>> 4) lqlWorst = lql := by
  have levels : ∀ octet : UInt8, octet ≤ lqlWorst →
      min (((octet <<< 4) ||| 1) >>> 4) lqlWorst = octet := by
    refine Octets.forall_octet ?_
    decide +kernel
  exact levels lql known

/-- The octet of Grounded, MOP and Preference keeps them apart. -/
theorem dioFlags_fields (grounded : Bool) {mop preference : UInt8} (threeBits : mop ≤ 7)
    (threeBitsToo : preference ≤ 7) :
    let octet := (if grounded then dioGrounded else 0) |||
      ((mop <<< dioMopShift) &&& dioMopMask) |||
      (preference &&& dioPreferenceMask)
    decide (octet &&& dioGrounded ≠ 0) = grounded ∧ (octet &&& dioMopMask) >>> dioMopShift = mop ∧
      octet &&& dioPreferenceMask = preference := by
  obtain ⟨m, rfl⟩ := octet_of_lt 8 (UInt8.lt_of_le_of_lt threeBits (by decide))
  obtain ⟨p, rfl⟩ := octet_of_lt 8 (UInt8.lt_of_le_of_lt threeBitsToo (by decide))
  revert grounded m p
  decide +kernel

namespace DioHeader

/-! ## The options one after the other -/

section Folds

variable {dio header : DioHeader} {dodagId : Ipv6Address}

theorem foldl_dagConf (fresh : dio.dagConf = none) (conf : Option DagConfiguration) :
    (conf.toList.map DagConfiguration.serialize).foldl readOption dio =
      { dio with dagConf := conf } := by
  cases conf with
  | none => rw [Option.toList_none, List.map_nil, List.foldl_nil, ← fresh]
  | some conf =>
    have read := @readOption_dagConf conf.serialize.2 dio
    rw [DagConfiguration.deserialize_serialize, Option.some_or] at read
    exact read

theorem foldl_metricContainer (fresh : dio.metricContainer = none) (pathEtx : Option UInt16) :
    (pathEtx.toList.map serializeMetricContainer).foldl readOption dio =
      { dio with metricContainer := pathEtx } := by
  cases pathEtx with
  | none => rw [Option.toList_none, List.map_nil, List.foldl_nil, ← fresh]
  | some pathEtx =>
    obtain ⟨high, low, octets, read⟩ := u16Octets_eq pathEtx
    rw [Option.toList_some, List.map_singleton, List.foldl_cons, List.foldl_nil,
      serializeMetricContainer, octets, ← read]
    rfl

theorem foldl_lql (fresh : dio.lql = none) {lql : Option UInt8}
    (known : ∀ held, lql = some held → held ≤ lqlWorst) :
    (lql.toList.map serializeLql).foldl readOption dio = { dio with lql := lql } := by
  cases lql with
  | none => rw [Option.toList_none, List.map_nil, List.foldl_nil, ← fresh]
  | some lql =>
    have carried := lql_carried (known lql rfl)
    rw [Option.toList_some, List.map_singleton, List.foldl_cons, List.foldl_nil, serializeLql]
    conv_rhs => rw [← carried]
    rfl

theorem foldl_prefixInfo (fresh : dio.prefixInfo = none) (info : Option PrefixInfo) :
    (info.toList.map PrefixInfo.serialize).foldl readOption dio =
      { dio with prefixInfo := info } := by
  cases info with
  | none => rw [Option.toList_none, List.map_nil, List.foldl_nil, ← fresh]
  | some info =>
    have read := @readOption_prefixInfo info.serialize.2 dio
    rw [PrefixInfo.deserialize_serialize, Option.some_or] at read
    exact read

theorem foldl_p2pRdo (same : dio.dodagId = dodagId) (fresh : dio.p2pRdo = none)
    {rdo : Option P2pRdoOption} (fits : ∀ held, rdo = some held → held.Fits dodagId) :
    (rdo.toList.map (P2pRdoOption.serialize dodagId)).foldl readOption dio =
      { dio with
        p2pRdo := rdo.map fun rdo =>
          { rdo with compr := p2pRdoCompr rdo.target rdo.addressVector dodagId } } := by
  cases rdo with
  | none => rw [Option.toList_none, List.map_nil, List.foldl_nil, Option.map_none, ← fresh]
  | some rdo =>
    subst same
    have read := @readOption_rdo (rdo.serialize dio.dodagId).2 dio
    rw [P2pRdoOption.deserialize_serialize (fits rdo rfl)] at read
    exact read

theorem foldl_targets (targets : List TargetOption) (dio : DioHeader) :
    (targets.map TargetOption.serialize).foldl readOption dio =
      { dio with targets := dio.targets ++ targets } := by
  induction targets generalizing dio with
  | nil => rw [List.append_nil]; rfl
  | cons target rest ih =>
    have read := @readOption_target target.serialize.2 dio
    rw [TargetOption.deserialize_serialize, Option.toList_some] at read
    rw [List.map_cons, List.foldl_cons, show dio.readOption target.serialize = _ from read, ih,
      List.append_assoc]
    rfl

theorem readOption_eq_aodv {type : UInt8} {body : List UInt8}
    (other : type ≠ optionDagConf ∧ type ≠ optionDagMetricContainer ∧ type ≠ optionPrefixInfo ∧
      type ≠ optionP2pRdo ∧ type ≠ optionTarget) (dio : DioHeader) :
    dio.readOption (type, body) = dio.readAodvOption (type, body) := by
  obtain ⟨conf, metric, info, rdo, target⟩ := other
  rw [readOption, if_neg conf, if_neg metric, if_neg info, if_neg rdo, if_neg target]

/-- The options of AODV-RPL are read as such. -/
theorem foldl_aodvOptions (dio header : DioHeader) :
    header.aodvOptions.foldl readOption dio = header.aodvOptions.foldl readAodvOption dio := by
  refine List.foldl_ext _ _ dio fun base option mem => ?_
  rw [aodvOptions, List.mem_append, List.mem_append] at mem
  rcases mem with (mem | mem) | mem
  · obtain ⟨rreq, -, rfl⟩ := List.mem_map.mp mem
    exact readOption_eq_aodv (by decide) base
  · obtain ⟨rrep, -, rfl⟩ := List.mem_map.mp mem
    exact readOption_eq_aodv (by decide) base
  · obtain ⟨art, -, rfl⟩ := List.mem_map.mp mem
    exact readOption_eq_aodv (by decide) base

end Folds

theorem Encodable.vectorsFit {dio : DioHeader} (encodable : dio.Encodable) : dio.VectorsFit where
  rreq rreq held := (encodable.rreq rreq held).1
  rrep rrep held := (encodable.rrep rrep held).1

/-- The options of a header read into a header that has none. -/
theorem foldl_options {dio base : DioHeader} (encodable : dio.Encodable)
    (fresh : base.dagConf = none ∧ base.metricContainer = none ∧ base.lql = none ∧
      base.prefixInfo = none ∧ base.rreq = none ∧ base.rrep = none ∧ base.arts = [] ∧
      base.p2pRdo = none ∧ base.targets = []) (same : base.dodagId = dio.dodagId) :
    dio.options.foldl readOption base =
      { base with
        dagConf := dio.dagConf
        metricContainer := dio.metricContainer
        lql := dio.lql
        prefixInfo := dio.prefixInfo
        rreq := dio.compressed.rreq
        rrep := dio.compressed.rrep
        arts := dio.arts
        p2pRdo := dio.compressed.p2pRdo
        targets := dio.targets } := by
  obtain ⟨dagConf, metricContainer, lql, prefixInfo, rreq, rrep, arts, p2pRdo, targets⟩ := fresh
  have fits := encodable.vectorsFit
  have rreqs : dio.rreq.map (RreqOption.carried dio.dodagId) = dio.compressed.rreq :=
    Option.map_congr fun rreq held =>
      RreqOption.carried_eq (encodable.rreq rreq held).2.1 (encodable.rreq rreq held).2.2 _
  have rreps : dio.rrep.map (RrepOption.carried dio.dodagId) = dio.compressed.rrep :=
    Option.map_congr fun rrep held =>
      RrepOption.carried_eq (encodable.rrep rrep held).2.1 (encodable.rrep rrep held).2.2.1
        (encodable.rrep rrep held).2.2.2 _
  have rdos : dio.compressed.p2pRdo = dio.p2pRdo.map fun rdo =>
      { rdo with compr := p2pRdoCompr rdo.target rdo.addressVector dio.dodagId } := rfl
  have arts' : dio.arts.map ArtOption.carried = dio.arts :=
    (List.map_congr_left fun art mem => ArtOption.carried_eq (encodable.arts art mem)).trans
      (List.map_id _)
  have aodv (base : DioHeader) (sameToo : base.dodagId = dio.dodagId) (rreq : base.rreq = none)
      (rrep : base.rrep = none) : dio.aodvOptions.foldl readOption base =
        { base with
          rreq := dio.compressed.rreq
          rrep := dio.compressed.rrep
          arts := base.arts ++ dio.arts } := by
    rw [foldl_aodvOptions, aodvOptions, List.foldl_append, List.foldl_append,
      foldl_rreq sameToo rreq fits.rreq, foldl_rrep _ _ fits.rrep, foldl_arts, rreqs, rreps, arts']
    · exact sameToo
    · exact rrep
  rw [options]
  generalize dio.aodvOptions = aodvOptions at aodv ⊢
  simp only [List.foldl_append]
  rw [foldl_dagConf dagConf, foldl_metricContainer, foldl_lql _ encodable.lql, foldl_prefixInfo,
    aodv, foldl_p2pRdo _ _ encodable.p2pRdo, foldl_targets]
  · simp only [arts, targets, List.nil_append, rdos]
  · exact same
  · exact p2pRdo
  · exact same
  · exact rreq
  · exact rrep
  · exact prefixInfo
  · exact lql
  · exact metricContainer

/-! ## The message -/

/-- The fixed part is read back. -/
theorem readBaseFrom_base {dio : DioHeader} (mop : dio.mop ≤ 7) (preference : dio.preference ≤ 7)
    (rest : List UInt8) : readBaseFrom (dio.base ++ rest) = .ok (dio.withoutOptions, rest) := by
  obtain ⟨high, low, octets, rank⟩ := u16Octets_eq dio.rank
  obtain ⟨groundedRead, mopRead, preferenceRead⟩ := dioFlags_fields dio.grounded mop preference
  rw [base, octets]
  simp only [List.cons_append, List.nil_append, readBaseFrom, readU8_bind, readNtohU16_bind]
  rw [bind_ok (readAddress_append rest (length_addressOctets dio.dodagId)), pure_apply,
    addressOf_addressOctets, rank, flags]
  simp only [groundedRead, mopRead, preferenceRead, withoutOptions]

theorem readBase_base {dio : DioHeader} (mop : dio.mop ≤ 7) (preference : dio.preference ≤ 7)
    (rest : List UInt8) : readBase (dio.base ++ rest) = some (dio.withoutOptions, rest) := by
  have based := readBaseFrom_eq (dio.base ++ rest)
  rw [readBaseFrom_base mop preference] at based
  cases read : readBase (dio.base ++ rest) with
  | none =>
    rw [read] at based
    cases based
  | some split =>
    rw [read] at based
    cases based
    rfl

/-- What is written is a base and options. -/
theorem deserialize_serialize_eq {dio : DioHeader} (mop : dio.mop ≤ 7)
    (preference : dio.preference ≤ 7) :
    deserialize dio.serialize =
      some ((Tlv.options optionPad1 (dio.options.flatMap Tlv.encode)).foldl readOption
        dio.withoutOptions) := by
  rw [deserialize, serialize, readBase_base mop preference, Option.map_some]

theorem p2pRdo_body_length {dodagId : Ipv6Address} (rdo : P2pRdoOption) :
    2 + (rdo.serialize dodagId).2.length = p2pRdoSerializedSize dodagId rdo := by
  rw [P2pRdoOption.serialize, p2pRdoSerializedSize]
  dsimp only
  rw [List.length_cons, List.length_cons, AddressVector.length_octets, List.length_cons,
    Nat.add_comm 1]
  omega

theorem route_body_length {dodagId : Ipv6Address} (route : RouteOption) :
    2 + (route.body dodagId).length = routeOptionSize dodagId route.addressVector := by
  rw [RouteOption.body, routeOptionSize]
  rw [List.length_cons, List.length_cons, List.length_cons, AddressVector.length_octets]
  omega

/-- Every option can be written where the vectors fit theirs. -/
theorem options_fit {dio : DioHeader} (vectors : dio.VectorsFit)
    (p2pRdo : ∀ rdo, dio.p2pRdo = some rdo → rdo.Fits dio.dodagId) :
    ∀ option ∈ dio.options, Tlv.Fits optionPad1 option := by
  intro option mem
  simp only [options, List.mem_append] at mem
  rcases mem with (((((mem | mem) | mem) | mem) | mem) | mem) | mem
  · obtain ⟨conf, -, rfl⟩ := List.mem_map.mp mem
    exact ⟨show optionDagConf ≠ optionPad1 by decide,
      by simp [DagConfiguration.serialize, u16Octets]⟩
  · obtain ⟨pathEtx, -, rfl⟩ := List.mem_map.mp mem
    exact ⟨show optionDagMetricContainer ≠ optionPad1 by decide,
      by simp [serializeMetricContainer, u16Octets]⟩
  · obtain ⟨lql, -, rfl⟩ := List.mem_map.mp mem
    exact ⟨show optionDagMetricContainer ≠ optionPad1 by decide, by simp [serializeLql]⟩
  · obtain ⟨info, -, rfl⟩ := List.mem_map.mp mem
    exact ⟨show optionPrefixInfo ≠ optionPad1 by decide, by simp [PrefixInfo.serialize]⟩
  · exact aodvOptions_fit vectors option mem
  · obtain ⟨rdo, held, rfl⟩ := List.mem_map.mp mem
    exact P2pRdoOption.serialize_fits (p2pRdo rdo (Option.mem_toList.mp held))
  · obtain ⟨target, -, rfl⟩ := List.mem_map.mp mem
    exact ⟨show optionTarget ≠ optionPad1 by decide, by simp [TargetOption.serialize]⟩

/-- The octets of options of one size, at most one of them. -/
theorem length_toList {α : Type} (write : α → Tlv.TypedBody) (value : Option α) {size : α → Nat}
    (sized : ∀ held, 2 + (write held).2.length = size held) :
    ((value.toList.map write).flatMap Tlv.encode).length = (value.map size).getD 0 := by
  cases value with
  | none => rfl
  | some held =>
    rw [Option.toList_some, List.map_singleton, List.flatMap_singleton, Option.map_some,
      Option.getD_some, ← sized, Tlv.encode, List.length_cons, List.length_cons]
    omega

/-- The octets of options of one size, any number of them. -/
theorem length_map {α : Type} (write : α → Tlv.TypedBody) (values : List α) {size : Nat}
    (sized : ∀ held, 2 + (write held).2.length = size) :
    ((values.map write).flatMap Tlv.encode).length = values.length * size := by
  induction values with
  | nil => rw [List.length_nil, Nat.zero_mul]; rfl
  | cons value rest ih =>
    rw [List.map_cons, List.flatMap_cons, List.length_append, ih, List.length_cons, Nat.succ_mul,
      ← sized value, Tlv.encode, List.length_cons, List.length_cons]
    omega

theorem getD_const {α : Type} (value : Option α) (size : Nat) :
    (value.map fun _ => size).getD 0 = if value.isSome then size else 0 := by
  cases value <;> rfl

/-- As many octets are written as were asked for. -/
theorem length_serialize (dio : DioHeader) : dio.serialize.length = dio.serializedSize := by
  have base : dio.base.length = 24 := by
    simp [DioHeader.base, u16Octets]
  have conf := @length_toList _ DagConfiguration.serialize dio.dagConf (fun _ => 16)
    fun conf => by simp [DagConfiguration.serialize, u16Octets]
  have metric := @length_toList _ serializeMetricContainer dio.metricContainer (fun _ => 8)
    fun pathEtx => by simp [serializeMetricContainer, u16Octets]
  have lql := @length_toList _ serializeLql dio.lql (fun _ => 8)
    fun lql => by simp [serializeLql]
  have info := @length_toList _ PrefixInfo.serialize dio.prefixInfo (fun _ => 28)
    fun info => by simp [PrefixInfo.serialize]
  have rreq := length_toList (RreqOption.serialize dio.dodagId) dio.rreq
    fun rreq => @route_body_length dio.dodagId rreq.route
  have rrep := length_toList (RrepOption.serialize dio.dodagId) dio.rrep
    fun rrep => @route_body_length dio.dodagId rrep.route
  have arts := @length_map _ ArtOption.serialize dio.arts 20
    fun art => by simp [ArtOption.serialize]
  have rdo := length_toList (P2pRdoOption.serialize dio.dodagId) dio.p2pRdo p2pRdo_body_length
  have targets := @length_map _ TargetOption.serialize dio.targets 20
    fun target => by simp [TargetOption.serialize]
  rw [getD_const] at conf metric lql info
  rw [serialize, options, aodvOptions, serializedSize]
  simp only [List.flatMap_append, List.length_append, base, conf, metric, lql, info, rreq, rrep,
    arts, rdo, targets]
  simp only [RreqOption.route, RrepOption.route]
  omega

/-- What is written of a header is read back whole. -/
theorem readFrom_serialize_encodable {dio : DioHeader} (encodable : dio.Encodable) :
    readFrom dio.serialize = .ok (dio.compressed, []) := by
  have walked (base : DioHeader) := whileNotEnd_encode takes_readOption (fun _ _ => rfl)
    (options_fit encodable.vectorsFit encodable.p2pRdo)
    (le_refl (dio.options.flatMap Tlv.encode).length) base
  rw [readFrom, serialize, bind_ok (readBaseFrom_base encodable.mop encodable.preference _),
    remainingSize_bind]
  refine (walked _).trans (congrArg (fun dio => Except.ok (dio, [])) ?_)
  exact foldl_options encodable ⟨rfl, rfl, rfl, rfl, rfl, rfl, rfl, rfl, rfl⟩ rfl

theorem deserialize_serialize {dio : DioHeader} (encodable : dio.Encodable) :
    deserialize dio.serialize = some dio.compressed := by
  rw [deserialize_serialize_eq encodable.mop encodable.preference,
    Tlv.options_flatMap_encode (options_fit encodable.vectorsFit encodable.p2pRdo)]
  have options := @foldl_options dio dio.withoutOptions encodable
    ⟨rfl, rfl, rfl, rfl, rfl, rfl, rfl, rfl, rfl⟩ rfl
  rw [options]
  rfl

/-- A header that can be built is read back as it was written, apart from the Compr of its
vectors; `GetSerializedSize` octets are written, and all of them are read. -/
theorem readFrom_serialize (dio : DioHeader) (buildable : dio.Buildable) :
    dio.serialize.length = dio.serializedSize ∧
      readFrom dio.serialize = .ok (dio.compressed, []) := by
  exact ⟨dio.length_serialize, readFrom_serialize_encodable buildable.encodable⟩

/-- A DIO with one option of each kind, the vector of its RREQ under the DODAGID's prefix. -/
def everyOption : DioHeader :=
  { instanceId := 0x80
    rank := 256
    mop := 4
    dodagId := 0x20010db8000000000000000000000001#128
    dagConf := some {}
    metricContainer := some 128
    lql := some 3
    prefixInfo := some
      { network := 0x20010db8000000000000000000000000#128
        prefixLength := 64
        onLink := true
        autonomous := true
        validLifetime := 86400
        preferredLifetime := 14400 }
    rreq := some
      { lifetime := 2
        rankLimit := 12
        origSeqNo := 241
        addressVector := [0x20010db8000000000000000000000002#128] }
    rrep := some { delta := 5, addressVector := [0xfd000000000000000000000000000003#128] }
    arts := [{ prefixLength := 128 - 1, target := 0x20010db8000000000000000000000009#128 }]
    p2pRdo := some
      { maxRankOrNh := 6
        target := 0x20010db8000000000000000000000009#128
        addressVector := [0x20010db8000000000000000000000002#128] }
    targets := [{ prefixLength := 128, target := 0x20010db800000000000000000000000a#128 }] }

theorem readFrom_everyOption : everyOption.serialize.length = everyOption.serializedSize ∧
    readFrom everyOption.serialize = .ok (everyOption.compressed, []) :=
  readFrom_serialize everyOption
    { mop := by decide
      preference := by decide
      lql := fun _ held => by cases held; decide
      rreq := fun _ held => by cases held; decide
      rrep := fun _ held => by cases held; decide
      arts := by decide
      p2pRdo := fun _ held => by
        cases held
        exact ⟨by decide, by decide, by decide, by decide⟩ }

end DioHeader

end Rpl
