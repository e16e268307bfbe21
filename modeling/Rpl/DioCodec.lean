import Rpl.AodvCodec
import Rpl.P2pDroCodec

/-!
# A DIO off the wire

`Deserialize` of `RplDioHeader`, and which discovery options it leaves in the header.
An RREQ or an RREP is in it once a well-formed one has been read, whatever else of its
kind there is; the P2P-RDO is the last one read, and a malformed one takes an earlier
one out.
-/

namespace Rpl

/-! ## Constants -/

def optionDagMetricContainer : UInt8 := 2
def optionDagConf : UInt8 := 4
def optionPrefixInfo : UInt8 := 8
def dioGrounded : UInt8 := 0x80
def dioMopShift : UInt8 := 3
def dioMopMask : UInt8 := 0x38
def dioPreferenceMask : UInt8 := 0x07
def dagMcLql : UInt8 := 6
def dagMcEtx : UInt8 := 7
def prefixInfoLFlag : UInt8 := 0x80
def prefixInfoAFlag : UInt8 := 0x40

/-- Two octets in network order. -/
def u16Of (octets : List UInt8) : UInt16 := UInt16.ofNat (Octets.ofBigEndian octets)

/-- Four octets in network order. -/
def u32Of (octets : List UInt8) : UInt32 := UInt32.ofNat (Octets.ofBigEndian octets)

/-! ## The other options -/

/-- The DODAG Configuration option, of fourteen octets. -/
def DagConfiguration.deserialize : List UInt8 → Option DagConfiguration
  | [flags, doublings, intervalMin, redundancy, increaseHigh, increaseLow, hopHigh, hopLow,
      ocpHigh, ocpLow, _, defaultLifetime, unitHigh, unitLow] =>
    some
      { flags := flags
        intervalDoublings := doublings
        intervalMin := intervalMin
        redundancy := redundancy
        maxRankIncrease := u16Of [increaseHigh, increaseLow]
        minHopRankIncrease := u16Of [hopHigh, hopLow]
        ocp := u16Of [ocpHigh, ocpLow]
        defaultLifetime := defaultLifetime
        lifetimeUnit := u16Of [unitHigh, unitLow] }
  | _ => none

/-- The Prefix Information option, of twenty-six octets here. -/
def PrefixInfo.deserialize : List UInt8 → Option PrefixInfo
  | prefixLength :: flags :: rest =>
    if rest.length = 24 then
      some
        { network := addressOf (rest.drop 8)
          prefixLength := prefixLength
          onLink := flags &&& prefixInfoLFlag ≠ 0
          autonomous := flags &&& prefixInfoAFlag ≠ 0
          validLifetime := u32Of (rest.take 4)
          preferredLifetime := u32Of ((rest.drop 4).take 4) }
    else none
  | _ => none

/-- A Target option of a DIO. -/
def TargetOption.deserialize : List UInt8 → Option TargetOption
  | _ :: prefixLength :: target =>
    if target.length = 16 then some { prefixLength := prefixLength, target := addressOf target }
    else none
  | _ => none

namespace DioHeader

/-- A DAG Metric Container of six octets: an ETX or a Link Quality Level object. -/
def readMetricContainer (dio : DioHeader) : List UInt8 → DioHeader
  | [mcType, _, _, objLength, first, second] =>
    if mcType = dagMcEtx ∧ objLength = 2 then
      { dio with metricContainer := some (u16Of [first, second]) }
    else if mcType = dagMcLql ∧ objLength = 2 then
      { dio with lql := some (min (second >>> 4) lqlWorst) }
    else dio
  | _ => dio

/-- One option of `Deserialize`. One of an unknown type or of the wrong length is passed over. -/
def readOption (dio : DioHeader) (option : Tlv.TypedBody) : DioHeader :=
  if option.1 = optionDagConf then
    { dio with dagConf := (DagConfiguration.deserialize option.2).or dio.dagConf }
  else if option.1 = optionDagMetricContainer then dio.readMetricContainer option.2
  else if option.1 = optionPrefixInfo then
    { dio with prefixInfo := (PrefixInfo.deserialize option.2).or dio.prefixInfo }
  else if option.1 = optionP2pRdo then
    { dio with p2pRdo := P2pRdoOption.deserialize dio.dodagId option.2 }
  else if option.1 = optionTarget then
    { dio with targets := dio.targets ++ (TargetOption.deserialize option.2).toList }
  else dio.readAodvOption option

/-- The base object of a DIO, and the octets of its options. -/
def readBase : List UInt8 → Option (DioHeader × List UInt8)
  | instanceId :: version :: rankHigh :: rankLow :: flags :: dtsn :: _ :: _ :: rest =>
    (Octets.take? 16 rest).map fun (dodagId, options) =>
      ({ instanceId := instanceId
         version := version
         rank := u16Of [rankHigh, rankLow]
         grounded := flags &&& dioGrounded ≠ 0
         mop := (flags &&& dioMopMask) >>> dioMopShift
         preference := flags &&& dioPreferenceMask
         dtsn := dtsn
         dodagId := addressOf dodagId },
        options)
  | _ => none

/-- `Deserialize`, into a header newly constructed; nothing when the octets end inside the
base. -/
def deserialize (octets : List UInt8) : Option DioHeader :=
  (readBase octets).map fun (base, options) =>
    (Tlv.options optionPad1 options).foldl readOption base

/-! ## The discovery options -/

/-- A well-formed RREQ option. -/
def isRreq (dodagId : Ipv6Address) (option : Tlv.TypedBody) : Bool :=
  option.1 = optionAodvRreq && (RreqOption.deserialize dodagId option.2).isSome

/-- A well-formed RREP option. -/
def isRrep (dodagId : Ipv6Address) (option : Tlv.TypedBody) : Bool :=
  option.1 = optionAodvRrep && (RrepOption.deserialize dodagId option.2).isSome

/-- A well-formed P2P-RDO. -/
def isP2pRdo (dodagId : Ipv6Address) (option : Tlv.TypedBody) : Bool :=
  option.1 = optionP2pRdo && (P2pRdoOption.deserialize dodagId option.2).isSome

/-- How many well-formed discovery options there are, every occurrence counted. -/
def discoveryOptions (dodagId : Ipv6Address) (options : List Tlv.TypedBody) : Nat :=
  options.countP fun option =>
    isRreq dodagId option || isRrep dodagId option || isP2pRdo dodagId option

/-- The last P2P-RDO is well-formed. -/
def lastRdoStands (dodagId : Ipv6Address) (options : List Tlv.TypedBody) : Bool :=
  (options.filter (·.1 = optionP2pRdo)).getLast?.any (isP2pRdo dodagId)

/-- How many kinds of discovery option reading leaves in the header. -/
def kindsLeft (dodagId : Ipv6Address) (options : List Tlv.TypedBody) : Nat :=
  (options.any (isRreq dodagId)).toNat + (options.any (isRrep dodagId)).toNat +
    (lastRdoStands dodagId options).toNat

/-- The discovery options in the header, and the DODAGID they are read under. -/
def discovery (dio : DioHeader) :
    Ipv6Address × Option RreqOption × Option RrepOption × Option P2pRdoOption :=
  (dio.dodagId, dio.rreq, dio.rrep, dio.p2pRdo)

section Reading

variable (dio : DioHeader) (option : Tlv.TypedBody) (options : List Tlv.TypedBody)

theorem readMetricContainer_keeps {α : Type} (view : DioHeader → α)
    (keeps : ∀ (dio : DioHeader) (metric : Option UInt16) (lql : Option UInt8),
      view { dio with metricContainer := metric, lql := lql } = view dio)
    (body : List UInt8) : view (dio.readMetricContainer body) = view dio := by
  unfold readMetricContainer
  split
  · split
    · exact keeps dio _ dio.lql
    · split
      · exact keeps dio dio.metricContainer _
      · rfl
  · rfl

theorem readAodvOption_dodagId : (dio.readAodvOption option).dodagId = dio.dodagId := by
  unfold readAodvOption
  split_ifs
  · cases RreqOption.deserialize dio.dodagId option.2 <;> rfl
  · cases RrepOption.deserialize dio.dodagId option.2 <;> rfl
  · cases ArtOption.deserialize option.2 <;> rfl
  · rfl

theorem readAodvOption_rreq : (dio.readAodvOption option).rreq.isSome =
    (dio.rreq.isSome || isRreq dio.dodagId option) := by
  unfold readAodvOption isRreq
  split_ifs with rreq rrep
  · cases RreqOption.deserialize dio.dodagId option.2 <;> simp [rreq]
  · cases RrepOption.deserialize dio.dodagId option.2 <;> simp [rreq]
  · cases ArtOption.deserialize option.2 <;> simp [rreq]
  · simp [rreq]

theorem readAodvOption_rrep : (dio.readAodvOption option).rrep.isSome =
    (dio.rrep.isSome || isRrep dio.dodagId option) := by
  unfold readAodvOption isRrep
  split_ifs with rreq rrep
  · have other : option.1 ≠ optionAodvRrep := by rw [rreq]; decide
    cases RreqOption.deserialize dio.dodagId option.2 <;> simp [other]
  · cases RrepOption.deserialize dio.dodagId option.2 <;> simp [rrep]
  · cases ArtOption.deserialize option.2 <;> simp [rrep]
  · simp [rrep]

theorem readAodvOption_p2pRdo : (dio.readAodvOption option).p2pRdo = dio.p2pRdo := by
  unfold readAodvOption
  split_ifs
  · cases RreqOption.deserialize dio.dodagId option.2 <;> rfl
  · cases RrepOption.deserialize dio.dodagId option.2 <;> rfl
  · cases ArtOption.deserialize option.2 <;> rfl
  · rfl

/-- What one option does to the discovery options: it is a P2P-RDO, it is read as an option of
AODV-RPL, or it is of another type and leaves them alone. -/
theorem readOption_cases :
    (option.1 = optionP2pRdo ∧
      dio.readOption option =
        { dio with p2pRdo := P2pRdoOption.deserialize dio.dodagId option.2 }) ∨
    (option.1 ≠ optionP2pRdo ∧ dio.readOption option = dio.readAodvOption option) ∨
    (option.1 ≠ optionAodvRreq ∧ option.1 ≠ optionAodvRrep ∧ option.1 ≠ optionP2pRdo) ∧
      (dio.readOption option).discovery = dio.discovery := by
  unfold readOption
  split_ifs with conf metric info rdo target
  · exact .inr (.inr ⟨by rw [conf]; decide, rfl⟩)
  · exact .inr (.inr ⟨by rw [metric]; decide,
      dio.readMetricContainer_keeps discovery (fun _ _ _ => rfl) option.2⟩)
  · exact .inr (.inr ⟨by rw [info]; decide, rfl⟩)
  · exact .inl ⟨rdo, rfl⟩
  · exact .inr (.inr ⟨by rw [target]; decide, rfl⟩)
  · exact .inr (.inl ⟨rdo, rfl⟩)

theorem readOption_dodagId : (dio.readOption option).dodagId = dio.dodagId := by
  rcases dio.readOption_cases option with ⟨-, read⟩ | ⟨-, read⟩ | ⟨-, same⟩
  · rw [read]
  · rw [read, readAodvOption_dodagId]
  · exact congrArg (·.1) same

theorem readOption_rreq : (dio.readOption option).rreq.isSome =
    (dio.rreq.isSome || isRreq dio.dodagId option) := by
  rcases dio.readOption_cases option with ⟨type, read⟩ | ⟨-, read⟩ | ⟨⟨other, -⟩, same⟩
  · have other : option.1 ≠ optionAodvRreq := by rw [type]; decide
    simp [read, isRreq, other]
  · rw [read, readAodvOption_rreq]
  · have rreq : (dio.readOption option).rreq = dio.rreq := congrArg (·.2.1) same
    simp [rreq, isRreq, other]

theorem readOption_rrep : (dio.readOption option).rrep.isSome =
    (dio.rrep.isSome || isRrep dio.dodagId option) := by
  rcases dio.readOption_cases option with ⟨type, read⟩ | ⟨-, read⟩ | ⟨⟨-, other, -⟩, same⟩
  · have other : option.1 ≠ optionAodvRrep := by rw [type]; decide
    simp [read, isRrep, other]
  · rw [read, readAodvOption_rrep]
  · have rrep : (dio.readOption option).rrep = dio.rrep := congrArg (·.2.2.1) same
    simp [rrep, isRrep, other]

theorem readOption_p2pRdo : (dio.readOption option).p2pRdo.isSome =
    if option.1 = optionP2pRdo then isP2pRdo dio.dodagId option else dio.p2pRdo.isSome := by
  rcases dio.readOption_cases option with ⟨type, read⟩ | ⟨other, read⟩ | ⟨⟨-, -, other⟩, same⟩
  · simp [read, isP2pRdo, type]
  · rw [read, readAodvOption_p2pRdo, if_neg other]
  · have rdo : (dio.readOption option).p2pRdo = dio.p2pRdo := congrArg (·.2.2.2) same
    rw [rdo, if_neg other]

theorem foldl_dodagId : (options.foldl readOption dio).dodagId = dio.dodagId := by
  induction options using List.reverseRecOn with
  | nil => rfl
  | append_singleton options last ih => rw [List.foldl_concat, readOption_dodagId, ih]

theorem foldl_rreq_isSome : (options.foldl readOption dio).rreq.isSome =
    (dio.rreq.isSome || options.any (isRreq dio.dodagId)) := by
  induction options using List.reverseRecOn with
  | nil => simp
  | append_singleton options last ih =>
    rw [List.foldl_concat, readOption_rreq, ih, foldl_dodagId, List.any_append, Bool.or_assoc,
      List.any_cons, List.any_nil, Bool.or_false]

theorem foldl_rrep_isSome : (options.foldl readOption dio).rrep.isSome =
    (dio.rrep.isSome || options.any (isRrep dio.dodagId)) := by
  induction options using List.reverseRecOn with
  | nil => simp
  | append_singleton options last ih =>
    rw [List.foldl_concat, readOption_rrep, ih, foldl_dodagId, List.any_append, Bool.or_assoc,
      List.any_cons, List.any_nil, Bool.or_false]

theorem foldl_p2pRdo_isSome (fresh : dio.p2pRdo = none) :
    (options.foldl readOption dio).p2pRdo.isSome = lastRdoStands dio.dodagId options := by
  induction options using List.reverseRecOn with
  | nil => rw [List.foldl_nil, fresh]; rfl
  | append_singleton options last ih =>
    rw [List.foldl_concat, readOption_p2pRdo, ih, foldl_dodagId, lastRdoStands, lastRdoStands,
      List.filter_append]
    split
    · next rdo => simp [rdo]
    · next other => simp [other]

end Reading

/-- The octets of a DIO, read: its DODAGID and its options, and what reading them leaves. -/
theorem deserialize_eq_some {octets : List UInt8} {dio : DioHeader}
    (read : deserialize octets = some dio) :
    ∃ base options, readBase octets = some (base, options) ∧ dio.dodagId = base.dodagId ∧
      dio.p2pRdo.isSome.toNat + dio.rreq.isSome.toNat + dio.rrep.isSome.toNat =
        kindsLeft base.dodagId (Tlv.options optionPad1 options) := by
  obtain ⟨⟨base, options⟩, based, rfl⟩ := Option.map_eq_some_iff.mp read
  have fresh : base.rreq = none ∧ base.rrep = none ∧ base.p2pRdo = none := by
    unfold readBase at based
    split at based
    · obtain ⟨_, _, same⟩ := Option.map_eq_some_iff.mp based
      rw [← (Prod.mk.inj same).1]
      exact ⟨rfl, rfl, rfl⟩
    · cases based
  refine ⟨base, options, based, foldl_dodagId _ _, ?_⟩
  rw [foldl_rreq_isSome, foldl_rrep_isSome, foldl_p2pRdo_isSome _ _ fresh.2.2, fresh.1, fresh.2.1,
    kindsLeft]
  simp only [Option.isSome_none, Bool.false_or]
  omega

end DioHeader

end Rpl
