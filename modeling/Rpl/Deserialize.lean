import Rpl.DioCodec
import Rpl.Lib.Cursor

/-!
# Messages read octet by octet

`Deserialize` of the six control messages as the source has it, a cursor that reads and
checks nothing by itself.  Where the base of a message is there, no read goes past the end,
every option is left where its length says, and the header is the one that comes of reading
the options one by one.
-/

namespace Rpl

open Cursor

/-! ## Fields -/

def readNtohU16 : Reader UInt16 := do
  let octets ← read 2
  pure (u16Of octets)

def readNtohU32 : Reader UInt32 := do
  let octets ← read 4
  pure (u32Of octets)

/-- `Ipv6Address::Deserialize`, from sixteen octets read. -/
def readAddress : Reader Ipv6Address := do
  let octets ← read 16
  pure (addressOf octets)

/-- An option that is not looked into. -/
def passOver {σ : Type} (length : UInt8) (state : σ) : Reader σ := do
  next length.toNat
  pure state

section Fields

variable {α : Type} {front : List UInt8} (rest : List UInt8)

theorem readNtohU16_bind (high low : UInt8) (rest : List UInt8) (further : UInt16 → Reader α) :
    (readNtohU16 >>= further) (high :: low :: rest) = further (u16Of [high, low]) rest := by
  rw [readNtohU16]
  rfl

theorem readNtohU32_append (four : front.length = 4) :
    readNtohU32 (front ++ rest) = .ok (u32Of front, rest) := by
  rw [readNtohU32, bind_ok (read_append rest four), pure_apply]

theorem readAddress_append (sixteen : front.length = 16) :
    readAddress (front ++ rest) = .ok (addressOf front, rest) := by
  rw [readAddress, bind_ok (read_append rest sixteen), pure_apply]

theorem readAddress_of_lt {left : List UInt8} (short : left.length < 16) :
    readAddress left = .error .pastEnd :=
  bind_error (read_of_lt short) _

theorem passOver_append {σ : Type} {length : UInt8} (len : front.length = length.toNat)
    (state : σ) : passOver length state (front ++ rest) = .ok (state, rest) := by
  rw [passOver, bind_ok (next_append rest len), pure_apply]

end Fields

/-! ## The options of a DIO -/

/-- The DODAG Configuration option, of a length that has been checked. -/
def DagConfiguration.readFrom : Reader DagConfiguration := do
  let flags ← readU8
  let intervalDoublings ← readU8
  let intervalMin ← readU8
  let redundancy ← readU8
  let maxRankIncrease ← readNtohU16
  let minHopRankIncrease ← readNtohU16
  let ocp ← readNtohU16
  let _ ← readU8
  let defaultLifetime ← readU8
  let lifetimeUnit ← readNtohU16
  pure
    { flags := flags
      intervalDoublings := intervalDoublings
      intervalMin := intervalMin
      redundancy := redundancy
      maxRankIncrease := maxRankIncrease
      minHopRankIncrease := minHopRankIncrease
      ocp := ocp
      defaultLifetime := defaultLifetime
      lifetimeUnit := lifetimeUnit }

/-- The Prefix Information option, of a length that has been checked. -/
def PrefixInfo.readFrom : Reader PrefixInfo := do
  let prefixLength ← readU8
  let prefixFlags ← readU8
  let validLifetime ← readNtohU32
  let preferredLifetime ← readNtohU32
  let network ← readAddress
  pure
    { network := network
      prefixLength := prefixLength
      onLink := prefixFlags &&& prefixInfoLFlag ≠ 0
      autonomous := prefixFlags &&& prefixInfoAFlag ≠ 0
      validLifetime := validLifetime
      preferredLifetime := preferredLifetime }

/-- The ART option, of a length that has been checked. -/
def ArtOption.readFrom : Reader ArtOption := do
  let destSeqNo ← readU8
  let prefixLength ← readU8
  let target ← readAddress
  pure
    { destSeqNo := destSeqNo
      prefixLength := prefixLength &&& aodvPrefixLengthMask
      target := target }

/-- The Target option of a DIO, of a length that has been checked. -/
def TargetOption.readFrom : Reader TargetOption := do
  let _ ← readU8
  let prefixLength ← readU8
  let target ← readAddress
  pure { prefixLength := prefixLength, target := target }

/-- The loop over the entries of an address vector. -/
def AddressVector.readFrom (dodagId : Ipv6Address) (compr : UInt8) (entries : Nat) :
    Reader (List Ipv6Address) := do
  let items ← readItems (16 - compr.toNat) entries
  pure (items.map (restore dodagId compr.toNat))

/-- The RREQ and the RREP option, of three octets at least. A malformed one is passed over,
two of its octets having been read. -/
def RouteOption.readFrom (dodagId : Ipv6Address) (length : UInt8) :
    Reader (Option RouteOption) := do
  let flags ← readU8
  let limits ← readU8
  let compr := (flags &&& aodvComprMask) >>> 1
  let entrySize : UInt8 := 16 - compr
  let remaining := length - 3
  let entries := remaining / entrySize
  if remaining % entrySize ≠ 0 ∨ aodvMaxAddressVectorEntries compr < entries.toNat then
    passOver (length - 2) none
  else
    let octet ← readU8
    let addressVector ← AddressVector.readFrom dodagId compr entries.toNat
    pure (some
      { flag := flags &&& aodvTopFlag ≠ 0
        hopByHop := flags &&& aodvHFlag ≠ 0
        compr := compr
        lifetime := ((flags &&& aodvLifetimeHighBit) <<< 1) |||
          (if limits &&& aodvLifetimeLowBit ≠ 0 then 1 else 0)
        rankLimit := limits &&& aodvRankLimitMask
        octet := octet
        addressVector := addressVector })

/-- `P2pRdoDeserialize`. A malformed option is passed over, whatever of it has been read. -/
def P2pRdoOption.readFrom (dodagId : Ipv6Address) (length : UInt8) :
    Reader (Option P2pRdoOption) := do
  if length < 2 then passOver length none
  else
    let flags ← readU8
    let limits ← readU8
    let compr := flags &&& p2pComprMask
    let entrySize : UInt8 := 16 - compr
    let remaining := length - 2
    let blocks := remaining / entrySize
    if remaining % entrySize ≠ 0 ∨ blocks < 1 ∨
        p2pMaxAddressVectorEntries compr < (blocks - 1).toNat then
      passOver (length - 2) none
    else
      let target ← read entrySize.toNat
      let addressVector ← AddressVector.readFrom dodagId compr (blocks - 1).toNat
      pure (some
        { reply := flags &&& p2pRFlag ≠ 0
          hopByHop := flags &&& p2pHFlag ≠ 0
          numRoutes := (flags &&& p2pNMask) >>> 4
          compr := compr
          lifetime := (limits &&& p2pLifetimeMask) >>> 6
          maxRankOrNh := limits &&& p2pNhMask
          target := AddressVector.restore dodagId compr.toNat target
          addressVector := addressVector })

namespace DioHeader

/-- The DAG Metric Container option, of a length that has been checked. An object that is not
known is passed over by what is left of the option, not by its own length. -/
def takeMetricContainer (dio : DioHeader) : Reader DioHeader := do
  let mcType ← readU8
  let _ ← readU8
  let _ ← readU8
  let objLength ← readU8
  if mcType = dagMcEtx ∧ objLength = 2 then
    let pathEtx ← readNtohU16
    pure { dio with metricContainer := some pathEtx }
  else if mcType = dagMcLql ∧ objLength = 2 then
    let _ ← readU8
    let subObject ← readU8
    pure { dio with lql := some (min (subObject >>> 4) lqlWorst) }
  else passOver 2 dio

/-- The body of an option of `Deserialize`. -/
def takeOption (type length : UInt8) (dio : DioHeader) : Reader DioHeader := do
  if type = optionDagConf ∧ length = 14 then
    let conf ← DagConfiguration.readFrom
    pure { dio with dagConf := some conf }
  else if type = optionDagMetricContainer ∧ length = 6 then dio.takeMetricContainer
  else if type = optionPrefixInfo ∧ length = 26 then
    let info ← PrefixInfo.readFrom
    pure { dio with prefixInfo := some info }
  else if type = optionAodvRreq ∧ 3 ≤ length then
    let rreq ← RouteOption.readFrom dio.dodagId length
    pure { dio with rreq := (rreq.map RreqOption.ofRoute).or dio.rreq }
  else if type = optionAodvRrep ∧ 3 ≤ length then
    let rrep ← RouteOption.readFrom dio.dodagId length
    pure { dio with rrep := (rrep.map RrepOption.ofRoute).or dio.rrep }
  else if type = optionAodvArt ∧ length = 18 then
    let art ← ArtOption.readFrom
    pure { dio with arts := dio.arts ++ [art] }
  else if type = optionP2pRdo then
    let rdo ← P2pRdoOption.readFrom dio.dodagId length
    pure { dio with p2pRdo := rdo }
  else if type = optionTarget ∧ length = 18 then
    let target ← TargetOption.readFrom
    pure { dio with targets := dio.targets ++ [target] }
  else passOver length dio

/-- A turn of the option loop. -/
def optionTurn : DioHeader → Reader (DioHeader × Bool) :=
  Cursor.optionTurn optionPad1 fun type length dio => do
    let dio ← dio.takeOption type length
    pure (dio, true)

/-- The fixed part. -/
def readBaseFrom : Reader DioHeader := do
  let instanceId ← readU8
  let version ← readU8
  let rank ← readNtohU16
  let flags ← readU8
  let dtsn ← readU8
  let _ ← readU8
  let _ ← readU8
  let dodagId ← readAddress
  pure
    { instanceId := instanceId
      version := version
      rank := rank
      grounded := flags &&& dioGrounded ≠ 0
      mop := (flags &&& dioMopMask) >>> dioMopShift
      preference := flags &&& dioPreferenceMask
      dtsn := dtsn
      dodagId := dodagId }

/-- `Deserialize`, into a header newly constructed. -/
def readFrom : Reader DioHeader := do
  let dio ← readBaseFrom
  let remaining ← remainingSize
  whileNotEnd optionTurn remaining dio

end DioHeader

/-! ## What the option readers read -/

section Options

variable {dodagId : Ipv6Address} {length : UInt8} {body : List UInt8} (rest : List UInt8)

theorem DagConfiguration.readFrom_append (len : body.length = 14) :
    ∃ conf, DagConfiguration.deserialize body = some conf ∧
      DagConfiguration.readFrom (body ++ rest) = .ok (conf, rest) := by
  match body, len with
  | [_, _, _, _, _, _, _, _, _, _, _, _, _, _], _ => exact ⟨_, rfl, rfl⟩

theorem DagConfiguration.deserialize_eq_none (len : body.length ≠ 14) :
    DagConfiguration.deserialize body = none := by
  unfold DagConfiguration.deserialize
  split
  · exact absurd rfl len
  · rfl

theorem PrefixInfo.readFrom_append (len : body.length = 26) :
    ∃ info, PrefixInfo.deserialize body = some info ∧
      PrefixInfo.readFrom (body ++ rest) = .ok (info, rest) := by
  obtain ⟨prefixLength, body, rfl⟩ := List.exists_cons_of_length_eq_add_one len
  obtain ⟨flags, body, rfl⟩ := List.exists_cons_of_length_eq_add_one (Nat.succ.inj len)
  have long : body.length = 24 := Nat.succ.inj (Nat.succ.inj len)
  have valid : (body.take 4).length = 4 := List.length_take_of_le (by omega)
  have preferred : ((body.drop 4).take 4).length = 4 :=
    List.length_take_of_le (by rw [List.length_drop]; omega)
  have network : (body.drop 8).length = 16 := by
    rw [List.length_drop]
    omega
  have parts : body ++ rest =
      body.take 4 ++ ((body.drop 4).take 4 ++ (body.drop 8 ++ rest)) := by
    have last : body.drop 8 = (body.drop 4).drop 4 := by rw [List.drop_drop]
    rw [last, ← List.append_assoc ((body.drop 4).take 4), List.take_append_drop,
      ← List.append_assoc, List.take_append_drop]
  refine ⟨_, by rw [PrefixInfo.deserialize, if_pos long], ?_⟩
  rw [List.cons_append, List.cons_append, PrefixInfo.readFrom, readU8_bind, readU8_bind, parts,
    bind_ok (readNtohU32_append _ valid), bind_ok (readNtohU32_append _ preferred),
    bind_ok (readAddress_append _ network), pure_apply]

theorem PrefixInfo.deserialize_eq_none (len : body.length ≠ 26) :
    PrefixInfo.deserialize body = none := by
  unfold PrefixInfo.deserialize
  split
  · next flags rest =>
    exact if_neg fun long => len (by rw [List.length_cons, List.length_cons, long])
  · rfl

theorem ArtOption.readFrom_append (len : body.length = 18) :
    ∃ art, ArtOption.deserialize body = some art ∧
      ArtOption.readFrom (body ++ rest) = .ok (art, rest) := by
  obtain ⟨destSeqNo, body, rfl⟩ := List.exists_cons_of_length_eq_add_one len
  obtain ⟨prefixLength, target, rfl⟩ := List.exists_cons_of_length_eq_add_one (Nat.succ.inj len)
  have sixteen : target.length = 16 := Nat.succ.inj (Nat.succ.inj len)
  refine ⟨_, by rw [ArtOption.deserialize]; exact if_pos len, ?_⟩
  rw [List.cons_append, List.cons_append, ArtOption.readFrom, readU8_bind, readU8_bind,
    bind_ok (readAddress_append _ sixteen), pure_apply]

theorem ArtOption.deserialize_eq_none (len : body.length ≠ 18) :
    ArtOption.deserialize body = none := by
  unfold ArtOption.deserialize
  split
  · exact if_neg len
  · rfl

theorem TargetOption.readFrom_append (len : body.length = 18) :
    ∃ target, TargetOption.deserialize body = some target ∧
      TargetOption.readFrom (body ++ rest) = .ok (target, rest) := by
  obtain ⟨flags, body, rfl⟩ := List.exists_cons_of_length_eq_add_one len
  obtain ⟨prefixLength, target, rfl⟩ := List.exists_cons_of_length_eq_add_one (Nat.succ.inj len)
  have sixteen : target.length = 16 := Nat.succ.inj (Nat.succ.inj len)
  refine ⟨_, by rw [TargetOption.deserialize, if_pos sixteen], ?_⟩
  rw [List.cons_append, List.cons_append, TargetOption.readFrom, readU8_bind, readU8_bind,
    bind_ok (readAddress_append _ sixteen), pure_apply]

theorem TargetOption.deserialize_eq_none (len : body.length ≠ 18) :
    TargetOption.deserialize body = none := by
  unfold TargetOption.deserialize
  split
  · next target =>
    exact if_neg fun sixteen => len (by rw [List.length_cons, List.length_cons, sixteen])
  · rfl

theorem AddressVector.read_flatten (dodagId : Ipv6Address) (compr : Nat)
    {items : List (List UInt8)} (sized : ∀ item ∈ items, item.length = 16 - compr) :
    AddressVector.read dodagId compr items.length items.flatten =
      items.map (AddressVector.restore dodagId compr) := by
  induction items with
  | nil => rfl
  | cons item items ih =>
    obtain ⟨size, sizedRest⟩ := List.forall_mem_cons.mp sized
    rw [List.length_cons, List.flatten_cons, AddressVector.read, ← size, List.take_left,
      List.drop_left, ih sizedRest, List.map_cons]

/-- Whole entries are read as the vector they make up. -/
theorem AddressVector.readFrom_append {compr : UInt8} {entries : Nat}
    (len : body.length = entries * (16 - compr.toNat)) :
    AddressVector.readFrom dodagId compr entries (body ++ rest) =
      .ok (AddressVector.read dodagId compr.toNat entries body, rest) := by
  obtain ⟨items, reads, rfl, rfl, sized⟩ := readItems_append entries rest len
  rw [AddressVector.readFrom, bind_ok reads, pure_apply, AddressVector.read_flatten _ _ sized]

/-- A Compr of four bits leaves entries of one octet at least. -/
theorem toNat_entrySize {compr : UInt8} (small : compr ≤ 15) :
    (16 - compr).toNat = 16 - compr.toNat ∧ 0 < 16 - compr.toNat := by
  have below : compr.toNat ≤ 15 := UInt8.le_iff_toNat_le.mp small
  have under : compr ≤ 16 := UInt8.le_iff_toNat_le.mpr (below.trans (by decide))
  refine ⟨UInt8.toNat_sub_of_le _ _ under, by omega⟩

/-- The count of entries in the octets left, as the source computes it in one octet. -/
theorem entries_eq {compr length base : UInt8} {rest : List UInt8} (small : compr ≤ 15)
    (long : base ≤ length) (len : rest.length + base.toNat = length.toNat) :
    ((length - base) / (16 - compr)).toNat = rest.length / (16 - compr.toNat) ∧
      ((length - base) % (16 - compr) = 0 ↔ rest.length % (16 - compr.toNat) = 0) := by
  obtain ⟨size, -⟩ := toNat_entrySize small
  have remaining : (length - base).toNat = rest.length := by
    rw [UInt8.toNat_sub_of_le _ _ long]
    omega
  refine ⟨by rw [UInt8.toNat_div, remaining, size], ?_⟩
  rw [← UInt8.toNat_inj, UInt8.toNat_mod, remaining, size]
  rfl

theorem aodvCompr_le (flags : UInt8) : (flags &&& aodvComprMask) >>> 1 ≤ 15 :=
  Octets.field_le flags aodvComprMask 1

theorem p2pCompr_le (flags : UInt8) : flags &&& p2pComprMask ≤ 15 :=
  UInt8.and_le_right

theorem RouteOption.readFrom_append (len : body.length = length.toNat) (long : 3 ≤ length) :
    RouteOption.readFrom dodagId length (body ++ rest) =
      .ok (RouteOption.read dodagId body, rest) := by
  have three : 3 ≤ body.length := len ▸ UInt8.le_iff_toNat_le.mp long
  obtain ⟨flags, limits, octet, body, rfl⟩ :
      ∃ flags limits octet further, body = flags :: limits :: octet :: further := by
    match body, three with
    | flags :: limits :: octet :: further, _ => exact ⟨flags, limits, octet, further, rfl⟩
  obtain ⟨count, whole⟩ := entries_eq (aodvCompr_le flags) long len
  rw [List.cons_append, List.cons_append, RouteOption.readFrom, readU8_bind, readU8_bind,
    RouteOption.read, count]
  by_cases malformed : body.length % (16 - ((flags &&& aodvComprMask) >>> 1).toNat) ≠ 0 ∨
      aodvMaxAddressVectorEntries ((flags &&& aodvComprMask) >>> 1) <
        body.length / (16 - ((flags &&& aodvComprMask) >>> 1).toNat)
  · rw [if_pos (malformed.imp_left (mt whole.mp)), if_pos malformed]
    have left : (octet :: body).length = (length - 2).toNat := by
      rw [UInt8.toNat_sub_of_le _ _ (UInt8.le_trans (by decide) long), ← len]
      rfl
    exact passOver_append rest left none
  · rw [if_neg (mt (Or.imp_left (mt whole.mpr)) malformed), if_neg malformed]
    rw [not_or, not_not] at malformed
    have entries := (Nat.div_mul_cancel (Nat.dvd_of_mod_eq_zero malformed.1)).symm
    rw [List.cons_append, readU8_bind, bind_ok (AddressVector.readFrom_append rest entries),
      pure_apply]

theorem RouteOption.read_eq_none (short : body.length < 3) :
    RouteOption.read dodagId body = none := by
  unfold RouteOption.read
  split
  · next body =>
    simp only [List.length_cons] at short
    omega
  · rfl

theorem P2pRdoOption.readFrom_append (len : body.length = length.toNat) :
    P2pRdoOption.readFrom dodagId length (body ++ rest) =
      .ok (P2pRdoOption.deserialize dodagId body, rest) := by
  unfold P2pRdoOption.readFrom
  by_cases short : length < 2
  · have two : body.length < 2 := len ▸ UInt8.lt_iff_toNat_lt.mp short
    have none_ : P2pRdoOption.deserialize dodagId body = none := by
      match body, two with
      | [], _ => rfl
      | [_], _ => rfl
    rw [if_pos short, none_]
    exact passOver_append rest len none
  · rw [if_neg short]
    rw [UInt8.not_lt] at short
    have two : 2 ≤ body.length := len ▸ UInt8.le_iff_toNat_le.mp short
    obtain ⟨flags, limits, body, rfl⟩ :
        ∃ flags limits further, body = flags :: limits :: further := by
      match body, two with
      | flags :: limits :: further, _ => exact ⟨flags, limits, further, rfl⟩
    obtain ⟨count, whole⟩ := entries_eq (p2pCompr_le flags) short len
    obtain ⟨size, positive⟩ := toNat_entrySize (p2pCompr_le flags)
    rw [List.cons_append, List.cons_append, readU8_bind, readU8_bind, P2pRdoOption.deserialize]
    generalize flags &&& p2pComprMask = compr at *
    generalize (length - 2) / (16 - compr) = blocks at *
    have few : blocks < 1 ↔ body.length / (16 - compr.toNat) < 1 := by
      rw [UInt8.lt_iff_toNat_lt, count]
      rfl
    have others (some_ : ¬blocks < 1) :
        (blocks - 1).toNat = body.length / (16 - compr.toNat) - 1 := by
      rw [UInt8.toNat_sub_of_le _ _ (UInt8.not_lt.mp some_), count]
      rfl
    have same : ((length - 2) % (16 - compr) ≠ 0 ∨ blocks < 1 ∨
          p2pMaxAddressVectorEntries compr < (blocks - 1).toNat) ↔
        (body.length % (16 - compr.toNat) ≠ 0 ∨ body.length / (16 - compr.toNat) < 1 ∨
          p2pMaxAddressVectorEntries compr < body.length / (16 - compr.toNat) - 1) := by
      rw [ne_eq, ne_eq, whole, ← few]
      by_cases none_ : blocks < 1
      · exact iff_of_true (.inr (.inl none_)) (.inr (.inl none_))
      · rw [others none_]
    by_cases malformed : (length - 2) % (16 - compr) ≠ 0 ∨ blocks < 1 ∨
        p2pMaxAddressVectorEntries compr < (blocks - 1).toNat
    · rw [if_pos malformed, if_pos (same.mp malformed)]
      have left : body.length = (length - 2).toNat := by
        rw [UInt8.toNat_sub_of_le _ _ short, ← len]
        rfl
      exact passOver_append rest left none
    · rw [if_neg malformed, if_neg (mt same.mpr malformed)]
      obtain ⟨divides, some_, -⟩ : (length - 2) % (16 - compr) = 0 ∧ ¬blocks < 1 ∧ _ := by
        rw [not_or, not_or, not_not] at malformed
        exact malformed
      obtain ⟨further, counted⟩ : ∃ further, body.length / (16 - compr.toNat) = further + 1 :=
        Nat.exists_eq_succ_of_ne_zero fun zero => mt few.mpr some_ (by omega)
      have exact_ := Nat.div_mul_cancel (Nat.dvd_of_mod_eq_zero (whole.mp divides))
      rw [counted, Nat.succ_mul] at exact_
      have first : (body.take (16 - compr.toNat)).length = (16 - compr).toNat := by
        rw [size]
        exact List.length_take_of_le (by omega)
      have vector : (body.drop (16 - compr.toNat)).length = further * (16 - compr.toNat) := by
        rw [List.length_drop]
        omega
      have parts : body ++ rest = body.take (16 - compr.toNat) ++
          (body.drop (16 - compr.toNat) ++ rest) := by
        rw [← List.append_assoc, List.take_append_drop]
      rw [parts, bind_ok (read_append _ first), others some_, counted, Nat.add_sub_cancel,
        bind_ok (AddressVector.readFrom_append rest vector), pure_apply, AddressVector.read]

end Options

namespace DioHeader

/-! ## A DIO -/

section Dio

variable {length : UInt8} {body : List UInt8} (rest : List UInt8) (dio : DioHeader)

theorem takeMetricContainer_append (len : body.length = 6) :
    dio.takeMetricContainer (body ++ rest) = .ok (dio.readMetricContainer body, rest) := by
  match body, len with
  | [mcType, _, _, objLength, first, second], _ =>
    unfold takeMetricContainer readMetricContainer
    simp only [List.cons_append, List.nil_append, readU8_bind]
    split
    · rfl
    · split
      · rfl
      · rfl

theorem readMetricContainer_eq_self (len : body.length ≠ 6) :
    dio.readMetricContainer body = dio := by
  unfold readMetricContainer
  split
  · exact absurd rfl len
  · rfl

/-- An option of another type, or of a length that its type does not have, changes nothing. -/
theorem readOption_eq_self {type : UInt8}
    (other : ¬(type = optionDagConf ∧ body.length = 14) ∧
      ¬(type = optionDagMetricContainer ∧ body.length = 6) ∧
      ¬(type = optionPrefixInfo ∧ body.length = 26) ∧
      ¬(type = optionAodvRreq ∧ 3 ≤ body.length) ∧ ¬(type = optionAodvRrep ∧ 3 ≤ body.length) ∧
      ¬(type = optionAodvArt ∧ body.length = 18) ∧ type ≠ optionP2pRdo ∧
      ¬(type = optionTarget ∧ body.length = 18)) : dio.readOption (type, body) = dio := by
  obtain ⟨conf, metric, info, rreq, rrep, art, rdo, target⟩ := other
  simp only [not_and, Nat.not_le] at conf metric info rreq rrep art target
  unfold readOption readAodvOption
  dsimp only
  split
  · next type => rw [DagConfiguration.deserialize_eq_none (conf type), Option.none_or]
  · split
    · next type => exact dio.readMetricContainer_eq_self (metric type)
    · split
      · next type => rw [PrefixInfo.deserialize_eq_none (info type), Option.none_or]
      · split
        · next type =>
          rw [TargetOption.deserialize_eq_none (target type), Option.toList_none,
            List.append_nil]
        · split
          · next type =>
            rw [RreqOption.deserialize, RouteOption.read_eq_none (rreq type), Option.map_none]
          · split
            · next type =>
              rw [RrepOption.deserialize, RouteOption.read_eq_none (rrep type), Option.map_none]
            · split
              · next type => rw [ArtOption.deserialize_eq_none (art type)]
              · rfl

section Types

theorem readOption_dagConf : dio.readOption (optionDagConf, body) =
    { dio with dagConf := (DagConfiguration.deserialize body).or dio.dagConf } := rfl

theorem readOption_metricContainer :
    dio.readOption (optionDagMetricContainer, body) = dio.readMetricContainer body := rfl

theorem readOption_prefixInfo : dio.readOption (optionPrefixInfo, body) =
    { dio with prefixInfo := (PrefixInfo.deserialize body).or dio.prefixInfo } := rfl

theorem readOption_aodvRreq : dio.readOption (optionAodvRreq, body) =
    { dio with rreq := (RreqOption.deserialize dio.dodagId body).or dio.rreq } := by
  have reads : dio.readOption (optionAodvRreq, body) =
      dio.readAodvOption (optionAodvRreq, body) := rfl
  rw [reads, readAodvOption, if_pos rfl]
  dsimp only
  cases RreqOption.deserialize dio.dodagId body <;> rfl

theorem readOption_aodvRrep : dio.readOption (optionAodvRrep, body) =
    { dio with rrep := (RrepOption.deserialize dio.dodagId body).or dio.rrep } := by
  have reads : dio.readOption (optionAodvRrep, body) =
      dio.readAodvOption (optionAodvRrep, body) := rfl
  rw [reads, readAodvOption]
  dsimp only
  rw [if_neg (by decide), if_pos rfl]
  cases RrepOption.deserialize dio.dodagId body <;> rfl

theorem readOption_aodvArt : dio.readOption (optionAodvArt, body) =
    { dio with arts := dio.arts ++ (ArtOption.deserialize body).toList } := by
  have reads : dio.readOption (optionAodvArt, body) =
      dio.readAodvOption (optionAodvArt, body) := rfl
  rw [reads, readAodvOption]
  dsimp only
  rw [if_neg (by decide), if_neg (by decide), if_pos rfl]
  cases ArtOption.deserialize body with
  | none => rw [Option.toList_none, List.append_nil]
  | some art => rfl

theorem readOption_rdo : dio.readOption (optionP2pRdo, body) =
    { dio with p2pRdo := P2pRdoOption.deserialize dio.dodagId body } := rfl

theorem readOption_target : dio.readOption (optionTarget, body) =
    { dio with targets := dio.targets ++ (TargetOption.deserialize body).toList } := rfl

end Types

/-- Whatever the option is, its reader leaves it where its length says, and with the header
that reading its body gives. -/
theorem takeOption_append (type : UInt8) (len : body.length = length.toNat) :
    dio.takeOption type length (body ++ rest) = .ok (dio.readOption (type, body), rest) := by
  have sized (n : UInt8) : length = n ↔ body.length = n.toNat := by
    rw [len, UInt8.toNat_inj]
  have three : 3 ≤ length ↔ 3 ≤ body.length := by
    rw [len, UInt8.le_iff_toNat_le]
    rfl
  unfold takeOption
  split_ifs with conf metric info rreq rrep art rdo target
  · obtain ⟨rfl, fourteen⟩ := conf
    obtain ⟨conf, read, reads⟩ :=
      DagConfiguration.readFrom_append rest ((sized 14).mp fourteen)
    rw [bind_ok reads, pure_apply, readOption_dagConf, read, Option.some_or]
  · obtain ⟨rfl, six⟩ := metric
    rw [takeMetricContainer_append rest dio ((sized 6).mp six), readOption_metricContainer]
  · obtain ⟨rfl, twentySix⟩ := info
    obtain ⟨info, read, reads⟩ := PrefixInfo.readFrom_append rest ((sized 26).mp twentySix)
    rw [bind_ok reads, pure_apply, readOption_prefixInfo, read, Option.some_or]
  · obtain ⟨rfl, long⟩ := rreq
    rw [bind_ok (RouteOption.readFrom_append rest len long), pure_apply, readOption_aodvRreq,
      RreqOption.deserialize]
  · obtain ⟨rfl, long⟩ := rrep
    rw [bind_ok (RouteOption.readFrom_append rest len long), pure_apply, readOption_aodvRrep,
      RrepOption.deserialize]
  · obtain ⟨rfl, eighteen⟩ := art
    obtain ⟨art, read, reads⟩ := ArtOption.readFrom_append rest ((sized 18).mp eighteen)
    rw [bind_ok reads, pure_apply, readOption_aodvArt, read, Option.toList_some]
  · subst rdo
    rw [bind_ok (P2pRdoOption.readFrom_append rest len), pure_apply, readOption_rdo]
  · obtain ⟨rfl, eighteen⟩ := target
    obtain ⟨target, read, reads⟩ := TargetOption.readFrom_append rest ((sized 18).mp eighteen)
    rw [bind_ok reads, pure_apply, readOption_target, read, Option.toList_some]
  · rw [sized] at conf metric info art target
    rw [three] at rreq rrep
    rw [passOver_append rest len, readOption_eq_self dio
      ⟨conf, metric, info, rreq, rrep, art, rdo, target⟩]

/-- The option reader steps through a DIO's options as `readOption` does, and never breaks off. -/
theorem takes_readOption : Takes optionPad1
    (fun type length dio => do
      let dio ← takeOption type length dio
      pure (dio, true))
    fun dio option => (dio.readOption option, true) where
  goesOn type length body rest dio _ len _ := by
    rw [bind_ok (takeOption_append rest dio type len), pure_apply]
  stops _ _ _ _ _ _ _ stopped := by cases stopped

theorem stepAll_readOption (options : List Tlv.TypedBody) :
    stepAll (fun dio option => (readOption dio option, true)) dio options =
      options.foldl readOption dio := by
  induction options generalizing dio with
  | nil => rfl
  | cons option rest ih => exact ih _

end Dio

/-- The option loop of a DIO is framed. -/
theorem framed_optionTurn : Framed optionPad1 optionTurn :=
  framed_of_takes takes_readOption fun _ _ => rfl

/-- The base is read as it is where it is there. -/
theorem readBaseFrom_eq (octets : List UInt8) :
    readBaseFrom octets = match readBase octets with
      | none => .error .pastEnd
      | some based => .ok based := by
  match octets with
  | [] => rfl
  | [_] => rfl
  | [_, _] => rfl
  | [_, _, _] => rfl
  | [_, _, _, _] => rfl
  | [_, _, _, _, _] => rfl
  | [_, _, _, _, _, _] => rfl
  | [_, _, _, _, _, _, _] => rfl
  | instanceId :: version :: rankHigh :: rankLow :: flags :: dtsn :: _ :: _ :: rest =>
    simp only [readBaseFrom, readU8_bind, readNtohU16_bind, readBase]
    rcases Nat.lt_or_ge rest.length 16 with short | long
    · rw [bind_error (readAddress_of_lt short), Octets.take?, if_neg (Nat.not_le.mpr short)]
      rfl
    · have address := readAddress_append (rest.drop 16) (List.length_take_of_le long)
      rw [List.take_append_drop] at address
      rw [bind_ok address, pure_apply, Octets.take?, if_pos long, Option.map_some]

/-- The base is there in twenty-four octets, and the options are behind it. -/
theorem readBase_eq_some {octets : List UInt8} (based : 24 ≤ octets.length) :
    ∃ dio, readBase octets = some (dio, octets.drop 24) := by
  match octets, based with
  | _ :: _ :: _ :: _ :: _ :: _ :: _ :: _ :: rest, based =>
    simp only [List.length_cons] at based
    rw [readBase, Octets.take?, if_pos (by omega)]
    exact ⟨_, rfl⟩

theorem readBase_eq_none {octets : List UInt8} (short : octets.length < 24) :
    readBase octets = none := by
  unfold readBase
  split
  · next rest =>
    simp only [List.length_cons] at short
    rw [Octets.take?, if_neg (by omega)]
    rfl
  · rfl

/-- Where the base is there, reading octet by octet comes to the header of the options read
one by one. -/
theorem readFrom_eq {octets : List UInt8} (based : 24 ≤ octets.length) :
    ∃ dio left, readFrom octets = .ok (dio, left) ∧ deserialize octets = some dio := by
  obtain ⟨base, read⟩ := readBase_eq_some based
  have reads := readBaseFrom_eq octets
  rw [read] at reads
  obtain ⟨left, walked⟩ := whileNotEnd_eq takes_readOption (le_refl (octets.drop 24).length) base
  rw [stepAll_readOption] at walked
  refine ⟨_, left, ?_, by rw [deserialize, read, Option.map_some]⟩
  rw [readFrom, bind_ok reads, remainingSize_bind]
  exact walked

end DioHeader

end Rpl
