import Rpl.Header
import Rpl.Lib.Tlv

/-!
# The DAO on the wire

`Serialize` and `Deserialize` of `RplDaoHeader`.  A DAO is a base of four octets,
a DODAGID when it names one, and then for each target a Target option with the
Transit Information option that goes with it.  What is written is read back,
and a DAO of such pairs from anywhere is read as its pairs, but for the parent
addresses: the header has one for the whole message, the first pair's.
-/

namespace Rpl

/-! ## Addresses -/

/-- `Ipv6Address::Serialize`. -/
def addressOctets (address : Ipv6Address) : List UInt8 := Octets.bigEndian 16 address.toNat

/-- `Ipv6Address::Deserialize`. -/
def addressOf (octets : List UInt8) : Ipv6Address := BitVec.ofNat 128 (Octets.ofBigEndian octets)

@[simp] theorem length_addressOctets (address : Ipv6Address) :
    (addressOctets address).length = 16 :=
  Octets.length_bigEndian ..

@[simp] theorem addressOf_addressOctets (address : Ipv6Address) :
    addressOf (addressOctets address) = address := by
  rw [addressOf, addressOctets, Octets.ofBigEndian_bigEndian address.isLt]
  simp

/-! ## Constants -/

def optionPad1 : UInt8 := 0
def optionTarget : UInt8 := 5
def optionTransit : UInt8 := 6
def daoKFlag : UInt8 := 0x80
def daoDFlag : UInt8 := 0x40
def targetOptionLength : Nat := 18
def transitOptionLength : Nat := 20

/-! ## Writing -/

/-- A Target option and the Transit Information option that follows it, with the octets of
either that a reader passes over. -/
structure TransitPair where
  targetFlags : UInt8 := 0
  targetPrefixLength : UInt8
  target : Ipv6Address
  transitFlags : UInt8 := 0
  pathControl : UInt8 := 0
  pathSequence : UInt8
  pathLifetime : UInt8
  parent : Ipv6Address
  deriving DecidableEq, Repr

namespace TransitPair

def targetOption (pair : TransitPair) : Tlv.TypedBody :=
  (optionTarget, pair.targetFlags :: pair.targetPrefixLength :: addressOctets pair.target)

def transitOption (pair : TransitPair) : Tlv.TypedBody :=
  (optionTransit,
    pair.transitFlags :: pair.pathControl :: pair.pathSequence :: pair.pathLifetime ::
      addressOctets pair.parent)

/-- The two options of a pair. -/
def options (pair : TransitPair) : List Tlv.TypedBody := [pair.targetOption, pair.transitOption]

/-- The pair as an entry of a DAO header, which has no parent of its own. -/
def entry (pair : TransitPair) : AdditionalTarget :=
  { target := pair.target
    targetPrefixLength := pair.targetPrefixLength
    pathSequence := pair.pathSequence
    pathLifetime := pair.pathLifetime }

end TransitPair

/-- The base of a DAO and its option octets. -/
structure DaoBase where
  instanceId : UInt8
  flags : UInt8
  reserved : UInt8 := 0
  sequence : UInt8
  dodagId : Ipv6Address

namespace DaoBase

/-- The base as octets, the DODAGID only with its flag. -/
def octets (base : DaoBase) : List UInt8 :=
  [base.instanceId, base.flags, base.reserved, base.sequence] ++
    if base.flags &&& daoDFlag ≠ 0 then addressOctets base.dodagId else []

/-- A DAO of target and transit pairs. -/
def message (base : DaoBase) (pairs : List TransitPair) : List UInt8 :=
  base.octets ++ (pairs.flatMap TransitPair.options).flatMap Tlv.encode

end DaoBase

namespace DaoHeader

/-- The flags octet: K when an acknowledgement is asked for, D when the DODAG is named. -/
def flags (dao : DaoHeader) : UInt8 :=
  (if dao.ackRequested then daoKFlag else 0) ||| (if dao.dodagId.isAny then 0 else daoDFlag)

def base (dao : DaoHeader) : DaoBase :=
  { instanceId := dao.instanceId
    flags := dao.flags
    sequence := dao.sequence
    dodagId := dao.dodagId }

/-- The pairs a DAO is written as, all under its one parent. -/
def pairs (dao : DaoHeader) : List TransitPair :=
  let pair (target : Ipv6Address) (prefixLength pathSequence pathLifetime : UInt8) : TransitPair :=
    { targetPrefixLength := prefixLength
      target := target
      pathSequence := pathSequence
      pathLifetime := pathLifetime
      parent := dao.parent }
  pair dao.target dao.targetPrefixLength dao.pathSequence dao.pathLifetime ::
    dao.additionalTargets.map fun additional =>
      pair additional.target additional.targetPrefixLength additional.pathSequence
        additional.pathLifetime

/-- `Serialize`. -/
def serialize (dao : DaoHeader) : List UInt8 := dao.base.message dao.pairs

end DaoHeader

/-! ## Reading -/

/-- What the option loop of `Deserialize` has: the header so far, the Target option that waits
for its Transit Information, and whether a pair has been completed. -/
structure DaoReading where
  dao : DaoHeader
  pendingTarget : Option (Ipv6Address × UInt8) := none
  haveAnyPair : Bool := false
  deriving DecidableEq

namespace DaoReading

/-- A pair is complete: the first is the primary target, and gives the DAO its parent; every
further one is an additional target. -/
def complete (reading : DaoReading) (target : Ipv6Address)
    (prefixLength pathSequence pathLifetime : UInt8) (parent : Ipv6Address) : DaoReading :=
  if reading.haveAnyPair then
    { reading with
      dao := { reading.dao with
        additionalTargets := reading.dao.additionalTargets ++
          [{ target := target
             targetPrefixLength := prefixLength
             pathSequence := pathSequence
             pathLifetime := pathLifetime }] }
      pendingTarget := none }
  else
    { dao := { reading.dao with
        target := target
        targetPrefixLength := prefixLength
        parent := parent
        pathSequence := pathSequence
        pathLifetime := pathLifetime }
      pendingTarget := none
      haveAnyPair := true }

/-- Completing a pair does not look at the Target option that waited for it. -/
theorem complete_pendingTarget (reading : DaoReading) (pending : Option (Ipv6Address × UInt8))
    (target : Ipv6Address) (prefixLength pathSequence pathLifetime : UInt8)
    (parent : Ipv6Address) :
    { reading with pendingTarget := pending }.complete target prefixLength pathSequence
        pathLifetime parent =
      reading.complete target prefixLength pathSequence pathLifetime parent := rfl

/-- One option; nothing when it breaks the alternation of Target and Transit Information. -/
def readOption (reading : DaoReading) (option : Tlv.TypedBody) : Option DaoReading :=
  let (type, body) := option
  if type = optionTarget ∧ body.length = targetOptionLength then
    match reading.pendingTarget, body with
    | none, _ :: prefixLength :: target =>
      some { reading with pendingTarget := some (addressOf target, prefixLength) }
    | _, _ => none
  else if type = optionTransit ∧ body.length = transitOptionLength then
    match reading.pendingTarget, body with
    | some (target, prefixLength), _ :: _ :: pathSequence :: pathLifetime :: parent =>
      some (reading.complete target prefixLength pathSequence pathLifetime (addressOf parent))
    | _, _ => none
  else some reading

end DaoReading

namespace DaoHeader

/-- A DAO whose options do not alternate is discarded: nothing of them is kept. -/
def malformed (dao : DaoHeader) : DaoHeader :=
  { dao with
    target := anyAddress
    targetPrefixLength := 128
    parent := anyAddress
    pathSequence := 0
    pathLifetime := 0
    additionalTargets := [] }

/-- The options of a DAO read into its header. -/
def readOptions (dao : DaoHeader) (octets : List UInt8) : DaoHeader :=
  match (Tlv.options optionPad1 octets).foldlM DaoReading.readOption { dao := dao } with
  | some reading => reading.dao
  | none => dao.malformed

/-- `Deserialize`, into a header newly constructed; nothing when the octets end inside the
base. -/
def deserialize (octets : List UInt8) : Option DaoHeader :=
  match octets with
  | instanceId :: flags :: _ :: sequence :: rest =>
    let dao : DaoHeader :=
      { instanceId := instanceId
        ackRequested := flags &&& daoKFlag ≠ 0
        sequence := sequence }
    if flags &&& daoDFlag ≠ 0 then
      (Octets.take? 16 rest).map fun (dodagId, options) =>
        readOptions { dao with dodagId := addressOf dodagId } options
    else some (readOptions dao rest)
  | _ => none

/-! ## A DAO of pairs -/

/-- The header with the pairs of a DAO taken into it. -/
def withPairs (dao : DaoHeader) : List TransitPair → DaoHeader
  | [] => dao
  | first :: rest =>
    { dao with
      target := first.target
      targetPrefixLength := first.targetPrefixLength
      parent := first.parent
      pathSequence := first.pathSequence
      pathLifetime := first.pathLifetime
      additionalTargets := dao.additionalTargets ++ rest.map TransitPair.entry }

end DaoHeader

namespace TransitPair

theorem options_fit (pair : TransitPair) :
    ∀ option ∈ pair.options, Tlv.Fits optionPad1 option := by
  intro option mem
  simp only [options, List.mem_cons, List.not_mem_nil, or_false] at mem
  rcases mem with rfl | rfl
  · exact ⟨show optionTarget ≠ optionPad1 by decide, by simp [targetOption]⟩
  · exact ⟨show optionTransit ≠ optionPad1 by decide, by simp [transitOption]⟩

/-- The two options of a pair complete it. -/
theorem foldlM_options (pair : TransitPair) (rest : List Tlv.TypedBody) {reading : DaoReading}
    (ready : reading.pendingTarget = none) :
    (pair.options ++ rest).foldlM DaoReading.readOption reading =
      rest.foldlM DaoReading.readOption
        (reading.complete pair.target pair.targetPrefixLength pair.pathSequence
          pair.pathLifetime pair.parent) := by
  have target : reading.readOption pair.targetOption =
      some { reading with pendingTarget := some (pair.target, pair.targetPrefixLength) } := by
    simp [DaoReading.readOption, targetOption, targetOptionLength, ready]
  have transit : ∀ reading : DaoReading,
      reading.pendingTarget = some (pair.target, pair.targetPrefixLength) →
      reading.readOption pair.transitOption =
        some (reading.complete pair.target pair.targetPrefixLength pair.pathSequence
          pair.pathLifetime pair.parent) := by
    intro reading pending
    have kind : ¬(optionTransit = optionTarget) := by decide
    simp [DaoReading.readOption, transitOption, transitOptionLength, pending, kind]
  rw [options, List.cons_append, List.cons_append, List.nil_append, List.foldlM_cons, target,
    Option.bind_eq_bind, Option.bind_some, List.foldlM_cons, transit _ rfl, Option.bind_eq_bind,
    Option.bind_some, DaoReading.complete_pendingTarget]

/-- Pairs after the first are appended. -/
theorem foldlM_further (pairs : List TransitPair) (dao : DaoHeader) :
    (pairs.flatMap options).foldlM DaoReading.readOption
        { dao := dao, haveAnyPair := true } =
      some
        { dao := { dao with
            additionalTargets := dao.additionalTargets ++ pairs.map entry }
          haveAnyPair := true } := by
  induction pairs generalizing dao with
  | nil => simp
  | cons pair rest ih =>
    rw [List.flatMap_cons, foldlM_options pair _ rfl, DaoReading.complete, if_pos rfl]
    rw [ih]
    simp [entry]

end TransitPair

namespace DaoHeader

theorem pairs_fit (pairs : List TransitPair) :
    ∀ option ∈ pairs.flatMap TransitPair.options, Tlv.Fits optionPad1 option := by
  intro option mem
  obtain ⟨pair, -, inPair⟩ := List.mem_flatMap.mp mem
  exact pair.options_fit option inPair

/-- The options of pairs are read as the pairs. -/
theorem readOptions_pairs (dao : DaoHeader) (pairs : List TransitPair) :
    dao.readOptions ((pairs.flatMap TransitPair.options).flatMap Tlv.encode) =
      dao.withPairs pairs := by
  rw [readOptions, Tlv.options_flatMap_encode (pairs_fit pairs)]
  cases pairs with
  | nil => rfl
  | cons first rest =>
    rw [List.flatMap_cons, first.foldlM_options _ rfl, DaoReading.complete,
      if_neg Bool.false_ne_true, TransitPair.foldlM_further]
    rfl

/-- A DAO of pairs, whoever wrote it, is read as its base and its pairs. -/
theorem deserialize_message (base : DaoBase) (pairs : List TransitPair) :
    deserialize (base.message pairs) =
      some
        (withPairs
          { instanceId := base.instanceId
            ackRequested := base.flags &&& daoKFlag ≠ 0
            sequence := base.sequence
            dodagId := if base.flags &&& daoDFlag ≠ 0 then base.dodagId else anyAddress }
          pairs) := by
  unfold DaoBase.message DaoBase.octets
  by_cases named : base.flags &&& daoDFlag ≠ 0
  · rw [if_pos named, if_pos named]
    simp only [List.cons_append, List.nil_append, deserialize, if_pos named]
    rw [Octets.take?_append _ (length_addressOctets base.dodagId)]
    simp only [Option.map_some, addressOf_addressOctets, readOptions_pairs]
  · rw [if_neg named, if_neg named]
    simp only [List.cons_append, List.nil_append, List.append_nil, deserialize, if_neg named,
      readOptions_pairs]

theorem flags_ackRequested (dao : DaoHeader) :
    decide (dao.flags &&& daoKFlag ≠ 0) = dao.ackRequested := by
  unfold flags
  cases dao.ackRequested <;> cases dao.dodagId.isAny <;> decide

theorem flags_dodagId (dao : DaoHeader) :
    dao.flags &&& daoDFlag ≠ 0 ↔ dao.dodagId.isAny = false := by
  unfold flags
  cases dao.ackRequested <;> cases dao.dodagId.isAny <;> decide

/-- What is written is read back. -/
theorem deserialize_serialize (dao : DaoHeader) : deserialize dao.serialize = some dao := by
  rw [serialize, deserialize_message]
  have dodagId : (if dao.base.flags &&& daoDFlag ≠ 0 then dao.base.dodagId else anyAddress) =
      dao.dodagId := by
    by_cases unnamed : dao.dodagId.isAny = true
    · have flag : ¬dao.base.flags &&& daoDFlag ≠ 0 := fun set => by
        rw [(dao.flags_dodagId.mp set)] at unnamed
        exact Bool.false_ne_true unnamed
      rw [if_neg flag]
      simpa [Ipv6Address.isAny, eq_comm] using unnamed
    · exact if_pos (dao.flags_dodagId.mpr (by simpa using unnamed))
  have ack : decide (dao.base.flags &&& daoKFlag ≠ 0) = dao.ackRequested := dao.flags_ackRequested
  rw [dodagId, ack]
  cases dao
  simp [withPairs, pairs, base, TransitPair.entry, Function.comp_def]

end DaoHeader

end Rpl
