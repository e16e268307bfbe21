import Rpl.RecvRpl

/-!
# A DAO there and back

The cursor that reads a DAO comes out at its end where the DAO was written by `Serialize`,
with the header that was written in hand.  The options of a written DAO alternate, so the
loop is never broken off, and each pair of them is one turn for the Target and one for the
Transit Information.
-/

namespace Rpl

open Cursor

def targetOptionSize : Nat := 20
def transitOptionSize : Nat := 22

namespace DaoReading

/-- Where the options are read one by one, the loop goes through them. -/
theorem foldlM_walk {written : List Tlv.TypedBody} {reading final : DaoReading}
    (reads : written.foldlM readOption reading = some final) (malformed : Bool) :
    written.foldlM (walk step) (reading, malformed) = some (final, malformed) := by
  induction written generalizing reading with
  | nil =>
    cases reads
    rfl
  | cons option rest ih =>
    obtain ⟨next, read, readsRest⟩ := Option.bind_eq_some_iff.mp reads
    have stepped : step (reading, malformed) option = ((next, malformed), true) := by
      rw [step, read]
    have walked : walk step (reading, malformed) option = some (next, malformed) := by
      rw [walk, stepped]
      rfl
    rw [List.foldlM_cons, walked]
    exact ih readsRest

end DaoReading

namespace DaoHeader

/-- `GetSerializedSize`. -/
def serializedSize (dao : DaoHeader) : Nat :=
  4 + (if dao.dodagId.isAny then 0 else 16) + (targetOptionSize + transitOptionSize) +
    dao.additionalTargets.length * (targetOptionSize + transitOptionSize)

/-- The options of one pair at least are read one by one into the header of the pairs. -/
theorem foldlM_pairs (dao : DaoHeader) (first : TransitPair) (rest : List TransitPair) :
    ((first :: rest).flatMap TransitPair.options).foldlM DaoReading.readOption { dao := dao } =
      some { dao := dao.withPairs (first :: rest), haveAnyPair := true } := by
  rw [List.flatMap_cons, first.foldlM_options _ rfl, DaoReading.complete,
    if_neg Bool.false_ne_true, TransitPair.foldlM_further]
  rfl

/-- The loop reads the options of pairs to the last octet. -/
theorem readOptionsFrom_pairs (dao : DaoHeader) (first : TransitPair) (rest : List TransitPair) :
    dao.readOptionsFrom (((first :: rest).flatMap TransitPair.options).flatMap Tlv.encode) =
      .ok (dao.withPairs (first :: rest), []) := by
  have walked := whileNotEnd_walk DaoReading.takes_step (pairs_fit (first :: rest))
    (DaoReading.foldlM_walk (dao.foldlM_pairs first rest) false) le_rfl
  rw [readOptionsFrom, remainingSize_bind]
  exact bind_ok walked _

/-- A DAO of one pair at least is read to its last octet. -/
theorem readFrom_message (base : DaoBase) (first : TransitPair) (rest : List TransitPair) :
    readFrom (base.message (first :: rest)) =
      .ok
        (withPairs
          { instanceId := base.instanceId
            ackRequested := base.flags &&& daoKFlag ≠ 0
            sequence := base.sequence
            dodagId := if base.flags &&& daoDFlag ≠ 0 then base.dodagId else anyAddress }
          (first :: rest), []) := by
  have options (dao : DaoHeader) := dao.readOptionsFrom_pairs first rest
  unfold DaoBase.message DaoBase.octets
  by_cases named : base.flags &&& daoDFlag ≠ 0
  · rw [if_pos named, if_pos named]
    simp only [List.cons_append, List.nil_append, readFrom, readU8_bind, decide_eq_true named,
      readDodagId, if_true]
    rw [bind_ok (readAddress_append _ (length_addressOctets base.dodagId)),
      addressOf_addressOctets]
    exact options _
  · rw [if_neg named, if_neg named]
    simp only [List.cons_append, List.nil_append, List.append_nil, readFrom, readU8_bind,
      decide_eq_false named, readDodagId, Bool.false_eq_true, if_false, pure_bind]
    exact options _

theorem length_pairs (pairs : List TransitPair) :
    ((pairs.flatMap TransitPair.options).flatMap Tlv.encode).length =
      pairs.length * (targetOptionSize + transitOptionSize) := by
  induction pairs with
  | nil => rw [List.length_nil, Nat.zero_mul]; rfl
  | cons pair rest ih =>
    have one : (pair.options.flatMap Tlv.encode).length = targetOptionSize + transitOptionSize := by
      simp [TransitPair.options, TransitPair.targetOption, TransitPair.transitOption, Tlv.encode,
        targetOptionSize, transitOptionSize]
    rw [List.flatMap_cons, List.flatMap_append, List.length_append, ih, one, List.length_cons,
      Nat.succ_mul, Nat.add_comm]

/-- As many octets are written as were asked for. -/
theorem length_serialize (dao : DaoHeader) : dao.serialize.length = dao.serializedSize := by
  have base : dao.base.octets.length = 4 + if dao.dodagId.isAny then 0 else 16 := by
    rw [DaoBase.octets, List.length_append]
    cases unnamed : dao.dodagId.isAny with
    | true =>
      have flag : ¬dao.base.flags &&& daoDFlag ≠ 0 := fun set => by
        rw [dao.flags_dodagId.mp set] at unnamed
        exact Bool.false_ne_true unnamed
      rw [if_neg flag]
      rfl
    | false =>
      have flag : dao.base.flags &&& daoDFlag ≠ 0 := dao.flags_dodagId.mpr unnamed
      rw [if_pos flag, length_addressOctets]
      rfl
  have count : dao.pairs.length = dao.additionalTargets.length + 1 := by
    rw [pairs, List.length_cons, List.length_map]
  rw [serialize, DaoBase.message, List.length_append, base, length_pairs, count, serializedSize,
    Nat.succ_mul]
  omega

/-- A DAO is read back as it was written; `GetSerializedSize` octets are written, and all of
them are read. -/
theorem readFrom_serialize_dao (dao : DaoHeader) :
    dao.serialize.length = dao.serializedSize ∧ readFrom dao.serialize = .ok (dao, []) := by
  refine ⟨dao.length_serialize, ?_⟩
  have whole := dao.deserialize_serialize
  rw [serialize, deserialize_message] at whole
  rw [serialize]
  rw [pairs] at whole ⊢
  rw [readFrom_message, Option.some.inj whole]

/-- A DAO for two targets besides the first, in a DODAG it names. -/
example :
    let dao : DaoHeader :=
      { ackRequested := true
        sequence := 241
        dodagId := 0x20010db8000000000000000000000001#128
        target := 0x20010db8000000000000000000000002#128
        parent := 0x20010db8000000000000000000000001#128
        additionalTargets :=
          [{ target := 0x20010db8000000000000000000000003#128
             pathSequence := 240
             pathLifetime := 0 },
            { target := 0x20010db8000000000000000000000000#128, targetPrefixLength := 64
              pathSequence := 5, pathLifetime := 30 }] }
    dao.serializedSize = 146 := by
  decide

end DaoHeader

end Rpl
