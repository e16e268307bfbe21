import Rpl.PacketInfoOption

/-!
# The RPL Option edited in place

`RplIpv6OptionRpl::Process` takes the packet apart at the option, writes the option
again and puts the packet together.  On every way out of it the packet is as long as
it was, and differs from what it was in the R and F flags of the option and in its
SenderRank at most.
-/

namespace Rpl

open Std

/-- The Opt Data Len can be acted on: it covers the base octets, the packet has the octets it
claims, and the size of the option fits what `Process` returns. -/
def UsableLength (length : UInt8) (rest : List UInt8) : Prop :=
  rpiBaseLength ≤ length.toNat ∧ length.toNat ≤ rest.length ∧ length.toNat + 2 ≤ 255

/-- The flags `Process` may set or clear. -/
def editableFlags : UInt8 := hdrOptRankErr ||| hdrOptFwdErr

/-- The packet has the length it had, and of the octets from an option on only the flags, in
the two bits of them, and the two octets of the SenderRank may be others. -/
structure EditedInPlace (offset : Nat) (before after : List UInt8) : Prop where
  length : after.length = before.length
  outside : ∀ i, i ≠ offset + 2 → i ≠ offset + 4 → i ≠ offset + 5 → after[i]? = before[i]?
  flags : after[offset + 2]?.map (· &&& ~~~editableFlags) =
    before[offset + 2]?.map (· &&& ~~~editableFlags)

namespace EditedInPlace

theorem refl (offset : Nat) (packet : List UInt8) : EditedInPlace offset packet packet :=
  ⟨rfl, fun _ _ _ _ => rfl, rfl⟩

/-- A packet put together again around an option. -/
theorem spliced (front tail : List UInt8) (type length instanceId : UInt8)
    {flags newFlags high low newHigh newLow : UInt8}
    (same : newFlags &&& ~~~editableFlags = flags &&& ~~~editableFlags) :
    EditedInPlace front.length
      (front ++ type :: length :: flags :: instanceId :: high :: low :: tail)
      (front ++ type :: length :: newFlags :: instanceId :: newHigh :: newLow :: tail) where
  length := by simp only [List.length_append, List.length_cons]
  outside i notFlags notHigh notLow := by
    rcases Nat.lt_or_ge i front.length with before | after
    · rw [List.getElem?_append_left before, List.getElem?_append_left before]
    · obtain ⟨k, rfl⟩ := Nat.exists_eq_add_of_le after
      rw [List.getElem?_append_right after, List.getElem?_append_right after,
        Nat.add_sub_cancel_left]
      rcases k with _ | _ | _ | _ | _ | _ | k
      · rfl
      · rfl
      · exact absurd rfl notFlags
      · rfl
      · exact absurd rfl notHigh
      · exact absurd rfl notLow
      · rfl
  flags := by
    rw [List.getElem?_append_right (Nat.le_add_right ..), Nat.add_sub_cancel_left,
      List.getElem?_append_right (Nat.le_add_right ..), Nat.add_sub_cancel_left]
    exact congrArg some same

end EditedInPlace

namespace PacketInfoHeader

theorem or_rankErr_apart (flags : UInt8) :
    (flags ||| hdrOptRankErr) &&& ~~~editableFlags = flags &&& ~~~editableFlags := by
  revert flags
  refine Octets.forall_octet ?_
  decide +kernel

theorem clear_fwdErr_apart (flags : UInt8) :
    flags &&& ~~~hdrOptFwdErr &&& ~~~editableFlags = flags &&& ~~~editableFlags := by
  revert flags
  refine Octets.forall_octet ?_
  decide +kernel

/-- Checking an option touches its R flag and its rank. -/
theorem checked_apart (rpi : PacketInfoHeader) (ownRank : UInt16) :
    (rpi.checked ownRank).type = rpi.type ∧ (rpi.checked ownRank).subTlvs = rpi.subTlvs ∧
      (rpi.checked ownRank).flags &&& ~~~editableFlags = rpi.flags &&& ~~~editableFlags := by
  unfold checked
  split
  · exact ⟨rfl, rfl, or_rankErr_apart rpi.flags⟩
  · exact ⟨rfl, rfl, rfl⟩

/-- An option whose length cannot be acted on is malformed, and nothing more of it is read. -/
theorem deserialize_of_unusable {type length : UInt8} {rest : List UInt8}
    (unusable : ¬UsableLength length rest) :
    deserialize (type :: length :: rest) = some ({ type := type, malformed := true }, rest) := by
  have stops : length.toNat < rpiBaseLength ∨ rest.length < length.toNat ∨
      255 < length.toNat + 2 := by
    unfold UsableLength at unusable
    omega
  unfold deserialize
  dsimp only
  rw [if_pos stops]

/-- What is read of an option whose length can be acted on: its base octets, and what follows
them up to its length. -/
theorem deserialize_of_usable {type length : UInt8} {rest : List UInt8}
    (usable : UsableLength length rest) :
    ∃ (rpi : PacketInfoHeader) (high low : UInt8) (tail : List UInt8),
      rest = rpi.flags :: rpi.instanceId :: high :: low :: tail ∧
      length.toNat - rpiBaseLength ≤ tail.length ∧ rpi.type = type ∧ rpi.malformed = false ∧
      rpi.subTlvs = tail.take (length.toNat - rpiBaseLength) ∧
      deserialize (type :: length :: rest) =
        some (rpi, tail.drop (length.toNat - rpiBaseLength)) := by
  obtain ⟨base, present, small⟩ := usable
  have goesOn : ¬(length.toNat < rpiBaseLength ∨ rest.length < length.toNat ∨
      255 < length.toNat + 2) := by omega
  rcases rest with _ | ⟨flags, _ | ⟨instanceId, _ | ⟨high, _ | ⟨low, tail⟩⟩⟩⟩
  case cons.cons.cons.cons =>
    refine ⟨{ type := type
              flags := flags
              instanceId := instanceId
              senderRank := UInt16.ofNat (Octets.ofBigEndian [high, low])
              subTlvs := tail.take (length.toNat - rpiBaseLength) },
      high, low, tail, rfl, ?_, rfl, rfl, rfl, ?_⟩
    · simp only [List.length_cons, rpiBaseLength] at present ⊢
      omega
    · rw [deserialize, if_neg goesOn]
  all_goals
    simp only [List.length_cons, List.length_nil, rpiBaseLength] at base present
    omega

/-- An option written again over the octets it was read from: only its flags and its rank are
new. -/
theorem serialize_append_drop (rpi : PacketInfoHeader) {length : UInt8} {tail : List UInt8}
    (base : rpiBaseLength ≤ length.toNat) (long : length.toNat - rpiBaseLength ≤ tail.length)
    (subTlvs : rpi.subTlvs = tail.take (length.toNat - rpiBaseLength)) :
    ∃ high low, rpi.serialize ++ tail.drop (length.toNat - rpiBaseLength) =
      rpi.type :: length :: rpi.flags :: rpi.instanceId :: high :: low :: tail := by
  have two (value : Nat) : ∃ high low, Octets.bigEndian 2 value = [high, low] := ⟨_, _, rfl⟩
  obtain ⟨high, low, rank⟩ := two rpi.senderRank.toNat
  have size : rpiBaseLength + rpi.subTlvs.length = length.toNat := by
    rw [subTlvs, List.length_take]
    omega
  refine ⟨high, low, ?_⟩
  simp only [serialize, size, UInt8.ofNat_toNat, rank, List.cons_append, List.nil_append]
  rw [subTlvs, List.take_append_drop]

end PacketInfoHeader

namespace Node

open PacketInfoHeader

/-- For every packet, whatever stands where an option of it is looked at: the packet is edited
in place, it is left alone when the length of the option cannot be acted on, and otherwise the
size returned is the length of the option and its two first octets. -/
theorem processOption_edits (n : Node) (state : OptionState) (uid : Nat) (header : Ipv6Header)
    (front : List UInt8) (type length : UInt8) (rest : List UInt8) :
    ∃ processed,
      n.processOption state uid (front ++ type :: length :: rest) front.length header =
        some processed ∧
      EditedInPlace front.length (front ++ type :: length :: rest) processed.packet ∧
      (¬UsableLength length rest → processed.packet = front ++ type :: length :: rest) ∧
      (UsableLength length rest → processed.size.toNat = length.toNat + 2) := by
  unfold processOption
  rw [List.drop_left, List.take_left]
  by_cases usable : UsableLength length rest
  · obtain ⟨rpi, high, low, tail, rfl, long, rfl, wellFormed, subTlvs, read⟩ :=
      @deserialize_of_usable type length rest usable
    have base := usable.1
    have size : (UInt8.ofNat rpi.serializedSize).toNat = length.toNat + 2 := by
      have small := usable.2.2
      rw [serializedSize, subTlvs, List.length_take, Nat.min_eq_left long, UInt8.toNat_ofNat']
      simp only [rpiBaseLength] at base ⊢
      omega
    -- whatever is written over the option keeps its type, its instance and its sub-TLVs
    have edits : ∀ edited : PacketInfoHeader, edited.type = rpi.type →
        edited.instanceId = rpi.instanceId → edited.subTlvs = rpi.subTlvs →
        edited.flags &&& ~~~editableFlags = rpi.flags &&& ~~~editableFlags →
        EditedInPlace front.length
          (front ++ rpi.type :: length :: rpi.flags :: rpi.instanceId :: high :: low :: tail)
          (front ++ (edited.serialize ++ tail.drop (length.toNat - rpiBaseLength))) := by
      intro edited sameType sameInstance sameTlvs sameFlags
      obtain ⟨newHigh, newLow, written⟩ :=
        edited.serialize_append_drop base long (sameTlvs.trans subTlvs)
      rw [written, sameType, sameInstance]
      exact .spliced front tail _ _ _ sameFlags
    rw [read, Option.map_some]
    refine ⟨_, rfl, ?_, fun unusable => absurd usable unusable, fun _ => ?_⟩
    · dsimp only
      rw [wellFormed, if_neg Bool.false_ne_true]
      split
      · exact .refl ..
      split
      · exact edits rpi rfl rfl rfl rfl
      split
      · exact edits _ rfl rfl rfl (clear_fwdErr_apart rpi.flags)
      · obtain ⟨sameType, sameTlvs, sameFlags⟩ :=
          rpi.checked_apart (n.getRankForInstance rpi.instanceId)
        exact edits (rpi.checked _) sameType (rpi.checked_instanceId _) sameTlvs sameFlags
    · dsimp only
      rw [wellFormed, if_neg Bool.false_ne_true]
      split_ifs <;> exact size
  · rw [deserialize_of_unusable usable, Option.map_some]
    exact ⟨_, rfl, .refl .., fun _ => rfl, fun held => absurd held usable⟩

end Node

end Rpl
