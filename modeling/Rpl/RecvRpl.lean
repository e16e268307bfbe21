import Rpl.Deserialize

/-!
# The messages `RecvRpl` takes off a packet

`RecvRpl` leaves all checking to the `Deserialize` it calls.  Those of P2P-RPL look whether
the fixed part is there; the others read it as it comes, so how long a payload has to be is
a matter of its code and, where a DODAGID may follow, of the D flag.
-/

namespace Rpl

open Cursor

/-! ## The smaller messages -/

def p2pDroAckSeqMask : UInt8 := 0xc0
def p2pDroBaseSize : Nat := 20
def p2pDroAckSize : Nat := 20

/-- A DIS: two octets that mean nothing. -/
def readDis : Reader Unit := do
  let _ ← readU8
  let _ ← readU8
  pure ()

/-- The DODAGID a DAO or a DAO-ACK has where its D flag is set. -/
def readDodagId (named : Bool) : Reader Ipv6Address :=
  if named then readAddress else pure anyAddress

namespace DaoAckHeader

/-- `Deserialize`. -/
def readFrom : Reader DaoAckHeader := do
  let instanceId ← readU8
  let flags ← readU8
  let sequence ← readU8
  let status ← readU8
  let dodagId ← readDodagId (flags &&& daoDFlag ≠ 0)
  pure { instanceId := instanceId, sequence := sequence, status := status, dodagId := dodagId }

end DaoAckHeader

namespace P2pDroAckHeader

/-- `Deserialize`; a truncated message leaves the header as it was constructed. -/
def readFrom : Reader P2pDroAckHeader := do
  let remaining ← remainingSize
  if remaining < p2pDroAckSize then pure {}
  else
    let instanceId ← readU8
    let _ ← readU8
    let flags ← readU8
    let _ ← readU8
    let dodagId ← readAddress
    pure
      { instanceId := instanceId
        sequence := (flags &&& p2pDroAckSeqMask) >>> 6
        dodagId := dodagId }

end P2pDroAckHeader

/-! ## The P2P-DRO -/

namespace P2pDroHeader

/-- The body of an option of `Deserialize`. -/
def takeOption (type length : UInt8) (dro : P2pDroHeader) : Reader P2pDroHeader := do
  if type = optionP2pRdo then
    let rdo ← P2pRdoOption.readFrom dro.dodagId length
    pure { dro with p2pRdo := rdo }
  else passOver length dro

/-- A turn of the option loop. -/
def optionTurn : P2pDroHeader → Reader (P2pDroHeader × Bool) :=
  Cursor.optionTurn optionPad1 fun type length dro => do
    let dro ← dro.takeOption type length
    pure (dro, true)

/-- `Deserialize`; a truncated message leaves the header as it was constructed. -/
def readFrom : Reader P2pDroHeader := do
  let remaining ← remainingSize
  if remaining < p2pDroBaseSize then pure { instanceId := defaultInstance }
  else
    let instanceId ← readU8
    let _ ← readU8
    let flags ← readU8
    let _ ← readU8
    let dodagId ← readAddress
    let remaining ← remainingSize
    whileNotEnd optionTurn remaining
      { instanceId := instanceId
        stop := flags &&& p2pDroSFlag ≠ 0
        ackRequested := flags &&& p2pDroAFlag ≠ 0
        sequence := (flags &&& p2pDroSeqMask) >>> 4
        dodagId := dodagId }

end P2pDroHeader

/-! ## The DAO -/

namespace DaoReading

/-- The body of an option of `Deserialize`; nothing when it does not fit the alternation of
Target and Transit Information, and then none of it has been read. -/
def takeOption (type length : UInt8) (reading : DaoReading) : Reader (Option DaoReading) := do
  if type = optionTarget ∧ length = 18 then
    if reading.pendingTarget.isSome then pure none
    else
      let _ ← readU8
      let prefixLength ← readU8
      let target ← readAddress
      pure (some { reading with pendingTarget := some (target, prefixLength) })
  else if type = optionTransit ∧ length = 20 then
    match reading.pendingTarget with
    | none => pure none
    | some (target, prefixLength) =>
      let _ ← readU8
      let _ ← readU8
      let pathSequence ← readU8
      let pathLifetime ← readU8
      let parent ← readAddress
      pure (some (reading.complete target prefixLength pathSequence pathLifetime parent))
  else passOver length (some reading)

/-- A turn of the option loop, which has `malformed` beside what has been read. -/
def optionTurn : DaoReading × Bool → Reader ((DaoReading × Bool) × Bool) :=
  Cursor.optionTurn optionPad1 fun type length (reading, malformed) => do
    match ← reading.takeOption type length with
    | some reading => pure ((reading, malformed), true)
    | none => pure ((reading, true), false)

end DaoReading

namespace DaoHeader

/-- The option loop of `Deserialize`, and what is kept of it. -/
def readOptionsFrom (dao : DaoHeader) : Reader DaoHeader := do
  let remaining ← remainingSize
  let (reading, malformed) ← whileNotEnd DaoReading.optionTurn remaining ({ dao := dao }, false)
  pure (if malformed then reading.dao.malformed else reading.dao)

/-- `Deserialize`, into a header newly constructed. -/
def readFrom : Reader DaoHeader := do
  let instanceId ← readU8
  let flags ← readU8
  let _ ← readU8
  let sequence ← readU8
  let dodagId ← readDodagId (flags &&& daoDFlag ≠ 0)
  readOptionsFrom
    { instanceId := instanceId
      ackRequested := flags &&& daoKFlag ≠ 0
      sequence := sequence
      dodagId := dodagId }

end DaoHeader

/-! ## What the option loops do -/

section Loops

variable {length : UInt8} {body : List UInt8} (rest : List UInt8)

theorem P2pDroHeader.takeOption_append (dro : P2pDroHeader) (type : UInt8)
    (len : body.length = length.toNat) :
    dro.takeOption type length (body ++ rest) = .ok (dro.readOption (type, body), rest) := by
  unfold P2pDroHeader.takeOption P2pDroHeader.readOption
  split
  · next rdo => rw [bind_ok (P2pRdoOption.readFrom_append rest len), pure_apply]
  · exact passOver_append rest len dro

theorem P2pDroHeader.takes_readOption : Takes optionPad1
    (fun type length dro => do
      let dro ← P2pDroHeader.takeOption type length dro
      pure (dro, true))
    fun dro option => (dro.readOption option, true) where
  goesOn type length body rest dro _ len _ := by
    rw [bind_ok (P2pDroHeader.takeOption_append rest dro type len), pure_apply]
  stops _ _ _ _ _ _ _ stopped := by cases stopped

/-- The option loop of a P2P-DRO is framed. -/
theorem P2pDroHeader.framed_optionTurn : Framed optionPad1 P2pDroHeader.optionTurn :=
  framed_of_takes P2pDroHeader.takes_readOption fun _ _ => rfl

/-- The option reader of a DAO reads what `readOption` does, and where the loop is to go on it
leaves the option where its length says. -/
theorem DaoReading.takeOption_append (reading : DaoReading) (type : UInt8)
    (len : body.length = length.toNat) :
    ∃ left, reading.takeOption type length (body ++ rest) =
        .ok (reading.readOption (type, body), left) ∧
      (reading.readOption (type, body) ≠ none → left = rest) := by
  have sized (n : UInt8) : length = n ↔ body.length = n.toNat := by
    rw [len, UInt8.toNat_inj]
  unfold DaoReading.readOption DaoReading.takeOption
  dsimp only
  by_cases target : type = optionTarget ∧ body.length = 18
  · rw [if_pos (show type = optionTarget ∧ body.length = targetOptionLength from target),
      if_pos ⟨target.1, (sized 18).mpr target.2⟩]
    obtain ⟨flags, body, rfl⟩ := List.exists_cons_of_length_eq_add_one target.2
    obtain ⟨prefixLength, body, rfl⟩ :=
      List.exists_cons_of_length_eq_add_one (Nat.succ.inj target.2)
    have sixteen : body.length = 16 := Nat.succ.inj (Nat.succ.inj target.2)
    cases reading.pendingTarget with
    | some waiting => exact ⟨_, rfl, fun some_ => absurd rfl some_⟩
    | none =>
      refine ⟨rest, ?_, fun _ => rfl⟩
      rw [Option.isSome_none, if_neg Bool.false_ne_true, List.cons_append, List.cons_append,
        readU8_bind, readU8_bind, bind_ok (readAddress_append _ sixteen), pure_apply]
  · rw [if_neg (show ¬(type = optionTarget ∧ body.length = targetOptionLength) from target),
      if_neg fun given => target ⟨given.1, (sized 18).mp given.2⟩]
    by_cases transit : type = optionTransit ∧ body.length = 20
    · rw [if_pos (show type = optionTransit ∧ body.length = transitOptionLength from transit),
        if_pos ⟨transit.1, (sized 20).mpr transit.2⟩]
      obtain ⟨flags, pathControl, pathSequence, pathLifetime, body, rfl⟩ :
          ∃ flags pathControl pathSequence pathLifetime further,
            body = flags :: pathControl :: pathSequence :: pathLifetime :: further := by
        match body, transit.2 with
        | flags :: pathControl :: pathSequence :: pathLifetime :: further, _ =>
          exact ⟨flags, pathControl, pathSequence, pathLifetime, further, rfl⟩
      have sixteen : body.length = 16 := by
        have twenty := transit.2
        simp only [List.length_cons] at twenty
        omega
      cases reading.pendingTarget with
      | none => exact ⟨_, rfl, fun some_ => absurd rfl some_⟩
      | some waiting =>
        refine ⟨rest, ?_, fun _ => rfl⟩
        simp only [List.cons_append, readU8_bind]
        rw [bind_ok (readAddress_append _ sixteen), pure_apply]
    · rw [if_neg (show ¬(type = optionTransit ∧ body.length = transitOptionLength) from transit),
        if_neg fun given => transit ⟨given.1, (sized 20).mp given.2⟩]
      exact ⟨rest, passOver_append rest len _, fun _ => rfl⟩

/-- One step of the loop of a DAO. -/
def DaoReading.step (state : DaoReading × Bool) (option : Tlv.TypedBody) :
    (DaoReading × Bool) × Bool :=
  match state.1.readOption option with
  | some reading => ((reading, state.2), true)
  | none => ((state.1, true), false)

theorem DaoReading.takes_step : Takes optionPad1
    (fun type length (state : DaoReading × Bool) => do
      match ← state.1.takeOption type length with
      | some reading => pure ((reading, state.2), true)
      | none => pure ((state.1, true), false)) DaoReading.step where
  goesOn type length body rest state _ len goesOn := by
    obtain ⟨left, taken, framed⟩ := DaoReading.takeOption_append rest state.1 type len
    rw [bind_ok taken]
    unfold DaoReading.step at goesOn ⊢
    cases read : state.1.readOption (type, body) with
    | none =>
      rw [read] at goesOn
      cases goesOn
    | some reading =>
      rw [framed (by rw [read]; exact Option.some_ne_none _)]
      rfl
  stops type length body rest state _ len stopped := by
    obtain ⟨left, taken, -⟩ := DaoReading.takeOption_append rest state.1 type len
    rw [bind_ok taken]
    unfold DaoReading.step
    cases state.1.readOption (type, body) with
    | none => exact ⟨left, rfl⟩
    | some reading => exact ⟨left, rfl⟩

end Loops

/-- Options that do not alternate leave nothing of the header they were read into. -/
theorem DaoReading.malformed_readOption {reading next : DaoReading} {option : Tlv.TypedBody}
    (read : reading.readOption option = some next) :
    next.dao.malformed = reading.dao.malformed := by
  unfold DaoReading.readOption at read
  dsimp only at read
  split at read
  · split at read
    · cases read
      rfl
    · cases read
  · split at read
    · split at read
      · cases read
        unfold DaoReading.complete
        split
        · rfl
        · rfl
      · cases read
    · cases read
      rfl

theorem DaoReading.stepAll_step (options : List Tlv.TypedBody) (reading : DaoReading) :
    (let (final, malformed) := stepAll DaoReading.step (reading, false) options
     if malformed then final.dao.malformed else final.dao) =
      match options.foldlM DaoReading.readOption reading with
      | some final => final.dao
      | none => reading.dao.malformed := by
  induction options generalizing reading with
  | nil => rfl
  | cons option rest ih =>
    rw [stepAll, List.foldlM_cons, DaoReading.step]
    cases read : reading.readOption option with
    | none => rfl
    | some further => exact (ih further).trans (by
        rw [DaoReading.malformed_readOption read]
        rfl)

namespace DaoHeader

theorem readOptionsFrom_eq (dao : DaoHeader) (octets : List UInt8) :
    ∃ left, dao.readOptionsFrom octets = .ok (dao.readOptions octets, left) := by
  obtain ⟨left, walked⟩ := whileNotEnd_eq DaoReading.takes_step (le_refl octets.length)
    (({ dao := dao } : DaoReading), false)
  have kept := DaoReading.stepAll_step (Tlv.options optionPad1 octets) { dao := dao }
  refine ⟨left, ?_⟩
  rw [readOptionsFrom, remainingSize_bind]
  refine (bind_ok walked _).trans ?_
  generalize stepAll DaoReading.step _ _ = ended at kept ⊢
  obtain ⟨final, malformed⟩ := ended
  dsimp only at kept ⊢
  rw [pure_apply, kept]
  unfold readOptions
  cases (Tlv.options optionPad1 octets).foldlM DaoReading.readOption { dao := dao } <;> rfl

/-- A DAO is read octet by octet as it is read option by option, and past the end of the
payload where its fixed part is not there. -/
theorem readFrom_eq (octets : List UInt8) :
    match deserialize octets with
    | some dao => ∃ left, readFrom octets = .ok (dao, left)
    | none => readFrom octets = .error .pastEnd := by
  match octets with
  | [] => rfl
  | [_] => rfl
  | [_, _] => rfl
  | [_, _, _] => rfl
  | instanceId :: flags :: reserved :: sequence :: rest =>
    unfold readFrom deserialize
    simp only [readU8_bind]
    by_cases named : flags &&& daoDFlag ≠ 0
    · rw [if_pos named, decide_eq_true named]
      rcases Nat.lt_or_ge rest.length 16 with short | long
      · rw [Octets.take?, if_neg (Nat.not_le.mpr short), Option.map_none]
        exact bind_error (readAddress_of_lt short) _
      · have address := readAddress_append (rest.drop 16) (List.length_take_of_le long)
        rw [List.take_append_drop] at address
        obtain ⟨left, read⟩ := readOptionsFrom_eq
          { instanceId := instanceId
            ackRequested := flags &&& daoKFlag ≠ 0
            sequence := sequence
            dodagId := addressOf (rest.take 16) } (rest.drop 16)
        rw [Octets.take?, if_pos long, Option.map_some]
        exact ⟨left, (bind_ok address _).trans read⟩
    · rw [if_neg named, decide_eq_false named]
      exact readOptionsFrom_eq _ rest

end DaoHeader

/-! ## The dispatch -/

/-- The codes `RecvRpl` dispatches. -/
inductive RplCode
  | dis
  | dio
  | dao
  | daoAck
  | p2pDro
  | p2pDroAck
  deriving DecidableEq, Repr

namespace RplCode

/-- The `Deserialize` called for a code. -/
def deserialize : RplCode → Reader RplMessage
  | .dis => do
    readDis
    pure .dis
  | .dio => do
    let dio ← DioHeader.readFrom
    pure (.dio dio)
  | .dao => do
    let dao ← DaoHeader.readFrom
    pure (.dao dao)
  | .daoAck => do
    let ack ← DaoAckHeader.readFrom
    pure (.daoAck ack)
  | .p2pDro => do
    let dro ← P2pDroHeader.readFrom
    pure (.p2pDro dro)
  | .p2pDroAck => do
    let ack ← P2pDroAckHeader.readFrom
    pure (.p2pDroAck ack)

/-- No octet past the end of the payload is read. -/
def ReadsWithin (code : RplCode) (payload : List UInt8) : Prop :=
  code.deserialize payload ≠ .error .pastEnd

/-- The D flag of a DAO or a DAO-ACK. -/
def namesDodag (payload : List UInt8) : Bool :=
  payload[1]?.any fun flags => flags &&& daoDFlag ≠ 0

/-- The fixed part is there, the DODAGID with it where the D flag says so. -/
def FixedPart : RplCode → List UInt8 → Prop
  | .dis, payload => 2 ≤ payload.length
  | .dio, payload => 24 ≤ payload.length
  | .dao, payload | .daoAck, payload =>
    4 ≤ payload.length ∧ (namesDodag payload = true → 20 ≤ payload.length)
  | .p2pDro, _ | .p2pDroAck, _ => True

end RplCode

/-! ## Short payloads -/

section Short

variable {payload : List UInt8}

theorem readDis_iff : readDis payload ≠ .error .pastEnd ↔ 2 ≤ payload.length := by
  match payload with
  | [] => exact iff_of_false (fun within => within rfl) (by decide)
  | [_] => exact iff_of_false (fun within => within rfl) (by simp)
  | _ :: _ :: _ => exact iff_of_true (fun past => by cases past) (by simp)

theorem DioHeader.readFrom_iff :
    DioHeader.readFrom payload ≠ .error .pastEnd ↔ 24 ≤ payload.length := by
  constructor
  · intro within
    by_contra short
    refine within (bind_error ?_ _)
    rw [DioHeader.readBaseFrom_eq, DioHeader.readBase_eq_none (Nat.not_le.mp short)]
  · intro based past
    obtain ⟨dio, left, reads, -⟩ := DioHeader.readFrom_eq based
    cases reads.symm.trans past

/-- Behind the first four octets the D flag asks for sixteen more. -/
theorem fixedPart_iff (first flags third fourth : UInt8) (rest : List UInt8) :
    RplCode.FixedPart .dao (first :: flags :: third :: fourth :: rest) ↔
      (flags &&& daoDFlag ≠ 0 → 16 ≤ rest.length) := by
  have four : 4 ≤ (first :: flags :: third :: fourth :: rest).length := by simp
  have more : 20 ≤ (first :: flags :: third :: fourth :: rest).length ↔ 16 ≤ rest.length := by
    simp only [List.length_cons]
    omega
  change _ ∧ (decide (flags &&& daoDFlag ≠ 0) = true → 20 ≤ _) ↔ _
  rw [more, decide_eq_true_iff]
  exact and_iff_right four

theorem fixedPart_false (short : payload.length < 4) : ¬RplCode.FixedPart .dao payload :=
  fun fixed => absurd fixed.1 (Nat.not_le.mpr short)

theorem DaoHeader.deserialize_eq_none_iff :
    DaoHeader.deserialize payload = none ↔ ¬RplCode.FixedPart .dao payload := by
  match payload with
  | [] => exact iff_of_true rfl (fixedPart_false (by decide))
  | [_] => exact iff_of_true rfl (fixedPart_false (by simp))
  | [_, _] => exact iff_of_true rfl (fixedPart_false (by simp))
  | [_, _, _] => exact iff_of_true rfl (fixedPart_false (by simp))
  | first :: flags :: third :: fourth :: rest =>
    rw [fixedPart_iff, DaoHeader.deserialize]
    by_cases named : flags &&& daoDFlag ≠ 0
    · rw [if_pos named, Option.map_eq_none_iff, Octets.take?]
      simp [named]
    · rw [if_neg named]
      simp [named]

theorem DaoHeader.readFrom_iff :
    DaoHeader.readFrom payload ≠ .error .pastEnd ↔ RplCode.FixedPart .dao payload := by
  have read := DaoHeader.readFrom_eq payload
  cases deserialized : DaoHeader.deserialize payload with
  | none =>
    rw [deserialized] at read
    exact iff_of_false (fun within => within read)
      (DaoHeader.deserialize_eq_none_iff.mp deserialized)
  | some dao =>
    rw [deserialized] at read
    obtain ⟨left, read⟩ := read
    refine iff_of_true (fun past => by cases read.symm.trans past) ?_
    by_contra short
    rw [DaoHeader.deserialize_eq_none_iff.mpr short] at deserialized
    cases deserialized

theorem DaoAckHeader.readFrom_iff :
    DaoAckHeader.readFrom payload ≠ .error .pastEnd ↔ RplCode.FixedPart .daoAck payload := by
  change _ ↔ RplCode.FixedPart .dao payload
  match payload with
  | [] => exact iff_of_false (fun within => within rfl) (fixedPart_false (by decide))
  | [_] => exact iff_of_false (fun within => within rfl) (fixedPart_false (by simp))
  | [_, _] => exact iff_of_false (fun within => within rfl) (fixedPart_false (by simp))
  | [_, _, _] => exact iff_of_false (fun within => within rfl) (fixedPart_false (by simp))
  | first :: flags :: third :: fourth :: rest =>
    rw [fixedPart_iff]
    unfold DaoAckHeader.readFrom
    simp only [readU8_bind, ne_eq, bind_pure_error_iff]
    by_cases named : flags &&& daoDFlag ≠ 0
    · rw [decide_eq_true named]
      rcases Nat.lt_or_ge rest.length 16 with short | long
      · exact iff_of_false (fun within => within (readAddress_of_lt short))
          fun there => absurd (there named) (Nat.not_le.mpr short)
      · have address := readAddress_append (rest.drop 16) (List.length_take_of_le long)
        rw [List.take_append_drop] at address
        exact iff_of_true (fun past => by cases address.symm.trans past) fun _ => long
    · rw [decide_eq_false named]
      exact iff_of_true (fun past => by cases past) fun given => absurd given named

/-- The fixed part of either message of P2P-RPL, where it is there. -/
theorem p2pBase_append (octets : List UInt8) (long : 20 ≤ octets.length) :
    ∃ first second third fourth address options,
      octets = first :: second :: third :: fourth :: (address ++ options) ∧
        address.length = 16 := by
  match octets, long with
  | first :: second :: third :: fourth :: rest, long =>
    simp only [List.length_cons] at long
    exact ⟨first, second, third, fourth, rest.take 16, rest.drop 16,
      by rw [List.take_append_drop], List.length_take_of_le (by omega)⟩

theorem P2pDroHeader.readFrom_ok (octets : List UInt8) :
    ∃ dro left, P2pDroHeader.readFrom octets = .ok (dro, left) := by
  unfold P2pDroHeader.readFrom
  rw [remainingSize_bind]
  split
  · exact ⟨_, _, rfl⟩
  · next long =>
    obtain ⟨_, _, _, _, address, options, rfl, sixteen⟩ :=
      p2pBase_append octets (Nat.not_lt.mp long)
    simp only [readU8_bind]
    rw [bind_ok (readAddress_append options sixteen), remainingSize_bind]
    exact P2pDroHeader.framed_optionTurn.ends _ options options.length (le_refl _)

theorem P2pDroAckHeader.readFrom_ok (octets : List UInt8) :
    ∃ ack left, P2pDroAckHeader.readFrom octets = .ok (ack, left) := by
  unfold P2pDroAckHeader.readFrom
  rw [remainingSize_bind]
  split
  · exact ⟨_, _, rfl⟩
  · next long =>
    obtain ⟨_, _, _, _, address, options, rfl, sixteen⟩ :=
      p2pBase_append octets (Nat.not_lt.mp long)
    simp only [readU8_bind]
    rw [bind_ok (readAddress_append options sixteen)]
    exact ⟨_, _, rfl⟩

end Short

/-- The option loops of a DIO and of a P2P-DRO are framed, and a DIO with its base and a P2P-DRO
of any length are read to the end of their loops with no read past the end. -/
theorem optionWalks_framed :
    Framed optionPad1 DioHeader.optionTurn ∧ Framed optionPad1 P2pDroHeader.optionTurn ∧
      (∀ octets, 24 ≤ octets.length →
        ∃ dio left, DioHeader.readFrom octets = .ok (dio, left)) ∧
      ∀ octets, ∃ dro left, P2pDroHeader.readFrom octets = .ok (dro, left) := by
  refine ⟨DioHeader.framed_optionTurn, P2pDroHeader.framed_optionTurn, fun octets based => ?_,
    P2pDroHeader.readFrom_ok⟩
  obtain ⟨dio, left, reads, -⟩ := DioHeader.readFrom_eq based
  exact ⟨dio, left, reads⟩

namespace RplCode

/-- What is read of a payload is within it exactly when its fixed part is there. -/
theorem readsWithin_iff (code : RplCode) (payload : List UInt8) :
    code.ReadsWithin payload ↔ code.FixedPart payload := by
  unfold ReadsWithin deserialize
  cases code with
  | dis => exact (not_congr (bind_pure_error_iff _)).trans readDis_iff
  | dio => exact (not_congr (bind_pure_error_iff _)).trans DioHeader.readFrom_iff
  | dao => exact (not_congr (bind_pure_error_iff _)).trans DaoHeader.readFrom_iff
  | daoAck => exact (not_congr (bind_pure_error_iff _)).trans DaoAckHeader.readFrom_iff
  | p2pDro =>
    obtain ⟨dro, left, reads⟩ := P2pDroHeader.readFrom_ok payload
    refine iff_of_true (fun past => ?_) trivial
    cases reads.symm.trans ((bind_pure_error_iff _).mp past)
  | p2pDroAck =>
    obtain ⟨ack, left, reads⟩ := P2pDroAckHeader.readFrom_ok payload
    refine iff_of_true (fun past => ?_) trivial
    cases reads.symm.trans ((bind_pure_error_iff _).mp past)

/-- Of a DIO without any octets the first is read all the same. -/
theorem dio_reads_past_end : ¬∀ (code : RplCode) (payload : List UInt8),
    code.ReadsWithin payload := fun within => within .dio [] rfl

end RplCode

end Rpl
