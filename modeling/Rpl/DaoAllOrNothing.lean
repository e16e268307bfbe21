import Rpl.DaoCodec
import Rpl.DaoTarget
import Rpl.Emit

/-!
# How much of a DAO is yielded

`Deserialize` of `RplDaoHeader` pairs each Target option with the Transit Information option
behind it as it comes to them.  A message whose options do not alternate is discarded whole,
but one that stops short, that ends with a Target, or that has a Target option of a length
it does not know, keeps the pairs before and leaves the rest out.
-/

namespace Rpl

open Std

/-- Sixteen octets are those of the address they make. -/
theorem addressOctets_addressOf {octets : List UInt8} (sixteen : octets.length = 16) :
    addressOctets (addressOf octets) = octets := by
  have small : Octets.ofBigEndian octets < 2 ^ 128 := by
    have below := Octets.ofBigEndian_lt octets
    rw [sixteen] at below
    exact below
  rw [addressOctets, addressOf, BitVec.toNat_ofNat, Nat.mod_eq_of_lt small]
  conv_lhs => rw [← sixteen]
  exact Octets.bigEndian_ofBigEndian octets

/-! ## The Target options of a message -/

/-- The Target options, each with the first Transit Information option behind it. -/
def targetsOf : List Tlv.TypedBody → List (Tlv.TypedBody × Option Tlv.TypedBody)
  | [] => []
  | option :: rest =>
    if option.1 = optionTarget then
      (option, rest.find? (·.1 = optionTransit)) :: targetsOf rest
    else targetsOf rest

/-- The Target option and the Transit Information option behind it are those of a pair. -/
def IsPair (options : Tlv.TypedBody × Option Tlv.TypedBody) (pair : TransitPair) : Prop :=
  options = (pair.targetOption, some pair.transitOption)

/-- An option the loop looks into: of the length its type has in this module. -/
def usable (option : Tlv.TypedBody) : Bool :=
  option.1 = optionTarget && option.2.length = targetOptionLength ||
    option.1 = optionTransit && option.2.length = transitOptionLength

/-- Target, Transit Information, Target, and so on. -/
def alternates : List Tlv.TypedBody → Bool
  | [] => true
  | [target] => target.1 = optionTarget
  | target :: transit :: rest =>
    target.1 = optionTarget && transit.1 = optionTransit && alternates rest

/-- One pair is completed at most, and its Target is the unspecified address. -/
def namesNothing : List Tlv.TypedBody → Bool
  | [] | [_] => true
  | target :: _ :: rest => (addressOf (target.2.drop 2)).isAny && rest.length ≤ 1

/-! ## All or nothing -/

namespace DaoHeader

/-- Every Target option of the option octets is an entry of the DAO, in order, with the Path
Sequence and Path Lifetime of the Transit Information behind it, the first with its parent. -/
def YieldsAll (dao : DaoHeader) (octets : List UInt8) : Prop :=
  Tlv.cutShort optionPad1 octets ≠ some optionTarget ∧
    ∃ first rest, List.Forall₂ IsPair (targetsOf (Tlv.options optionPad1 octets)) (first :: rest) ∧
      dao.entries = (first :: rest).map TransitPair.entry ∧ dao.parent = first.parent

/-- The DAO names no target, and no node changes its routing state for it. -/
def YieldsNothing (dao : DaoHeader) : Prop :=
  dao.target = anyAddress ∧ dao.additionalTargets = [] ∧
    ∀ (n : Node) (sender : Ipv6Address) (interface : Nat) (key : DodagKey),
      (n.handleDao dao sender interface).dodags[key]? = n.dodags[key]?

/-- The option octets of a DAO, behind its base and the DODAGID where the D flag is set. -/
def optionOctets (octets : List UInt8) : List UInt8 :=
  octets.drop (if octets[1]?.any fun flags => flags &&& daoDFlag ≠ 0 then 20 else 4)

/-- Every Target option has the length of one, and so has the Transit Information option
behind it, and no Target option is cut short. -/
def WellPaired (octets : List UInt8) : Prop :=
  Tlv.cutShort optionPad1 octets ≠ some optionTarget ∧
    ∀ options ∈ targetsOf (Tlv.options optionPad1 octets),
      options.1.2.length = targetOptionLength ∧
        ∃ transit, options.2 = some transit ∧ transit.2.length = transitOptionLength

end DaoHeader

/-! ## The pairs -/

theorem exists_targetOption {option : Tlv.TypedBody} (type : option.1 = optionTarget)
    (len : option.2.length = targetOptionLength) :
    ∃ flags prefixLength target,
      option = (optionTarget, flags :: prefixLength :: addressOctets target) := by
  obtain ⟨_, body⟩ := option
  dsimp only at type len
  subst type
  obtain ⟨flags, body, rfl⟩ := List.exists_cons_of_length_eq_add_one len
  obtain ⟨prefixLength, body, rfl⟩ := List.exists_cons_of_length_eq_add_one (Nat.succ.inj len)
  have sixteen : body.length = 16 := Nat.succ.inj (Nat.succ.inj len)
  exact ⟨flags, prefixLength, addressOf body, by rw [addressOctets_addressOf sixteen]⟩

/-- Two options of the right types and lengths are those of a pair. -/
theorem exists_pair {target transit : Tlv.TypedBody} (targetType : target.1 = optionTarget)
    (targetLength : target.2.length = targetOptionLength) (transitType : transit.1 = optionTransit)
    (transitLength : transit.2.length = transitOptionLength) :
    ∃ pair : TransitPair, target = pair.targetOption ∧ transit = pair.transitOption := by
  obtain ⟨flags, prefixLength, address, rfl⟩ := exists_targetOption targetType targetLength
  obtain ⟨_, body⟩ := transit
  dsimp only at transitType transitLength
  subst transitType
  match body, transitLength with
  | transitFlags :: pathControl :: pathSequence :: pathLifetime :: parent, len =>
    have sixteen : parent.length = 16 := by
      have twenty : (transitFlags :: pathControl :: pathSequence :: pathLifetime ::
        parent).length = 20 := len
      simp only [List.length_cons] at twenty
      omega
    refine ⟨⟨flags, prefixLength, address, transitFlags, pathControl, pathSequence, pathLifetime,
      addressOf parent⟩, rfl, ?_⟩
    rw [TransitPair.transitOption, addressOctets_addressOf sixteen]

theorem usable_target {option : Tlv.TypedBody} (use : usable option = true)
    (type : option.1 = optionTarget) : option.2.length = targetOptionLength := by
  have other : ¬(optionTarget = optionTransit) := by decide
  rw [usable, type] at use
  simpa [other] using use

theorem usable_transit {option : Tlv.TypedBody} (use : usable option = true)
    (type : option.1 = optionTransit) : option.2.length = transitOptionLength := by
  have other : ¬(optionTransit = optionTarget) := by decide
  rw [usable, type] at use
  simpa [other] using use

/-- A usable option is a Target or a Transit Information option. -/
theorem usable_cases {option : Tlv.TypedBody} (use : usable option = true) :
    option.1 = optionTarget ∨ option.1 = optionTransit := by
  rw [usable, Bool.or_eq_true, Bool.and_eq_true, Bool.and_eq_true] at use
  exact use.imp (fun target => of_decide_eq_true target.1) fun transit =>
    of_decide_eq_true transit.1

/-- Usable options that alternate are pairs, and perhaps a Target that waits. -/
theorem exists_pairs {options : List Tlv.TypedBody} (use : ∀ option ∈ options, usable option = true)
    (alternate : alternates options = true) :
    ∃ (pairs : List TransitPair) (waiting : List Tlv.TypedBody),
      options = pairs.flatMap TransitPair.options ++ waiting ∧
        (waiting = [] ∨ ∃ flags prefixLength target,
          waiting = [(optionTarget, flags :: prefixLength :: addressOctets target)]) := by
  induction options using alternates.induct with
  | case1 => exact ⟨[], [], rfl, .inl rfl⟩
  | case2 target =>
    have type : target.1 = optionTarget := of_decide_eq_true alternate
    obtain ⟨flags, prefixLength, address, rfl⟩ := exists_targetOption type
      (usable_target (use _ List.mem_cons_self) type)
    exact ⟨[], _, rfl, .inr ⟨flags, prefixLength, address, rfl⟩⟩
  | case3 target transit rest ih =>
    simp only [alternates, Bool.and_eq_true, decide_eq_true_eq] at alternate
    obtain ⟨⟨targetType, transitType⟩, further⟩ := alternate
    rw [List.forall_mem_cons, List.forall_mem_cons] at use
    obtain ⟨useTarget, useTransit, useRest⟩ := use
    obtain ⟨pair, rfl, rfl⟩ := exists_pair targetType (usable_target useTarget targetType)
      transitType (usable_transit useTransit transitType)
    obtain ⟨pairs, waiting, rfl, waits⟩ := ih useRest further
    exact ⟨pair :: pairs, waiting, rfl, waits⟩

/-! ## What the loop makes of the options -/

namespace DaoReading

theorem readOption_unusable {option : Tlv.TypedBody} (unusable : usable option = false)
    (reading : DaoReading) : reading.readOption option = some reading := by
  rw [usable, Bool.or_eq_false_iff, Bool.and_eq_false_iff, Bool.and_eq_false_iff] at unusable
  simp only [decide_eq_false_iff_not, ← not_and_or] at unusable
  obtain ⟨type, body⟩ := option
  unfold readOption
  dsimp only at unusable ⊢
  rw [if_neg unusable.1, if_neg unusable.2]

/-- The loop passes over the options it does not look into. -/
theorem foldlM_usable (options : List Tlv.TypedBody) (reading : DaoReading) :
    options.foldlM readOption reading = (options.filter usable).foldlM readOption reading := by
  induction options generalizing reading with
  | nil => rfl
  | cons option rest ih =>
    rw [List.foldlM_cons, List.filter_cons]
    split
    · rw [List.foldlM_cons]
      exact congrArg _ (funext ih)
    · next unusable =>
      rw [readOption_unusable (Bool.not_eq_true _ ▸ unusable), Option.bind_eq_bind,
        Option.bind_some, ih]

theorem readOption_target (flags prefixLength : UInt8) (target : Ipv6Address)
    {reading : DaoReading} (ready : reading.pendingTarget = none) :
    reading.readOption (optionTarget, flags :: prefixLength :: addressOctets target) =
      some { reading with pendingTarget := some (target, prefixLength) } := by
  simp [readOption, targetOptionLength, ready]

/-- A Transit Information option that no Target waits for. -/
theorem readOption_transit_free {option : Tlv.TypedBody} (type : option.1 = optionTransit)
    (len : option.2.length = transitOptionLength) {reading : DaoReading}
    (ready : reading.pendingTarget = none) : reading.readOption option = none := by
  have other : ¬(optionTransit = optionTarget) := by decide
  obtain ⟨_, body⟩ := option
  dsimp only at type len
  subst type
  unfold readOption
  dsimp only
  rw [if_neg (fun given => other given.1), if_pos ⟨rfl, len⟩, ready]

/-- A Target option while another one waits. -/
theorem readOption_target_waiting {option : Tlv.TypedBody} (type : option.1 = optionTarget)
    (len : option.2.length = targetOptionLength) {reading : DaoReading}
    (waits : reading.pendingTarget ≠ none) : reading.readOption option = none := by
  obtain ⟨waiting, held⟩ := Option.ne_none_iff_exists'.mp waits
  obtain ⟨_, body⟩ := option
  dsimp only at type len
  subst type
  unfold readOption
  dsimp only
  rw [if_pos ⟨rfl, len⟩, held]

/-- Usable options that do not alternate are given up. -/
theorem foldlM_eq_none {options : List Tlv.TypedBody}
    (use : ∀ option ∈ options, usable option = true) (broken : alternates options = false)
    {reading : DaoReading} (ready : reading.pendingTarget = none) :
    options.foldlM readOption reading = none := by
  have refused (option : Tlv.TypedBody) (rest : List Tlv.TypedBody)
      (useOption : usable option = true) (other : option.1 ≠ optionTarget)
      {reading : DaoReading} (ready : reading.pendingTarget = none) :
      (option :: rest).foldlM readOption reading = none := by
    have type := (usable_cases useOption).resolve_left other
    rw [List.foldlM_cons, readOption_transit_free type (usable_transit useOption type) ready]
    rfl
  induction options using alternates.induct generalizing reading with
  | case1 => cases broken
  | case2 option =>
    exact refused option [] (use _ List.mem_cons_self) (of_decide_eq_false broken) ready
  | case3 target transit rest ih =>
    rw [List.forall_mem_cons, List.forall_mem_cons] at use
    obtain ⟨useTarget, useTransit, useRest⟩ := use
    by_cases targetType : target.1 = optionTarget
    · obtain ⟨flags, prefixLength, address, rfl⟩ :=
        exists_targetOption targetType (usable_target useTarget targetType)
      rcases usable_cases useTransit with again | transitType
      · rw [List.foldlM_cons, readOption_target _ _ _ ready, Option.bind_eq_bind,
          Option.bind_some, List.foldlM_cons,
          readOption_target_waiting again (usable_target useTransit again)
            (Option.some_ne_none _)]
        rfl
      · obtain ⟨pair, sameTarget, rfl⟩ := exists_pair rfl (usable_target useTarget rfl)
          transitType (usable_transit useTransit transitType)
        have further : alternates rest = false := by
          simpa [alternates, transitType] using broken
        rw [sameTarget]
        refine (pair.foldlM_options rest ready).trans (ih useRest further ?_)
        unfold complete
        split
        · rfl
        · rfl
    · exact refused target _ useTarget targetType ready

/-- Pairs, and perhaps a Target that waits, are read as the pairs. -/
theorem foldlM_pairs (dao : DaoHeader) (pairs : List TransitPair)
    {waiting : List Tlv.TypedBody} (waits : waiting = [] ∨ ∃ flags prefixLength target,
      waiting = [(optionTarget, flags :: prefixLength :: addressOctets target)]) :
    ∃ reading, (pairs.flatMap TransitPair.options ++ waiting).foldlM readOption { dao := dao } =
      some reading ∧ reading.dao = dao.withPairs pairs := by
  have ends (reading : DaoReading) (ready : reading.pendingTarget = none) :
      ∃ final, waiting.foldlM readOption reading = some final ∧ final.dao = reading.dao := by
    rcases waits with rfl | ⟨flags, prefixLength, target, rfl⟩
    · exact ⟨reading, rfl, rfl⟩
    · refine ⟨{ reading with pendingTarget := some (target, prefixLength) }, ?_, rfl⟩
      rw [List.foldlM_cons, readOption_target _ _ _ ready]
      rfl
  rw [List.foldlM_append]
  cases pairs with
  | nil => exact ends { dao := dao } rfl
  | cons first rest =>
    rw [List.flatMap_cons, first.foldlM_options _ rfl, DaoReading.complete,
      if_neg Bool.false_ne_true, TransitPair.foldlM_further, Option.bind_eq_bind,
      Option.bind_some]
    exact ends _ rfl

end DaoReading

/-! ## Well-paired messages -/

theorem targetsOf_append {before : List Tlv.TypedBody}
    (none_ : ∀ option ∈ before, option.1 ≠ optionTarget) (rest : List Tlv.TypedBody) :
    targetsOf (before ++ rest) = targetsOf rest := by
  induction before with
  | nil => rfl
  | cons option before ih =>
    rw [List.forall_mem_cons] at none_
    rw [List.cons_append, targetsOf, if_neg none_.1, ih none_.2]

theorem mem_targetsOf {option : Tlv.TypedBody} {options : List Tlv.TypedBody}
    (mem : option ∈ options) (type : option.1 = optionTarget) :
    ∃ transit, (option, transit) ∈ targetsOf options := by
  induction options with
  | nil => exact absurd mem List.not_mem_nil
  | cons head rest ih =>
    rw [targetsOf]
    rcases List.mem_cons.mp mem with rfl | later
    · rw [if_pos type]
      exact ⟨_, List.mem_cons_self⟩
    · obtain ⟨transit, found⟩ := ih later
      split
      · exact ⟨transit, List.mem_cons_of_mem _ found⟩
      · exact ⟨transit, found⟩

/-- Where the options are well paired and those that are usable alternate, the usable ones are
the pairs of the Target options. -/
theorem exists_pairs_of_wellPaired (options : List Tlv.TypedBody)
    (paired : ∀ found ∈ targetsOf options, found.1.2.length = targetOptionLength ∧
      ∃ transit, found.2 = some transit ∧ transit.2.length = transitOptionLength)
    (alternate : alternates (options.filter usable) = true) :
    ∃ pairs, options.filter usable = pairs.flatMap TransitPair.options ∧
      List.Forall₂ IsPair (targetsOf options) pairs := by
  induction size : options.length using Nat.strong_induction_on generalizing options with
  | _ size ih =>
    cases options with
    | nil => exact ⟨[], rfl, .nil⟩
    | cons option rest =>
      by_cases type : option.1 = optionTarget
      · rw [targetsOf, if_pos type, List.forall_mem_cons] at paired
        obtain ⟨⟨targetLength, transit, found, transitLength⟩, pairedRest⟩ := paired
        dsimp only at found targetLength
        obtain ⟨transitType, before, behind, rfl, none_⟩ := List.find?_eq_some_iff_append.mp found
        have transitType : transit.1 = optionTransit := of_decide_eq_true transitType
        have useTarget : usable option = true := by
          rw [usable, decide_eq_true type, decide_eq_true targetLength]
          rfl
        have useTransit : usable transit = true := by
          rw [usable, decide_eq_true transitType, decide_eq_true transitLength, Bool.or_eq_true]
          exact .inr rfl
        rw [List.filter_cons_of_pos useTarget, List.filter_append,
          List.filter_cons_of_pos useTransit] at alternate
        -- what stands between the two is not looked into
        have between : before.filter usable = [] := by
          cases some_ : before.filter usable with
          | nil => rfl
          | cons other more =>
            have mem : other ∈ before.filter usable := by
              rw [some_]
              exact List.mem_cons_self
            have other' : other.1 = optionTransit := by
              rw [some_] at alternate
              simp only [List.cons_append, alternates, Bool.and_eq_true,
                decide_eq_true_eq] at alternate
              exact alternate.1.2
            have not_ := none_ other (List.mem_filter.mp mem).1
            rw [decide_eq_true other'] at not_
            cases not_
        have noTarget : ∀ other ∈ before, other.1 ≠ optionTarget := by
          intro other mem otherType
          obtain ⟨_, known⟩ :=
            mem_targetsOf (List.mem_append_left (transit :: behind) mem) otherType
          have use : usable other = true := by
            rw [usable, decide_eq_true otherType, decide_eq_true (pairedRest _ known).1]
            rfl
          have some_ := List.mem_filter.mpr ⟨mem, use⟩
          rw [between] at some_
          exact absurd some_ List.not_mem_nil
        have notTarget : transit.1 ≠ optionTarget := by
          rw [transitType]
          decide
        have same : targetsOf (before ++ transit :: behind) = targetsOf behind := by
          rw [targetsOf_append noTarget, targetsOf, if_neg notTarget]
        rw [same] at pairedRest
        rw [between, List.nil_append] at alternate
        simp only [alternates, Bool.and_eq_true] at alternate
        rw [List.length_cons, List.length_append, List.length_cons] at size
        obtain ⟨pairs, usables, pairsOf⟩ :=
          ih behind.length (by omega) behind pairedRest alternate.2 rfl
        obtain ⟨pair, rfl, rfl⟩ := exists_pair type targetLength transitType transitLength
        refine ⟨pair :: pairs, ?_, ?_⟩
        · rw [List.filter_cons_of_pos useTarget, List.filter_append, between, List.nil_append,
            List.filter_cons_of_pos useTransit, usables]
          rfl
        · rw [targetsOf, if_pos type, found, same]
          exact .cons rfl pairsOf
      · have unusable : usable option ≠ true := by
          intro use
          have transitType := (usable_cases use).resolve_left type
          rw [List.filter_cons_of_pos use] at alternate
          cases others : rest.filter usable with
          | nil => simp [others, alternates, type] at alternate
          | cons _ _ => simp [others, alternates, type] at alternate
        rw [targetsOf, if_neg type] at paired ⊢
        rw [List.filter_cons_of_neg unusable] at alternate ⊢
        exact ih rest.length (by rw [← size]; exact Nat.lt_succ_self _) rest paired alternate rfl

namespace DaoHeader

/-! ## The outcome -/

section Outcome

variable {dao base : DaoHeader} {octets : List UInt8}

theorem readOptions_pairs_waiting {pairs : List TransitPair} {waiting : List Tlv.TypedBody}
    (options : (Tlv.options optionPad1 octets).filter usable =
      pairs.flatMap TransitPair.options ++ waiting)
    (waits : waiting = [] ∨ ∃ flags prefixLength target,
      waiting = [(optionTarget, flags :: prefixLength :: addressOctets target)]) :
    base.readOptions octets = base.withPairs pairs := by
  obtain ⟨reading, read, kept⟩ := DaoReading.foldlM_pairs base pairs waits
  rw [readOptions, DaoReading.foldlM_usable, options, read]
  exact kept

theorem readOptions_broken
    (broken : alternates ((Tlv.options optionPad1 octets).filter usable) = false) :
    base.readOptions octets = base.malformed := by
  have given : ((Tlv.options optionPad1 octets).filter usable).foldlM DaoReading.readOption
      { dao := base } = none :=
    DaoReading.foldlM_eq_none (fun option mem => (List.mem_filter.mp mem).2) broken rfl
  rw [readOptions, DaoReading.foldlM_usable, given]

/-- A DAO decoded is its option octets read into a header without targets. -/
theorem deserialize_options (read : deserialize octets = some dao) :
    ∃ base : DaoHeader, dao = base.readOptions (optionOctets octets) ∧
      base.target = anyAddress ∧ base.additionalTargets = [] := by
  match octets with
  | [] | [_] | [_, _] | [_, _, _] => cases read
  | instanceId :: flags :: reserved :: sequence :: rest =>
    have named : ((instanceId :: flags :: reserved :: sequence :: rest)[1]?.any
        fun flags => flags &&& daoDFlag ≠ 0) = decide (flags &&& daoDFlag ≠ 0) := rfl
    unfold deserialize at read
    dsimp only at read
    unfold optionOctets
    rw [named]
    split at read
    · next set =>
      rw [if_pos (decide_eq_true set)]
      unfold Octets.take? at read
      split at read
      · cases read
        exact ⟨_, rfl, rfl, rfl⟩
      · cases read
    · next clear_ =>
      rw [if_neg (fun set => clear_ (of_decide_eq_true set))]
      cases read
      exact ⟨_, rfl, rfl, rfl⟩

/-- A DAO without a target is taken by a node, if it is taken at all, with no entry that it
does not reject. -/
theorem yieldsNothing_iff :
    dao.YieldsNothing ↔ dao.target = anyAddress ∧ dao.additionalTargets = [] := by
  refine ⟨fun nothing => ⟨nothing.1, nothing.2.1⟩, fun ⟨target, none_⟩ => ⟨target, none_, ?_⟩⟩
  intro n sender interface key
  unfold Node.handleDao
  cases found : n.daoMembership dao with
  | none => rfl
  | some membership =>
    obtain ⟨held, dodag⟩ := membership
    dsimp only
    split
    · rfl
    · have kept (context : DaoContext) : dodag.handleTargets context dao.entries =
          { dodag := dodag } := by
        have rejected : dodag.rejectsTarget context anyAddress = true := rfl
        rw [entries, none_]
        simp only [DodagMembership.handleTargets, List.foldl_cons, List.foldl_nil,
          DodagMembership.handleOneTarget, target, rejected, if_true]
      rw [kept]
      obtain ⟨sent, acknowledged⟩ := Node.acknowledgeDao_emits
        ((n.setDodag held dodag).relayDao dodag (DodagMembership.relayedEntries { dodag := dodag }))
        dodag dao sender interface
      obtain ⟨relayed, relays⟩ := Node.relayDao_emits (n.setDodag held dodag) dodag
        (DodagMembership.relayedEntries { dodag := dodag })
      rw [acknowledged, relays, Node.emit_dodags, Node.emit_dodags]
      dsimp only [Node.setDodag]
      rw [ExtTreeMap.getElem?_insert]
      split
      · next same =>
        cases compare_eq_iff_eq.mp same
        exact (Node.daoMembership_held found).1.symm
      · rfl

/-- Where decoding is all or nothing: the options it looks into do not alternate, or they
complete no pair but one for the unspecified address, or the message is well paired. -/
def WholeOrNone (octets : List UInt8) : Prop :=
  alternates ((Tlv.options optionPad1 (optionOctets octets)).filter usable) = false ∨
    namesNothing ((Tlv.options optionPad1 (optionOctets octets)).filter usable) = true ∨
      WellPaired (optionOctets octets)

theorem wellPaired_of_yieldsAll (all : dao.YieldsAll octets) : WellPaired octets := by
  obtain ⟨whole, first, rest, pairs, -, -⟩ := all
  refine ⟨whole, ?_⟩
  generalize targetsOf (Tlv.options optionPad1 octets) = targets at pairs
  generalize first :: rest = yielded at pairs
  induction pairs with
  | nil => exact fun _ mem => absurd mem List.not_mem_nil
  | cons isPair _ ih =>
    refine List.forall_mem_cons.mpr ⟨?_, ih⟩
    rw [isPair]
    exact ⟨by simp [TransitPair.targetOption, targetOptionLength], _, rfl,
      by simp [TransitPair.transitOption, transitOptionLength]⟩

/-- A DAO names nothing exactly when the pairs read into it do. -/
theorem namesNothing_iff (fresh : base.target = anyAddress ∧ base.additionalTargets = [])
    {pairs : List TransitPair} {waiting : List Tlv.TypedBody}
    (waits : waiting = [] ∨ ∃ flags prefixLength target,
      waiting = [(optionTarget, flags :: prefixLength :: addressOctets target)]) :
    namesNothing (pairs.flatMap TransitPair.options ++ waiting) = true ↔
      (base.withPairs pairs).YieldsNothing := by
  rw [yieldsNothing_iff]
  cases pairs with
  | nil =>
    refine iff_of_true ?_ fresh
    rcases waits with rfl | ⟨_, _, _, rfl⟩ <;> rfl
  | cons first rest =>
    have target : addressOf ((first.targetOption).2.drop 2) = first.target :=
      addressOf_addressOctets first.target
    have additional : (base.withPairs (first :: rest)).additionalTargets =
        rest.map TransitPair.entry := by
      rw [withPairs, fresh.2, List.nil_append]
    have few : (rest.flatMap TransitPair.options ++ waiting).length ≤ 1 ↔ rest = [] := by
      cases rest with
      | nil =>
        refine iff_of_true ?_ rfl
        rcases waits with rfl | ⟨_, _, _, rfl⟩
        · exact Nat.zero_le 1
        · exact Nat.le_refl 1
      | cons second rest =>
        refine iff_of_false ?_ (List.cons_ne_nil _ _)
        rw [List.flatMap_cons, TransitPair.options]
        simp
    have primary : (base.withPairs (first :: rest)).target = first.target := rfl
    rw [List.flatMap_cons, List.append_assoc, TransitPair.options, List.cons_append,
      List.cons_append, List.nil_append, namesNothing, target, primary, additional,
      Bool.and_eq_true, decide_eq_true_eq, few, List.map_eq_nil_iff, Ipv6Address.isAny,
      decide_eq_true_eq]

/-- Decoding yields all of the targets or none exactly under the condition on the options. -/
theorem allOrNothing_iff (read : deserialize octets = some dao) :
    dao.YieldsAll (optionOctets octets) ∨ dao.YieldsNothing ↔ WholeOrNone octets := by
  obtain ⟨base, rfl, fresh⟩ := deserialize_options read
  unfold WholeOrNone
  have use : ∀ option ∈ (Tlv.options optionPad1 (optionOctets octets)).filter usable,
      usable option = true := fun option mem => (List.mem_filter.mp mem).2
  cases alternate : alternates ((Tlv.options optionPad1 (optionOctets octets)).filter usable) with
  | false =>
    refine iff_of_true (.inr ?_) (.inl rfl)
    rw [readOptions_broken alternate]
    exact yieldsNothing_iff.mpr ⟨rfl, rfl⟩
  | true =>
    obtain ⟨pairs, waiting, options, waits⟩ := exists_pairs use alternate
    have nothing : namesNothing (pairs.flatMap TransitPair.options ++ waiting) = true ↔
        (base.withPairs pairs).YieldsNothing := namesNothing_iff fresh waits
    rw [← options] at nothing
    rw [readOptions_pairs_waiting options waits, nothing]
    simp only [Bool.true_eq_false, false_or]
    rw [or_comm]
    refine or_congr_right' fun named => ⟨wellPaired_of_yieldsAll, fun paired => ?_⟩
    obtain ⟨yielded, same, isPair⟩ := exists_pairs_of_wellPaired _ paired.2 alternate
    have whole : (Tlv.options optionPad1 (optionOctets octets)).filter usable =
        yielded.flatMap TransitPair.options ++ [] := by
      rw [same, List.append_nil]
    have again : base.readOptions (optionOctets octets) = base.withPairs pairs :=
      readOptions_pairs_waiting options waits
    rw [readOptions_pairs_waiting whole (.inl rfl)] at again
    rw [← again] at named ⊢
    cases yielded with
    | nil => exact absurd (yieldsNothing_iff.mpr fresh) named
    | cons first rest =>
      refine ⟨paired.1, first, rest, isPair, ?_, rfl⟩
      rw [entries, withPairs, fresh.2, List.nil_append]
      rfl

end Outcome

/-! ### Half an update -/

/-- A Target option for 2001:db8::a and its Transit Information. -/
def firstPair : TransitPair :=
  { targetPrefixLength := 128
    target := 0x20010db800000000000000000000000a#128
    pathSequence := 241
    pathLifetime := 30
    parent := 0x20010db8000000000000000000000001#128 }

/-- A DAO of the one pair. -/
def wholeOctets : List UInt8 :=
  [30, 0x80, 0, 1] ++ (firstPair.options).flatMap Tlv.encode

/-- The same DAO with another Target option at its end. -/
def halfOctets : List UInt8 :=
  wholeOctets ++ Tlv.encode (optionTarget,
    0 :: 128 :: addressOctets 0x20010db800000000000000000000000b#128)

theorem wholeOctets_yields : ∃ dao, deserialize wholeOctets = some dao ∧
    (dao.YieldsAll (optionOctets wholeOctets) ∨ dao.YieldsNothing) := by
  obtain ⟨dao, read⟩ := Option.isSome_iff_exists.mp
    (show (deserialize wholeOctets).isSome = true by decide +kernel)
  have targets : targetsOf (Tlv.options optionPad1 (optionOctets wholeOctets)) =
      [(firstPair.targetOption, some firstPair.transitOption)] := by decide +kernel
  refine ⟨dao, read, (allOrNothing_iff read).mpr (.inr (.inr ⟨by decide +kernel, ?_⟩))⟩
  rw [targets]
  exact List.forall_mem_singleton.mpr ⟨by decide +kernel, _, rfl, by decide +kernel⟩

/-- The first target is kept though the second has no Transit Information. -/
theorem halfOctets_yield_half : ¬∀ (octets : List UInt8) (dao : DaoHeader),
    deserialize octets = some dao → dao.YieldsAll (optionOctets octets) ∨ dao.YieldsNothing := by
  intro all
  have kept : (deserialize halfOctets).any (fun dao => dao.target = firstPair.target) = true := by
    decide +kernel
  obtain ⟨dao, read, target⟩ := (Option.any_eq_true _ _).mp kept
  rcases all halfOctets dao read with yields | yields
  · have targets : (targetsOf (Tlv.options optionPad1 (optionOctets halfOctets))).any
        (fun options => options.2.isNone) = true := by decide +kernel
    obtain ⟨options, mem, alone⟩ := List.any_eq_true.mp targets
    obtain ⟨-, transit, found, -⟩ := (wellPaired_of_yieldsAll yields).2 options mem
    rw [found] at alone
    cases alone
  · rw [yields.1] at target
    exact absurd (of_decide_eq_true target) (by decide)

end DaoHeader

end Rpl
