import Rpl.Turns
import Rpl.IdAllocation

/-!
# The bar on rejoining a discovery

A node that leaves a temporary DODAG with an AODV-RPL target recorded bars its key
for REJOIN_REENABLE, and no RREQ-DIO or RREP-DIO is taken in for a barred key.  The
key can come back all the same: the node may root it as its own RREP-Instance, and
then only because every RPLInstanceID it could pair with the RREQ is in use or
barred.
-/

namespace Rpl

open Std

/-- The target a DIO of an AODV-RPL discovery has the node record. -/
def DioHeader.soughtTarget (dio : DioHeader) : Ipv6Address :=
  if dio.rrep.isSome then dio.dodagId else dio.getArt.target

/-- The key is barred, up to the given time at least. -/
def Stakes.Barred (s : Stakes) (key : DodagKey) (until_ : Time) : Prop :=
  ∃ freeAt, s.rejoinBlocked[key]? = some freeAt ∧ until_ ≤ freeAt

namespace Node

variable {n m : Node} {e : Event} {key : DodagKey} {dodag : DodagMembership} {dio : DioHeader}
  {heard : Reception} {until_ : Time}

/-- The node leaves a temporary DODAG in which it has recorded an AODV-RPL target. -/
inductive LeavesDiscovery (n : Node) (e : Event) (key : DodagKey) : Prop
  /-- It held the membership, with the target, before the event, and no DIO replaces the target
  by the unspecified address. -/
  | member {dodag : DodagMembership} (held : n.dodags[key]? = some dodag)
      (temporary : dodag.isTemporary = true) (recorded : dodag.aodv.target.isAny = false)
      (names : ∀ heard dio, e = .receive heard (.dio dio) → dio.key = key →
        dio.rreq.isSome = true ∨ dio.rrep.isSome = true → dio.soughtTarget.isAny = false)
      (gone : (n.apply e).dodags[key]? = none)
  /-- It gives the membership up while it handles the discovery part of the DIO that names the
  target, which may be the DIO it has joined by. -/
  | givenUp {dio : DioHeader} {heard : Reception} {m : Node} (takes : n.Takes e dio heard)
      (discovery : dio.rreq.isSome = true ∨ dio.rrep.isSome = true) (keyed : dio.key = key)
      (names : dio.soughtTarget.isAny = false) (handles : n.beforeDiscovery dio heard = some m)
      (holds : m.holds key = true) (gone : (n.apply e).dodags[key]? = none)

/-! ## Leaving sets the bar -/

/-- The target recorded stays, or the key is barred. -/
structure TargetOrBar (n : Node) (key : DodagKey) (s : Stakes) : Prop where
  now : n.now ≤ s.now
  attributes : s.attributes = n.attributes
  target : ∀ stake, s.held[key]? = some stake → stake.aodv.target.isAny = false
  bar : s.held[key]? = none → s.Barred key (n.now + n.attributes.aodvRejoinReenable)

theorem soughtTarget_of_rreq (takes : n.Takes e dio heard) (rreq : dio.rreq.isSome = true) :
    dio.soughtTarget = dio.getArt.target := by
  rw [DioHeader.soughtTarget, (takes.discovery.1 rreq).1, if_neg Bool.false_ne_true]

theorem soughtTarget_of_rrep (rrep : dio.rrep.isSome = true) : dio.soughtTarget = dio.dodagId := by
  rw [DioHeader.soughtTarget, rrep, if_pos rfl]

/-- What has to hold of an event, or of the part of it that is left, so that the target recorded
stays. -/
structure KeepsTarget (n : Node) (e : Event) (late : Bool) (key : DodagKey) : Prop where
  received : n.dodags[key]? = none → ∃ heard dio, e = .receive heard (.dio dio)
  held : late = false → ∃ dodag, n.dodags[key]? = some dodag ∧ dodag.isTemporary = true
  names : late = false → ∀ heard dio, e = .receive heard (.dio dio) → dio.key = key →
    dio.rreq.isSome = true ∨ dio.rrep.isSome = true → dio.soughtTarget.isAny = false

theorem targetOrBar_shift {late : Bool} {s after : Stakes} (keeps : n.KeepsTarget e late key)
    (shift : Shift n e late s after) (kept : n.TargetOrBar key s) : n.TargetOrBar key after := by
  have attributes := shift.attributes_eq.trans kept.attributes
  have now := Int.le_trans kept.now shift.now_le
  cases shift.turn key with
  | stays sameHeld sameBar =>
    refine ⟨now, attributes, fun stake heldAfter => kept.target stake (sameHeld ▸ heldAfter),
      fun gone => ?_⟩
    obtain ⟨freeAt, bar, late⟩ := kept.bar (sameHeld ▸ gone)
    exact ⟨freeAt, sameBar.trans bar, late⟩
  | unbars early takes discovery keyed heldBefore still =>
    refine ⟨now, attributes, fun stake heldAfter => ?_, fun gone => ?_⟩
    · rw [still] at heldAfter
      exact kept.target stake (heldBefore.trans heldAfter)
    · rw [still] at gone
      cases gone
  | begins absent begins heldAfter =>
    refine ⟨now, attributes, fun stake isStake => ?_, fun gone => ?_⟩
    · rw [heldAfter] at isStake
      cases isStake
      cases begins with
      | join early takes joins keyed =>
        obtain ⟨dodag, held, temporary⟩ := keeps.held early
        subst keyed
        rw [joinsBy_of_temporary held temporary] at joins
        cases joins
      | root roots =>
        cases roots with
        | ordinary fresh event =>
          obtain ⟨heard, dio, received⟩ := keeps.received fresh
          rcases event with ⟨_, event, -⟩ | ⟨_, event, -⟩
          · cases received.symm.trans event
          · cases received.symm.trans event
        | rreq fresh event =>
          obtain ⟨heard, dio, received⟩ := keeps.received fresh
          cases received.symm.trans event
        | p2p fresh event =>
          obtain ⟨heard, dio, received⟩ := keeps.received fresh
          cases received.symm.trans event
        | rrep stakes takes rreq rreqHeld answers address => exact address
    · rw [heldAfter] at gone
      cases gone
  | rewrites heldBefore rewrites heldAfter =>
    refine ⟨now, attributes, fun stake isStake => ?_, fun gone => ?_⟩
    · rw [heldAfter] at isStake
      cases isStake
      have before := kept.target _ heldBefore
      cases rewrites with
      | rest => exact before
      | rreq early takes rreq keyed =>
        have named := keeps.names early _ _ takes.event keyed (.inl rreq)
        rw [soughtTarget_of_rreq takes rreq] at named
        exact named
      | rrep early takes rrep keyed =>
        have named := keeps.names early _ _ takes.event keyed (.inr rrep)
        rw [soughtTarget_of_rrep rrep] at named
        exact named
      | armAodv => exact before
      | rdo => exact before
      | armP2p => exact before
      | stop => exact before
    · rw [heldAfter] at gone
      cases gone
  | ends heldBefore gone bar =>
    refine ⟨now, attributes, fun stake heldAfter => ?_, fun _ => ?_⟩
    · rw [gone] at heldAfter
      cases heldAfter
    · rw [kept.target _ heldBefore, if_neg Bool.false_ne_true, kept.attributes] at bar
      exact ⟨_, bar, Int.add_le_add_right kept.now _⟩

theorem targetOrBar_shifts {late : Bool} {s after : Stakes} (keeps : n.KeepsTarget e late key)
    (shifts : Shifts n e late s after) (kept : n.TargetOrBar key s) : n.TargetOrBar key after :=
  TransitionSystem.Keeps.star (I := n.TargetOrBar key)
    (fun _ _ shift => targetOrBar_shift keeps shift) shifts kept

/-- A target has just been recorded. -/
theorem targetOrBar_put {s : Stakes} {stake : Stake} (now : s.now = n.now)
    (attributes : s.attributes = n.attributes) (names : stake.aodv.target.isAny = false) :
    n.TargetOrBar key (s.put key stake) := by
  refine ⟨Int.le_of_eq now.symm, attributes, fun other held => ?_, fun absent => ?_⟩
  · rw [Stakes.put_held, if_pos rfl] at held
    cases held
    exact names
  · rw [Stakes.put_held, if_pos rfl] at absent
    cases absent

/-- What follows the recording of a target by the DIO of the event. -/
theorem targetOrBar_recorded {recorded : Node} {s : Stakes} {stake : Stake} {after : Node}
    (takes : n.Takes e dio heard) (discovery : dio.rreq.isSome = true ∨ dio.rrep.isSome = true)
    (records : recorded.stakes = s.put dio.key stake) (now : s.now = n.now)
    (attributes : s.attributes = n.attributes) (names : stake.aodv.target.isAny = false)
    (shifts : Shifts n e true (recorded.armAodvExpiry dio.key).stakes after.stakes) :
    n.TargetOrBar dio.key after.stakes := by
  have keeps : n.KeepsTarget e true dio.key :=
    ⟨fun _ => ⟨heard, dio, takes.event⟩, Bool.noConfusion, Bool.noConfusion⟩
  have put : n.TargetOrBar dio.key recorded.stakes := by
    rw [records]
    exact targetOrBar_put now attributes names
  exact targetOrBar_shifts keeps ((shifts_armAodvExpiry recorded takes discovery).trans shifts) put

/-- A node that leaves with a target recorded bars the key for REJOIN_REENABLE. -/
theorem barred_of_leaves (enabled : n.Enabled e) (leaves : n.LeavesDiscovery e key) :
    (n.apply e).stakes.Barred key (n.now + n.attributes.aodvRejoinReenable) := by
  cases leaves with
  | @member dodag held temporary recorded names gone =>
    have keeps : n.KeepsTarget e false key := by
      refine ⟨fun absent => ?_, fun _ => ⟨dodag, held, temporary⟩, fun _ => names⟩
      rw [held] at absent
      cases absent
    have kept : n.TargetOrBar key n.stakes := by
      refine ⟨le_rfl, rfl, fun stake heldStake => ?_, fun absent => ?_⟩
      · rw [stakes_held, held] at heldStake
        cases heldStake
        exact recorded
      · rw [stakes_held, held] at absent
        cases absent
    exact (targetOrBar_shifts keeps (shifts_apply n e enabled) kept).bar
      (by rw [stakes_held, gone]; rfl)
  | @givenUp dio heard m takes discovery keyed names handles holds gone =>
    subst keyed
    have before := shifts_beforeDiscovery takes handles
    have now : m.now = n.now := before.now_eq takes.timeless
    have attributes : m.attributes = n.attributes := before.attributes_eq
    obtain ⟨dodag, held⟩ := held_of_holds holds
    have whole := takes.apply_eq_handleDiscovery handles
    rcases discovery with rreq | rrep
    · rw [handleDiscovery_of_rreq takes rreq holds] at whole
      rcases handleAodvRreq_cases true takes handles rreq held with
        ⟨-, ignored⟩ | ⟨recorded, records, leads⟩
      · rw [whole, ignored] at gone
        cases held.symm.trans gone
      · have shifts := leads.shifts takes whole
        rw [soughtTarget_of_rreq takes rreq] at names
        rw [← whole] at shifts
        exact (targetOrBar_recorded takes (.inl rreq) records now attributes names shifts).bar
          (by rw [stakes_held, gone]; rfl)
    · rw [handleDiscovery_of_rrep takes rrep holds] at whole
      rcases handleAodvRrepInstance_cases true takes rrep held with
        ⟨-, ignored⟩ | ⟨recorded, records, shifts⟩
      · rw [whole, ignored] at gone
        cases held.symm.trans gone
      · rw [soughtTarget_of_rrep rrep] at names
        rw [← whole] at shifts
        exact (targetOrBar_recorded takes (.inr rrep) records now attributes names shifts).bar
          (by rw [stakes_held, gone]; rfl)

/-! ## The bar holds -/

/-- While the time has not come, the key is barred. -/
structure BarredYet (key : DodagKey) (start until_ : Time) (attributes : Attributes) (s : Stakes) :
    Prop where
  now : start ≤ s.now
  attributes : s.attributes = attributes
  bar : s.now < until_ → s.Barred key until_

/-- A DIO of a discovery under a barred key is refused. -/
theorem not_takes_of_barred (takes : n.Takes e dio heard)
    (discovery : dio.rreq.isSome = true ∨ dio.rrep.isSome = true)
    (barred : n.stakes.Barred dio.key until_) : ¬n.now < until_ := by
  intro early
  obtain ⟨freeAt, bar, late⟩ := barred
  have running : (n.rejoinBar dio.key).isSome = true :=
    rejoinBar_isSome.mpr ⟨freeAt, Option.mem_toList.mpr bar, Int.lt_of_lt_of_le early late⟩
  have kept := takes.takes
  simp only [takesDio, Bool.and_eq_true, Bool.not_eq_true', refusesDiscovery, Bool.or_eq_false_iff,
    Bool.and_eq_false_iff] at kept
  obtain ⟨⟨-, ⟨noRreq, noRrep⟩, -⟩, -⟩ := kept
  rcases discovery with rreq | rrep
  · rcases noRreq with absent | welcome
    · rw [rreq] at absent
      cases absent
    · simp only [shouldRefuseAodvRreq, shouldRefuseAodvInstance, running, Bool.true_or,
        Bool.or_true, Bool.true_eq_false] at welcome
  · rcases noRrep with absent | welcome
    · rw [rrep] at absent
      cases absent
    · simp only [shouldRefuseAodvRrep, shouldRefuseAodvInstance, running, Bool.true_or,
        Bool.true_eq_false] at welcome

theorem barredYet_shift {start : Time} {attributes : Attributes} {s after : Stakes}
    (reached : Shifts n e false n.stakes s) (shift : Shift n e false s after)
    (initially : BarredYet key start until_ attributes n.stakes)
    (reenable : until_ ≤ start + attributes.aodvRejoinReenable)
    (yet : BarredYet key start until_ attributes s) :
    BarredYet key start until_ attributes after := by
  refine ⟨Int.le_trans yet.now shift.now_le, shift.attributes_eq.trans yet.attributes,
    fun early => ?_⟩
  obtain ⟨freeAt, bar, late⟩ := yet.bar (Int.lt_of_le_of_lt shift.now_le early)
  cases shift.turn key with
  | stays sameHeld sameBar => exact ⟨freeAt, sameBar.trans bar, late⟩
  | unbars _ takes discovery keyed =>
    subst keyed
    have now : after.now = n.now :=
      (shift.now_eq takes.timeless).trans (reached.now_eq takes.timeless)
    rw [now] at early
    exact absurd early (not_takes_of_barred takes discovery (initially.bar early))
  | begins absent begins heldAfter sameBar => exact ⟨freeAt, sameBar.trans bar, late⟩
  | rewrites heldBefore rewrites heldAfter sameBar => exact ⟨freeAt, sameBar.trans bar, late⟩
  | @ends stake held gone barAfter =>
    split at barAfter
    · exact ⟨freeAt, barAfter.trans bar, late⟩
    · refine ⟨_, barAfter, ?_⟩
      rw [yet.attributes]
      exact Int.le_trans reenable (Int.add_le_add_right yet.now _)

theorem barredYet_steps {start : Time} {attributes : Attributes} {good : Node → Event → Prop}
    (reenable : until_ ≤ start + attributes.aodvRejoinReenable) (steps : nodeSystem.Steps good n m)
    (yet : BarredYet key start until_ attributes n.stakes) :
    BarredYet key start until_ attributes m.stakes := by
  refine steps.keeps (I := fun n => BarredYet key start until_ attributes n.stakes) ?_ yet
  intro n e yet enabled _
  exact keeps_apply enabled
    (fun s after reached shift => barredYet_shift reached shift yet reenable) yet

/-! ## Being a member again -/

/-- From the node's leaving on, no DIO of a discovery makes it a member under the key again
before REJOIN_REENABLE has passed. -/
def StaysOut (n : Node) (e : Event) (key : DodagKey) : Prop :=
  ∀ m, nodeSystem.Steps (fun _ _ => True) (n.apply e) m → ∀ dio heard,
    m.Enabled (.receive heard (.dio dio)) → dio.rreq.isSome = true ∨ dio.rrep.isSome = true →
      m.now < n.now + n.attributes.aodvRejoinReenable → m.dodags[key]? = none →
        (m.apply (.receive heard (.dio dio))).dodags[key]? = none

/-- The event ends with the rooting of an RREP-Instance under the key, where every RPLInstanceID
that could be paired with the RREQ-Instance answered is in use or barred. -/
def RootsBarred (m : Node) (e : Event) (rreqKey key : DodagKey) : Prop :=
  ∃ (before : Node) (rreqDodag : DodagMembership),
    m.apply e = before.startAodvRrepInstance rreqDodag rreqKey ∧
      before.dodags[key]? = none ∧ key.dodagId = before.getGlobalAddress ∧
      ∀ id ∈ before.spare (.startAodvRrepInstance rreqDodag rreqKey),
        before.Barred (.startAodvRrepInstance rreqDodag rreqKey) id

/-- The walk for an RREP-Instance ends with a barred ID only when all are barred. -/
theorem spare_barred {rreqDodag : DodagMembership} {rreqKey : DodagKey} {id : UInt8}
    (allocates : m.allocated (.startAodvRrepInstance rreqDodag rreqKey) = some id)
    (keyed : key = ⟨clearDFlag id, m.getGlobalAddress⟩) (barred : m.stakes.Barred key until_)
    (early : m.now < until_) :
    ∀ id ∈ m.spare (.startAodvRrepInstance rreqDodag rreqKey),
      m.Barred (.startAodvRrepInstance rreqDodag rreqKey) id := by
  intro other spare
  by_contra free
  obtain ⟨taken, spareTaken, freeTaken, isTaken⟩ := allocated_of_free spare free
  cases allocates.symm.trans isTaken
  have dClear : id &&& localInstanceDFlag = 0 := by
    have walked := List.mem_of_mem_filter spareTaken
    rw [Allocation.walk, pairableInstanceIds, List.mem_filter, decide_eq_true_eq] at walked
    exact walked.2
  have unflagged : ∀ id : UInt8, id &&& localInstanceDFlag = 0 → clearDFlag id = id :=
    Octets.forall_octet (by decide +kernel)
  obtain ⟨freeAt, bar, late⟩ := barred
  refine freeTaken ⟨freeAt, List.mem_append_left _ (Option.mem_toList.mpr ?_),
    Int.lt_of_lt_of_le early late⟩
  rw [keyed, unflagged id dClear] at bar
  exact bar

/-- While the key is barred, no DIO of a discovery makes the node a member under it, unless by
rooting an RREP-Instance for want of any other ID. -/
theorem rootsBarred_of_member (enabled : m.Enabled (.receive heard (.dio dio)))
    (discovery : dio.rreq.isSome = true ∨ dio.rrep.isSome = true)
    {start : Time} {attributes : Attributes}
    (yet : BarredYet key start until_ attributes m.stakes)
    (reenable : until_ ≤ start + attributes.aodvRejoinReenable) (early : m.now < until_)
    (absent : m.dodags[key]? = none) :
    (m.apply (.receive heard (.dio dio))).dodags[key]? = none ∨
      m.RootsBarred (.receive heard (.dio dio)) dio.key key := by
  have kept : (BarredYet key start until_ attributes
        (m.apply (.receive heard (.dio dio))).stakes ∧
      (m.apply (.receive heard (.dio dio))).stakes.held[key]? = none) ∨
      m.RootsBarred (.receive heard (.dio dio)) dio.key key := by
    refine keeps_apply (I := fun s => (BarredYet key start until_ attributes s ∧
      s.held[key]? = none) ∨ m.RootsBarred (.receive heard (.dio dio)) dio.key key) enabled ?_
      (.inl ⟨yet, by rw [stakes_held, absent]; rfl⟩)
    rintro s after reached shift (⟨yetBefore, out⟩ | roots)
    · have yetAfter := barredYet_shift reached shift yet reenable yetBefore
      cases shift.turn key with
      | stays sameHeld => exact .inl ⟨yetAfter, sameHeld.trans out⟩
      | unbars _ takes discovery keyed held => rw [out] at held; cases held
      | rewrites held => rw [out] at held; cases held
      | ends held gone => exact .inl ⟨yetAfter, gone⟩
      | begins _ begins =>
        cases begins with
        | @join other otherHeard _ takes joins keyed =>
          cases takes.event
          subst keyed
          exact absurd early (not_takes_of_barred takes discovery (yet.bar early))
        | root roots =>
          cases roots with
          | ordinary fresh event =>
            rcases event with ⟨_, event, -⟩ | ⟨_, event, -⟩
            · cases event
            · cases event
          | rreq fresh event => cases event
          | p2p fresh event => cases event
          | @rrep before rreqDodag _ other otherHeard id _ _ isBefore takes rreq rreqHeld answers
              address allocates rooted =>
            have event := takes.event
            cases event
            have now : before.now = m.now := by
              have sameNow := reached.now_eq takes.timeless
              rw [← isBefore] at sameNow
              exact sameNow
            rw [← isBefore] at yetBefore out
            have earlyBefore : before.now < until_ := by
              rw [now]
              exact early
            refine .inr ⟨before, rreqDodag, answers, ?_, by rw [rooted],
              spare_barred allocates rooted (yetBefore.bar earlyBefore) earlyBefore⟩
            rw [stakes_held] at out
            exact Option.map_eq_none_iff.mp out
    · exact .inr roots
  rcases kept with ⟨-, out⟩ | roots
  · rw [stakes_held] at out
    exact .inl (Option.map_eq_none_iff.mp out)
  · exact .inr roots

/-- After a node has left a temporary DODAG with an AODV-RPL target recorded, no RREQ-DIO and no
RREP-DIO makes it a member under the key again before REJOIN_REENABLE has passed, unless it
roots its own RREP-Instance there, and every ID it could pair with the RREQ-Instance it answers
is in use or barred. -/
theorem staysOut_or_rootsBarred (enabled : n.Enabled e) (leaves : n.LeavesDiscovery e key)
    (steps : nodeSystem.Steps (fun _ _ => True) (n.apply e) m)
    (receives : m.Enabled (.receive heard (.dio dio)))
    (discovery : dio.rreq.isSome = true ∨ dio.rrep.isSome = true)
    (early : m.now < n.now + n.attributes.aodvRejoinReenable) (absent : m.dodags[key]? = none) :
    (m.apply (.receive heard (.dio dio))).dodags[key]? = none ∨
      m.RootsBarred (.receive heard (.dio dio)) dio.key key := by
  have shifts := shifts_apply n e enabled
  have yet : BarredYet key n.now (n.now + n.attributes.aodvRejoinReenable) n.attributes
      (n.apply e).stakes :=
    ⟨shifts.now_le, shifts.attributes_eq, fun _ => barred_of_leaves enabled leaves⟩
  exact rootsBarred_of_member receives discovery (barredYet_steps le_rfl steps yet) le_rfl early
    absent

/-! ## A TargNode with one ID to answer under -/

/-- fe80::2 and 2001:db8::2 on interface 1. -/
def targetIpv6 : Ipv6L3Protocol :=
  .ofInterfaces
    [{},
      { addresses :=
          [{ address := 0xfe800000000000000000000000000002#128, scope := .linkLocal },
            { address := 0x20010db8000000000000000000000002#128, scope := .global }] }]

/-- An RREQ for 2001:db8::2 over an asymmetric path, under the last of the Local
RPLInstanceIDs. -/
def soughtBy (origNode : Ipv6Address) : DioHeader :=
  { instanceId := 0xBF
    rank := 128
    mop := mopP2pRouteDiscovery
    dodagId := origNode
    dagConf := some { intervalMin := 16 }
    rreq := some { symmetric := false, lifetime := 1 }
    arts := [{ target := 0x20010db8000000000000000000000002#128 }] }

/-- A node with long Trickle intervals. -/
def patient : Node :=
  { ipv6 := targetIpv6
    sockets := {1}
    attributes := { aodvDioIntervalMin := seconds 60 } }

/-- The key of the RREP-Instance it answers with. -/
def answerKey : DodagKey := ⟨0xBF, 0x20010db8000000000000000000000002#128⟩

/-- It has answered 2001:db8::1. -/
def answering : Node := patient.apply (hears (soughtBy 0x20010db8000000000000000000000001#128))

/-- The RREP-Instance is at its deadline. -/
def atDeadline : Node := answering.apply (.tick (seconds 16))

/-- The deadline of the RREP-Instance. -/
def deadline : Event := .fire (.aodvExpiry answerKey)

/-- 2001:db8::3 looks for it as well. -/
def askedAgain : Event := hears (soughtBy 0x20010db8000000000000000000000003#128)

theorem patient_initial : patient.Initial :=
  ⟨rfl, rfl, rfl, rfl, rfl, rfl, rfl, rfl, (started_initial targetIpv6).loopback⟩

/-- What the node does up to the deadline, at it, and when it hears the other RREQ. -/
theorem patient_run :
    answering.now ≤ seconds 16 ∧ answering.nothingBefore (seconds 16) = true ∧
      atDeadline.timer (.aodvExpiry answerKey) = some atDeadline.now ∧
      (atDeadline.dodags[answerKey]?).map (fun dodag =>
        (dodag.isTemporary, dodag.aodv.target.isAny)) = some (true, false) ∧
      1 ∈ (atDeadline.apply deadline).sockets ∧
      (atDeadline.apply deadline).dodags[answerKey]?.isNone = true ∧
      ((atDeadline.apply deadline).apply askedAgain).dodags[answerKey]?.isSome = true := by
  decide +kernel

theorem atDeadline_reachable : nodeSystem.Reachable atDeadline := by
  have answered : nodeSystem.Reachable answering :=
    run_hears (.start patient_initial) (started_listens targetIpv6) trivial
  have waits : answering.Enabled (.tick (seconds 16)) :=
    enabled_tick patient_run.1 patient_run.2.1
  exact run_apply answered waits trivial

theorem atDeadline_enabled : atDeadline.Enabled deadline :=
  patient_run.2.2.1

/-- The other RREQ reaches it. -/
theorem askedAgain_enabled : (atDeadline.apply deadline).Enabled askedAgain :=
  patient_run.2.2.2.2.1

theorem atDeadline_absent : (atDeadline.apply deadline).dodags[answerKey]? = none :=
  Option.isNone_iff_eq_none.mp patient_run.2.2.2.2.2.1

theorem atDeadline_leaves : atDeadline.LeavesDiscovery deadline answerKey := by
  obtain ⟨dodag, heldDodag, same⟩ := Option.map_eq_some_iff.mp patient_run.2.2.2.1
  obtain ⟨temporary, recorded⟩ := Prod.mk.injEq .. ▸ same
  refine .member heldDodag temporary recorded (fun heard dio event => ?_) atDeadline_absent
  cases event

/-- It is a member again at once, when it hears the other RREQ. -/
theorem atDeadline_returns :
    ((atDeadline.apply deadline).apply askedAgain).dodags[answerKey]? ≠ none :=
  Option.isSome_iff_ne_none.mp patient_run.2.2.2.2.2.2

/-- The bar does not keep the TargNode out. -/
theorem atDeadline_not_staysOut :
    nodeSystem.Reachable atDeadline ∧ atDeadline.Enabled deadline ∧
      atDeadline.LeavesDiscovery deadline answerKey ∧
      ¬atDeadline.StaysOut deadline answerKey := by
  refine ⟨atDeadline_reachable, atDeadline_enabled, atDeadline_leaves, fun stays => ?_⟩
  exact atDeadline_returns (stays _ .refl _ _ askedAgain_enabled (.inl rfl) (by decide +kernel)
    atDeadline_absent)

/-- It has rooted the RREP-Instance again because there is no other ID for it. -/
theorem atDeadline_rootsBarred :
    (atDeadline.apply deadline).RootsBarred askedAgain
      (soughtBy 0x20010db8000000000000000000000003#128).key answerKey :=
  (staysOut_or_rootsBarred atDeadline_enabled atDeadline_leaves .refl askedAgain_enabled (.inl rfl)
    (by decide +kernel) atDeadline_absent).resolve_left atDeadline_returns

end Node

end Rpl
