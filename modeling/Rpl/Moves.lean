import Rpl.Unmoved

/-!
# Functions that move a node

`LeaveDodag`, `SelectPreferredParent`, `JoinDodag`, `CreateDodagMembership` and the
two functions that set discovery deadlines do to a node's standing what the
operation of that name does to a standing.
-/

namespace Rpl

open Std

namespace Node

/-! ## Leaving -/

theorem standing_poisonDodag (n : Node) (key : DodagKey) :
    (n.poisonDodag key).standing =
      n.standing.modify key fun member =>
        { member with
          place := { member.place with
            rank := infiniteRank
            pathEtx := UInt16.ofNat mrhofMaxPathCost } } := by
  rw [poisonDodag, standing_sendDio, standing_modifyPlace]

theorem standing_promoteBase (n : Node) : n.promoteBase.standing = n.standing.promote := by
  have walk : OrderedMap.first (fun _ member => !member.place.isTemporary) n.standing.held =
      (OrderedMap.first (fun _ survivor => !survivor.isTemporary) n.dodags).map
        fun entry => (entry.1, entry.2.member) :=
    OrderedMap.first_map
  unfold promoteBase Standing.promote
  rw [walk]
  split
  · next survives =>
    rw [survives]
    rfl
  · next none_ =>
    rw [none_]
    rfl

theorem standing_eraseDodag (n : Node) (key : DodagKey) (dodag : DodagMembership) :
    (n.eraseDodag key dodag).standing =
      { n.standing with
        held := n.standing.held.erase key
        retained := n.standing.recordsAfter key dodag.member
        history := .left key n.now dodag.imax :: n.standing.history } := by
  have erased : (n.dodags.erase key).map (fun _ dodag => dodag.member) =
      n.standing.held.erase key := OrderedMap.map_erase
  unfold eraseDodag Standing.recordsAfter
  rw [← erased]
  by_cases temporary : dodag.isTemporary = true
  · simp only [temporary, DodagMembership.member_place, if_true]
    split
    · rfl
    · rfl
  · simp only [temporary, DodagMembership.member_place, if_false, Bool.false_eq_true]
    split
    · rfl
    · rfl

theorem dodags_eraseDodag (n : Node) (key : DodagKey) (dodag : DodagMembership) :
    (n.eraseDodag key dodag).dodags = n.dodags.erase key := by
  unfold eraseDodag
  dsimp only [mark]
  split
  · split
    · rfl
    · rfl
  · split
    · rfl
    · rfl

/-- A membership that is left is poisoned where it is to be, and erased; another one may become
the base DODAG. -/
theorem leaveDodag_eq {n : Node} {key : DodagKey} {dodag : DodagMembership}
    (held : n.dodags[key]? = some dodag) (poison : Bool) :
    ∃ has base, n.leaveDodag key poison =
      { (if poison then n.poisonDodag key else n).eraseDodag key dodag with
        hasBaseDodag := has, baseDodagKey := base } := by
  unfold leaveDodag
  rw [held]
  dsimp only
  generalize (if poison then n.poisonDodag key else n).eraseDodag key dodag = left
  split
  · unfold promoteBase
    split
    · exact ⟨_, _, rfl⟩
    · exact ⟨_, _, rfl⟩
  · exact ⟨_, _, rfl⟩

/-- The base DODAG, where one is recorded, is the one under the key. -/
theorem standing_base_eq (n : Node) (key : DodagKey) :
    n.standing.base = some key ↔ (n.hasBaseDodag && n.baseDodagKey = key) = true := by
  simp only [standing, Bool.and_eq_true, decide_eq_true_eq]
  split
  · next has => simp only [Option.some.injEq, has, true_and]
  · next hasNot => simp only [reduceCtorEq, hasNot, false_and]

@[simp] theorem standing_leaveDodag (n : Node) (key : DodagKey) (poison : Bool) :
    (n.leaveDodag key poison).standing = n.standing.leave key poison := by
  unfold leaveDodag Standing.leave
  rw [standing_held]
  cases held : n.dodags[key]? with
  | none => rfl
  | some dodag =>
    dsimp only [Option.map_some]
    -- poisoning rewrites a membership that is erased next
    have erased : ((if poison = true then n.poisonDodag key else n).eraseDodag key dodag).standing =
        { n.standing with
          held := n.standing.held.erase key
          retained := n.standing.recordsAfter key dodag.member
          history := .left key n.standing.now dodag.member.place.imax ::
            n.standing.history } := by
      have now : (n.poisonDodag key).now = n.now :=
        congrArg Standing.now (n.standing_poisonDodag key)
      rw [standing_eraseDodag]
      split
      · rw [standing_poisonDodag, now]
        simp only [Standing.modify, OrderedMap.erase_modify]
        rfl
      · rfl
    revert erased
    generalize (if poison = true then n.poisonDodag key else n).eraseDodag key dodag = left
    intro erased
    have isBase := standing_base_eq left key
    rw [erased] at isBase
    have gives : (poison && left.hasBaseDodag && left.baseDodagKey = key) = true ↔
        poison = true ∧ n.standing.base = some key := by
      rw [Bool.and_assoc, Bool.and_eq_true, ← isBase]
    by_cases given : poison = true ∧ n.standing.base = some key
    · rw [if_pos given, if_pos (gives.mpr given), standing_promoteBase, erased]
    · rw [if_neg given, if_neg (mt gives.mp given)]
      exact erased

/-! ## Selecting a parent -/

/-- The sweep of part of the table, and then of all of it, is the sweep of all of it. -/
theorem sweep_all_of_part (place : DodagPlace) (now : Time) (reached : Ipv6Address → Bool) :
    (place.sweep now reached).sweep now (fun _ => true) = place.sweep now fun _ => true := by
  unfold DodagPlace.sweep
  congr 1
  refine ExtTreeMap.ext_getElem? fun address => ?_
  simp only [OrderedMap.getElem?_eraseIf, Bool.true_and, Option.filter_filter]
  congr 1
  funext parent
  cases staleNow : place.stale now parent with
  | false =>
    have still : DodagPlace.stale { place with
        parents := OrderedMap.eraseIf
          (fun address parent => reached address && place.stale now parent) place.parents }
        now parent = false := staleNow
    simp [still]
  | true =>
    have still : DodagPlace.stale { place with
        parents := OrderedMap.eraseIf
          (fun address parent => reached address && place.stale now parent) place.parents }
        now parent = true := staleNow
    simp [still]

theorem standing_sweepParents {n : Node} {key : DodagKey} {dodag : DodagMembership}
    (held : n.dodags[key]? = some dodag) :
    (n.sweepParents key).standing =
      n.standing.put key { dodag.member with place := n.standing.swept dodag.member } := by
  unfold sweepParents
  rw [held]
  dsimp only
  rw [standing_modifyPlace]
  split
  · -- the No-Path goes out between two parts of the sweep
    rw [standing_sendNoPathDao, standing_modifyPlace]
    simp only [Standing.modify, Standing.put, OrderedMap.modify_of_held (held_member held)]
    rw [OrderedMap.modify_of_held ExtTreeMap.getElem?_insert_self, OrderedMap.insert_insert]
    simp only [sweep_all_of_part]
    rfl
  · simp only [Standing.modify, Standing.put, OrderedMap.modify_of_held (held_member held)]
    rfl

@[simp] theorem standing_loseLastParent (n : Node) (key : DodagKey) (dodag : DodagMembership) :
    (n.loseLastParent key dodag).standing = n.standing.leave key true := by
  rw [loseLastParent, standing_scheduleSolicitation, standing_leaveDodag, standing_withdrawThrough]

theorem standing_takeParent {n : Node} {key : DodagKey} {dodag : DodagMembership}
    {best : Candidate} (held : n.dodags[key]? = some dodag) :
    (n.takeParent key dodag best).standing =
      (n.standing.put key { dodag.member with place := dodag.adoptParent best }).mark
        (.ranked key (dodag.adoptParent best).rank) := by
  have taken : ((n.modifyPlace key fun _ => dodag.adoptParent best).mark
      (.ranked key (dodag.adoptParent best).rank)).standing =
      (n.standing.put key { dodag.member with place := dodag.adoptParent best }).mark
        (.ranked key (dodag.adoptParent best).rank) := by
    rw [standing_mark, standing_modifyPlace]
    simp only [Standing.modify, Standing.put, OrderedMap.modify_of_held (held_member held)]
  unfold takeParent
  dsimp only
  split
  · rw [standing_switchParent, taken]
  · exact taken

/-- `SelectPreferredParent` does to a node's standing what `select` does. -/
@[simp] theorem standing_selectPreferredParent (n : Node) (key : DodagKey) :
    (n.selectPreferredParent key).2.standing = n.standing.select key := by
  unfold selectPreferredParent Standing.select
  rw [standing_held]
  cases held : n.dodags[key]? with
  | none => rfl
  | some dodag =>
    have place : dodag.member.place.isRoot = dodag.isRoot := rfl
    dsimp only [Option.map_some]
    cases root : dodag.isRoot with
    | true => rw [if_pos rfl, if_pos (place.trans root)]
    | false =>
      rw [if_neg Bool.false_ne_true, if_neg (by rw [place, root]; exact Bool.false_ne_true)]
      have swept := standing_sweepParents held
      -- the membership after the sweep has the swept place
      have sweptHeld : ((n.sweepParents key).dodags[key]?).map DodagMembership.member =
          some { dodag.member with place := n.standing.swept dodag.member } := by
        rw [← standing_held, swept, Standing.put_held, ExtTreeMap.getElem?_insert_self]
      obtain ⟨after, heldAfter, memberAfter⟩ := Option.map_eq_some_iff.mp sweptHeld
      have place : after.toDodagPlace = n.standing.swept dodag.member :=
        congrArg Member.place memberAfter
      rw [heldAfter]
      dsimp only
      rw [place]
      split
      · exact swept
      split
      · rw [standing_loseLastParent, swept]
      · rw [standing_takeParent heldAfter, swept, memberAfter, place, Standing.put_put]

@[simp] theorem standing_selectAndReset (n : Node) (key : DodagKey) :
    (n.selectAndReset key).standing = n.standing.select key := by
  unfold selectAndReset
  dsimp only
  split
  · rw [standing_resetTrickle, standing_selectPreferredParent]
  · exact standing_selectPreferredParent ..

@[simp] theorem standing_dioTrickleFire (n : Node) (key : DodagKey) :
    (n.dioTrickleFire key).standing = n.standing.select key := by
  rw [dioTrickleFire, standing_sendDio, standing_selectPreferredParent]

/-! ## Joining -/

theorem standing_unexpired (n : Node) (key : DodagKey) :
    n.standing.unexpired key = n.unexpiredRecords key := rfl

/-- The parameters a DIO gives leave the rest of the membership alone. -/
theorem withParameters_place (dodag : DodagMembership) (dio : DioHeader) :
    (withParameters dodag dio).toDodagPlace =
      { dodag.toDodagPlace with
        ocp := (withParameters dodag dio).ocp
        minHopRankIncrease := (withParameters dodag dio).minHopRankIncrease
        maxRankIncrease := (withParameters dodag dio).maxRankIncrease
        dioIntervalMin := (withParameters dodag dio).dioIntervalMin
        dioIntervalDoublings := (withParameters dodag dio).dioIntervalDoublings } ∧
      (withParameters dodag dio).aodv = dodag.aodv ∧ (withParameters dodag dio).p2p = dodag.p2p ∧
      (withParameters dodag dio).globalRepairEvent = dodag.globalRepairEvent := by
  unfold withParameters
  split
  · exact ⟨rfl, rfl, rfl, rfl⟩
  · split
    · exact ⟨rfl, rfl, rfl, rfl⟩
    · exact ⟨rfl, rfl, rfl, rfl⟩

theorem joinedMembership_fresh (n : Node) (dio : DioHeader) :
    n.standing.Fresh dio.key (n.joinedMembership dio).toDodagPlace := by
  have place : (n.joinedMembership dio).toDodagPlace =
      (withParameters (n.newMembership dio) dio).toDodagPlace := rfl
  rw [place, (withParameters_place _ dio).1]
  exact ⟨rfl, rfl, rfl, rfl, rfl, rfl⟩

theorem joinedMembership_member (n : Node) (dio : DioHeader) :
    (n.joinedMembership dio).member =
      { place := (n.joinedMembership dio).toDodagPlace, expires := false, repairs := false } := by
  obtain ⟨-, aodv, p2p, repair⟩ := withParameters_place (n.newMembership dio) dio
  have aodvState : (n.joinedMembership dio).aodv = {} := aodv
  have p2pState : (n.joinedMembership dio).p2p = {} := p2p
  have repairEvent : (n.joinedMembership dio).globalRepairEvent = none := repair
  simp only [DodagMembership.member, aodvState, p2pState, repairEvent]
  rfl

theorem joinedMembership_version_mop (n : Node) (dio : DioHeader) :
    (n.joinedMembership dio).version = dio.version ∧ (n.joinedMembership dio).mop = dio.mop := by
  have place : (n.joinedMembership dio).toDodagPlace =
      (withParameters (n.newMembership dio) dio).toDodagPlace := rfl
  rw [place, (withParameters_place _ dio).1]
  exact ⟨rfl, rfl⟩

/-- The base DODAG claimed, as joining and creating a DODAG do it. -/
theorem standing_claim (n : Node) (key : DodagKey) (place : DodagPlace) (temporary : Bool)
    (same : place.isTemporary = temporary) :
    (if !n.hasBaseDodag && !temporary then { n with hasBaseDodag := true, baseDodagKey := key }
      else n).standing = n.standing.claimBase key place := by
  have noBase : n.standing.base.isNone = !n.hasBaseDodag := by
    rw [standing]
    cases n.hasBaseDodag with
    | true => rfl
    | false => rfl
  unfold Standing.claimBase
  rw [same, noBase]
  split
  · rfl
  · rfl

@[simp] theorem standing_joinDodag (n : Node) (dio : DioHeader) (interface : Nat) :
    (n.joinDodag dio interface).standing =
      n.standing.join dio.key (n.joinedMembership dio).toDodagPlace := by
  obtain ⟨version, mop⟩ := n.joinedMembership_version_mop dio
  have entered : ((((n.setDodag dio.key (n.joinedMembership dio)).mark
      (.joined dio.key n.now dio.version dio.mop (n.unexpiredRecords dio.key))).autoconfigure dio
        interface).standing) =
      (n.standing.put dio.key
        { place := (n.joinedMembership dio).toDodagPlace, expires := false, repairs := false }).mark
        (.joined dio.key n.standing.now (n.joinedMembership dio).version
          (n.joinedMembership dio).mop (n.standing.unexpired dio.key)) := by
    rw [standing_autoconfigure, standing_mark, standing_setDodag, joinedMembership_member, version,
      mop, standing_unexpired]
    rfl
  unfold joinDodag Standing.join
  dsimp only
  rw [← entered]
  generalize ((n.setDodag dio.key (n.joinedMembership dio)).mark
    (.joined dio.key n.now dio.version dio.mop (n.unexpiredRecords dio.key))).autoconfigure dio
      interface = joined
  have temporary :
      (n.joinedMembership dio).isTemporary = decide (dio.mop = mopP2pRouteDiscovery) := by
    rw [DodagPlace.isTemporary, mop]
  have claimed := standing_claim joined dio.key _ _ temporary
  split
  · exact claimed
  · exact claimed

/-! ## Creating -/

theorem standing_createDodagMembership {n created : Node} {key : DodagKey} {mop : UInt8}
    (creates : n.createDodagMembership key mop = some created) :
    n.dodags[key]? = none ∧
      created.standing = n.standing.create key (n.rootMembership key mop).member := by
  unfold createDodagMembership at creates
  split at creates
  · cases creates
  · next absent =>
    refine ⟨?_, ?_⟩
    · rw [ExtTreeMap.contains_eq_isSome_getElem?, Option.not_isSome_iff_eq_none] at absent
      exact absent
    · have claimed := standing_claim (n.setDodag key (n.rootMembership key mop)) key
        (n.rootMembership key mop).toDodagPlace (decide (mop = mopP2pRouteDiscovery)) rfl
      rw [standing_setDodag] at claimed
      simp only [decide_not] at creates
      split at creates
      · next claims =>
        rw [if_pos claims] at claimed
        cases creates
        exact claimed
      · next keeps =>
        rw [if_neg keeps] at claimed
        cases creates
        exact claimed

theorem standing_createLocalDodag {n created : Node} {instanceId mop : UInt8} {key : DodagKey}
    (creates : n.createLocalDodag instanceId mop = some (key, created)) :
    n.dodags[key]? = none ∧
      created.standing = n.standing.create key (n.rootMembership key mop).member := by
  unfold createLocalDodag at creates
  dsimp only at creates
  split at creates
  · cases creates
  · obtain ⟨other, makes, pair⟩ := Option.map_eq_some_iff.mp creates
    cases pair
    exact standing_createDodagMembership makes

/-! ## Discovery deadlines -/

theorem standing_armAodvExpiry (n : Node) (key : DodagKey) :
    (n.armAodvExpiry key).standing = n.standing ∨
      ((n.dodags[key]?).isSome ∧ (n.armAodvExpiry key).standing = n.standing.arm key) := by
  unfold armAodvExpiry
  split
  · exact .inl rfl
  · next dodag held =>
    dsimp only
    split
    · exact .inl rfl
    · refine .inr ⟨by rw [held]; rfl, standing_modifyDodag fun _ => ?_⟩
      simp only [DodagMembership.member, Timer.isRunning, Option.isSome_some, Bool.true_or]

theorem standing_armP2pExpiry (n : Node) (key : DodagKey) :
    (n.armP2pExpiry key).standing = n.standing ∨
      ((n.dodags[key]?).isSome ∧ (n.armP2pExpiry key).standing = n.standing.arm key) := by
  unfold armP2pExpiry
  split
  · exact .inl rfl
  · next dodag held =>
    split
    · exact .inl rfl
    · refine .inr ⟨by rw [held]; rfl, standing_modifyDodag fun _ => ?_⟩
      simp only [DodagMembership.member, Timer.isRunning, Option.isSome_some, Bool.or_true]

end Node

end Rpl
