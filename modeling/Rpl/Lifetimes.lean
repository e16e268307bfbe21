import Rpl.Turns
import Rpl.UpwardRoutes

/-!
# The lifetime of a temporary DODAG

The DIO a node joins a temporary DODAG by gives the discovery a lifetime.  Once the
deadline is armed nothing restarts it, whatever is received: later DIOs find it
running, and only the end of the membership takes it away.  What has to be shown of
a join is that it arms the deadline, and there is one way in which it does not: an
RREP-Instance DIO with hop-by-hop routes may be passed over as a copy of one the
node has a route from already.
-/

namespace Rpl

open Std

/-- The lifetime a DIO gives the discovery it is for; an AODV-RPL discovery may have none. -/
def DioHeader.discoveryLifetime (dio : DioHeader) : Option Time :=
  if dio.p2pRdo.isSome then some (seconds (p2pLifetimeSeconds dio.getP2pRdo.lifetime))
  else
    let lifetimeField := if dio.rrep.isSome then dio.getRrep.lifetime else dio.getRreq.lifetime
    if aodvLifetimeSeconds lifetimeField = 0 then none
    else some (seconds (aodvLifetimeSeconds lifetimeField))

namespace Node

variable {n m : Node} {e : Event} {key : DodagKey} {dodag : DodagMembership} {dio : DioHeader}
  {heard : Reception}

/-! ## Discovery state up to the handling of a DIO -/

/-- The discovery state of a membership. -/
def discoveryAt (n : Node) (key : DodagKey) : Option (AodvRreqState × P2pState) :=
  n.dodags[key]?.map fun dodag => (dodag.aodv, dodag.p2p)

theorem discoveryAt_modifyDodag {own : DodagKey} {f : DodagMembership → DodagMembership}
    (same : ∀ dodag, (f dodag).aodv = dodag.aodv ∧ (f dodag).p2p = dodag.p2p) :
    (n.modifyDodag own f).discoveryAt key = n.discoveryAt key := by
  rw [discoveryAt, discoveryAt, modifyDodag, OrderedMap.getElem?_modify_eq]
  split
  · next isOwn =>
    rw [isOwn, Option.map_map]
    exact Option.map_congr fun dodag _ => by rw [Function.comp, (same dodag).1, (same dodag).2]
  · rfl

theorem discoveryAt_quiet (key : DodagKey) : Quiet (·.discoveryAt key) where
  emit _ _ _ _ := rfl
  drawJitter _ := rfl
  dao n own dodag other held same := by
    have aodv : other.withoutDao.aodv = dodag.withoutDao.aodv := congrArg _ same
    have p2p : other.withoutDao.p2p = dodag.withoutDao.p2p := congrArg _ same
    change other.aodv = dodag.aodv at aodv
    change other.p2p = dodag.p2p at p2p
    dsimp only [discoveryAt, setDodag]
    rw [OrderedMap.getElem?_insert_eq]
    split
    · next isOwn => rw [isOwn, held, Option.map_some, Option.map_some, aodv, p2p]
    · rfl

theorem discoveryAt_leaveDodag (poison : Bool) :
    (n.leaveDodag key poison).discoveryAt key = none := by
  have gone : (n.leaveDodag key poison).standing.held[key]? = none := by
    rw [standing_leaveDodag, Standing.held_leave, if_pos rfl]
  rw [standing_held, Option.map_eq_none_iff] at gone
  rw [discoveryAt, gone, Option.map_none]

/-- The discovery state is what it was, or has gone with the membership. -/
def KeepsDiscovery (n : Node) (key : DodagKey) (after : Node) : Prop :=
  after.discoveryAt key = none ∨ after.discoveryAt key = n.discoveryAt key

theorem KeepsDiscovery.trans {first second : Node} (before : n.KeepsDiscovery key first)
    (after : first.KeepsDiscovery key second) : n.KeepsDiscovery key second := by
  rcases after with gone | same
  · exact .inl gone
  · rw [KeepsDiscovery, same]
    exact before

theorem discoveryAt_sweepParents : (n.sweepParents key).discoveryAt key = n.discoveryAt key := by
  unfold sweepParents
  split
  · rfl
  · dsimp only
    rw [modifyPlace, discoveryAt_modifyDodag]
    · split
      · rw [(discoveryAt_quiet key).sendNoPathDao, modifyPlace, discoveryAt_modifyDodag]
        exact fun _ => ⟨rfl, rfl⟩
      · rfl
    · exact fun _ => ⟨rfl, rfl⟩

theorem discoveryAt_scheduleSolicitation :
    n.scheduleSolicitation.discoveryAt key = n.discoveryAt key := by
  unfold scheduleSolicitation
  split
  · rfl
  · rfl

theorem discoveryAt_takeParent (best : Candidate) :
    (n.takeParent key dodag best).discoveryAt key = n.discoveryAt key := by
  have taken : ((n.modifyPlace key fun _ => dodag.adoptParent best).mark
      (.ranked key (dodag.adoptParent best).rank)).discoveryAt key = n.discoveryAt key :=
    discoveryAt_modifyDodag fun _ => ⟨rfl, rfl⟩
  unfold takeParent
  dsimp only
  split
  · rw [(discoveryAt_quiet key).switchParent, taken]
  · exact taken

theorem keepsDiscovery_selectPreferredParent :
    n.KeepsDiscovery key (n.selectPreferredParent key).2 := by
  unfold selectPreferredParent
  split
  · exact .inr rfl
  · split
    · exact .inr rfl
    · have swept : (n.sweepParents key).discoveryAt key = n.discoveryAt key :=
        discoveryAt_sweepParents
      dsimp only
      split
      · exact .inr swept
      split
      · exact .inr swept
      split
      · refine .inl ?_
        rw [loseLastParent, discoveryAt_scheduleSolicitation]
        exact discoveryAt_leaveDodag true
      · exact .inr ((discoveryAt_takeParent _).trans swept)

theorem keepsDiscovery_resetTrickle : n.KeepsDiscovery key (n.resetTrickle key) :=
  .inr (discoveryAt_modifyDodag fun _ => ⟨rfl, rfl⟩)

theorem keepsDiscovery_selectAfterDio (sender : Ipv6Address) :
    n.KeepsDiscovery dio.key (n.selectAfterDio dio sender) := by
  have selected {m : Node} : m.KeepsDiscovery dio.key (m.selectPreferredParent dio.key).2 :=
    keepsDiscovery_selectPreferredParent
  have hit {m : Node} : m.KeepsDiscovery dio.key (m.modifyDodag dio.key fun dodag =>
      { dodag with dioTrickle := dodag.dioTrickle.consistencyHit }) :=
    .inr (discoveryAt_modifyDodag fun _ => ⟨rfl, rfl⟩)
  unfold selectAfterDio
  split
  · unfold selectTemporary
    split
    · exact .inr rfl
    · dsimp only
      split
      · exact selected
      split
      · exact selected.trans keepsDiscovery_resetTrickle
      split
      · exact selected.trans hit
      · exact selected
  · unfold selectOrdinary
    split
    · exact .inr rfl
    · have reset {m : Node} : m.KeepsDiscovery dio.key (m.selectAndReset dio.key) := by
        unfold selectAndReset
        dsimp only
        split
        · exact selected.trans keepsDiscovery_resetTrickle
        · exact selected
      dsimp only
      split
      · exact reset
      · exact hit.trans reset

theorem discoveryAt_updateParent (heard : Reception) :
    (n.updateParent dio heard).discoveryAt dio.key = n.discoveryAt dio.key := by
  unfold updateParent
  split
  · rfl
  · next dodag held =>
    have same : n.discoveryAt dio.key = some (dodag.aodv, dodag.p2p) := by
      rw [discoveryAt, held, Option.map_some]
    have put (other : DodagMembership) : (n.setDodag dio.key other).discoveryAt dio.key =
        some (other.aodv, other.p2p) := by
      rw [discoveryAt, setDodag, ExtTreeMap.getElem?_insert_self, Option.map_some]
    dsimp only
    split
    · rw [(discoveryAt_quiet dio.key).scheduleDaoRefresh, put, same]
    · rw [put, same]

theorem dodags_joinDodag (n : Node) (dio : DioHeader) (interface : Nat) :
    (n.joinDodag dio interface).dodags = n.dodags.insert dio.key (n.joinedMembership dio) := by
  have configured (m : Node) : (m.autoconfigure dio interface).dodags = m.dodags := by
    unfold autoconfigure
    split
    · rfl
    · split
      · rfl
      · rfl
  have based (m : Node) (temporary : Bool) : (if !m.hasBaseDodag && !temporary then
      { m with hasBaseDodag := true, baseDodagKey := dio.key } else m).dodags = m.dodags := by
    split
    · rfl
    · rfl
  unfold joinDodag
  dsimp only
  split
  · rw [based, configured]
    rfl
  · rw [based, configured]
    rfl

/-- A node joins with a clean discovery state. -/
theorem discoveryAt_joinDodag (interface : Nat) :
    (n.joinDodag dio interface).discoveryAt dio.key = some ({}, {}) := by
  have fresh : (n.joinedMembership dio).aodv = {} ∧ (n.joinedMembership dio).p2p = {} := by
    unfold joinedMembership withParameters
    dsimp only
    split
    · exact ⟨rfl, rfl⟩
    · split
      · exact ⟨rfl, rfl⟩
      · exact ⟨rfl, rfl⟩
  rw [discoveryAt, dodags_joinDodag, ExtTreeMap.getElem?_insert_self, Option.map_some, fresh.1,
    fresh.2]

/-- The node after a join has entered the DODAG with a clean discovery state. -/
theorem discoveryAt_enterVersion (joins : n.joinsBy dio = true) {interface : Nat} {entered : Node}
    (enters : n.enterVersion dio interface = some entered) :
    entered.discoveryAt dio.key = some ({}, {}) := by
  obtain ⟨before, joined, -⟩ := enterVersion_of_joins joins interface
  cases joined.symm.trans enters
  exact discoveryAt_joinDodag interface

/-- The discovery part of the DIO a node joins by finds a clean discovery state. -/
theorem clean_of_joins (joins : n.joinsBy dio = true)
    (handles : n.beforeDiscovery dio heard = some m) (held : m.dodags[dio.key]? = some dodag) :
    dodag.aodv = {} ∧ dodag.p2p = {} := by
  obtain ⟨entered, enters, rfl⟩ := Option.map_eq_some_iff.mp handles
  have kept : (entered.updateParent dio heard).KeepsDiscovery dio.key _ :=
    keepsDiscovery_selectAfterDio heard.sender
  rw [KeepsDiscovery, discoveryAt_updateParent, discoveryAt_enterVersion joins enters, discoveryAt,
    held, Option.map_some] at kept
  rcases kept with gone | same
  · cases gone
  · obtain ⟨aodv, p2p⟩ := Prod.mk.injEq .. ▸ Option.some.inj same
    exact ⟨aodv, p2p⟩

end Node

/-! ## A deadline that runs -/

/-- A deadline of the membership runs, and passes by the time. -/
def Stakes.Due (s : Stakes) (key : DodagKey) (latest : Time) : Prop :=
  ∃ stake at_, s.held[key]? = some stake ∧
    (stake.aodv.expiry = some at_ ∨ stake.p2p.expiry = some at_) ∧ at_ ≤ latest

namespace Shift

variable {n : Node} {e : Event} {late : Bool} {s after : Stakes} {key : DodagKey} {latest : Time}

/-- A deadline that runs stays, unless the membership ends. -/
theorem due_or_ends (shift : Shift n e late s after) (due : s.Due key latest) :
    after.Due key latest ∨ after.held[key]? = none ∧ after.ended = key :: s.ended := by
  obtain ⟨stake, at_, held, runs, bound⟩ := due
  cases shift.turn key with
  | stays sameHeld => exact .inl ⟨stake, at_, sameHeld.trans held, runs, bound⟩
  | unbars _ _ _ _ heldBefore still =>
    rw [heldBefore, ← still] at held
    exact .inl ⟨stake, at_, held, runs, bound⟩
  | begins absent =>
    rw [absent] at held
    cases held
  | ends _ gone _ ended => exact .inr ⟨gone, ended⟩
  | @rewrites _ other heldBefore rewrites rewritten =>
    cases heldBefore.symm.trans held
    refine .inl ⟨other, at_, rewritten, ?_, bound⟩
    cases rewrites with
    | rest => exact runs
    | rreq => exact runs
    | rrep => exact runs
    | rdo => exact runs
    | stop => exact runs
    | armAodv takes discovery keyed unarmed =>
      rcases runs with aodv | p2p
      · rw [unarmed] at aodv
        cases aodv
      · exact .inr p2p
    | armP2p takes rdo keyed unarmed =>
      rcases runs with aodv | p2p
      · exact .inl aodv
      · rw [unarmed] at p2p
        cases p2p

/-- Time does not pass a deadline that runs. -/
theorem now_le_of_due (shift : Shift n e late s after) (due : s.Due key latest)
    (early : s.now ≤ latest) : after.now ≤ latest := by
  cases shift with
  | elapse event forward deadline =>
    obtain ⟨stake, at_, held, runs, bound⟩ := due
    exact Int.le_trans (deadline key stake at_ held runs) bound
  | _ => exact early

end Shift

namespace Node

variable {n m : Node} {e : Event} {key : DodagKey} {dodag : DodagMembership} {dio : DioHeader}
  {heard : Reception} {latest : Time}

/-- A membership has ended since the departures were counted, or the deadline runs and has not
passed. -/
def Runs (key : DodagKey) (latest : Time) (departed : Nat) (s : Stakes) : Prop :=
  departed ≤ s.ended.count key ∧
    (departed < s.ended.count key ∨ s.Due key latest ∧ s.now ≤ latest)

theorem runs_shift {departed : Nat} {s after : Stakes} (shift : Shift n e false s after)
    (runs : Runs key latest departed s) : Runs key latest departed after := by
  obtain ⟨counted, runs⟩ := runs
  have more : s.ended.count key ≤ after.ended.count key :=
    shift.ended_suffix.sublist.count_le key
  refine ⟨Nat.le_trans counted more, ?_⟩
  rcases runs with gone | ⟨due, early⟩
  · exact .inl (Nat.lt_of_lt_of_le gone more)
  · rcases shift.due_or_ends due with stillDue | ⟨-, ended⟩
    · exact .inr ⟨stillDue, shift.now_le_of_due due early⟩
    · rw [ended, List.count_cons_self]
      exact .inl (Nat.lt_succ_of_le counted)

/-- As long as no membership under the key ends, the clock is not past the deadline. -/
theorem now_le_of_steps (due : n.stakes.Due key latest) (early : n.now ≤ latest)
    (steps : nodeSystem.Steps
      (fun m e => (m.apply e).departures key = m.departures key) n m) : m.now ≤ latest := by
  have kept : m.departures key = n.departures key ∧
      Runs key latest (n.departures key) m.stakes := by
    refine steps.keeps (I := fun m => m.departures key = n.departures key ∧
      Runs key latest (n.departures key) m.stakes) ?_ ⟨rfl, Nat.le_refl _, .inr ⟨due, early⟩⟩
    rintro m e ⟨sameCount, runs⟩ enabled same
    exact ⟨same.trans sameCount,
      keeps_apply enabled (fun _ _ _ shift => runs_shift shift) runs⟩
  obtain ⟨sameCount, -, gone | ⟨-, earlyStill⟩⟩ := kept
  · exact absurd sameCount (Nat.ne_of_gt gone)
  · exact earlyStill

/-! ## The join arms the deadline -/

/-- The deadline of the membership runs, unless the membership has gone. -/
def DueOrGone (key : DodagKey) (latest : Time) (s : Stakes) : Prop :=
  s.held[key]? = none ∨ s.Due key latest

/-- Once the deadline runs, nothing that the handling of a DIO goes on to do restarts it. -/
theorem dueOrGone_shifts (takes : n.Takes e dio heard) {s after : Stakes}
    (shifts : Shifts n e true s after) (due : DueOrGone dio.key latest s) :
    DueOrGone dio.key latest after := by
  refine TransitionSystem.Keeps.star (I := DueOrGone dio.key latest) ?_ shifts due
  rintro s after shift (gone | due)
  · cases shift.turn dio.key with
    | stays sameHeld => exact .inl (sameHeld.trans gone)
    | unbars early => cases early
    | rewrites held =>
      rw [gone] at held
      cases held
    | ends _ goneAfter => exact .inl goneAfter
    | begins _ begins =>
      cases begins with
      | join early => cases early
      | root roots =>
        have stillHeld := (roots.answers takes).2.1
        rw [gone] at stillHeld
        cases stillHeld
  · rcases shift.due_or_ends due with stillDue | ⟨goneAfter, -⟩
    · exact .inr stillDue
    · exact .inl goneAfter

theorem due_armAodvExpiry {stake : Stake} (held : m.stakes.held[key]? = some stake)
    (limited : aodvLifetimeSeconds stake.aodv.lifetimeField ≠ 0)
    (unarmed : stake.aodv.expiry = none) :
    (m.armAodvExpiry key).stakes.Due key
      (m.now + seconds (aodvLifetimeSeconds stake.aodv.lifetimeField)) := by
  rw [stakes_held, Option.map_eq_some_iff] at held
  obtain ⟨dodag, held, rfl⟩ := held
  have idle : dodag.aodv.expiry.isRunning = false := congrArg Timer.isRunning unarmed
  have finite : aodvLifetimeSeconds dodag.aodv.lifetimeField ≠ 0 := limited
  unfold armAodvExpiry
  rw [held]
  dsimp only
  rw [idle, Bool.or_false, decide_eq_false finite, if_neg Bool.false_ne_true,
    stakes_modifyDodag held]
  exact ⟨_, _, by rw [Stakes.put_held, if_pos rfl], .inl rfl,
    Int.add_le_add_left (m.pairedDeadline_le _ _) _⟩

theorem due_armP2pExpiry {stake : Stake} (held : m.stakes.held[key]? = some stake)
    (unarmed : stake.p2p.expiry = none) :
    (m.armP2pExpiry key).stakes.Due key
      (m.now + seconds (p2pLifetimeSeconds stake.p2p.lifetimeField)) := by
  rw [stakes_held, Option.map_eq_some_iff] at held
  obtain ⟨dodag, held, rfl⟩ := held
  have idle : dodag.p2p.expiry.isRunning = false := congrArg Timer.isRunning unarmed
  unfold armP2pExpiry
  rw [held]
  dsimp only
  rw [idle, if_neg Bool.false_ne_true, stakes_modifyDodag held]
  exact ⟨_, _, by rw [Stakes.put_held, if_pos rfl], .inr rfl, le_rfl⟩

/-! ## Joining -/

/-- The node joins a temporary DODAG by the DIO. -/
structure JoinsTemporary (n : Node) (e : Event) (dio : DioHeader) (heard : Reception) : Prop where
  takes : n.Takes e dio heard
  joins : n.joinsBy dio = true
  temporary : dio.mop = mopP2pRouteDiscovery

/-- A DIO of a temporary DODAG carries a discovery. -/
theorem Takes.option (takes : n.Takes e dio heard) (temporary : dio.mop = mopP2pRouteDiscovery) :
    dio.rreq.isSome = true ∨ dio.rrep.isSome = true ∨ dio.p2pRdo.isSome = true := by
  have kept := takes.takes
  simp only [takesDio, Bool.and_eq_true, Bool.not_eq_true'] at kept
  have fits := kept.1.1.1.2
  simp only [dropsDio, Bool.or_eq_false_iff, Bool.not_eq_false', discoveryOptionsFit,
    if_pos temporary, decide_eq_true_eq] at fits
  by_contra none
  simp only [not_or, Bool.not_eq_true] at none
  have sum := fits.2
  rw [none.1, none.2.1, none.2.2] at sum
  cases sum

theorem Takes.notRoot (takes : n.Takes e dio heard) : n.NotRoot dio.key := by
  intro place found
  obtain ⟨dodag, held, rfl⟩ := Option.map_eq_some_iff.mp found
  have kept := takes.takes
  simp only [takesDio, dropsDio, held, Option.any_some, Bool.and_eq_true, Bool.not_eq_true',
    Bool.or_eq_false_iff] at kept
  exact kept.1.1.1.2.1.1.1.2

/-- The parent preferred when the discovery part of a DIO is handled is the one the selection
settles on. -/
theorem preferredParent_beforeDiscovery (takes : n.Takes e dio heard)
    (handles : n.beforeDiscovery dio heard = some m) (held : m.dodags[dio.key]? = some dodag) :
    (n.selectionPlace dio heard).any
      (fun place => place.chooseParent.address = dodag.preferredParent) = true := by
  obtain ⟨entered, enters, rfl⟩ := Option.map_eq_some_iff.mp handles
  have notRoot := notRoot_updateParent (notRoot_enterVersion takes.notRoot enters) dio heard
  have still : ((entered.updateParent dio heard).selectAfterDio dio heard.sender).standing.held[
      dio.key]? = some dodag.member := by
    rw [standing_held, held, Option.map_some]
  rw [selectionPlace, enters, Option.bind_some]
  dsimp only
  generalize entered.updateParent dio heard = updated at still notRoot ⊢
  rw [standing_selectAfterDio] at still
  cases before : updated.standing.held[dio.key]? with
  | none =>
    rw [Standing.select_of_absent before, before] at still
    cases still
  | some member =>
    have here : updated.placeAt dio.key = some member.place := by
      rw [placeAt_eq_standing, before, Option.map_some]
    have chosen := Standing.preferredParent_of_select before (notRoot _ here) still
    rw [here, Option.map_some, Option.any_some, decide_eq_true_eq]
    exact chosen.symm

theorem hasHopByHopRoute_of_routeTables (same : m.routeTables = n.routeTables)
    (instanceId : UInt8) (destination : Ipv6Address) :
    m.hasHopByHopRoute instanceId destination = n.hasHopByHopRoute instanceId destination := by
  have now : m.now = n.now := congrArg RouteTables.now same
  have table : m.hopByHopRoutes = n.hopByHopRoutes := congrArg RouteTables.hopByHop same
  rw [hasHopByHopRoute, hasHopByHopRoute, findHopByHopRoute, findHopByHopRoute, now, table]

/-- The DIO is no copy of an RREP-Instance the node has a hop-by-hop route from already, or it
comes from the neighbour the selection makes the parent. -/
def heedsRrep (n : Node) (dio : DioHeader) (heard : Reception) : Bool :=
  !(dio.rrep.isSome && dio.getRrep.hopByHop &&
      n.hasHopByHopRoute (dio.instanceId - dio.getRrep.delta) dio.dodagId) ||
    (n.selectionPlace dio heard).any fun place => place.chooseParent.address = heard.sender

theorem beforeDiscovery_of_joins (joins : n.joinsBy dio = true) (heard : Reception) :
    ∃ m, n.beforeDiscovery dio heard = some m := by
  obtain ⟨before, enters, -⟩ := enterVersion_of_joins joins heard.interface
  exact ⟨_, Option.map_eq_some_iff.mpr ⟨_, enters, rfl⟩⟩

/-- The RREQ-DIO a node joins by is not passed over. -/
theorem not_ignoresRreq (takes : n.Takes e dio heard) (rreq : dio.rreq.isSome = true)
    (clean : dodag.aodv = {}) : m.ignoresRreq dodag dio heard = false := by
  have kept := takes.takes
  simp only [takesDio, refusesDiscovery, shouldRefuseAodvRreq, rreq, Bool.true_and,
    Bool.and_eq_true, Bool.not_eq_true', Bool.or_eq_false_iff] at kept
  have asks : dio.arts.isEmpty = false := kept.1.2.1.1.1.1.1
  have unprocessed : rreqProcessed dodag.aodv dio.getRreq = false := by
    rw [clean, rreqProcessed]
    split
    · rfl
    · rfl
  rw [ignoresRreq, unprocessed, asks, clean]
  simp only [Bool.and_false, Bool.false_and, Bool.or_self]

/-- The RREP-Instance DIO a node joins by is not passed over, unless the node has the route
already and the sender is not made the parent. -/
theorem not_ignoresRrepInstance (takes : n.Takes e dio heard) (rrep : dio.rrep.isSome = true)
    (heeds : n.heedsRrep dio heard = true) (handles : n.beforeDiscovery dio heard = some m)
    (held : m.dodags[dio.key]? = some dodag) (clean : dodag.aodv = {}) :
    (m.unbarred dio.key).ignoresRrepInstance dodag dio heard.sender = false := by
  have sameTables : (m.unbarred dio.key).routeTables = n.routeTables := by
    obtain ⟨entered, enters, rfl⟩ := Option.map_eq_some_iff.mp handles
    calc _ = (entered.updateParent dio heard).routeTables := routeTables_selectAfterDio ..
      _ = entered.routeTables := routeTables_updateParent ..
      _ = n.routeTables := routeTables_enterVersion enters
  have sameRoute := hasHopByHopRoute_of_routeTables sameTables
    (dio.instanceId - dio.getRrep.delta) dio.dodagId
  rw [heedsRrep, rrep, Bool.true_and, ← sameRoute, Bool.or_eq_true] at heeds
  rw [ignoresRrepInstance, clean]
  rcases heeds with fresh | fromParent
  · rw [Bool.not_eq_true', Bool.and_eq_false_iff] at fresh
    rcases fresh with sourceRouted | unrouted
    · simp only [sourceRouted, Bool.false_and, Bool.false_eq_true, if_false, List.isEmpty_nil,
        Bool.not_true, Bool.or_self]
    · simp only [unrouted, List.isEmpty_nil, Bool.not_true, ite_self, Bool.false_and, Bool.or_self]
  · have chosen := preferredParent_beforeDiscovery takes handles held
    obtain ⟨place, selected, ofSender⟩ := (Option.any_eq_true _ _).mp fromParent
    rw [selected, Option.any_some, decide_eq_true_eq, of_decide_eq_true ofSender] at chosen
    simp only [chosen, Bool.false_or, ne_eq, not_true_eq_false, decide_false,
      Bool.and_false]

/-- The join by the DIO of a discovery with a lifetime arms the deadline. -/
theorem due_of_joins (joins : n.JoinsTemporary e dio heard) {lifetime : Time}
    (lasts : dio.discoveryLifetime = some lifetime) (heeds : n.heedsRrep dio heard = true) :
    DueOrGone dio.key (n.now + lifetime) (n.apply e).stakes := by
  obtain ⟨takes, joined, temporary⟩ := joins
  obtain ⟨m, handles⟩ := beforeDiscovery_of_joins joined heard
  have now : m.now = n.now := (shifts_beforeDiscovery takes handles).now_eq takes.timeless
  have whole := takes.apply_eq_handleDiscovery handles
  cases holds : m.holds dio.key with
  | false =>
    refine .inl ?_
    have skipped : m.handleDiscovery dio heard = m := by
      simp only [handleDiscovery, holds, Bool.and_false, Bool.false_eq_true, if_false]
    rw [whole, skipped, stakes_held, Option.map_eq_none_iff]
    rw [Node.holds, ExtTreeMap.contains_eq_isSome_getElem?, Option.isSome_eq_false_iff,
      Option.isNone_iff_eq_none] at holds
    exact holds
  | true =>
    obtain ⟨dodag, held⟩ := held_of_holds holds
    obtain ⟨cleanAodv, cleanP2p⟩ := clean_of_joins joined handles held
    have unarmedAodv : dodag.stake.aodv.expiry = none := congrArg AodvRreqState.expiry cleanAodv
    have unarmedP2p : dodag.stake.p2p.expiry = none := congrArg P2pState.expiry cleanP2p
    rcases takes.option temporary with rreq | rrep | rdo
    · obtain ⟨noRrep, noRdo⟩ := takes.discovery.1 rreq
      simp only [DioHeader.discoveryLifetime, noRrep, noRdo, Bool.false_eq_true, if_false,
        Option.ite_none_left_eq_some, Option.some.injEq] at lasts
      obtain ⟨limited, rfl⟩ := lasts
      rw [handleDiscovery_of_rreq takes rreq holds] at whole
      rcases handleAodvRreq_cases true takes handles rreq held with
        ⟨ignored, -⟩ | ⟨recorded, records, leads⟩
      · rw [not_ignoresRreq takes rreq cleanAodv] at ignored
        cases ignored
      · have recordedHeld : recorded.stakes.held[dio.key]? = some (dodag.stake.withRreq dio) := by
          rw [records, Stakes.put_held, if_pos rfl]
        have armed := due_armAodvExpiry recordedHeld limited unarmedAodv
        have sameNow : recorded.now = n.now := (congrArg Stakes.now records).trans now
        rw [sameNow] at armed
        rw [whole]
        exact dueOrGone_shifts takes (leads.shifts takes whole) (.inr armed)
    · obtain ⟨noRreq, noRdo⟩ := takes.discovery.2.1 rrep
      simp only [DioHeader.discoveryLifetime, rrep, noRdo, Bool.false_eq_true, if_false, if_true,
        Option.ite_none_left_eq_some, Option.some.injEq] at lasts
      obtain ⟨limited, rfl⟩ := lasts
      rw [handleDiscovery_of_rrep takes rrep holds] at whole
      rcases handleAodvRrepInstance_cases true takes rrep held with
        ⟨ignored, -⟩ | ⟨recorded, records, shifts⟩
      · exact absurd ignored
          (Bool.eq_false_iff.mp (not_ignoresRrepInstance takes rrep heeds handles held cleanAodv))
      · have recordedHeld : recorded.stakes.held[dio.key]? =
            some (dodag.stake.withRrep m.ipv6 dio) := by
          rw [records, Stakes.put_held, if_pos rfl]
        have armed := due_armAodvExpiry recordedHeld limited unarmedAodv
        have sameNow : recorded.now = n.now := (congrArg Stakes.now records).trans now
        rw [sameNow] at armed
        rw [whole]
        exact dueOrGone_shifts takes shifts (.inr armed)
    · simp only [DioHeader.discoveryLifetime, rdo, if_true, Option.some.injEq] at lasts
      subst lasts
      rw [handleDiscovery_of_rdo takes rdo holds] at whole
      rcases handleP2pRdo_cases true takes rdo held with
        ⟨passedOver, -⟩ | ⟨-, recorded, records, shifts⟩
      · rw [cleanP2p] at passedOver
        rcases passedOver with origin | vector
        · cases origin
        · exact absurd rfl vector
      · have recordedHeld : recorded.stakes.held[dio.key]? =
            some (dodag.stake.withP2pRdo dio) := by
          rw [records, Stakes.put_held, if_pos rfl]
        have armed := due_armP2pExpiry recordedHeld unarmedP2p
        have sameNow : recorded.now = n.now := (congrArg Stakes.now records).trans now
        rw [sameNow] at armed
        rw [whole]
        exact dueOrGone_shifts takes shifts (.inr armed)

theorem discoveryLifetime_nonneg {lifetime : Time}
    (lasts : dio.discoveryLifetime = some lifetime) : 0 ≤ lifetime := by
  have nonneg (count : Nat) : 0 ≤ seconds count :=
    Int.mul_nonneg (Int.natCast_nonneg count) (by decide)
  unfold DioHeader.discoveryLifetime at lasts
  split at lasts
  · cases lasts
    exact nonneg _
  · extract_lets lifetimeField at lasts
    rw [Option.ite_none_left_eq_some] at lasts
    cases lasts.2
    exact nonneg _

/-- The membership the event leaves the node with ends before the lifetime is over. -/
def EndsWithin (n : Node) (e : Event) (key : DodagKey) (lifetime : Time) : Prop :=
  (n.apply e).dodags[key]? ≠ none → ∀ m, nodeSystem.Steps
    (fun m f => (m.apply f).departures key = m.departures key) (n.apply e) m →
      m.now ≤ n.now + lifetime

/-- A temporary DODAG joined by a DIO that gives it a lifetime is left before the lifetime is
over, whatever happens meanwhile, unless that DIO is one of an RREP-Instance passed over. -/
theorem endsWithin_of_heeds (enabled : n.Enabled e) (joins : n.JoinsTemporary e dio heard)
    {lifetime : Time}
    (lasts : dio.discoveryLifetime = some lifetime) (heeds : n.heedsRrep dio heard = true) :
    n.EndsWithin e dio.key lifetime := by
  intro held m steps
  rcases due_of_joins joins lasts heeds with gone | due
  · rw [stakes_held, Option.map_eq_none_iff] at gone
    exact absurd gone held
  · have now : (n.apply e).now = n.now :=
      (shifts_apply n e enabled).now_eq joins.takes.timeless
    refine now_le_of_steps due ?_ steps
    rw [now]
    exact Int.le_add_of_nonneg_right (discoveryLifetime_nonneg lasts)

/-! ## A router that hears of a TargNode twice -/

/-- An RREP-Instance of 2001:db8::9 that answers the RREQ-Instance 0x80 of 2001:db8::1, with
hop-by-hop routes. -/
def answersHopByHop (instanceId delta lifetime : UInt8) (rank : UInt16) : DioHeader :=
  { instanceId := instanceId
    rank := rank
    mop := mopP2pRouteDiscovery
    dodagId := 0x20010db8000000000000000000000009#128
    dagConf := some { intervalMin := 16 }
    rrep := some { hopByHop := true, lifetime := lifetime, delta := delta }
    arts := [{ target := 0x20010db8000000000000000000000001#128 }] }

/-- For 64 s. -/
def firstAnswer : DioHeader := answersHopByHop 0x81 1 2 256

/-- For 16 s, from as far as a rank goes. -/
def secondAnswer : DioHeader := answersHopByHop 0x82 2 1 0xFF80

/-- A router that has heard the first. -/
def routed : Node := (started leafIpv6).apply (hears firstAnswer)

/-- The second as well. -/
def routedTwice : Node := routed.apply (hears secondAnswer)

/-- What the router hears and does, up to 17 s after the second answer. -/
theorem routed_run :
    (1 ∈ routed.sockets ∧ routedTwice.now ≤ seconds 17 ∧
      routedTwice.nothingBefore (seconds 17) = true) ∧
      routedTwice.dodags[secondAnswer.key]?.isSome = true ∧
      ¬(routedTwice.apply (.tick (seconds 17))).now ≤ routed.now + seconds 16 := by
  decide +kernel

theorem routed_reachable : nodeSystem.Reachable routed :=
  run_hears (started_run leafIpv6) (started_listens _) trivial

theorem started_joins : (started leafIpv6).JoinsTemporary (hears firstAnswer) firstAnswer
    { sender := 0xfe800000000000000000000000000001#128, interface := 1 } :=
  ⟨⟨rfl, by decide +kernel⟩, by decide +kernel, rfl⟩

theorem routed_joins : routed.JoinsTemporary (hears secondAnswer) secondAnswer
    { sender := 0xfe800000000000000000000000000001#128, interface := 1 } :=
  ⟨⟨rfl, by decide +kernel⟩, by decide +kernel, rfl⟩

/-- The first is left in time. -/
theorem started_endsWithin :
    (started leafIpv6).EndsWithin (hears firstAnswer) firstAnswer.key (seconds 64) := by
  have enabled : (started leafIpv6).Enabled (hears firstAnswer) := started_listens leafIpv6
  exact endsWithin_of_heeds enabled started_joins rfl (by decide +kernel)

/-- The second is still held after 17 s. -/
theorem routed_not_endsWithin :
    nodeSystem.Reachable routed ∧ routed.Enabled (hears secondAnswer) ∧
      routed.JoinsTemporary (hears secondAnswer) secondAnswer
        { sender := 0xfe800000000000000000000000000001#128, interface := 1 } ∧
      secondAnswer.discoveryLifetime = some (seconds 16) ∧
      ¬routed.EndsWithin (hears secondAnswer) secondAnswer.key (seconds 16) := by
  obtain ⟨⟨listens, forward, nothing⟩, held, late⟩ := routed_run
  refine ⟨routed_reachable, listens, routed_joins, rfl, fun ends => ?_⟩
  have waits : routedTwice.Enabled (.tick (seconds 17)) := enabled_tick forward nothing
  exact absurd (ends (Option.isSome_iff_ne_none.mp held)
    (routedTwice.apply (.tick (seconds 17))) (.single ⟨.tick (seconds 17), waits, rfl, rfl⟩)) late

end Node

end Rpl
