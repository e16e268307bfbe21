import Rpl.DaoFrame
import Rpl.Turns

/-!
# A scheduled DAO refresh is not put off

A DTSN increment of the preferred parent and a parent switch both mark the membership as
due for a DAO and set its DAO timer within the second.  While the mark stands the timer is
left as it is, whatever comes in, until it fires or the node leaves the DODAG.
-/

namespace Rpl

open Std

/-! ## The refresh a membership waits for -/

/-- The DAO timer of a membership marked for a refresh, that is not a root's. -/
def DodagMembership.refresh (dodag : DodagMembership) : Option Timer :=
  if dodag.daoRefreshPending && !dodag.isRoot then some dodag.daoEvent else none

namespace Node

def refreshOf (n : Node) (key : DodagKey) : Option Timer :=
  (n.dodags[key]?).bind DodagMembership.refresh

/-- What a refresh depends on. -/
structure Waiting where
  now : Time
  departures : Nat
  refresh : Option Timer

def waiting (key : DodagKey) (n : Node) : Waiting :=
  ⟨n.now, n.departures key, n.refreshOf key⟩

variable {n m after : Node} {key other : DodagKey} {dodag changed : DodagMembership}

/-! ## What leaves the refresh alone -/

theorem refreshOf_setDodag (held : n.dodags[other]? = some dodag)
    (same : changed.refresh = dodag.refresh) :
    (n.setDodag other changed).refreshOf key = n.refreshOf key := by
  unfold refreshOf setDodag
  rw [OrderedMap.getElem?_insert_eq]
  split
  · next keyed =>
    subst keyed
    rw [held]
    exact same
  · rfl

theorem waiting_setDodag (held : n.dodags[other]? = some dodag)
    (same : changed.refresh = dodag.refresh) :
    (n.setDodag other changed).waiting key = n.waiting key := by
  unfold waiting
  rw [refreshOf_setDodag held same]
  rfl

theorem waiting_modifyDodag {f : DodagMembership → DodagMembership}
    (same : ∀ dodag, (f dodag).refresh = dodag.refresh) :
    (n.modifyDodag other f).waiting key = n.waiting key := by
  cases held : n.dodags[other]? with
  | none => rw [modifyDodag_of_absent held]
  | some dodag =>
    rw [setDodag_of_held held]
    exact waiting_setDodag held (same dodag)

theorem waiting_modifyPlace {f : DodagPlace → DodagPlace}
    (same : ∀ place, (f place).isRoot = place.isRoot) :
    (n.modifyPlace other f).waiting key = n.waiting key :=
  waiting_modifyDodag fun dodag => by
    unfold DodagMembership.refresh
    rw [same]

theorem waiting_aside (key : DodagKey) : Aside (waiting key) where
  replies _ _ _ := rfl
  findings _ _ := rfl
  alike n other dodag changed held alike := by
    refine waiting_setDodag held ?_
    rw [alike]
    rfl

theorem waiting_emits (emits : ∃ sent, after = n.emit sent) :
    after.waiting key = n.waiting key := by
  obtain ⟨sent, rfl⟩ := emits
  rfl

/-- Joining and taking a rank are no departures. -/
theorem waiting_mark {milestone : Milestone} (stays : milestone.ended? = none) :
    (n.mark milestone).waiting key = n.waiting key := by
  have counted : (n.mark milestone).departures key = n.departures key := by
    unfold departures
    rw [stakes_mark n stays]
  unfold waiting
  rw [counted]
  rfl

theorem waiting_sendNoPathDao (viaParent : Ipv6Address) :
    (n.sendNoPathDao other viaParent).waiting key = n.waiting key := by
  unfold sendNoPathDao
  split
  · rfl
  · next dodag held =>
    split
    · rfl
    · dsimp only
      rw [waiting_emits (sendDaoTo_emits ..)]
      exact waiting_setDodag held rfl

theorem waiting_withdrawThrough (parent : Ipv6Address) :
    (n.withdrawThrough other parent).waiting key = n.waiting key := by
  unfold withdrawThrough
  split
  · rfl
  · split
    · exact waiting_sendNoPathDao parent
    · rfl

theorem waiting_sweepParents : (n.sweepParents other).waiting key = n.waiting key := by
  unfold sweepParents
  split
  · rfl
  · dsimp only
    refine (waiting_modifyPlace ?_).trans ?_
    · exact fun _ => rfl
    · split
      · refine (waiting_sendNoPathDao _).trans (waiting_modifyPlace ?_)
        exact fun _ => rfl
      · rfl

theorem waiting_poisonDodag : (n.poisonDodag other).waiting key = n.waiting key := by
  unfold poisonDodag
  rw [(waiting_aside key).sendDio, waiting_modifyPlace]
  exact fun _ => rfl

theorem waiting_scheduleSolicitation : n.scheduleSolicitation.waiting key = n.waiting key := by
  unfold scheduleSolicitation
  split
  · rfl
  · rfl

/-! ## One step -/

/-- The refresh waited for stays as it is unless the node leaves the DODAG, and one that was
not waited for before is not due yet. -/
structure Minds (key : DodagKey) (n m : Node) : Prop where
  now : m.now = n.now
  departures : n.departures key ≤ m.departures key
  keeps : ∀ event, n.refreshOf key = some event →
    m.refreshOf key = some event ∨ n.departures key < m.departures key
  sets : ∀ event, m.refreshOf key = some event →
    n.refreshOf key = some event ∨ ∃ due, event = some due ∧ n.now ≤ due

theorem Minds.same (same : m.waiting key = n.waiting key) : Minds key n m := by
  obtain ⟨now, departures, refresh⟩ := Waiting.mk.inj same
  refine ⟨now, departures.ge, fun event waits => .inl ?_, fun event waits => .inl ?_⟩
  · exact refresh.trans waits
  · exact refresh.symm.trans waits

theorem Minds.trans (first : Minds key n m) (second : Minds key m after) :
    Minds key n after := by
  refine ⟨second.now.trans first.now, first.departures.trans second.departures, ?_, ?_⟩
  · intro event waits
    rcases first.keeps event waits with still | gone
    · rcases second.keeps event still with still | gone
      · exact .inl still
      · exact .inr (first.departures.trans_lt gone)
    · exact .inr (gone.trans_le second.departures)
  · intro event waits
    rcases second.sets event waits with before | ⟨due, rfl, later⟩
    · exact first.sets event before
    · exact .inr ⟨due, rfl, first.now ▸ later⟩

theorem minds_scheduleDaoRefresh : Minds key n (n.scheduleDaoRefresh other) := by
  unfold scheduleDaoRefresh
  split
  · exact .same rfl
  · next dodag held =>
    split
    · exact .same rfl
    · next idle =>
      -- the mark was not set, so no refresh is overwritten
      have none_before : dodag.refresh = none := by
        rw [DodagMembership.refresh, Bool.eq_false_of_not_eq_true idle]
        rfl
      have later : n.now ≤ n.now + n.drawJitter.1 :=
        le_add_of_nonneg_right (RandomStream.getValue_range (by decide)).1
      dsimp only
      rw [setDodag_of_held (n := n.drawJitter.2) held]
      refine ⟨rfl, le_rfl, fun event waits => .inl ?_, fun event waits => ?_⟩
      · unfold refreshOf setDodag at *
        rw [OrderedMap.getElem?_insert_eq]
        split
        · next keyed =>
          subst keyed
          rw [held, Option.bind_some, none_before] at waits
          cases waits
        · exact waits
      · unfold refreshOf setDodag at *
        rw [OrderedMap.getElem?_insert_eq] at waits
        split at waits
        · refine .inr ?_
          rw [Option.bind_some, DodagMembership.refresh] at waits
          split at waits
          · exact ⟨_, (Option.some.inj waits).symm, later⟩
          · cases waits
        · exact .inl waits

theorem minds_eraseDodag : Minds key n (n.eraseDodag other dodag) := by
  have erased : (n.eraseDodag other dodag).refreshOf key =
      if key = other then none else n.refreshOf key := by
    unfold refreshOf
    rw [dodags_eraseDodag, OrderedMap.getElem?_erase_eq]
    split
    · rfl
    · rfl
  have ended : (n.eraseDodag other dodag).stakes.ended = other :: n.stakes.ended := by
    unfold eraseDodag
    dsimp only [mark]
    split <;> split <;> rfl
  have now : (n.eraseDodag other dodag).now = n.now := by
    unfold eraseDodag
    dsimp only [mark]
    split <;> split <;> rfl
  refine ⟨now, ?_, fun event waits => ?_, fun event waits => .inl ?_⟩
  · unfold departures
    rw [ended]
    exact List.count_le_count_cons
  · by_cases keyed : key = other
    · subst keyed
      refine .inr ?_
      unfold departures
      rw [ended, List.count_cons_self]
      exact Nat.lt_succ_self _
    · exact .inl (by rw [erased, if_neg keyed, waits])
  · rw [erased] at waits
    split at waits
    · cases waits
    · exact waits

theorem minds_leaveDodag (poison : Bool) : Minds key n (n.leaveDodag other poison) := by
  cases held : n.dodags[other]? with
  | none =>
    rw [leaveDodag, held]
    exact .same rfl
  | some dodag =>
    obtain ⟨_, _, left⟩ := leaveDodag_eq held poison
    have erased : Minds key n
        ((if poison then n.poisonDodag other else n).eraseDodag other dodag) := by
      split
      · exact (Minds.same waiting_poisonDodag).trans minds_eraseDodag
      · exact minds_eraseDodag
    rw [left]
    refine erased.trans (.same ?_)
    rfl

/-- A membership that is made does not wait for a refresh. -/
theorem minds_made (absent : n.dodags[other]? = none) (idle : dodag.refresh = none) :
    Minds key n (n.setDodag other dodag) := by
  refine .same ?_
  have same : (n.setDodag other dodag).refreshOf key = n.refreshOf key := by
    unfold refreshOf setDodag
    rw [OrderedMap.getElem?_insert_eq]
    split
    · next keyed =>
      subst keyed
      rw [absent]
      exact idle
    · rfl
  unfold waiting
  rw [same]
  rfl

theorem refresh_joinedMembership (dio : DioHeader) : (n.joinedMembership dio).refresh = none := by
  unfold joinedMembership withParameters
  dsimp only
  split
  · rfl
  · split
    · rfl
    · rfl

theorem minds_joinDodag {dio : DioHeader} (interface : Nat) (absent : n.dodags[dio.key]? = none) :
    Minds key n (n.joinDodag dio interface) := by
  refine (minds_made absent (n.refresh_joinedMembership dio)).trans (.same ?_)
  unfold joinDodag
  extract_lets _ temporary joined marked autoconfigured based
  have markedSame : marked.waiting key =
      (n.setDodag dio.key (n.joinedMembership dio)).waiting key :=
    waiting_mark rfl
  have autoconfiguredSame : autoconfigured.waiting key = marked.waiting key := by
    unfold autoconfigured autoconfigure
    split
    · rfl
    · split
      · rfl
      · rfl
  have basedSame : based.waiting key = autoconfigured.waiting key := by
    unfold based
    split
    · rfl
    · rfl
  refine Eq.trans ?_ (basedSame.trans (autoconfiguredSame.trans markedSame))
  split
  · rfl
  · rfl

theorem minds_createDodagMembership {mop : UInt8} {created : Node}
    (creates : n.createDodagMembership other mop = some created) : Minds key n created := by
  unfold createDodagMembership at creates
  split at creates
  · cases creates
  · next absent =>
    have made : Minds key n (n.setDodag other (n.rootMembership other mop)) :=
      minds_made (by simpa using absent) rfl
    dsimp only at creates
    split at creates
    · cases creates
      exact made.trans (.same rfl)
    · cases creates
      exact made

theorem minds_switchParent (old : Ipv6Address) : Minds key n (n.switchParent other old) := by
  unfold switchParent
  refine .trans (.same ?_) minds_scheduleDaoRefresh
  rw [waiting_modifyDodag, waiting_withdrawThrough]
  exact fun _ => rfl

theorem minds_takeParent {best : Candidate} (held : n.dodags[other]? = some dodag) :
    Minds key n (n.takeParent other dodag best) := by
  have taken : ((n.modifyPlace other fun _ => dodag.adoptParent best).mark
      (.ranked other (dodag.adoptParent best).rank)).waiting key = n.waiting key := by
    rw [waiting_mark rfl, modifyPlace, setDodag_of_held held]
    exact waiting_setDodag held rfl
  unfold takeParent
  dsimp only
  split
  · exact (Minds.same taken).trans (minds_switchParent _)
  · exact .same taken

theorem minds_selectPreferredParent : Minds key n (n.selectPreferredParent other).2 := by
  unfold selectPreferredParent
  split
  · exact .same rfl
  split
  · exact .same rfl
  · have swept : Minds key n (n.sweepParents other) := .same waiting_sweepParents
    dsimp only
    split
    · exact swept
    · next dodag held =>
      split
      · exact swept
      split
      · have withdrawn : Minds key n
            ((n.sweepParents other).withdrawThrough other dodag.preferredParent) :=
          swept.trans (.same (waiting_withdrawThrough _))
        exact (withdrawn.trans (minds_leaveDodag true)).trans (.same waiting_scheduleSolicitation)
      · exact swept.trans (minds_takeParent held)

theorem minds_selectAndReset : Minds key n (n.selectAndReset other) := by
  unfold selectAndReset
  dsimp only
  split
  · exact minds_selectPreferredParent.trans (.same ((waiting_aside key).resetTrickle other))
  · exact minds_selectPreferredParent

theorem minds_adoptVersion (dio : DioHeader) : Minds key n (n.adoptVersion dio dodag) := by
  unfold adoptVersion
  split
  · refine .same ?_
    rw [waiting_mark rfl, waiting_modifyPlace]
    exact fun _ => rfl
  · exact .same rfl

theorem minds_updateParent (dio : DioHeader) (heard : Reception) :
    Minds key n (n.updateParent dio heard) := by
  unfold updateParent
  split
  · exact .same rfl
  · next dodag held =>
    dsimp only
    split
    · refine Minds.trans (.same ?_) minds_scheduleDaoRefresh
      exact waiting_setDodag held rfl
    · exact .same (waiting_setDodag held rfl)

theorem minds_handlePoison (sender : Ipv6Address) : Minds key n (n.handlePoison other sender) := by
  unfold handlePoison
  split
  · exact .same rfl
  · dsimp only
    refine .trans (.same ?_) minds_selectAndReset
    rw [waiting_modifyPlace]
    · split
      · exact waiting_sendNoPathDao sender
      · rfl
    · exact fun _ => rfl

theorem minds_stopInterfaceIn (interface : Nat) :
    Minds key n (stopInterfaceIn interface n other) := by
  unfold stopInterfaceIn
  refine .trans (.same ?_) minds_selectAndReset
  exact waiting_modifyPlace fun _ => rfl

theorem minds_handleDao (dao : DaoHeader) (sender : Ipv6Address) (interface : Nat) :
    Minds key n (n.handleDao dao sender interface) := by
  unfold handleDao
  split
  · exact .same rfl
  · next other dodag found =>
    split
    · exact .same rfl
    · dsimp only
      generalize handled : dodag.handleTargets _ dao.entries = progress
      have stored : (n.setDodag other progress.dodag).waiting key = n.waiting key := by
        refine waiting_setDodag (daoMembership_held found).1 ?_
        rw [← handled, dodag.handleTargets_onlyTables]
        rfl
      refine .same ?_
      rw [waiting_emits (acknowledgeDao_emits ..), waiting_emits (relayDao_emits ..)]
      exact stored

theorem minds_handleDaoAck (ack : DaoAckHeader) : Minds key n (n.handleDaoAck ack) := by
  unfold handleDaoAck
  dsimp only
  split
  · exact .same rfl
  · split
    · exact .same (waiting_modifyDodag fun _ => rfl)
    · exact .same rfl

/-- The refresh is minded through every part of a step but the DAO timers. -/
theorem minds_frame (key : DodagKey) : DaoFrame key (waiting key) fun _ => Minds key where
  aside := waiting_aside key
  same := .same
  trans := .trans
  mono minds _ := minds
  leave _ _ := minds_leaveDodag false
  join _ _ interface absent := minds_joinDodag interface absent
  adopt _ dio _ _ := minds_adoptVersion dio
  update _ dio heard := minds_updateParent dio heard
  select _ _ := minds_selectPreferredParent
  poison _ _ sender := minds_handlePoison sender
  stop _ interface _ := minds_stopInterfaceIn interface
  daoAck _ ack := minds_handleDaoAck ack
  solicits _ _ solicits := .same ((waiting_aside key).solicits (fun _ _ => rfl) solicits)

theorem minds_of_ends (ends : Ends (waiting key) (Minds key) n m) : Minds key n m := by
  cases ends with
  | plain goes => exact goes
  | forms goes creates same =>
    exact (goes.trans (minds_createDodagMembership creates)).trans (.same same)

/-! ## The DAO timers -/

theorem waiting_modifyDodag_ne {f : DodagMembership → DodagMembership} (distinct : key ≠ other) :
    (n.modifyDodag other f).waiting key = n.waiting key := by
  have same : (n.modifyDodag other f).refreshOf key = n.refreshOf key := by
    unfold refreshOf modifyDodag
    rw [OrderedMap.getElem?_modify_eq, if_neg distinct]
  unfold waiting
  rw [same]
  rfl

theorem waiting_sendDao : (n.sendDao other).waiting key = n.waiting key := by
  unfold sendDao
  split
  · rfl
  · next dodag held =>
    split
    · rfl
    · dsimp only
      refine (waiting_modifyDodag ?_).trans ?_
      · exact fun _ => rfl
      · unfold sendDaoMessage
        rw [waiting_emits (sendDaoTo_emits ..)]
        refine waiting_setDodag held ?_
        split
        · rfl
        · rfl

/-- A retry sends the DAO again and leaves the refresh where it is. -/
theorem waiting_daoRetry : (n.daoRetry other).waiting key = n.waiting key := by
  unfold daoRetry
  split
  · rfl
  · next dodag held =>
    split
    · rfl
    split
    · exact waiting_modifyDodag fun _ => rfl
    · dsimp only
      refine (waiting_modifyDodag ?_).trans ?_
      · exact fun _ => rfl
      · unfold sendDaoMessage
        rw [waiting_emits (sendDaoTo_emits ..)]
        exact waiting_setDodag held rfl

theorem waiting_daoEventFire (distinct : key ≠ other) :
    (n.daoEventFire other).waiting key = n.waiting key := by
  unfold daoEventFire
  split
  · rfl
  · split
    · exact waiting_modifyDodag_ne distinct
    · exact (waiting_modifyDodag_ne distinct).trans waiting_sendDao

/-- Once the DAO timer has fired, no refresh is waited for. -/
theorem refreshOf_fire_dao : (n.fire (.dao key)).refreshOf key = none := by
  change ((n.modifyDodag key _).daoEventFire key).refreshOf key = none
  generalize n.modifyDodag key _ = m
  unfold daoEventFire
  cases held : m.dodags[key]? with
  | none =>
    unfold refreshOf
    rw [held]
    rfl
  | some dodag =>
    dsimp only
    split
    · next root =>
      unfold purgeDownwardRoutesTimerExpire
      rw [setDodag_of_held held]
      unfold refreshOf setDodag
      rw [ExtTreeMap.getElem?_insert_self, Option.bind_some, DodagMembership.refresh]
      have stillRoot : (dodag.purgeDownwardRoutes m.now).isRoot = true := root
      simp only [stillRoot, Bool.not_true, Bool.and_false, Bool.false_eq_true, if_false]
    · unfold daoTimerExpire refreshOf modifyDodag
      rw [OrderedMap.getElem?_modify_eq, if_pos rfl]
      cases (m.sendDao key).dodags[key]? with
      | none => rfl
      | some sent => rfl

/-- Every event that happens to the node at one time, other than the DAO timer of the DODAG. -/
theorem minds_apply {e : Event} (idle : e ≠ .fire (.dao key)) (still : ∀ later, e ≠ .tick later) :
    Minds key n (n.apply e) := by
  have ordinary (kind : DaoFrame.Ordinary e) := minds_of_ends ((minds_frame key).apply n kind)
  cases e with
  | tick later => exact absurd rfl (still later)
  | receive heard message =>
    cases message with
    | dao dao =>
      change Minds key n (n.recvRpl heard (.dao dao))
      unfold recvRpl
      split
      · exact .same rfl
      · exact minds_handleDao dao heard.sender heard.interface
    | _ => exact ordinary trivial
  | fire timer =>
    cases timer with
    | dao other =>
      refine .same ((waiting_daoEventFire fun keyed => idle ?_).trans
        (waiting_modifyDodag_ne fun keyed => idle ?_))
      · rw [keyed]
      · rw [keyed]
    | daoRetry other =>
      refine .same (waiting_daoRetry.trans (waiting_modifyDodag ?_))
      exact fun _ => rfl
    | _ => exact ordinary trivial
  | _ => exact ordinary trivial

/-! ## Runs -/

/-- The refresh waited for is still to come. -/
def RefreshAhead (key : DodagKey) (n : Node) : Prop :=
  ∀ event, n.refreshOf key = some event → ∃ due, event = some due ∧ n.now ≤ due

/-- The refresh waited for is the DAO timer's time. -/
theorem timer_dao_of_refreshOf {event : Timer} (waits : n.refreshOf key = some event) :
    n.timer (.dao key) = event := by
  change (n.dodags[key]?).bind (·.daoEvent) = event
  unfold refreshOf at waits
  obtain ⟨dodag, held, waits⟩ := Option.bind_eq_some_iff.mp waits
  rw [held]
  unfold DodagMembership.refresh at waits
  split at waits
  · exact Option.some.inj waits
  · cases waits

theorem refreshAhead_apply {e : Event} (ahead : n.RefreshAhead key) (enabled : n.Enabled e) :
    (n.apply e).RefreshAhead key := by
  intro event waits
  by_cases fires : e = .fire (.dao key)
  · subst fires
    rw [show n.apply (.fire (.dao key)) = n.fire (.dao key) from rfl, refreshOf_fire_dao] at waits
    cases waits
  by_cases passes : ∃ later, e = .tick later
  · obtain ⟨later, rfl⟩ := passes
    obtain ⟨due, rfl, -⟩ := ahead event waits
    exact ⟨due, rfl, enabled.2 (.dao key) due (timer_dao_of_refreshOf waits)⟩
  · have minds := minds_apply (n := n) fires fun later is => passes ⟨later, is⟩
    rcases minds.sets event waits with before | ⟨due, rfl, later⟩
    · obtain ⟨due, rfl, later⟩ := ahead event before
      exact ⟨due, rfl, minds.now ▸ later⟩
    · exact ⟨due, rfl, minds.now ▸ later⟩

theorem refreshAhead_of_reachable (reachable : nodeSystem.Reachable n) : n.RefreshAhead key := by
  refine reachable.invariant (I := fun n => n.RefreshAhead key) (fun n initial event waits => ?_)
    fun n e ahead enabled _ => refreshAhead_apply ahead enabled
  unfold refreshOf at waits
  rw [initial.dodags] at waits
  cases waits

/-- The refresh due then is still waited for, unless the node has left the DODAG since. -/
structure Stands (key : DodagKey) (due : Time) (departures : Nat) (m : Node) : Prop where
  ahead : m.RefreshAhead key
  departed : departures ≤ m.departures key
  waits : departures < m.departures key ∨ m.refreshOf key = some (some due)

theorem stands_apply {due : Time} {departures : Nat} {e : Event}
    (stands : Stands key due departures m) (enabled : m.Enabled e) (idle : e ≠ .fire (.dao key)) :
    Stands key due departures (m.apply e) := by
  refine ⟨refreshAhead_apply stands.ahead enabled, ?_, ?_⟩
  · by_cases passes : ∃ later, e = .tick later
    · obtain ⟨later, rfl⟩ := passes
      exact stands.departed
    · have minds := minds_apply (n := m) idle fun later is => passes ⟨later, is⟩
      exact stands.departed.trans minds.departures
  · by_cases passes : ∃ later, e = .tick later
    · obtain ⟨later, rfl⟩ := passes
      exact stands.waits
    · have minds := minds_apply (n := m) idle fun later is => passes ⟨later, is⟩
      rcases stands.waits with gone | waits
      · exact .inl (gone.trans_le minds.departures)
      · rcases minds.keeps _ waits with still | gone
        · exact .inr still
        · exact .inl (stands.departed.trans_lt gone)

/-- A refresh that a membership of a node that is not its root waits for is due at one time.
Whatever happens, as long as the DAO timer does not fire, either the node leaves the DODAG or
the membership goes on waiting for the same refresh, due at the same time, which has not passed. -/
theorem refresh_stands (reachable : nodeSystem.Reachable n) (held : n.dodags[key]? = some dodag)
    (member : dodag.isRoot = false) (pending : dodag.daoRefreshPending = true)
    (steps : nodeSystem.Steps (fun _ e => e ≠ .fire (.dao key)) n m) :
    ∃ due, dodag.daoEvent = some due ∧
      (n.departures key < m.departures key ∨
        ∃ later, m.dodags[key]? = some later ∧ later.isRoot = false ∧
          later.daoRefreshPending = true ∧ later.daoEvent = some due ∧ m.now ≤ due) := by
  have waits : n.refreshOf key = some dodag.daoEvent := by
    unfold refreshOf
    rw [held, Option.bind_some, DodagMembership.refresh, pending, member]
    rfl
  obtain ⟨due, event, -⟩ := refreshAhead_of_reachable reachable _ waits
  refine ⟨due, event, ?_⟩
  have stands : Stands key due (n.departures key) m :=
    steps.keeps (I := Stands key due (n.departures key))
      (fun s e before enabled idle => stands_apply before enabled idle)
      ⟨refreshAhead_of_reachable reachable, le_rfl, .inr (event ▸ waits)⟩
  rcases stands.waits with gone | waits
  · exact .inl gone
  · obtain ⟨again, same, ahead⟩ := stands.ahead _ waits
    cases same
    unfold refreshOf at waits
    obtain ⟨later, heldLater, waits⟩ := Option.bind_eq_some_iff.mp waits
    unfold DodagMembership.refresh at waits
    split at waits
    · next marked =>
      rw [Bool.and_eq_true, Bool.not_eq_true'] at marked
      exact .inr ⟨later, heldLater, marked.2, marked.1, Option.some.inj waits, ahead⟩
    · cases waits

/-! ## A parent that asks for DAOs -/

/-- A DIO of the DODAG of 2001:db8::1 from a neighbour at rank 128. -/
def firstHeard : DioHeader := { rank := 128, dodagId := 0x20010db8000000000000000000000001#128 }

/-- The same neighbour asks for DAOs. -/
def daosWanted : DioHeader := { firstHeard with dtsn := 1 }

/-- A router that has taken the neighbour for its parent, and waits to send its first DAO. -/
def waitingLeaf : Node := (started leafIpv6).apply (hears firstHeard)

/-- The request does not put off the DAO the router waits to send already. -/
theorem refresh_stands_waitingLeaf :
    ∃ dodag due, waitingLeaf.dodags[firstHeard.key]? = some dodag ∧
      dodag.daoRefreshPending = true ∧ dodag.daoEvent = some due ∧
      ∃ later, (waitingLeaf.apply (hears daosWanted)).dodags[firstHeard.key]? = some later ∧
        later.isRoot = false ∧ later.daoRefreshPending = true ∧ later.daoEvent = some due := by
  have outcome : (waitingLeaf.dodags[firstHeard.key]?).map
      (fun dodag => (dodag.isRoot, dodag.daoRefreshPending)) = some (false, true) := by
    decide +kernel
  have stays : ¬waitingLeaf.departures firstHeard.key <
      (waitingLeaf.apply (hears daosWanted)).departures firstHeard.key := by
    decide +kernel
  obtain ⟨dodag, held, fields⟩ := Option.map_eq_some_iff.mp outcome
  obtain ⟨member, pending⟩ := Prod.mk.inj fields
  have reachable : nodeSystem.Reachable waitingLeaf :=
    run_hears (started_run leafIpv6) (started_listens _) trivial
  obtain ⟨due, event, after⟩ := refresh_stands reachable held member pending
    (.single ⟨hears daosWanted, (by decide +kernel : 1 ∈ waitingLeaf.sockets), nofun, rfl⟩)
  obtain ⟨later, heldLater, memberLater, pendingLater, eventLater, -⟩ := after.resolve_left stays
  exact ⟨dodag, due, held, pending, event, later, heldLater, memberLater, pendingLater, eventLater⟩

end Node

end Rpl
