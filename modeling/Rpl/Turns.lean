import Rpl.DiscoveryShifts

/-!
# What shifts do at one key

Most of what discoveries are held to is about one RPLInstanceID and DODAGID at a
time.  A `Turn` is a shift as seen from there: whatever it is about, it leaves the
key alone, lifts the bar on it, or begins, rewrites or ends the membership held
under it.  What no event changes in passing, the attributes and the clock, is here
as well.
-/

namespace Rpl

open Std

/-- A shift as seen from a key. -/
inductive Turn (n : Node) (e : Event) (late : Bool) (key : DodagKey) (s after : Stakes) : Prop
  | stays (held : after.held[key]? = s.held[key]?)
      (bar : after.rejoinBlocked[key]? = s.rejoinBlocked[key]?)
  | unbars {dio : DioHeader} {heard : Reception} {stake : Stake} (early : late = false)
      (takes : n.Takes e dio heard) (discovery : dio.rreq.isSome = true ∨ dio.rrep.isSome = true)
      (keyed : dio.key = key)
      (held : s.held[key]? = some stake) (still : after.held[key]? = some stake)
  | begins {stake : Stake} (absent : s.held[key]? = none) (begins : n.Begins e late s key stake)
      (held : after.held[key]? = some stake)
      (bar : after.rejoinBlocked[key]? = s.rejoinBlocked[key]?)
  | rewrites {stake other : Stake} (held : s.held[key]? = some stake)
      (rewrites : n.Rewrites e late s key stake other) (rewritten : after.held[key]? = some other)
      (bar : after.rejoinBlocked[key]? = s.rejoinBlocked[key]?)
  | ends {stake : Stake} (held : s.held[key]? = some stake) (gone : after.held[key]? = none)
      (bar : after.rejoinBlocked[key]? =
        if stake.aodv.target.isAny then s.rejoinBlocked[key]?
        else some (s.now + s.attributes.aodvRejoinReenable))
      (ended : after.ended = key :: s.ended)

namespace Shift

variable {n : Node} {e : Event} {late : Bool} {s after : Stakes}

theorem leave_turn {before : Stakes} {key : DodagKey} {stake : Stake} (other : DodagKey)
    (held : s.held[key]? = some stake) (sameHeld : before.held = s.held)
    (sameBars : before.rejoinBlocked = s.rejoinBlocked) (sameNow : before.now = s.now)
    (sameAttributes : before.attributes = s.attributes) (sameEnded : before.ended = s.ended) :
    Turn n e late other s (before.leave key stake) := by
  by_cases same : other = key
  · subst same
    refine .ends held (by rw [Stakes.leave_held, if_pos rfl]) ?_ (congrArg (other :: ·) sameEnded)
    unfold Stakes.leave
    dsimp only
    rw [sameBars, sameNow, sameAttributes]
    split
    · rfl
    · exact ExtTreeMap.getElem?_insert_self
  · refine .stays (by rw [Stakes.leave_held, if_neg same, sameHeld]) ?_
    unfold Stakes.leave
    dsimp only
    rw [sameBars]
    split
    · rfl
    · rw [OrderedMap.getElem?_insert_eq, if_neg same]

/-- Every shift is a turn at each key. -/
theorem turn (shift : Shift n e late s after) (key : DodagKey) : Turn n e late key s after := by
  cases shift with
  | elapse => exact .stays rfl rfl
  | readdress => exact .stays rfl rfl
  | speak => exact .stays rfl rfl
  | lose held => exact leave_turn key held rfl rfl rfl rfl rfl
  | whisper => exact .stays rfl rfl
  | leave held => exact leave_turn key held rfl rfl rfl rfl rfl
  | @begins other stake absent begins =>
    by_cases same : key = other
    · subst same
      exact .begins absent begins (by rw [Stakes.put_held, if_pos rfl]) rfl
    · exact .stays (by rw [Stakes.put_held, if_neg same]) rfl
  | @rewrites other stake _ held rewrites =>
    by_cases same : key = other
    · subst same
      exact .rewrites held rewrites (by rw [Stakes.put_held, if_pos rfl]) rfl
    · exact .stays (by rw [Stakes.put_held, if_neg same]) rfl
  | @unbar dio _ _ early takes discovery held =>
    by_cases same : key = dio.key
    · subst same
      exact .unbars early takes discovery rfl held held
    · refine .stays rfl ?_
      rw [OrderedMap.getElem?_erase_eq, if_neg same]
  | p2pExpired event held => exact leave_turn key held rfl rfl rfl rfl rfl
  | useId => exact .stays rfl rfl
  | aodvRoute => exact .stays rfl rfl
  | p2pRoute => exact .stays rfl rfl

/-- Memberships that have ended stay ended. -/
theorem ended_suffix (shift : Shift n e late s after) : s.ended <:+ after.ended := by
  cases shift with
  | lose => exact List.suffix_cons ..
  | leave => exact List.suffix_cons ..
  | p2pExpired => exact List.suffix_cons ..
  | _ => exact List.suffix_refl _

theorem attributes_eq (shift : Shift n e late s after) : after.attributes = s.attributes := by
  cases shift <;> rfl

/-- The clock goes forward, and only as time passes. -/
theorem now_le (shift : Shift n e late s after) : s.now ≤ after.now := by
  cases shift with
  | elapse event forward => exact forward
  | _ => exact le_rfl

theorem now_eq (shift : Shift n e late s after) (timeless : ∀ later, e ≠ .tick later) :
    after.now = s.now := by
  cases shift with
  | elapse event forward => exact absurd event (timeless _)
  | _ => rfl

end Shift

namespace Shifts

variable {n : Node} {e : Event} {late : Bool} {s after : Stakes}

theorem attributes_eq (shifts : Shifts n e late s after) : after.attributes = s.attributes := by
  induction shifts with
  | refl => rfl
  | tail _ shift ih => exact shift.attributes_eq.trans ih

theorem now_le (shifts : Shifts n e late s after) : s.now ≤ after.now := by
  induction shifts with
  | refl => exact le_rfl
  | tail _ shift ih => exact Int.le_trans ih shift.now_le

theorem now_eq (shifts : Shifts n e late s after) (timeless : ∀ later, e ≠ .tick later) :
    after.now = s.now := by
  induction shifts with
  | refl => rfl
  | tail _ shift ih => exact (shift.now_eq timeless).trans ih

theorem ended_suffix (shifts : Shifts n e late s after) : s.ended <:+ after.ended := by
  induction shifts with
  | refl => exact List.suffix_refl _
  | tail _ shift ih => exact ih.trans shift.ended_suffix

/-- What every shift of an event keeps, given what was reached before it, the event keeps. -/
theorem keeps {I : Stakes → Prop}
    (keeps : ∀ s after, Shifts n e false n.stakes s → Shift n e false s after → I s → I after)
    (shifts : Shifts n e false n.stakes after) (holds : I n.stakes) : I after := by
  induction shifts with
  | refl => exact holds
  | tail before shift ih => exact keeps _ _ before shift ih

end Shifts

namespace Node

variable {n : Node} {e : Event} {late : Bool}

/-- A DIO is taken in at one moment. -/
theorem Takes.timeless {dio : DioHeader} {heard : Reception} (takes : n.Takes e dio heard)
    (later : Time) : e ≠ .tick later := by
  rw [takes.event]
  exact Event.noConfusion

theorem Takes.unique {dio other : DioHeader} {heard otherHeard : Reception}
    (takes : n.Takes e dio heard) (takesOther : n.Takes e other otherHeard) : dio = other := by
  have same := takes.event.symm.trans takesOther.event
  cases same
  rfl

/-- What a node comes to root while it takes in a DIO is an RREP-Instance that answers an RREQ,
for a membership in the RREQ-Instance. -/
theorem Roots.answers {s : Stakes} {key : DodagKey} {stake : Stake} {dio : DioHeader}
    {heard : Reception} (roots : n.Roots e s key stake) (takes : n.Takes e dio heard) :
    dio.rreq.isSome = true ∧ (s.held[dio.key]?).isSome = true ∧
      stake.mop = mopP2pRouteDiscovery ∧ stake.p2p = {} := by
  cases roots with
  | ordinary fresh event =>
    rcases event with ⟨_, event, -⟩ | ⟨_, event, -⟩
    · cases takes.event.symm.trans event
    · cases takes.event.symm.trans event
  | rreq fresh event => cases takes.event.symm.trans event
  | p2p fresh event => cases takes.event.symm.trans event
  | rrep isBefore takesOther rreq held =>
    cases takes.unique takesOther
    refine ⟨rreq, ?_, rfl, rfl⟩
    rw [← isBefore, stakes_held, held]
    rfl

/-! ## The discovery part of a DIO -/

theorem shifts_beforeDiscovery {m : Node} {dio : DioHeader} {heard : Reception}
    (takes : n.Takes e dio heard) (handles : n.beforeDiscovery dio heard = some m) :
    Shifts n e false n.stakes m.stakes := by
  obtain ⟨entered, enters, rfl⟩ := Option.map_eq_some_iff.mp handles
  have entering := shifts_enterVersion takes enters
  rw [← stakes_updateParent entered dio heard] at entering
  exact entering.trans (shifts_selectAfterDio (entered.updateParent dio heard) dio heard.sender)

theorem Takes.apply_eq_handleDiscovery {m : Node} {dio : DioHeader} {heard : Reception}
    (takes : n.Takes e dio heard) (handles : n.beforeDiscovery dio heard = some m) :
    n.apply e = m.handleDiscovery dio heard := by
  obtain ⟨entered, enters, rfl⟩ := Option.map_eq_some_iff.mp handles
  rw [takes.apply_eq, enters]
  rfl

theorem handleDiscovery_of_rreq {m : Node} {dio : DioHeader} {heard : Reception}
    (takes : n.Takes e dio heard) (rreq : dio.rreq.isSome = true) (holds : m.holds dio.key = true) :
    m.handleDiscovery dio heard = m.handleAodvRreq dio heard := by
  obtain ⟨noRrep, noRdo⟩ := takes.discovery.1 rreq
  simp only [handleDiscovery, rreq, noRrep, noRdo, holds, Bool.and_self, if_true, Bool.false_and,
    Bool.false_eq_true, if_false]

theorem handleDiscovery_of_rrep {m : Node} {dio : DioHeader} {heard : Reception}
    (takes : n.Takes e dio heard) (rrep : dio.rrep.isSome = true) (holds : m.holds dio.key = true) :
    m.handleDiscovery dio heard = m.handleAodvRrepInstance dio heard.sender := by
  obtain ⟨noRreq, noRdo⟩ := takes.discovery.2.1 rrep
  simp only [handleDiscovery, rrep, noRreq, noRdo, holds, Bool.and_self, if_true, Bool.false_and,
    Bool.false_eq_true, if_false]

theorem handleDiscovery_of_rdo {m : Node} {dio : DioHeader} {heard : Reception}
    (takes : n.Takes e dio heard) (rdo : dio.p2pRdo.isSome = true)
    (holds : m.holds dio.key = true) :
    m.handleDiscovery dio heard = m.handleP2pRdo dio heard := by
  have noRreq : dio.rreq.isSome = false := by
    refine Bool.eq_false_iff.mpr fun rreq => ?_
    rw [(takes.discovery.1 rreq).2] at rdo
    cases rdo
  have noRrep : dio.rrep.isSome = false := by
    refine Bool.eq_false_iff.mpr fun rrep => ?_
    rw [(takes.discovery.2.1 rrep).2] at rdo
    cases rdo
  simp only [handleDiscovery, rdo, noRreq, noRrep, holds, Bool.and_self, if_true, Bool.false_and,
    Bool.false_eq_true, if_false]

/-- How often a membership under the key has ended. -/
def departures (n : Node) (key : DodagKey) : Nat := n.stakes.ended.count key

/-! ## What an event keeps -/

/-- No DIO joins a temporary DODAG that is held. -/
theorem joinsBy_of_temporary {dio : DioHeader} {dodag : DodagMembership}
    (held : n.dodags[dio.key]? = some dodag) (temporary : dodag.isTemporary = true) :
    n.joinsBy dio = false := by
  unfold joinsBy
  rw [held]
  simp only [temporary, Bool.not_true, Bool.and_false, Bool.false_and]

/-- The DIO a node joins by takes it straight into the DODAG, out of the Version it was in
before where there is one. -/
theorem enterVersion_of_joins {dio : DioHeader} (joins : n.joinsBy dio = true) (interface : Nat) :
    ∃ before : Node, n.enterVersion dio interface = some (before.joinDodag dio interface) ∧
      (before = n ∨
        (∃ dodag, n.dodags[dio.key]? = some dodag) ∧ before = n.leaveDodag dio.key false) := by
  unfold joinsBy at joins
  unfold enterVersion
  split at joins
  · next absent =>
    rw [Bool.not_eq_true'] at joins
    rw [absent, joins]
    exact ⟨n, rfl, .inl rfl⟩
  · next dodag held =>
    simp only [Bool.and_eq_true, decide_eq_true_eq, Bool.not_eq_true'] at joins
    obtain ⟨⟨newVersion, ordinary⟩, migrating⟩ := joins
    rw [held]
    simp only [if_neg newVersion, ordinary, migrating, if_true, Bool.false_eq_true, if_false]
    exact ⟨_, rfl, .inr ⟨⟨dodag, rfl⟩, rfl⟩⟩

/-- What a DIO taken in does once the node has entered the Version it is for. -/
theorem Takes.shifts_of_enters {dio : DioHeader} {heard : Reception} {entered : Node}
    (takes : n.Takes e dio heard) (enters : n.enterVersion dio heard.interface = some entered) :
    Shifts n e false entered.stakes (n.apply e).stakes := by
  have selected : Shifts n e false entered.stakes
      ((entered.updateParent dio heard).selectAfterDio dio heard.sender).stakes := by
    rw [← stakes_updateParent entered dio heard]
    exact shifts_selectAfterDio _ dio heard.sender
  have whole : n.apply e = ((entered.updateParent dio heard).selectAfterDio dio
      heard.sender).handleDiscovery dio heard := by
    rw [takes.apply_eq, enters]
    rfl
  have handles : n.beforeDiscovery dio heard =
      some ((entered.updateParent dio heard).selectAfterDio dio heard.sender) := by
    rw [beforeDiscovery, enters, Option.map_some]
  have handled := (leads_handleDiscovery takes handles).shifts takes whole
  rw [← whole] at handled
  exact selected.trans handled

/-- An event keeps what each of its shifts keeps. -/
theorem keeps_apply {I : Stakes → Prop} (enabled : n.Enabled e)
    (keeps : ∀ s after, Shifts n e false n.stakes s → Shift n e false s after → I s → I after)
    (holds : I n.stakes) : I (n.apply e).stakes :=
  Shifts.keeps keeps (shifts_apply n e enabled) holds

/-! ## Time passing -/

/-- No timer of the node is due before the time. -/
def nothingBefore (n : Node) (later : Time) : Bool :=
  (n.disTimer :: n.firstSolicitation :: n.dodags.toList.flatMap fun entry => entry.2.timers).all
    fun timer => timer.all fun at_ => decide (later ≤ at_)

/-- Time may pass up to a moment before which no timer is due. -/
theorem enabled_tick {later : Time} (forward : n.now ≤ later)
    (nothing : n.nothingBefore later = true) : n.Enabled (.tick later) := by
  have each : ∀ timer ∈ n.disTimer :: n.firstSolicitation ::
      n.dodags.toList.flatMap (fun entry => entry.2.timers), ∀ at_, timer = some at_ →
        later ≤ at_ := by
    rintro timer mem at_ rfl
    have allowed := List.all_eq_true.mp nothing _ mem
    exact of_decide_eq_true allowed
  have ofMembership : ∀ (key : DodagKey) (timer : DodagMembership → Timer) (at_ : Time),
      (∀ dodag : DodagMembership, timer dodag ∈ dodag.timers) → n.timerOf key timer = some at_ →
        later ≤ at_ := by
    intro key timer at_ isTimer due
    obtain ⟨dodag, held, running⟩ := timerOf_isSome due
    have entry : (key, dodag) ∈ n.dodags.toList :=
      ExtTreeMap.mem_toList_iff_getElem?_eq_some.mpr held
    refine each _ (List.mem_cons_of_mem _ (List.mem_cons_of_mem _ ?_)) at_ running
    exact List.mem_flatMap.mpr ⟨_, entry, isTimer dodag⟩
  refine ⟨forward, fun timer at_ due => ?_⟩
  cases timer with
  | dis => exact each _ List.mem_cons_self at_ due
  | firstSolicitation => exact each _ (List.mem_cons_of_mem _ List.mem_cons_self) at_ due
  | trickleTransmit key => exact ofMembership key _ at_ (by simp [DodagMembership.timers]) due
  | trickleInterval key => exact ofMembership key _ at_ (by simp [DodagMembership.timers]) due
  | dao key => exact ofMembership key _ at_ (by simp [DodagMembership.timers]) due
  | daoRetry key => exact ofMembership key _ at_ (by simp [DodagMembership.timers]) due
  | globalRepair key => exact ofMembership key _ at_ (by simp [DodagMembership.timers]) due
  | aodvExpiry key => exact ofMembership key _ at_ (by simp [DodagMembership.timers]) due
  | p2pExpiry key => exact ofMembership key _ at_ (by simp [DodagMembership.timers]) due
  | droRetry key => exact ofMembership key _ at_ (by simp [DodagMembership.timers]) due
  | droCollect key => exact ofMembership key _ at_ (by simp [DodagMembership.timers]) due

end Node

end Rpl
