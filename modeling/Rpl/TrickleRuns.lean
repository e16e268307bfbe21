import Rpl.Join
import Rpl.Lib.TransitionSystem

/-!
# Runs of the Trickle timer

`TrickleTimer` between the calls of its owner and the expiries of its two timers.  Beside the
timer itself a run keeps what the timer is to be compared with: the consistent messages heard
since the interval began, counted without a bound, the intervals that have ended since the last
one of length Imin was opened, and what was decided at the transmission time of this interval.
-/

namespace Rpl

/-! ## The system -/

/-- What `TransmitEvent` did: the k it went by, the consistent messages of the interval so far,
and whether it called back. -/
structure TrickleChoice where
  redundancy : UInt8
  heard : Nat
  transmitted : Bool
  deriving DecidableEq, Repr

structure TrickleRun where
  timer : TrickleTimer
  now : Time
  /-- The `ConsistencyHit` calls since the interval began. -/
  heard : Nat := 0
  /-- The `IntervalEvent`s since the interval was last set to Imin. -/
  doubled : Nat := 0
  /-- What was decided in this interval, once its transmission time has come. -/
  choice : Option TrickleChoice := none

inductive TrickleEvent
  | setParameters (intervalMin : Time) (doublings redundancy : UInt8)
  | start
  | stop
  | reset
  | consistencyHit
  | wait (later : Time)
  | transmit
  | interval

namespace TrickleRun

/-- A new interval has begun. -/
def opened (s : TrickleRun) (timer : TrickleTimer) (doubled : Nat) : TrickleRun :=
  { s with timer := timer, heard := 0, doubled := doubled, choice := none }

def next (s : TrickleRun) : TrickleEvent → TrickleRun
  | .setParameters intervalMin doublings redundancy =>
    { s with timer := s.timer.setParameters intervalMin doublings redundancy }
  | .start => s.opened (s.timer.start s.now) 0
  | .stop => { s with timer := s.timer.stop }
  | .reset =>
    if !s.timer.running || s.timer.interval = s.timer.intervalMin then s
    else s.opened (s.timer.reset s.now) 0
  | .consistencyHit => { s with timer := s.timer.consistencyHit, heard := s.heard + 1 }
  | .wait later => { s with now := later }
  | .transmit =>
    { s with
      timer := s.timer.transmitEvent
      choice := some ⟨s.timer.redundancy, s.heard, s.timer.transmits⟩ }
  | .interval => s.opened (s.timer.intervalEvent s.now) (s.doubled + 1)

/-- The clock does not pass a pending timer, and of two that are due together the transmission,
which was scheduled first, comes first. -/
def enabled (s : TrickleRun) : TrickleEvent → Prop
  | .setParameters intervalMin _ _ => 0 ≤ intervalMin
  | .wait later => s.now ≤ later ∧ (∀ due ∈ s.timer.transmitTimer, later ≤ due) ∧
      ∀ due ∈ s.timer.intervalTimer, later ≤ due
  | .transmit => s.timer.transmitTimer = some s.now
  | .interval => s.timer.intervalTimer = some s.now ∧ s.timer.transmitTimer ≠ some s.now
  | _ => True

/-- A timer as its constructor leaves it. -/
def Fresh (s : TrickleRun) : Prop := ∃ rng now, s = { timer := { rng := rng }, now := now }

end TrickleRun

def trickleSystem : TransitionSystem TrickleRun TrickleEvent where
  initial := TrickleRun.Fresh
  enabled := TrickleRun.enabled
  next := TrickleRun.next

/-! ## What the counter holds -/

/-- The decision goes by the count modulo 2^16. -/
def TrickleChoice.ByCounter (choice : TrickleChoice) : Prop :=
  choice.transmitted = true ↔
    choice.redundancy = 0 ∨ choice.heard % 65536 < choice.redundancy.toNat

namespace TrickleRun

variable {s : TrickleRun} {e : TrickleEvent}

/-- The 16 bit counter holds what was heard in this interval modulo 2^16. -/
structure Counted (s : TrickleRun) : Prop where
  counter : s.timer.counter.toNat = s.heard % 65536
  choice : ∀ choice, s.choice = some choice → choice.ByCounter

theorem Counted.opened (timer : TrickleTimer) (doubled : Nat) (zero : timer.counter = 0) :
    (s.opened timer doubled).Counted :=
  ⟨by rw [TrickleRun.opened, zero]; rfl, fun _ made => nomatch made⟩

theorem Counted.next (counted : s.Counted) : (s.next e).Counted := by
  cases e with
  | setParameters | stop | wait => exact ⟨counted.counter, counted.choice⟩
  | start => exact .opened _ _ rfl
  | interval => exact .opened _ _ rfl
  | reset =>
    simp only [TrickleRun.next]
    split
    · exact counted
    · next effective => exact .opened _ _ (by rw [TrickleTimer.reset, if_neg effective]; rfl)
  | consistencyHit =>
    refine ⟨?_, counted.choice⟩
    have before := counted.counter
    simp only [TrickleRun.next, TrickleTimer.consistencyHit, UInt16.toNat_add]
    rw [before, show (1 : UInt16).toNat = 1 from rfl]
    omega
  | transmit =>
    refine ⟨counted.counter, fun choice made => ?_⟩
    obtain rfl := Option.some.inj made
    simp only [TrickleChoice.ByCounter, TrickleTimer.transmits, Bool.or_eq_true,
      decide_eq_true_eq, counted.counter]

/-! ## When the decision falls -/

/-- The transmission time lies ahead and inside the interval, or the decision has been made. -/
structure Timed (s : TrickleRun) : Prop where
  least : 0 ≤ s.timer.intervalMin
  greatest : 0 ≤ s.timer.intervalMax
  length : 0 ≤ s.timer.interval
  ahead : ∀ due ∈ s.timer.transmitTimer, s.now ≤ due ∧
    ∃ ending ∈ s.timer.intervalTimer, due ≤ ending
  made : s.timer.intervalTimer.isSome → s.timer.transmitTimer = none → s.choice.isSome

theorem Timed.opened (timer : TrickleTimer) (doubled : Nat) (least : 0 ≤ timer.intervalMin)
    (greatest : 0 ≤ timer.intervalMax) (length : 0 ≤ timer.interval) :
    (s.opened (timer.newInterval s.now) doubled).Timed := by
  refine ⟨least, greatest, length, fun due drawn => ?_, fun _ never => nomatch never⟩
  obtain rfl := Option.some.inj drawn
  have half : 0 ≤ timer.interval / 2 := Int.ediv_nonneg length (by decide)
  have ⟨least, greatest⟩ := timer.rng.getValue_range (Int.ediv_le_self 2 length)
  exact ⟨le_add_of_nonneg_right (half.trans least), _, rfl, add_le_add_right greatest _⟩

theorem Timed.next (timed : s.Timed) (enabled : s.enabled e) : (s.next e).Timed := by
  have least := timed.least
  have greatest := timed.greatest
  have length := timed.length
  cases e with
  | setParameters intervalMin doublings redundancy =>
    exact ⟨enabled, mul_nonneg enabled (by positivity), length, timed.ahead, timed.made⟩
  | start => exact .opened _ _ least greatest least
  | stop =>
    exact ⟨least, greatest, length, fun _ pending => (nomatch pending),
      fun running => (nomatch running)⟩
  | reset =>
    simp only [TrickleRun.next]
    split
    · exact timed
    · next effective =>
      rw [TrickleTimer.reset, if_neg effective]
      exact .opened _ _ least greatest least
  | consistencyHit => exact ⟨least, greatest, length, timed.ahead, timed.made⟩
  | wait later =>
    exact ⟨least, greatest, length,
      fun due pending => ⟨enabled.2.1 due pending, (timed.ahead due pending).2⟩, timed.made⟩
  | transmit =>
    exact ⟨least, greatest, length, fun _ pending => (nomatch pending), fun _ _ => rfl⟩
  | interval =>
    exact .opened _ _ least greatest (le_min (add_nonneg length length) greatest)

/-- At the end of an interval its transmission time has come and gone. -/
theorem Timed.decided (timed : s.Timed) (ends : s.enabled .interval) : s.choice.isSome := by
  refine timed.made (by rw [ends.1]; rfl) ?_
  cases pending : s.timer.transmitTimer with
  | none => rfl
  | some due =>
    -- Nothing is pending between now and the end of the interval, which is now.
    obtain ⟨since, ending, isEnding, before⟩ := timed.ahead due pending
    obtain rfl := Option.some.inj (ends.1.symm.trans isEnding)
    exact absurd (pending.trans (congrArg some (le_antisymm before since))) ends.2

end TrickleRun

theorem TrickleRun.timed_of_run {s : TrickleRun} (run : trickleSystem.Reachable s) :
    s.Timed :=
  run.invariant (I := TrickleRun.Timed)
    (by
      rintro _ ⟨rng, now, rfl⟩
      exact ⟨Int.zero_le_ofNat _, Int.zero_le_ofNat _, Int.zero_le_ofNat _,
        fun _ pending => (nomatch pending), fun running => (nomatch running)⟩)
    fun _ _ before enabled _ => before.next enabled

theorem TrickleRun.counted_of_run {s : TrickleRun} (run : trickleSystem.Reachable s) :
    s.Counted :=
  run.invariant (I := TrickleRun.Counted)
    (by
      rintro _ ⟨rng, now, rfl⟩
      exact ⟨rfl, fun _ made => nomatch made⟩)
    fun _ _ before _ _ => before.next

/-- In every interval of every run that comes to its end the decision falls at the transmission
time.  It follows the consistent messages heard in the interval exactly when k is 0, fewer than k
were heard, or the number heard, less the multiples of 2^16 that the counter forgets, has
reached k. -/
theorem trickle_suppression {s : TrickleRun} (run : trickleSystem.Reachable s) :
    (trickleSystem.enabled s .interval → s.choice.isSome) ∧
    ∀ choice, s.choice = some choice →
      ((choice.transmitted = true ↔
          choice.redundancy = 0 ∨ choice.heard < choice.redundancy.toNat) ↔
        choice.redundancy = 0 ∨ choice.heard < choice.redundancy.toNat ∨
          choice.redundancy.toNat ≤ choice.heard % 65536) := by
  refine ⟨(TrickleRun.timed_of_run run).decided, fun choice made => ?_⟩
  have byCounter := (TrickleRun.counted_of_run run).choice choice made
  have few := choice.redundancy.toNat_lt
  unfold TrickleChoice.ByCounter at byCounter
  rw [byCounter]
  by_cases off : choice.redundancy = 0
  · simp only [off, true_or]
  · simp only [off, false_or]
    omega

/-- An interval of one second with k = 2 in which two consistent messages have been heard by its
middle: the transmission is suppressed. -/
theorem trickle_suppression_quiet :
    let choice : TrickleChoice := { redundancy := 2, heard := 2, transmitted := false }
    (∃ s, trickleSystem.Reachable s ∧ s.choice = some choice) ∧
      ((choice.transmitted = true ↔
          choice.redundancy = 0 ∨ choice.heard < choice.redundancy.toNat) ↔
        choice.redundancy = 0 ∨ choice.heard < choice.redundancy.toNat ∨
          choice.redundancy.toNat ≤ choice.heard % 65536) := by
  have fresh : trickleSystem.Reachable { timer := {}, now := 0 } := .start ⟨{}, 0, rfl⟩
  have set := fresh.step (e := TrickleEvent.setParameters (seconds 1) 0 2)
    (show (0 : ℤ) ≤ seconds 1 by decide) trivial
  have started := set.step (e := TrickleEvent.start) trivial trivial
  have once := started.step (e := TrickleEvent.consistencyHit) trivial trivial
  have twice := once.step (e := TrickleEvent.consistencyHit) trivial trivial
  have waited := twice.step (e := TrickleEvent.wait 500000000)
    ⟨by decide, by rintro _ ⟨⟩; decide, by rintro _ ⟨⟩; decide⟩ trivial
  have decided := waited.step (e := TrickleEvent.transmit) rfl trivial
  exact ⟨⟨_, decided, rfl⟩, (trickle_suppression decided).2 _ rfl⟩

/-- Consistent messages heard one after the other change the count and the counter only. -/
theorem TrickleRun.reachable_hits {s : TrickleRun} (run : trickleSystem.Reachable s)
    (count : Nat) : ∃ t, trickleSystem.Reachable t ∧ t.heard = s.heard + count ∧
      t.now = s.now ∧ ∃ counter, t.timer = { s.timer with counter := counter } := by
  induction count with
  | zero => exact ⟨s, run, rfl, rfl, s.timer.counter, rfl⟩
  | succ count ih =>
    obtain ⟨t, reached, heard, now, counter, timer⟩ := ih
    refine ⟨_, reached.step (e := TrickleEvent.consistencyHit) trivial trivial, ?_, now,
      counter + 1, ?_⟩
    · exact congrArg (· + 1) heard
    · exact congrArg TrickleTimer.consistencyHit timer

/-- With k = 1, 65536 consistent messages in one interval and a transmission at its end. -/
theorem trickle_suppression_wraps : ∃ s, trickleSystem.Reachable s ∧ ∃ choice,
    s.choice = some choice ∧ choice.redundancy = 1 ∧ choice.heard = 65536 ∧
      choice.transmitted = true := by
  have fresh : trickleSystem.Reachable { timer := {}, now := 0 } := .start ⟨{}, 0, rfl⟩
  have set := fresh.step (e := TrickleEvent.setParameters (seconds 1) 0 1)
    (show (0 : ℤ) ≤ seconds 1 by decide) trivial
  have started := set.step (e := TrickleEvent.start) trivial trivial
  obtain ⟨s, heardMany, heard, now, counter, timer⟩ := TrickleRun.reachable_hits started 65536
  have waited := heardMany.step (e := TrickleEvent.wait 500000000)
    (by
      simp only [trickleSystem, TrickleRun.enabled, now, timer]
      exact ⟨by decide, by rintro _ ⟨⟩; decide, by rintro _ ⟨⟩; decide⟩)
    trivial
  have sent := waited.step (e := TrickleEvent.transmit)
    (by
      simp only [trickleSystem, TrickleRun.enabled, TrickleRun.next, timer]
      decide)
    trivial
  refine ⟨_, sent, _, rfl, ?_, heard, ?_⟩
  · exact congrArg TrickleTimer.redundancy timer
  · have counted := TrickleRun.counted_of_run sent
    refine (counted.choice _ rfl).mpr (Or.inr ?_)
    simp only [trickleSystem, TrickleRun.next, heard, timer]
    decide

/-! ## How long an interval is -/

/-- The parameters stay as they are. -/
def TrickleEvent.KeepsParameters : TrickleEvent → Prop
  | .setParameters .. => False
  | _ => True

namespace TrickleRun

/-- The interval has doubled with every interval that ended, up to Imax. -/
structure Doubles (intervalMin : Time) (doublings : Nat) (s : TrickleRun) : Prop where
  least : s.timer.intervalMin = intervalMin
  greatest : s.timer.intervalMax = intervalMin * 2 ^ doublings
  length : s.timer.interval = intervalMin * 2 ^ min s.doubled doublings

variable {intervalMin : Time} {doublings : Nat} {s : TrickleRun} {e : TrickleEvent}

/-- An interval of length Imin has not doubled yet. -/
theorem Doubles.opened (doubles : s.Doubles intervalMin doublings) (timer : TrickleTimer)
    (least : timer.intervalMin = s.timer.intervalMin)
    (greatest : timer.intervalMax = s.timer.intervalMax)
    (length : timer.interval = s.timer.intervalMin) :
    (s.opened timer 0).Doubles intervalMin doublings :=
  ⟨least.trans doubles.least, greatest.trans doubles.greatest, by
    simp only [TrickleRun.opened, length, doubles.least, Nat.zero_min, pow_zero, mul_one]⟩

/-- Twice an interval, up to Imax, is the next power of two, up to Imax. -/
theorem doubled_interval (positive : 0 ≤ intervalMin) (doubled doublings : Nat) :
    min (intervalMin * 2 ^ min doubled doublings + intervalMin * 2 ^ min doubled doublings)
        (intervalMin * 2 ^ doublings) =
      intervalMin * 2 ^ min (doubled + 1) doublings := by
  have twice : intervalMin * 2 ^ min doubled doublings + intervalMin * 2 ^ min doubled doublings =
      intervalMin * 2 ^ (min doubled doublings + 1) := by ring
  rw [twice]
  rcases Nat.lt_or_ge doubled doublings with below | reached
  · rw [min_eq_left below.le, min_eq_left (show doubled + 1 ≤ doublings from below)]
    exact min_eq_left (mul_le_mul_of_nonneg_left (pow_le_pow_right₀ (by decide) below) positive)
  · rw [min_eq_right reached, min_eq_right (reached.trans (Nat.le_succ _))]
    exact min_eq_right (mul_le_mul_of_nonneg_left (pow_le_pow_right₀ (by decide) (Nat.le_succ _))
      positive)

theorem Doubles.next (positive : 0 ≤ intervalMin) (doubles : s.Doubles intervalMin doublings)
    (keeps : e.KeepsParameters) : (s.next e).Doubles intervalMin doublings := by
  cases e with
  | setParameters => exact keeps.elim
  | stop | consistencyHit | wait | transmit =>
    exact ⟨doubles.least, doubles.greatest, doubles.length⟩
  | start => exact doubles.opened _ rfl rfl rfl
  | reset =>
    simp only [TrickleRun.next]
    split
    · exact doubles
    · next effective =>
      rw [TrickleTimer.reset, if_neg effective]
      exact doubles.opened _ rfl rfl rfl
  | interval =>
    refine ⟨doubles.least, doubles.greatest, ?_⟩
    simp only [TrickleRun.next, TrickleRun.opened, TrickleTimer.intervalEvent,
      TrickleTimer.newInterval, doubles.length, doubles.greatest]
    exact doubled_interval positive ..

/-- Intervals that end one after the other, whenever they do. -/
theorem Doubles.intervals (positive : 0 ≤ intervalMin) (doubles : s.Doubles intervalMin doublings)
    (times : List Time) : ∃ t : TrickleRun, t.Doubles intervalMin doublings ∧
      t.timer = times.foldl TrickleTimer.intervalEvent s.timer ∧
      t.doubled = s.doubled + times.length := by
  induction times generalizing s with
  | nil => exact ⟨s, doubles, rfl, rfl⟩
  | cons now times ih =>
    have waited : ({ s with now := now } : TrickleRun).Doubles intervalMin doublings :=
      ⟨doubles.least, doubles.greatest, doubles.length⟩
    obtain ⟨t, after, timer, doubled⟩ :=
      ih (waited.next (e := TrickleEvent.interval) positive trivial)
    refine ⟨t, after, timer, doubled.trans ?_⟩
    simp only [TrickleRun.next, TrickleRun.opened, List.length_cons]
    omega

/-- An interval lies between Imin and Imax, and is at Imax once it has doubled so often. -/
theorem Doubles.bounds (positive : 0 ≤ intervalMin) (doubles : s.Doubles intervalMin doublings) :
    (∃ j ≤ doublings, s.timer.interval = intervalMin * 2 ^ j) ∧
      intervalMin ≤ s.timer.interval ∧ s.timer.interval ≤ intervalMin * 2 ^ doublings ∧
      (doublings ≤ s.doubled → s.timer.interval = intervalMin * 2 ^ doublings) := by
  have power := doubles.length
  have above := mul_le_mul_of_nonneg_left
    (pow_le_pow_right₀ (by decide : (1 : ℤ) ≤ 2) (min_le_right s.doubled doublings)) positive
  have below := mul_le_mul_of_nonneg_left
    (one_le_pow₀ (by decide : (1 : ℤ) ≤ 2) (n := min s.doubled doublings)) positive
  rw [mul_one] at below
  refine ⟨⟨_, min_le_right .., power⟩, power ▸ below, power ▸ above, fun reached => ?_⟩
  rw [power, min_eq_right reached]

end TrickleRun

namespace Node

variable {n : Node} {dio : DioHeader} {conf : DagConfiguration}

/-- The exponents of a membership joined, clamped, and its timer. -/
theorem joinedMembership_trickle (carried : dio.dagConf = some conf) :
    let dodag := n.joinedMembership dio
    dodag.dioIntervalMin =
        milliSeconds (2 ^ (min conf.intervalMin dioIntervalExponentMax).toNat) ∧
      dodag.dioIntervalDoublings = min conf.intervalDoublings dioIntervalExponentMax ∧
      TrickleRun.Doubles dodag.dioIntervalMin dodag.dioIntervalDoublings.toNat
        { timer := dodag.dioTrickle, now := n.now } := by
  unfold joinedMembership withParameters
  rw [carried]
  refine ⟨rfl, rfl, rfl, rfl, ?_⟩
  simp only [TrickleTimer.start, TrickleTimer.newInterval, TrickleTimer.setParameters,
    Nat.zero_min, pow_zero, mul_one]

theorem clampedExponent_le (octet : UInt8) : (min octet dioIntervalExponentMax).toNat ≤ 20 := by
  change (if octet ≤ dioIntervalExponentMax then octet else dioIntervalExponentMax).toNat ≤ 20
  split
  · next below => exact UInt8.le_iff_toNat_le.mp below
  · decide

/-- Twice Imax is far from the 2^63 ns at which a `Time` would overflow. -/
theorem maxInterval_joinedMembership_lt (carried : dio.dagConf = some conf) :
    0 < (n.joinedMembership dio).dioIntervalMin ∧
      2 * (n.joinedMembership dio).maxInterval < 2 ^ 63 := by
  obtain ⟨least, doublings, -⟩ := joinedMembership_trickle (n := n) carried
  have shortest : 2 ^ (min conf.intervalMin dioIntervalExponentMax).toNat ≤ 2 ^ 20 :=
    Nat.pow_le_pow_right (by decide) (clampedExponent_le conf.intervalMin)
  have times : (2 : ℤ) ^ (min conf.intervalDoublings dioIntervalExponentMax).toNat ≤ 2 ^ 20 :=
    pow_le_pow_right₀ (by decide) (clampedExponent_le conf.intervalDoublings)
  have positive : 0 < 2 ^ (min conf.intervalMin dioIntervalExponentMax).toNat := by positivity
  rw [DodagPlace.maxInterval, least, doublings]
  unfold milliSeconds
  refine ⟨by positivity, ?_⟩
  calc 2 * ((2 ^ (min conf.intervalMin dioIntervalExponentMax).toNat : ℕ) * 1000000 *
        2 ^ (min conf.intervalDoublings dioIntervalExponentMax).toNat)
      ≤ 2 * ((2 ^ 20 : ℕ) * 1000000 * (2 : ℤ) ^ 20) := by gcongr
    _ < 2 ^ 63 := by norm_num

/-- The interval of a membership joined with a DODAG Configuration, over every run: a power of two
times Imin, not above Imax, and at Imax once it has doubled so often.  No duration computed from
it, nor from Imax in the sweep and in the records of ranks, reaches 2^63 ns. -/
theorem trickle_interval_bounds (n : Node) (dio : DioHeader) {conf : DagConfiguration}
    (carried : dio.dagConf = some conf) :
    let dodag := n.joinedMembership dio
    (∀ s, trickleSystem.Steps (fun _ e => e.KeepsParameters)
        { timer := dodag.dioTrickle, now := n.now } s →
      (∃ j ≤ dodag.dioIntervalDoublings.toNat, s.timer.interval = dodag.dioIntervalMin * 2 ^ j) ∧
        dodag.dioIntervalMin ≤ s.timer.interval ∧ s.timer.interval ≤ dodag.maxInterval ∧
        (∀ times : List Time, dodag.dioIntervalDoublings.toNat ≤ s.doubled + times.length →
          (times.foldl TrickleTimer.intervalEvent s.timer).interval = dodag.maxInterval) ∧
        s.timer.interval + s.timer.interval < 2 ^ 63 ∧ s.timer.intervalMax = dodag.maxInterval) ∧
    0 < dodag.dioIntervalMin ∧ 0 < dodag.maxInterval ∧ 2 * dodag.maxInterval < 2 ^ 63 ∧
    ∀ records (place : DodagPlace) now, place.dioIntervalMin = dodag.dioIntervalMin →
      place.dioIntervalDoublings = dodag.dioIntervalDoublings →
      ∀ record ∈ retainRank records place now,
        record ∈ records ∨ record.expires = now + 2 * dodag.maxInterval := by
  intro dodag
  obtain ⟨positive, far⟩ := maxInterval_joinedMembership_lt (n := n) carried
  obtain ⟨-, doublings, started⟩ := joinedMembership_trickle (n := n) carried
  refine ⟨fun s steps => ?_, positive, mul_pos positive (by positivity), far,
    fun records place now sameLeast sameDoublings record kept => ?_⟩
  · have doubles := steps.keeps
      (I := TrickleRun.Doubles dodag.dioIntervalMin dodag.dioIntervalDoublings.toNat)
      (fun _ _ before _ keeps => before.next positive.le keeps) started
    obtain ⟨power, least, greatest, -⟩ := doubles.bounds positive.le
    refine ⟨power, least, greatest, fun times reached => ?_, ?_, doubles.greatest⟩
    · obtain ⟨t, after, timer, doubled⟩ := doubles.intervals positive.le times
      rw [← timer]
      exact (after.bounds positive.le).2.2.2 (doubled ▸ reached)
    · calc s.timer.interval + s.timer.interval ≤ dodag.maxInterval + dodag.maxInterval :=
            add_le_add greatest greatest
        _ = 2 * dodag.maxInterval := (two_mul _).symm
        _ < 2 ^ 63 := far
  · -- The clamp at 30 in the records never bites: the doublings are at most 20.
    have clamped : min place.dioIntervalDoublings 30 = dodag.dioIntervalDoublings := by
      rw [sameDoublings, show dodag.dioIntervalDoublings = _ from doublings]
      exact if_pos (UInt8.le_iff_toNat_le.mpr
        ((clampedExponent_le conf.intervalDoublings).trans (by decide)))
    unfold retainRank at kept
    rw [sameLeast, clamped] at kept
    simp only at kept
    have among : record ∈ (records.filter fun record =>
        !(record.expires ≤ now || record.version = place.version)) ++
          [⟨place.version, place.lowestRankThisVersion, now + 2 * dodag.maxInterval⟩] := by
      split at kept
      · exact List.mem_of_mem_tail kept
      · exact kept
    rcases List.mem_append.mp among with old | new
    · exact .inl (List.mem_filter.mp old).1
    · exact .inr (congrArg RetainedRank.expires (List.mem_singleton.mp new))

/-- A DODAG Configuration with both exponents at 255. -/
theorem trickle_interval_bounds_greatest :
    let conf : DagConfiguration := { intervalMin := 255, intervalDoublings := 255 }
    let dodag := joinedMembership { ipv6 := .ofInterfaces [] } { dagConf := some conf }
    0 < dodag.dioIntervalMin ∧ 2 * dodag.maxInterval < 2 ^ 63 :=
  have bounds := trickle_interval_bounds { ipv6 := .ofInterfaces [] }
    { dagConf := some { intervalMin := 255, intervalDoublings := 255 } } rfl
  ⟨bounds.2.1, bounds.2.2.2.1⟩

end Node

end Rpl
