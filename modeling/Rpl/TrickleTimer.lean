import Rpl.Ipv6

/-!
# Timers, random streams and the Trickle timer

A timer is the time at which it fires, absent when it is not running.  A random
variable is the stream of the values it will yield and how many it has yielded,
so that nothing a handler does depends on anything outside the state.
`TrickleTimer` is `rpl-trickle-timer.cc`: the interval doubling from Imin to
Imax, the consistency counter, and the transmission somewhere in the second half
of the interval.
-/

namespace Rpl

/-! ## Timers and random streams -/

/-- An `ns3::Timer`: when it fires, if it runs. -/
abbrev Timer := Option Time

namespace Timer

def isRunning (timer : Timer) : Bool := timer.isSome

/-- `GetDelayLeft`, zero for a timer that does not run. -/
def delayLeft (timer : Timer) (now : Time) : Time := (timer.map (· - now)).getD 0

end Timer

/-- An `ns3::UniformRandomVariable`. -/
structure RandomStream where
  values : Nat → Nat := fun _ => 0
  used : Nat := 0

namespace RandomStream

/-- The value drawn, between `low` and `high`, and the stream after the draw. -/
def getValue (stream : RandomStream) (low high : Time) : Time × RandomStream :=
  (low + (stream.values stream.used : Int) % (high - low + 1),
    { stream with used := stream.used + 1 })

theorem getValue_range {stream : RandomStream} {low high : Time} (ordered : low ≤ high) :
    low ≤ (stream.getValue low high).1 ∧ (stream.getValue low high).1 ≤ high := by
  have positive : 0 < high - low + 1 := by linarith
  have nonneg := Int.emod_nonneg (stream.values stream.used : Int) positive.ne'
  have below := Int.emod_lt_of_pos (stream.values stream.used : Int) positive
  simp only [getValue]
  constructor <;> grind

end RandomStream

/-! ## The Trickle timer -/

/-- `RplTrickleTimer`. -/
structure TrickleTimer where
  intervalMin : Time := seconds 1
  intervalMax : Time := seconds 1
  interval : Time := seconds 1
  redundancy : UInt8 := 0
  counter : UInt16 := 0
  running : Bool := false
  transmitTimer : Timer := none
  intervalTimer : Timer := none
  rng : RandomStream := {}

namespace TrickleTimer

/-- `SetParameters`. -/
def setParameters (trickle : TrickleTimer) (intervalMin : Time) (doublings redundancy : UInt8) :
    TrickleTimer :=
  { trickle with
    intervalMin := intervalMin
    intervalMax := intervalMin * 2 ^ doublings.toNat
    redundancy := redundancy }

/-- `NewInterval`: the counter restarts and a transmission time is drawn from the second
half of the interval. -/
def newInterval (trickle : TrickleTimer) (now : Time) : TrickleTimer :=
  let draw := trickle.rng.getValue (trickle.interval / 2) trickle.interval
  { trickle with
    counter := 0
    transmitTimer := some (now + draw.1)
    intervalTimer := some (now + trickle.interval)
    rng := draw.2 }

/-- `Start`. -/
def start (trickle : TrickleTimer) (now : Time) : TrickleTimer :=
  newInterval { trickle with running := true, interval := trickle.intervalMin } now

/-- `Stop`. -/
def stop (trickle : TrickleTimer) : TrickleTimer :=
  { trickle with running := false, transmitTimer := none, intervalTimer := none }

/-- `Reset`: no effect on a stopped timer or on one already at its minimum interval. -/
def reset (trickle : TrickleTimer) (now : Time) : TrickleTimer :=
  if !trickle.running || trickle.interval = trickle.intervalMin then trickle
  else newInterval { trickle with interval := trickle.intervalMin } now

/-- `ConsistencyHit`. -/
def consistencyHit (trickle : TrickleTimer) : TrickleTimer :=
  { trickle with counter := trickle.counter + 1 }

/-- `TransmitEvent` calls the callback: suppression is off, or too few consistent
receptions were counted. -/
def transmits (trickle : TrickleTimer) : Bool :=
  trickle.redundancy = 0 || trickle.counter.toNat < trickle.redundancy.toNat

/-- `TransmitEvent`, as far as the timer goes: it has fired. -/
def transmitEvent (trickle : TrickleTimer) : TrickleTimer :=
  { trickle with transmitTimer := none }

/-- `IntervalEvent`: the interval doubles up to its maximum. -/
def intervalEvent (trickle : TrickleTimer) (now : Time) : TrickleTimer :=
  newInterval
    { trickle with interval := min (trickle.interval + trickle.interval) trickle.intervalMax } now

end TrickleTimer

end Rpl
