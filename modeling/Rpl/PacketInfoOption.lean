import Rpl.Forwarding
import Rpl.Lib.Cycle
import Rpl.Step
import Rpl.PacketInfoHeader

/-!
# Loops are detected on the packet

`RplIpv6OptionRpl::Process`: every router on the path compares its rank with the one
the packet carries, and flags a packet that does not move the way it says.  A packet
that goes around a cycle is flagged before it has been around once more, and found
out before it has been around twice, because ranks cannot rise all around a cycle.
-/

namespace Rpl

open Std

/-- The packet `RplIpv6OptionRpl` has acted on last. -/
structure OptionState where
  lastProcessedUid : Nat := 0
  lastProcessedTime : Time
  deriving DecidableEq, Repr

/-- What `Process` leaves behind, returns and reports. -/
structure OptionProcessed where
  node : Node
  state : OptionState
  packet : List UInt8
  size : UInt8
  isDropped : Bool

/-- The packet does not move the way it says: going up, its sender is not further from the
root, or going down, not nearer. -/
def rankInconsistent (down : Bool) (senderRank ownRank : UInt16) : Bool :=
  if down then ownRank ≤ senderRank else senderRank ≤ ownRank

namespace Node

/-- `GetRankForInstance`. -/
def getRankForInstance (n : Node) (instanceId : UInt8) : UInt16 :=
  ((n.findDodagByInstance instanceId).map fun (_, dodag) => dodag.rank).getD infiniteRank

/-- `RplIpv6OptionRpl::Process`. Nothing where the packet ends before the option does, which
the source reads unchecked. -/
def processOption (n : Node) (state : OptionState) (uid : Nat) (packet : List UInt8) (offset : Nat)
    (header : Ipv6Header) : Option OptionProcessed :=
  (PacketInfoHeader.deserialize (packet.drop offset)).map fun (rpi, tail) =>
    let size := UInt8.ofNat rpi.serializedSize
    let rewritten (rpi : PacketInfoHeader) : List UInt8 :=
      packet.take offset ++ (rpi.serialize ++ tail)
    if rpi.malformed then ⟨n, state, packet, 2, true⟩
    else if uid = state.lastProcessedUid ∧ n.now = state.lastProcessedTime then
      ⟨n, state, packet, size, false⟩
    else
      let state : OptionState := { lastProcessedUid := uid, lastProcessedTime := n.now }
      if n.hasHopByHopRoute (clearDFlag rpi.instanceId) header.destination then
        ⟨n, state, rewritten rpi, size, false⟩
      else if rpi.getForwardingError then
        ⟨n.notifyForwardingError rpi.instanceId header.destination, state,
          rewritten (rpi.setForwardingError false), size, false⟩
      else
        let ownRank := n.getRankForInstance rpi.instanceId
        let inconsistent := rankInconsistent rpi.getDown rpi.senderRank ownRank
        let confirmed := inconsistent && rpi.getRankError
        let flagged := if inconsistent && !rpi.getRankError then rpi.setRankError true else rpi
        ⟨if confirmed then n.notifyRankInconsistency rpi.instanceId else n, state,
          rewritten { flagged with senderRank := ownRank }, size, confirmed⟩

end Node

/-! ## One visit -/

/-- A packet at one router on its path: what comes before and after the option, and the IPv6
header over it all. -/
structure Visit where
  node : Node
  state : OptionState
  uid : Nat
  header : Ipv6Header
  front : List UInt8
  back : List UInt8

namespace Visit

/-- The router processes the option once, as it arrives. -/
def process (visit : Visit) (rpi : PacketInfoHeader) : Option OptionProcessed :=
  visit.node.processOption visit.state visit.uid
    (visit.front ++ (rpi.serialize ++ visit.back)) visit.front.length visit.header

/-- The option as the router leaves it, and whether it reports the packet dropped. -/
def step (visit : Visit) (rpi : PacketInfoHeader) : Option (PacketInfoHeader × Bool) :=
  (visit.process rpi).bind fun processed =>
    (PacketInfoHeader.deserialize (processed.packet.drop visit.front.length)).map fun (after, _) =>
      (after, processed.isDropped)

/-- The rank the router has in the instance. -/
def rank (visit : Visit) (instanceId : UInt8) : UInt16 := visit.node.getRankForInstance instanceId

/-- The arrival is not the one handled last, and no hop-by-hop route applies to the packet. -/
structure Applies (visit : Visit) (instanceId : UInt8) : Prop where
  distinct : ¬(visit.uid = visit.state.lastProcessedUid ∧
    visit.node.now = visit.state.lastProcessedTime)
  noRoute :
    visit.node.hasHopByHopRoute (Node.clearDFlag instanceId) visit.header.destination = false

end Visit

namespace PacketInfoHeader

/-- The option after a router of the given rank has checked it. -/
def checked (rpi : PacketInfoHeader) (ownRank : UInt16) : PacketInfoHeader :=
  { (if rankInconsistent rpi.getDown rpi.senderRank ownRank && !rpi.getRankError then
      rpi.setRankError true else rpi) with senderRank := ownRank }

variable (rpi : PacketInfoHeader) (ownRank : UInt16)

@[simp] theorem checked_senderRank : (rpi.checked ownRank).senderRank = ownRank := rfl

@[simp] theorem checked_instanceId : (rpi.checked ownRank).instanceId = rpi.instanceId := by
  unfold checked; split <;> rfl

theorem checked_getFlag {flag : UInt8} (apart : flag &&& hdrOptRankErr = 0) :
    (rpi.checked ownRank).getFlag flag = rpi.getFlag flag := by
  unfold checked
  split
  · exact rpi.getFlag_setFlag_other apart true
  · rfl

@[simp] theorem checked_getDown : (rpi.checked ownRank).getDown = rpi.getDown :=
  rpi.checked_getFlag ownRank (by decide)

@[simp] theorem checked_getForwardingError :
    (rpi.checked ownRank).getForwardingError = rpi.getForwardingError :=
  rpi.checked_getFlag ownRank (by decide)

/-- R is set by an inconsistency, and never cleared. -/
@[simp] theorem checked_getRankError :
    (rpi.checked ownRank).getRankError =
      (rpi.getRankError || rankInconsistent rpi.getDown rpi.senderRank ownRank) := by
  have set : (rpi.setRankError true).getRankError = true := rpi.getFlag_setFlag (by decide) true
  unfold checked
  cases inconsistent : rankInconsistent rpi.getDown rpi.senderRank ownRank with
  | false => exact (Bool.or_false _).symm
  | true =>
    cases before : rpi.getRankError with
    | false => exact set
    | true => exact before

theorem Readable.checked {rpi : PacketInfoHeader} (readable : rpi.Readable) (ownRank : UInt16) :
    (rpi.checked ownRank).Readable := by
  unfold PacketInfoHeader.checked
  split
  · exact ⟨readable.wellFormed, readable.fits⟩
  · exact ⟨readable.wellFormed, readable.fits⟩

end PacketInfoHeader

namespace Visit

/-- What a router makes of an option it checks, through the octets of the packet. -/
theorem step_eq {visit : Visit} {rpi : PacketInfoHeader} (readable : rpi.Readable)
    (applies : visit.Applies rpi.instanceId) (clear : rpi.getForwardingError = false) :
    visit.step rpi = some (rpi.checked (visit.rank rpi.instanceId),
      rankInconsistent rpi.getDown rpi.senderRank (visit.rank rpi.instanceId) &&
        rpi.getRankError) := by
  have processed : visit.process rpi = some
      ⟨if rankInconsistent rpi.getDown rpi.senderRank (visit.rank rpi.instanceId) &&
          rpi.getRankError then visit.node.notifyRankInconsistency rpi.instanceId else visit.node,
        { lastProcessedUid := visit.uid, lastProcessedTime := visit.node.now },
        visit.front ++ ((rpi.checked (visit.rank rpi.instanceId)).serialize ++ visit.back),
        UInt8.ofNat rpi.serializedSize,
        rankInconsistent rpi.getDown rpi.senderRank (visit.rank rpi.instanceId) &&
          rpi.getRankError⟩ := by
    simp only [process, Node.processOption, List.drop_left, List.take_left,
      PacketInfoHeader.deserialize_serialize readable, Option.map_some, readable.wellFormed,
      Bool.false_eq_true, if_false, if_neg applies.distinct, applies.noRoute, clear]
    rfl
  rw [step, processed, Option.bind_some, List.drop_left,
    PacketInfoHeader.deserialize_serialize (readable.checked _), Option.map_some]

/-! ## A path -/

/-- The option as it arrives at a visit of the path. -/
def arrival (visits : Nat → Visit) (rpi : PacketInfoHeader) : Nat → Option PacketInfoHeader
  | 0 => some rpi
  | i + 1 => (arrival visits rpi i).bind fun arriving => ((visits i).step arriving).map Prod.fst

/-- What the router of a visit reports. -/
def reports (visits : Nat → Visit) (rpi : PacketInfoHeader) (i : Nat) : Option Bool :=
  (arrival visits rpi i).bind fun arriving => ((visits i).step arriving).map Prod.snd

/-- An option on its way: as it set out, but for its rank and its R flag. -/
structure Underway (rpi arriving : PacketInfoHeader) : Prop where
  readable : arriving.Readable
  instanceId : arriving.instanceId = rpi.instanceId
  down : arriving.getDown = rpi.getDown
  clear : arriving.getForwardingError = false

variable {visits : Nat → Visit} {rpi : PacketInfoHeader}

theorem Underway.checked {arriving : PacketInfoHeader} (underway : Underway rpi arriving)
    (ownRank : UInt16) : Underway rpi (arriving.checked ownRank) where
  readable := underway.readable.checked ownRank
  instanceId := (arriving.checked_instanceId ownRank).trans underway.instanceId
  down := (arriving.checked_getDown ownRank).trans underway.down
  clear := (arriving.checked_getForwardingError ownRank).trans underway.clear

theorem underway_start (readable : rpi.Readable) (clear : rpi.getForwardingError = false) :
    Underway rpi rpi := ⟨readable, rfl, rfl, clear⟩

/-- The options that arrive, one visit after the other. -/
theorem arrival_underway (start : Underway rpi rpi) {i : Nat}
    (applies : ∀ j < i, (visits j).Applies rpi.instanceId) :
    ∃ arriving, arrival visits rpi i = some arriving ∧ Underway rpi arriving := by
  induction i with
  | zero => exact ⟨rpi, rfl, start⟩
  | succ i ih =>
    obtain ⟨arriving, arrives, underway⟩ := ih fun j below => applies j (by omega)
    have here : (visits i).Applies arriving.instanceId :=
      underway.instanceId ▸ applies i (by omega)
    refine ⟨_, ?_, underway.checked ((visits i).rank arriving.instanceId)⟩
    rw [arrival, arrives, Option.bind_some, step_eq underway.readable here underway.clear,
      Option.map_some]

/-- What one visit makes of the option that arrives. -/
theorem arrival_succ {arriving : PacketInfoHeader} {i : Nat}
    (arrives : arrival visits rpi i = some arriving) (underway : Underway rpi arriving)
    (applies : (visits i).Applies rpi.instanceId) :
    arrival visits rpi (i + 1) = some (arriving.checked ((visits i).rank rpi.instanceId)) ∧
      reports visits rpi i = some
        (rankInconsistent rpi.getDown arriving.senderRank ((visits i).rank rpi.instanceId) &&
          arriving.getRankError) := by
  have here : (visits i).Applies arriving.instanceId := underway.instanceId ▸ applies
  rw [arrival, reports, arrives, Option.bind_some, Option.bind_some,
    step_eq underway.readable here underway.clear, underway.instanceId, underway.down]
  exact ⟨rfl, rfl⟩

/-- On every path, the router of a visit reports the packet dropped exactly when the rank
relation is inconsistent there and R was set on arrival, and R once set is not cleared. -/
def ReportsConfirmed (visits : Nat → Visit) (rpi : PacketInfoHeader) (i : Nat) : Prop :=
  ∃ arriving after, arrival visits rpi i = some arriving ∧
    arrival visits rpi (i + 1) = some after ∧
    (reports visits rpi i = some true ↔
      rankInconsistent arriving.getDown arriving.senderRank
        ((visits i).rank arriving.instanceId) = true ∧ arriving.getRankError = true) ∧
    (arriving.getRankError = true → after.getRankError = true)

theorem reportsConfirmed (start : Underway rpi rpi) {i : Nat}
    (applies : ∀ j ≤ i, (visits j).Applies rpi.instanceId) :
    ReportsConfirmed visits rpi i := by
  obtain ⟨arriving, arrives, underway⟩ :=
    arrival_underway start fun j (below : j < i) => applies j (by omega)
  obtain ⟨next, report⟩ := arrival_succ arrives underway (applies i le_rfl)
  refine ⟨arriving, _, arrives, next, ?_, fun set => ?_⟩
  · rw [report, Option.some.injEq, Bool.and_eq_true, underway.down, underway.instanceId]
  · rw [PacketInfoHeader.checked_getRankError, set, Bool.true_or]

/-! ## A cycle -/

/-- Ranks that go around a cycle are inconsistent with the direction somewhere. -/
theorem exists_inconsistent (ranks : Nat → UInt16) (down : Bool) (start : Nat) {length : Nat}
    (positive : 0 < length) (closed : ranks (start + length) = ranks start) :
    ∃ i < length,
      rankInconsistent down (ranks (start + i)) (ranks (start + i + 1)) = true := by
  cases down with
  | true =>
    obtain ⟨i, below, notLess⟩ := Cycle.exists_not_rel (· < ·)
      (f := fun i => (ranks i).toNat) positive (congrArg UInt16.toNat closed)
    exact ⟨i, below, decide_eq_true (UInt16.le_iff_toNat_le.mpr (Nat.le_of_not_lt notLess))⟩
  | false =>
    obtain ⟨i, below, notGreater⟩ := Cycle.exists_not_rel (· > ·)
      (f := fun i => (ranks i).toNat) positive (congrArg UInt16.toNat closed)
    exact ⟨i, below, decide_eq_true (UInt16.le_iff_toNat_le.mpr (Nat.le_of_not_lt notGreater))⟩

section Cycle

variable (start : Underway rpi rpi) (applies : ∀ i, (visits i).Applies rpi.instanceId)
include start applies

/-- After a visit the option carries the rank of its router. -/
theorem arrival_senderRank (i : Nat) :
    ∃ arriving, arrival visits rpi (i + 1) = some arriving ∧ Underway rpi arriving ∧
      arriving.senderRank = (visits i).rank rpi.instanceId := by
  obtain ⟨before, arrives, underway⟩ :=
    arrival_underway start fun j (_ : j < i) => applies j
  exact ⟨_, (arrival_succ arrives underway (applies i)).1, underway.checked _, rfl⟩

/-- R stays set. -/
theorem rankError_stays {i j : Nat} (later : i ≤ j) {arriving : PacketInfoHeader}
    (arrives : arrival visits rpi i = some arriving) (set : arriving.getRankError = true) :
    ∃ after, arrival visits rpi j = some after ∧ after.getRankError = true := by
  induction j, later using Nat.le_induction with
  | base => exact ⟨arriving, arrives, set⟩
  | succ j _ ih =>
    obtain ⟨before, arrivesBefore, setBefore⟩ := ih
    obtain ⟨same, arrivesSame, underway⟩ :=
      arrival_underway start fun i (_ : i < j) => applies i
    rw [arrivesBefore, Option.some.injEq] at arrivesSame
    subst arrivesSame
    refine ⟨_, (arrival_succ arrivesBefore underway (applies j)).1, ?_⟩
    rw [PacketInfoHeader.checked_getRankError, setBefore, Bool.true_or]

/-- The packet has been around the cycle once more after its first visit: R is set. -/
theorem exists_flagged {length : Nat} (positive : 0 < length)
    (periodic : ∀ i, (visits (i + length)).rank rpi.instanceId = (visits i).rank rpi.instanceId) :
    ∃ i ≤ length + 1, ∃ arriving, arrival visits rpi i = some arriving ∧
      arriving.getRankError = true := by
  obtain ⟨i, below, inconsistent⟩ := exists_inconsistent
    (fun i => (visits i).rank rpi.instanceId) rpi.getDown 0 positive (periodic 0)
  rw [Nat.zero_add] at inconsistent
  obtain ⟨arriving, arrives, underway, sender⟩ := arrival_senderRank start applies i
  refine ⟨i + 1 + 1, by omega, _, (arrival_succ arrives underway (applies (i + 1))).1, ?_⟩
  rw [PacketInfoHeader.checked_getRankError, underway.down, sender, inconsistent, Bool.or_true]

/-- And once more: its loop is reported. -/
theorem exists_reported {length : Nat} (positive : 0 < length)
    (periodic : ∀ i, (visits (i + length)).rank rpi.instanceId = (visits i).rank rpi.instanceId) :
    ∃ i < 2 * length + 1, reports visits rpi i = some true := by
  obtain ⟨flagged, soon, first, arrivesFirst, set⟩ := exists_flagged start applies positive periodic
  obtain ⟨i, below, inconsistent⟩ := exists_inconsistent
    (fun i => (visits i).rank rpi.instanceId) rpi.getDown length positive (periodic length)
  obtain ⟨arriving, arrives, underway, sender⟩ := arrival_senderRank start applies (length + i)
  obtain ⟨after, arrivesAfter, setAfter⟩ :=
    rankError_stays start applies (show flagged ≤ length + i + 1 by omega) arrivesFirst set
  rw [arrives, Option.some.injEq] at arrivesAfter
  subst arrivesAfter
  refine ⟨length + i + 1, by omega, ?_⟩
  rw [(arrival_succ arrives underway (applies _)).2, sender, inconsistent, setAfter, Bool.and_true]

end Cycle

/-- On every path the drop is reported exactly at an inconsistency met with R set, and around a
cycle of `length` routers R is set after at most `length + 1` visits and the drop reported
within `2 * length + 1`. -/
theorem loopDetected (readable : rpi.Readable) (clear : rpi.getForwardingError = false) :
    (∀ i, (∀ j ≤ i, (visits j).Applies rpi.instanceId) → ReportsConfirmed visits rpi i) ∧
      ∀ length, 0 < length → (∀ i, (visits i).Applies rpi.instanceId) →
        (∀ i, (visits (i + length)).rank rpi.instanceId = (visits i).rank rpi.instanceId) →
        (∃ i ≤ length + 1, ∃ arriving, arrival visits rpi i = some arriving ∧
          arriving.getRankError = true) ∧
        ∃ i < 2 * length + 1, reports visits rpi i = some true := by
  have start := underway_start readable clear
  exact ⟨fun _ applies => reportsConfirmed start applies, fun _ positive applies periodic =>
    ⟨exists_flagged start applies positive periodic,
      exists_reported start applies positive periodic⟩⟩

/-- A packet going up its DODAG, at a router of the rank. -/
def circlingAt (rank : UInt16) : Visit :=
  let dodag : DodagMembership :=
    { instanceId := 0, dodagId := 0x20010db8000000000000000000000001#128, rank := rank }
  { node := { ipv6 := Node.leafIpv6, dodags := ExtTreeMap.empty.insert dodag.key dodag, now := 1 }
    state := { lastProcessedTime := 0 }
    uid := 1
    header :=
      { source := 0x20010db8000000000000000000000008#128
        destination := 0x20010db8000000000000000000000009#128
        nextHeader := nextHeaderHopByHop
        hopLimit := 64 }
    front := [59, 0]
    back := [] }

/-- Three routers, of ranks 768, 512 and 256, the last of which sends back to the first. -/
def circling (i : Nat) : Visit :=
  circlingAt (if i % 3 = 0 then 768 else if i % 3 = 1 then 512 else 256)

/-- R is set within four visits, and the packet reported within seven. -/
theorem circling_reported :
    (∃ i ≤ 4, ∃ arriving,
      arrival circling (.ofPacketInfo { down := false, instanceId := 0, senderRank := 1024 }) i =
        some arriving ∧ arriving.getRankError = true) ∧
    ∃ i < 7, reports circling
      (.ofPacketInfo { down := false, instanceId := 0, senderRank := 1024 }) i = some true := by
  have applies (i : Nat) : (circling i).Applies 0 := by
    have cases : i % 3 = 0 ∨ i % 3 = 1 ∨ i % 3 = 2 := by omega
    unfold circling
    rcases cases with first | second | third
    · rw [first]
      exact ⟨by decide, by decide +kernel⟩
    · rw [second]
      exact ⟨by decide, by decide +kernel⟩
    · rw [third]
      exact ⟨by decide, by decide +kernel⟩
  exact (loopDetected (PacketInfoHeader.readable_ofPacketInfo _) (by decide)).2 3 (by decide)
    applies fun i => by rw [circling, circling, Nat.add_mod_right]

end Visit

end Rpl
