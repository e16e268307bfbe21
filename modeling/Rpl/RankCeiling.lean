import Rpl.Lib.RecentTable
import Rpl.ParentChoice
import Rpl.WellFormed

/-!
# The rank stays under its ceiling

A node must not let its rank in a DODAG Version rise more than DAGMaxRankIncrease
above the lowest it has had there.  What that lowest rank is, the history says: it
goes down with every rank taken, and a membership of a Version that was left before
takes it up again, unless the leave was two Imax ago or four other Versions have been
left since.  The rank trail reads this off the times of the joins and leaves, and the
node's own records never differ from it.
-/

namespace Rpl

open Std

/-! ## The rank trail -/

/-- A membership as the history tells of it. -/
structure Tenure where
  version : UInt8
  mop : UInt8
  /-- The lowest rank held in the Version. -/
  lowest : UInt16

/-- A membership that has ended, as the history tells of it. -/
structure Departure where
  version : UInt8
  /-- The lowest rank held in the Version. -/
  lowest : UInt16
  time : Time
  imax : Time

namespace Departure

/-- When the node no longer holds itself to it. -/
def lapses (departure : Departure) : Time := departure.time + 2 * departure.imax

/-- The record a node makes of it. -/
def record (departure : Departure) : RetainedRank :=
  ⟨departure.version, departure.lowest, departure.lapses⟩

end Departure

/-- What the history tells of one DODAG: the membership there is, and those that have ended, the
latest first. -/
structure RankTrail where
  current : Option Tenure := none
  departures : List Departure := []

namespace RankTrail

/-- The departure from the Version that a membership goes back to: the latest, unless it has
lapsed, or there were once four departures after it that had not. -/
def connected (trail : RankTrail) (version : UInt8) (time : Time) : Option Departure :=
  RecentTable.standing Departure.version Departure.time Departure.lapses retainedVersions
    trail.departures version time

/-- A Version is entered. The ranks held in it before count if it is connected to them. -/
def join (trail : RankTrail) (time : Time) (version mop : UInt8) : RankTrail :=
  { trail with
    current := some
      { version := version
        mop := mop
        lowest := ((trail.connected version time).map Departure.lowest).getD infiniteRank } }

/-- A rank is taken. -/
def take (trail : RankTrail) (rank : UInt16) : RankTrail :=
  { trail with
    current := trail.current.map fun tenure => { tenure with lowest := min tenure.lowest rank } }

/-- The membership ends. A temporary one leaves nothing. -/
def leave (trail : RankTrail) (time imax : Time) : RankTrail :=
  { current := none
    departures :=
      match trail.current with
      | some tenure =>
        if tenure.mop = mopP2pRouteDiscovery then trail.departures
        else ⟨tenure.version, tenure.lowest, time, imax⟩ :: trail.departures
      | none => trail.departures }

/-- What a milestone adds to the trail of the DODAG. -/
def step (key : DodagKey) (milestone : Milestone) (trail : RankTrail) : RankTrail :=
  match milestone with
  | .joined other time version mop _ => if other = key then trail.join time version mop else trail
  | .ranked other rank => if other = key then trail.take rank else trail
  | .left other time imax => if other = key then trail.leave time imax else trail

end RankTrail

/-- The trail of a DODAG through the history, the latest milestone of which comes first. -/
def rankTrail (key : DodagKey) (history : List Milestone) : RankTrail :=
  history.foldr (RankTrail.step key) {}

/-- The lowest rank held in the current Version of the DODAG. -/
def lowestRankHeld (key : DodagKey) (history : List Milestone) : UInt16 :=
  ((rankTrail key history).current.map Tenure.lowest).getD infiniteRank

/-! ## A node's own account -/

theorem toNat_min (a b : UInt16) : (min a b).toNat = min a.toNat b.toNat := by
  change (if a ≤ b then a else b).toNat = min a.toNat b.toNat
  split
  · next below => exact (min_eq_left (UInt16.le_iff_toNat_le.mp below)).symm
  · next above =>
    exact (min_eq_right
      (Nat.le_of_not_le fun below => above (UInt16.le_iff_toNat_le.mpr below))).symm

/-- The rank is infinite, or between L and L + DAGMaxRankIncrease. -/
def DodagPlace.WithinCeiling (place : DodagPlace) : Prop :=
  place.rank = infiniteRank ∨
    place.lowestRankThisVersion ≤ place.rank ∧ place.rank.toNat ≤ place.rankCeiling

theorem DodagPlace.withinCeiling_adoptParent (place : DodagPlace) (best : Candidate) :
    (place.adoptParent best).WithinCeiling := by
  by_cases above : place.rankCeiling < best.rank.toNat
  · exact .inl (if_pos above)
  · have rank : (place.adoptParent best).rank = best.rank := if_neg above
    have lowest : (place.adoptParent best).lowestRankThisVersion =
        min place.lowestRankThisVersion best.rank := if_neg above
    have within : best.rank.toNat ≤
        place.lowestRankThisVersion.toNat + place.maxRankIncrease.toNat := Nat.le_of_not_lt above
    rw [WithinCeiling, rankCeiling, rank, lowest, UInt16.le_iff_toNat_le, toNat_min]
    change _ ∨ _ ∧ best.rank.toNat ≤ _ + place.maxRankIncrease.toNat
    omega

theorem min_infinite (rank : UInt16) : min rank infiniteRank = rank := by
  rw [← UInt16.toNat_inj, toNat_min]
  exact min_eq_left (toNat_le_infinite rank)

theorem DodagPlace.lowestRank_adoptParent (place : DodagPlace) (best : Candidate) :
    (place.adoptParent best).lowestRankThisVersion =
      min place.lowestRankThisVersion (place.adoptParent best).rank := by
  change (if _ then _ else _) = min _ (place.ceiled best.rank)
  unfold ceiled
  split
  · rw [min_infinite]
  · rfl

/-- A membership and what the trail has of it. -/
inductive Tracks : Option Member → Option Tenure → Prop
  | absent : Tracks none none
  | root {member : Member} (root : member.place.isRoot = true) : Tracks (some member) none
  | temporary {member : Member} {lowest : UInt16} (notRoot : member.place.isRoot = false)
      (temporary : member.place.isTemporary = true) :
      Tracks (some member) (some ⟨member.place.version, member.place.mop, lowest⟩)
  | lasting {member : Member} (notRoot : member.place.isRoot = false)
      (lasting : member.place.isTemporary = false) (within : member.place.WithinCeiling) :
      Tracks (some member)
        (some ⟨member.place.version, member.place.mop, member.place.lowestRankThisVersion⟩)

namespace Standing

def trail (s : Standing) (key : DodagKey) : RankTrail := rankTrail key s.history

/-- The node's account of the DODAG is the one the history gives. -/
structure Agrees (s : Standing) (key : DodagKey) : Prop where
  tracks : Tracks s.held[key]? (s.trail key).current
  records : s.retained[key]?.getD [] =
    ((RecentTable.table Departure.version Departure.time Departure.lapses retainedVersions
      (s.trail key).departures).map Departure.record).reverse
  past : ∀ departure ∈ (s.trail key).departures, departure.time ≤ s.now

variable {s after : Standing} {key other : DodagKey}

/-- An edit that leaves all that is about a DODAG as it was. -/
theorem Agrees.same (agrees : s.Agrees key) (held : after.held[key]? = s.held[key]?)
    (retained : after.retained[key]? = s.retained[key]?)
    (trail : after.trail key = s.trail key) (forward : s.now ≤ after.now) : after.Agrees key where
  tracks := by
    rw [held, trail]
    exact agrees.tracks
  records := by
    rw [retained, trail]
    exact agrees.records
  past departure mem := by
    rw [trail] at mem
    exact (agrees.past departure mem).trans forward

/-- A membership that is put in place of another, the trail being as it was. -/
theorem Agrees.put {member : Member} (agrees : s.Agrees other)
    (tracks : other = key → Tracks (some member) (s.trail other).current) :
    (s.put key member).Agrees other := by
  refine ⟨?_, agrees.records, agrees.past⟩
  rw [held_put]
  split
  · next here => exact tracks here
  · exact agrees.tracks

theorem Agrees.claimBase {place : DodagPlace} (agrees : s.Agrees other) :
    (s.claimBase key place).Agrees other := by
  refine agrees.same ?_ ?_ ?_ ?_
  · rw [claimBase_held]
  · rw [claimBase_retained]
  · rw [trail, claimBase_history]
    rfl
  · rw [claimBase_now]

theorem trail_mark_joined {time : Time} {version mop : UInt8} {records : List RetainedRank} :
    (s.mark (.joined key time version mop records)).trail other =
      if key = other then (s.trail other).join time version mop else s.trail other := rfl

theorem trail_mark_ranked {rank : UInt16} :
    (s.mark (.ranked key rank)).trail other =
      if key = other then (s.trail other).take rank else s.trail other := rfl

theorem trail_leave {member : Member} {poison : Bool} (held : s.held[key]? = some member) :
    (s.leave key poison).trail other =
      if key = other then (s.trail other).leave s.now member.place.imax else s.trail other := by
  have history : (s.leave key poison).history =
      .left key s.now member.place.imax :: s.history := by
    rw [leave, held]
    dsimp only
    split
    · rfl
    · rfl
  rw [trail, history]
  rfl

theorem retained_leave {member : Member} {poison : Bool} (held : s.held[key]? = some member) :
    (s.leave key poison).retained = s.recordsAfter key member := by
  rw [leave, held]
  dsimp only
  split
  · rfl
  · rfl

/-! ## Leaving -/

/-- A leave does with the records what a departure does with those before it. -/
theorem retainRank_table {place : DodagPlace} {departure : Departure}
    {departures : List Departure} (version : departure.version = place.version)
    (lowest : departure.lowest = place.lowestRankThisVersion)
    (imax : departure.imax = place.imax) :
    Node.retainRank ((RecentTable.table Departure.version Departure.time Departure.lapses
        retainedVersions departures).map Departure.record).reverse place departure.time =
      ((RecentTable.table Departure.version Departure.time Departure.lapses retainedVersions
        (departure :: departures)).map Departure.record).reverse := by
  have few := @RecentTable.length_table_le Departure UInt8 Time _ _ Departure.version
    Departure.time Departure.lapses retainedVersions departures
  rw [RecentTable.table]
  generalize RecentTable.table Departure.version Departure.time Departure.lapses retainedVersions
    departures = table at few
  have spared : ((table.map Departure.record).reverse.filter fun record =>
      !(record.expires ≤ departure.time || record.version = place.version)) =
      ((RecentTable.spares Departure.version Departure.time Departure.lapses departure
        table).map Departure.record).reverse := by
    rw [List.filter_reverse, List.filter_map, RecentTable.spares]
    congr 2
    refine List.filter_congr fun other _ => ?_
    change (!(decide (other.lapses ≤ departure.time) || decide (other.version = place.version))) = _
    rw [Bool.eq_iff_iff, version]
    simp only [Bool.not_or, Bool.and_eq_true, Bool.not_eq_true', decide_eq_false_iff_not,
      Int.not_le, decide_eq_true_eq, ne_eq]
  have size := List.length_filter_le (fun other => decide (departure.time < other.lapses) &&
    decide (other.version ≠ departure.version)) table
  change (RecentTable.spares Departure.version Departure.time Departure.lapses departure
    table).length ≤ _ at size
  have last : (⟨place.version, place.lowestRankThisVersion, departure.time + 2 *
      (place.dioIntervalMin * 2 ^ (min place.dioIntervalDoublings 30).toNat)⟩ : RetainedRank) =
      departure.record := by
    rw [Departure.record, Departure.lapses, version, lowest, imax]
    rfl
  unfold Node.retainRank
  dsimp only
  rw [spared, last, ← List.reverse_cons, ← List.map_cons, List.length_reverse, List.length_map,
    List.length_cons]
  generalize RecentTable.spares Departure.version Departure.time Departure.lapses departure table =
    kept at size
  split
  · next full =>
    have all : (departure :: kept).length - 1 = retainedVersions := by
      rw [List.length_cons]
      omega
    rw [List.tail_reverse, ← List.map_dropLast, List.dropLast_eq_take, all]
  · next room =>
    rw [List.take_of_length_le (Nat.le_of_not_lt room)]

/-- What a membership leaves behind is what the history keeps of it. A root is left only if it
is temporary. -/
theorem Agrees.leave {member : Member} {poison : Bool} (agrees : s.Agrees other)
    (held : s.held[key]? = some member)
    (rooted : member.place.isRoot = true → member.place.isTemporary = true) :
    (s.leave key poison).Agrees other := by
  by_cases here : key = other
  · subst here
    have tracks := agrees.tracks
    rw [held] at tracks
    -- what a temporary membership leaves, or a root's
    have nothing (temporary : member.place.isTemporary = true)
        (same : ((s.trail key).leave s.now member.place.imax).departures =
          (s.trail key).departures) : (s.leave key poison).Agrees key := by
      refine ⟨?_, ?_, ?_⟩
      · rw [held_leave, if_pos rfl, trail_leave held, if_pos rfl]
        exact .absent
      · rw [retained_leave held, recordsAfter, if_pos temporary, trail_leave held, if_pos rfl, same]
        exact agrees.records
      · rw [trail_leave held, if_pos rfl, same, leave_now]
        exact agrees.past
    cases current : (s.trail key).current with
    | none =>
      rw [current] at tracks
      cases tracks with
      | root root => exact nothing (rooted root) (by rw [RankTrail.leave, current])
    | some tenure =>
      rw [current] at tracks
      cases tracks with
      | temporary notRoot temporary =>
        refine nothing temporary ?_
        rw [RankTrail.leave, current]
        exact if_pos (of_decide_eq_true temporary)
      | lasting notRoot lasting within =>
        have departs : ((s.trail key).leave s.now member.place.imax).departures =
            ⟨member.place.version, member.place.lowestRankThisVersion, s.now,
              member.place.imax⟩ :: (s.trail key).departures := by
          rw [RankTrail.leave, current]
          exact if_neg (of_decide_eq_false lasting)
        refine ⟨?_, ?_, ?_⟩
        · rw [held_leave, if_pos rfl, trail_leave held, if_pos rfl]
          exact .absent
        · rw [retained_leave held, recordsAfter, lasting, if_neg Bool.false_ne_true,
            ExtTreeMap.getElem?_insert_self, Option.getD_some, trail_leave held, if_pos rfl,
            departs, agrees.records]
          exact @retainRank_table member.place
            ⟨member.place.version, member.place.lowestRankThisVersion, s.now, member.place.imax⟩
            _ rfl rfl rfl
        · rw [trail_leave held, if_pos rfl, departs, leave_now]
          exact List.forall_mem_cons.mpr ⟨Int.le_refl _, agrees.past⟩
  · refine agrees.same ?_ ?_ ?_ ?_
    · rw [held_leave, if_neg (Ne.symm here)]
    · rw [retained_leave held, recordsAfter]
      split
      · rfl
      · rw [OrderedMap.getElem?_insert_eq, if_neg (Ne.symm here)]
    · rw [trail_leave held, if_neg here]
    · rw [leave_now]

/-! ## Joining -/

/-- The lowest rank a membership starts with is the one the history gives it. -/
theorem Agrees.retainedLowest (agrees : s.Agrees key) (version : UInt8) :
    s.retainedLowest key version =
      (((s.trail key).connected version s.now).map Departure.lowest).getD infiniteRank := by
  have read := @RecentTable.find?_table Departure UInt8 Time _ _ Departure.version Departure.time
    Departure.lapses retainedVersions (s.trail key).departures s.now version (by decide)
    agrees.past
  rw [RankTrail.connected, ← read, Standing.retainedLowest, unexpired, agrees.records,
    List.filter_filter, List.filter_reverse, List.getLast?_reverse, List.head?_filter,
    List.find?_map, Option.map_map]
  congr 2
  refine List.find?_congr fun departure _ => ?_
  exact Bool.and_comm _ _

theorem Agrees.join {place : DodagPlace} (agrees : s.Agrees other) (fresh : s.Fresh key place) :
    (s.join key place).Agrees other := by
  refine Agrees.claimBase ?_
  by_cases here : key = other
  · subst here
    have joined : ((s.put key ⟨place, false, false⟩).mark
        (.joined key s.now place.version place.mop (s.unexpired key))).trail key =
        (s.trail key).join s.now place.version place.mop := by
      rw [trail_mark_joined, if_pos rfl]
      rfl
    refine ⟨?_, ?_, ?_⟩
    · rw [joined, mark_held, held_put, if_pos rfl]
      have lowest := fresh.lowest
      rw [agrees.retainedLowest] at lowest
      change Tracks _ (some ⟨place.version, place.mop, _⟩)
      cases temporary : place.isTemporary with
      | true => exact @Tracks.temporary ⟨place, false, false⟩ _ fresh.notRoot temporary
      | false =>
        have tracks :=
          @Tracks.lasting ⟨place, false, false⟩ fresh.notRoot temporary (.inl fresh.rank)
        rw [lowest] at tracks
        exact tracks
    · rw [joined]
      exact agrees.records
    · rw [joined]
      exact agrees.past
  · refine agrees.same ?_ rfl ?_ (Int.le_refl _)
    · rw [mark_held, held_put, if_neg (Ne.symm here)]
    · rw [trail_mark_joined, if_neg here]
      rfl

/-! ## Taking a rank -/

/-- The rank a selection takes is the rank the history tells of. -/
theorem Agrees.take {member : Member} {parents : ExtTreeMap Ipv6Address Parent} {best : Candidate}
    (agrees : s.Agrees other) (held : s.held[key]? = some member)
    (notRoot : member.place.isRoot = false) {place : DodagPlace}
    (chosen : place = { member.place with parents := parents }.adoptParent best) :
    ((s.put key { member with place := place }).mark (.ranked key place.rank)).Agrees other := by
  by_cases here : key = other
  · subst here
    have tracks := agrees.tracks
    rw [held] at tracks
    have ranked : ((s.put key { member with place := place }).mark (.ranked key place.rank)).trail
        key = (s.trail key).take place.rank := by
      rw [trail_mark_ranked, if_pos rfl]
      rfl
    refine ⟨?_, by rw [ranked]; exact agrees.records, by rw [ranked]; exact agrees.past⟩
    rw [ranked, mark_held, held_put, if_pos rfl]
    change Tracks _ ((s.trail key).current.map fun tenure =>
      { tenure with lowest := min tenure.lowest place.rank })
    generalize (s.trail key).current = tenure at tracks
    have stillNotRoot : place.isRoot = false := by rw [chosen]; exact notRoot
    have lowest : place.lowestRankThisVersion =
        min member.place.lowestRankThisVersion place.rank := by
      rw [chosen]
      exact DodagPlace.lowestRank_adoptParent ..
    have within : place.WithinCeiling := by
      rw [chosen]
      exact DodagPlace.withinCeiling_adoptParent ..
    have version : place.version = member.place.version := by rw [chosen]; rfl
    have mop : place.mop = member.place.mop := by rw [chosen]; rfl
    cases tracks with
    | root root => exact absurd (notRoot.symm.trans root) Bool.false_ne_true
    | temporary _ temporary =>
      rw [Option.map_some, ← version, ← mop]
      exact @Tracks.temporary { member with place := place } _ stillNotRoot
        (by rw [DodagPlace.isTemporary, mop]; exact temporary)
    | lasting _ lasting _ =>
      rw [Option.map_some, ← version, ← mop, ← lowest]
      exact @Tracks.lasting { member with place := place } stillNotRoot
        (by rw [DodagPlace.isTemporary, mop]; exact lasting) within
  · refine agrees.same ?_ rfl ?_ (Int.le_refl _)
    · rw [mark_held, held_put, if_neg (Ne.symm here)]
    · rw [trail_mark_ranked, if_neg here]
      rfl

/-- A membership rewritten outside what the trail has of it. -/
theorem Agrees.rewrite {member rewritten : Member} (agrees : s.Agrees other)
    (held : s.held[key]? = some member)
    (same : ∀ tenure, Tracks (some member) tenure → Tracks (some rewritten) tenure) :
    (s.put key rewritten).Agrees other := by
  refine agrees.put fun here => same _ ?_
  rw [← held, ← here]
  exact agrees.tracks

end Standing

/-- The neighbours of a membership have no part in the trail, nor have its timers. -/
theorem Tracks.rewrite {member : Member} {tenure : Option Tenure}
    (tracks : Tracks (some member) tenure) {parents : ExtTreeMap Ipv6Address Parent}
    {expires repairs : Bool} :
    Tracks (some ⟨{ member.place with parents := parents }, expires, repairs⟩) tenure := by
  cases tracks with
  | root root => exact .root root
  | temporary notRoot temporary =>
    exact @Tracks.temporary ⟨{ member.place with parents := parents }, expires, repairs⟩ _ notRoot
      temporary
  | lasting notRoot lasting within =>
    exact @Tracks.lasting ⟨{ member.place with parents := parents }, expires, repairs⟩ notRoot
      lasting within

/-- Only the trail of a root stays empty. -/
theorem Tracks.of_root {member other : Member} {tenure : Option Tenure}
    (tracks : Tracks (some member) tenure) (root : member.place.isRoot = true)
    (stillRoot : other.place.isRoot = true) : Tracks (some other) tenure := by
  cases tracks with
  | root => exact .root stillRoot
  | temporary notRoot => exact absurd (notRoot.symm.trans root) Bool.false_ne_true
  | lasting notRoot => exact absurd (notRoot.symm.trans root) Bool.false_ne_true

/-! ## The invariant -/

namespace Standing

variable {s after : Standing} {key other : DodagKey}

theorem Agrees.settled {f : ExtTreeMap Ipv6Address Parent → ExtTreeMap Ipv6Address Parent}
    (agrees : s.Agrees other) (settled : s.Settled key f after) : after.Agrees other := by
  cases settled with
  | absent absent => exact agrees
  | root held root => exact agrees.rewrite held fun _ tracks => tracks.rewrite
  | kept held notRoot same => exact agrees.rewrite held fun _ tracks => tracks.rewrite
  | lost held notRoot gone =>
    exact agrees.leave held fun root => absurd (notRoot.symm.trans root) Bool.false_ne_true
  | taken held notRoot found => exact agrees.take held notRoot rfl

/-- A temporary membership takes another Version. -/
theorem Agrees.adopt {member : Member} {version : UInt8} (agrees : s.Agrees other)
    (notRoot : member.place.isRoot = false) (temporary : member.place.isTemporary = true) :
    (s.adopt key member version).Agrees other := by
  by_cases here : key = other
  · subst here
    have adopted : (s.adopt key member version).trail key =
        (s.trail key).join s.now version member.place.mop := by
      rw [Standing.adopt, trail_mark_joined, if_pos rfl]
      rfl
    refine ⟨?_, by rw [adopted]; exact agrees.records, by rw [adopted]; exact agrees.past⟩
    rw [adopted, Standing.adopt, mark_held, held_put, if_pos rfl]
    exact @Tracks.temporary { member with place := { member.place with version := version } } _
      notRoot temporary
  · refine agrees.same ?_ rfl ?_ (Int.le_refl _)
    · rw [Standing.adopt, mark_held, held_put, if_neg (Ne.symm here)]
    · rw [Standing.adopt, trail_mark_joined, if_neg here]
      rfl

theorem Agrees.arm {member : Member} (agrees : s.Agrees other)
    (held : s.held[key]? = some member) : (s.arm key).Agrees other := by
  refine ⟨?_, agrees.records, agrees.past⟩
  rw [held_arm]
  split
  · next here =>
    have tracks := agrees.tracks
    rw [here, held] at tracks
    rw [held, here]
    exact tracks.rewrite
  · exact agrees.tracks

end Standing

open Standing in
theorem Edit.agrees {policy : Policy} {s after : Standing} {key : DodagKey}
    (edit : Edit policy s after) (sound : s.Sound) (agrees : s.Agrees key) : after.Agrees key := by
  cases edit with
  | elapse later forward => exact agrees.same rfl rfl rfl forward
  | attach sockets loopback => exact agrees.same rfl rfl rfl (Int.le_refl _)
  | @create own member absent root keyed expires =>
    refine Agrees.claimBase (agrees.put fun here => ?_)
    have tracks := agrees.tracks
    rw [here, absent] at tracks
    rw [here]
    generalize (s.trail own).current = tenure at tracks
    cases tracks
    exact .root root
  | configure held root temporary stillRoot keyed stillTemporary =>
    exact agrees.rewrite held fun _ tracks => tracks.of_root root stillRoot
  | repair held repairs =>
    have root := (sound.members _ _ held).repairs repairs
    exact agrees.rewrite held fun _ tracks => tracks.of_root root root
  | settle settled => exact agrees.settled settled
  | join absent fresh newer enters => exact agrees.join fresh
  | migrate held notRoot lasting fresh discovers enters moves =>
    have left (other : DodagKey) (agrees : s.Agrees other) : (s.leave _ false).Agrees other :=
      agrees.leave held fun root => absurd (notRoot.symm.trans root) Bool.false_ne_true
    exact (left _ agrees).join fresh
  | adopt held notRoot temporary moves => exact agrees.adopt notRoot temporary
  | arm held discovers rooted => exact agrees.arm held
  | giveUp held discovers rooted => exact agrees.leave held rooted
  | expire held expires => exact agrees.leave held ((sound.members _ _ held).deadline expires)

theorem keeps_agrees (policy : Policy) :
    TransitionSystem.Keeps (Edit policy) fun s => s.Sound ∧ ∀ key, s.Agrees key :=
  fun _ _ edit holds =>
    ⟨keeps_sound policy edit holds.1, fun key => edit.agrees holds.1 (holds.2 key)⟩

namespace Node

theorem Initial.agrees {n : Node} (initial : n.Initial) (key : DodagKey) :
    n.standing.Agrees key := by
  have trail : n.standing.trail key = {} := by
    rw [Standing.trail, standing_history, initial.history]
    rfl
  refine ⟨?_, ?_, fun departure mem => ?_⟩
  · rw [trail, standing_held, initial.dodags, ExtTreeMap.getElem?_empty]
    exact .absent
  · rw [trail, standing_retained, initial.retainedRank, ExtTreeMap.getElem?_empty]
    rfl
  · rw [trail] at mem
    cases mem

/-- In every node that can be reached, a finite rank in a lasting DODAG it does not root is at
least the lowest rank it has held in the Version, and at most DAGMaxRankIncrease above it. -/
theorem rank_within_of_reachable {n : Node} (reachable : nodeSystem.Reachable n) {key : DodagKey}
    {dodag : DodagMembership} (held : n.dodags[key]? = some dodag) (notRoot : dodag.isRoot = false)
    (lasting : dodag.mop ≠ mopP2pRouteDiscovery) (finite : dodag.rank ≠ infiniteRank) :
    lowestRankHeld key n.history ≤ dodag.rank ∧
      dodag.rank.toNat ≤ (lowestRankHeld key n.history).toNat + dodag.maxRankIncrease.toNat := by
  have agrees := (invariant_of_edits (fun _ initial => ⟨initial.sound, initial.agrees⟩)
    (keeps_agrees .any) (run_any_of_reachable reachable)).2 key
  have tracks := agrees.tracks
  rw [held_member held] at tracks
  rw [lowestRankHeld]
  change Tracks _ (rankTrail key n.history).current at tracks
  generalize (rankTrail key n.history).current = tenure at tracks
  cases tracks with
  | root root => exact absurd (notRoot.symm.trans root) Bool.false_ne_true
  | temporary _ temporary => exact absurd (of_decide_eq_true temporary) lasting
  | lasting _ _ within => exact within.resolve_left finite

/-- A DIO of the DODAG of 2001:db8::1 from a neighbour at the rank. -/
def ceilingDio (rank : UInt16) : DioHeader :=
  { rank := rank, dodagId := 0x20010db8000000000000000000000001#128 }

/-- A router that has joined the DODAG at rank 256, gone on at rank 512, left it for want of a
neighbour, and joined it again at rank 768. -/
def reranked : Node :=
  ((((started leafIpv6).apply (hears (ceilingDio 128))).apply (hears (ceilingDio 384))).apply
    (hears (ceilingDio infiniteRank))).apply (hears (ceilingDio 640))

/-- The rank of 256 it has held before the leave still counts, and it may rise 1024 above it. -/
theorem reranked_within :
    ∃ dodag, reranked.dodags[(ceilingDio 0).key]? = some dodag ∧ dodag.rank = 768 ∧
      lowestRankHeld (ceilingDio 0).key reranked.history = 256 ∧
      lowestRankHeld (ceilingDio 0).key reranked.history ≤ dodag.rank ∧
      dodag.rank.toNat ≤
        (lowestRankHeld (ceilingDio 0).key reranked.history).toNat +
          dodag.maxRankIncrease.toNat := by
  have outcome : (reranked.dodags[(ceilingDio 0).key]?).map
      (fun dodag => (dodag.isRoot, dodag.mop, dodag.rank)) = some (false, 1, 768) ∧
      lowestRankHeld (ceilingDio 0).key reranked.history = 256 := by
    decide +kernel
  obtain ⟨dodag, held, fields⟩ := Option.map_eq_some_iff.mp outcome.1
  simp only [Prod.mk.injEq] at fields
  obtain ⟨notRoot, mop, rank⟩ := fields
  have reachable : nodeSystem.Reachable reranked :=
    run_hears (run_hears (run_hears (run_hears (started_run leafIpv6) (started_listens _) trivial)
      (by decide +kernel) trivial) (by decide +kernel) trivial) (by decide +kernel) trivial
  exact ⟨dodag, held, rank, outcome.2, rank_within_of_reachable reachable held notRoot
    (by rw [mop]; decide) (by rw [rank]; decide)⟩

end Node

end Rpl
