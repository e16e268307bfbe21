import Rpl.ParentChoice
import Rpl.WellFormed

/-!
# How near to the root a chosen parent is

A parent that is chosen advertises less than the rank the node enters the evaluation
with plus one MinHopRankIncrease, so that it has not derived its rank from the
node's.  The bound goes by the rank at the start of each evaluation: a rank that has
risen in one evaluation lets more parents in at the next.  Over any number of
evaluations the parents of finite ranks stay one MinHopRankIncrease below
L + DAGMaxRankIncrease.
-/

namespace Rpl

open Std

/-! ## One evaluation -/

namespace DodagPlace

variable {place : DodagPlace}

/-- The bound is at most one MinHopRankIncrease above the rank. -/
theorem lt_of_closer {parent : Parent} (finite : place.rank ≠ infiniteRank)
    (parentFinite : parent.rank ≠ infiniteRank) (close : place.closer parent = true) :
    parent.rank.toNat < place.rank.toNat + place.minHopRankIncrease.toNat ∨
      parent.rank.toNat < place.rank.toNat := by
  rw [closer, Bool.or_eq_true, decide_eq_true_eq, decide_eq_true_eq] at close
  unfold rankBound at close
  split at close
  · left
    rcases close with unbounded | below
    · have top : infiniteRank.toNat ≤ place.rank.toNat + place.minHopRankIncrease.toNat := by
        by_contra under
        have same := congrArg UInt16.toNat unbounded
        rw [clampRank, if_neg under, UInt16.toNat_ofNat'] at same
        have most : infiniteRank.toNat = 65535 := rfl
        rw [Nat.mod_eq_of_lt (by omega)] at same
        omega
      exact Nat.lt_of_lt_of_le (toNat_lt_infinite parentFinite) top
    · exact Nat.lt_of_lt_of_le (UInt16.lt_iff_toNat_lt.mp below) (toNat_clampRank_le _)
  · right
    rcases close with unbounded | below
    · exact absurd unbounded finite
    · exact UInt16.lt_iff_toNat_lt.mp below

/-- What an evaluation promises of the parent it chooses. -/
theorem chosen_near (finite : place.rank ≠ infiniteRank)
    (found : place.chooseParent.address.isAny = false) :
    ∃ parent, place.parents[place.chooseParent.address]? = some parent ∧
      parent.rank.toNat < place.rank.toNat + place.minHopRankIncrease.toNat ∧
      (place.ceiled place.chooseParent.rank ≠ infiniteRank →
        parent.rank.toNat + place.minHopRankIncrease.toNat ≤ place.rankCeiling) := by
  obtain ⟨parent, held, via, admitted⟩ := chooseParent_stands found
  have viaFinite := finite_of_admitted admitted
  refine ⟨parent, held, ?_, fun within => ?_⟩
  · have near := lt_of_closer finite (rank_ne_infinite viaFinite) (closer_of_admitted admitted)
    omega
  · have above := rank_add_le_rankViaParent viaFinite
    have below := (ceiled_eq within).2
    rw [via] at below
    omega

end DodagPlace

namespace Node

/-! ## Consecutive evaluations -/

/-- A membership changes in nothing but how its neighbours are heard: none of them advertises
another rank. -/
def SameRanks (key : DodagKey) (n m : Node) : Prop :=
  ∀ dodag, n.dodags[key]? = some dodag →
    ∃ later, m.dodags[key]? = some later ∧
      later.toDodagPlace = { dodag.toDodagPlace with parents := later.parents } ∧
      ∀ address : Ipv6Address, (later.parents[address]?).map Parent.rank =
        (dodag.parents[address]?).map Parent.rank

/-- The nodes that consecutive parent selections lead to, while the membership is held with a
finite rank. -/
inductive Evaluations (key : DodagKey) (first : Node) : Node → Prop
  | start : Evaluations key first first
  | evaluate {n m : Node} {dodag : DodagMembership} (before : Evaluations key first n)
      (held : n.dodags[key]? = some dodag) (finite : dodag.rank ≠ infiniteRank)
      (same : SameRanks key n m) : Evaluations key first (m.selectPreferredParent key).2

/-- What becomes of a membership in an evaluation it outlives. -/
theorem evaluated {m : Node} {key : DodagKey} {dodag after : DodagMembership}
    (held : m.dodags[key]? = some dodag) (notRoot : dodag.isRoot = false)
    (heldAfter : (m.selectPreferredParent key).2.dodags[key]? = some after) :
    let place := m.standing.table dodag.member id
    (after.toDodagPlace = place ∧ place.selectionChanged place.chooseParent = false) ∨
      (after.toDodagPlace = place.adoptParent place.chooseParent ∧
        place.chooseParent.address.isAny = false) := by
  have settled := m.standing.settled key id
  rw [Standing.withParents_id] at settled
  have member := held_member heldAfter
  rw [standing_selectPreferredParent] at member
  have before := held_member held
  generalize m.standing.select key = standing at settled member
  cases settled with
  | absent absent => rw [absent] at before; cases before
  | root heldBefore root =>
    rw [heldBefore] at before
    cases before
    exact absurd (notRoot.symm.trans root) Bool.false_ne_true
  | kept heldBefore _ same =>
    rw [heldBefore] at before
    cases before
    rw [Standing.put_held, ExtTreeMap.getElem?_insert_self, Option.some.injEq] at member
    exact .inl ⟨congrArg Member.place member.symm, same⟩
  | lost heldBefore _ gone =>
    rw [Standing.held_leave, if_pos rfl] at member
    cases member
  | taken heldBefore _ found =>
    rw [heldBefore] at before
    cases before
    rw [Standing.mark_held, Standing.put_held, ExtTreeMap.getElem?_insert_self,
      Option.some.injEq] at member
    exact .inr ⟨congrArg Member.place member.symm, found⟩

/-- A membership later in a row of evaluations: L has only gone down. -/
structure Later (first later : DodagPlace) : Prop where
  notRoot : later.isRoot = false
  minHopRankIncrease : later.minHopRankIncrease = first.minHopRankIncrease
  maxRankIncrease : later.maxRankIncrease = first.maxRankIncrease
  lowest : later.lowestRankThisVersion.toNat ≤ first.lowestRankThisVersion.toNat

theorem Later.parents {first later : DodagPlace} (holds : Later first later)
    (parents : ExtTreeMap Ipv6Address Parent) : Later first { later with parents := parents } :=
  ⟨holds.notRoot, holds.minHopRankIncrease, holds.maxRankIncrease, holds.lowest⟩

theorem Later.adoptParent {first later : DodagPlace} (holds : Later first later)
    (best : Candidate) : Later first (later.adoptParent best) := by
  refine ⟨holds.notRoot, holds.minHopRankIncrease, holds.maxRankIncrease, ?_⟩
  refine Nat.le_trans ?_ holds.lowest
  unfold DodagPlace.adoptParent
  dsimp only
  split
  · exact Nat.le_refl _
  · change (if _ then _ else _ : UInt16).toNat ≤ _
    split
    · exact Nat.le_refl _
    · next above =>
      rw [UInt16.le_iff_toNat_le] at above
      omega

theorem Evaluations.later {key : DodagKey} {first n : Node} {start dodag : DodagMembership}
    (evaluations : Evaluations key first n) (heldStart : first.dodags[key]? = some start)
    (notRoot : start.isRoot = false) (held : n.dodags[key]? = some dodag) :
    Later start.toDodagPlace dodag.toDodagPlace := by
  induction evaluations generalizing dodag with
  | start =>
    rw [heldStart] at held
    cases held
    exact ⟨notRoot, rfl, rfl, Nat.le_refl _⟩
  | evaluate before heldBefore finite same ih =>
    have earlier := ih heldBefore
    obtain ⟨between, heldBetween, place, -⟩ := same _ heldBefore
    have laterBetween : Later start.toDodagPlace between.toDodagPlace := by
      rw [place]
      exact earlier.parents _
    rcases evaluated heldBetween laterBetween.notRoot held with ⟨kept, -⟩ | ⟨taken, -⟩
    · rw [kept]
      exact laterBetween.parents _
    · rw [taken]
      exact (laterBetween.parents _).adoptParent _

/-- Over any number of evaluations, the parent each of them chooses advertises less than the
rank the node enters that evaluation with plus one MinHopRankIncrease, and, unless the rank
comes out infinite, stays one MinHopRankIncrease below L + DAGMaxRankIncrease, where L is the
one of the start. -/
theorem chosenNear_of_evaluations {key : DodagKey} {first n m : Node}
    {start dodag after : DodagMembership} {parent : Parent}
    (evaluations : Evaluations key first n) (heldStart : first.dodags[key]? = some start)
    (notRoot : start.isRoot = false) (held : n.dodags[key]? = some dodag)
    (finite : dodag.rank ≠ infiniteRank) (same : SameRanks key n m)
    (heldAfter : (m.selectPreferredParent key).2.dodags[key]? = some after)
    (has : after.preferredParent.isAny = false) (chosen : after.preferredEntry = some parent) :
    parent.rank.toNat < dodag.rank.toNat + start.minHopRankIncrease.toNat ∧
      (after.rank ≠ infiniteRank → parent.rank.toNat + start.minHopRankIncrease.toNat ≤
        start.lowestRankThisVersion.toNat + start.maxRankIncrease.toNat) := by
  obtain ⟨between, heldBetween, place, -⟩ := same _ held
  have later := evaluations.later heldStart notRoot held
  have laterBetween : Later start.toDodagPlace between.toDodagPlace := by
    rw [place]
    exact later.parents _
  have rank : between.rank = dodag.rank := by rw [place]
  have ceiling : between.rankCeiling ≤
      start.lowestRankThisVersion.toNat + start.maxRankIncrease.toNat := by
    have lowest := laterBetween.lowest
    rw [DodagPlace.rankCeiling, laterBetween.maxRankIncrease]
    omega
  have swept : (m.standing.table between.member id).rank ≠ infiniteRank := by
    change between.rank ≠ infiniteRank
    rw [rank]
    exact finite
  -- the chosen parent is the preferred one afterwards, whether the selection changed or not
  rcases evaluated heldBetween laterBetween.notRoot heldAfter with
    ⟨kept, unchanged⟩ | ⟨taken, found⟩
  · simp only [DodagPlace.selectionChanged, Bool.or_eq_false_iff, decide_eq_false_iff_not,
      not_not] at unchanged
    obtain ⟨⟨address, advertised⟩, -⟩ := unchanged
    have found : (m.standing.table between.member id).chooseParent.address.isAny = false := by
      rw [address, ← kept]
      exact has
    obtain ⟨entry, heldEntry, near, under⟩ := DodagPlace.chosen_near swept found
    rw [DodagPlace.preferredEntry, kept, ← address, heldEntry, Option.some.injEq] at chosen
    subst chosen
    rw [DodagPlace.advertisedBest, found, if_neg Bool.false_ne_true] at advertised
    have rankAfter : after.rank = (m.standing.table between.member id).rank := by rw [kept]
    rw [← laterBetween.minHopRankIncrease, ← rank]
    refine ⟨near, fun within => Nat.le_trans (under ?_) ceiling⟩
    rw [advertised, ← rankAfter]
    exact within
  · obtain ⟨entry, heldEntry, near, under⟩ := DodagPlace.chosen_near swept found
    rw [DodagPlace.preferredEntry, taken] at chosen
    have sameEntry : entry = parent := Option.some.inj (heldEntry.symm.trans chosen)
    subst sameEntry
    rw [taken, ← laterBetween.minHopRankIncrease, ← rank]
    exact ⟨near, fun within => Nat.le_trans (under within) ceiling⟩

theorem sameRanks_refl (key : DodagKey) (n : Node) : SameRanks key n n :=
  fun dodag held => ⟨dodag, held, rfl, fun _ => rfl⟩

/-! ## A rank that rises in one evaluation and lets a parent in at the next -/

/-- A neighbour heard a moment ago, with its rank, the ETX to the root it advertises and
the ETX of the link. -/
def climbingParent (address : Ipv6Address) (rank pathEtx : UInt16) : Parent :=
  { address := address, rank := rank, interface := 1, etx := 128, pathEtx := pathEtx
    freshness := freshnessTarget }

/-- fe80::c, of rank 300, at a path cost of 1128. -/
def climbingFirst : Ipv6Address := 0xfe80000000000000000000000000000c#128

/-- fe80::d, of rank 400, at a path cost of 328. -/
def climbingSecond : Ipv6Address := 0xfe80000000000000000000000000000d#128

/-- A membership under MRHOF of rank 256 that has lost the parent it took it from. -/
def climbingDodag : DodagMembership :=
  { instanceId := 0
    dodagId := 0x20010db8000000000000000000000001#128
    ocp := ocpMrhof
    minHopRankIncrease := 128
    rank := 256
    lowestRankThisVersion := 256
    parents :=
      (ExtTreeMap.empty.insert climbingFirst (climbingParent climbingFirst 300 1000)).insert
      climbingSecond (climbingParent climbingSecond 400 200) }

/-- A router with that membership. -/
def climbing : Node :=
  { ipv6 := leafIpv6, dodags := ExtTreeMap.empty.insert climbingDodag.key climbingDodag }

/-- The router after one evaluation. -/
def climbed : Node := (climbing.selectPreferredParent climbingDodag.key).2

theorem climbing_held : climbing.dodags[climbingDodag.key]? = some climbingDodag :=
  ExtTreeMap.getElem?_insert_self

/-- The first evaluation takes fe80::c, the next fe80::d. -/
theorem climbed_outcome :
    ∃ dodag after parent, climbed.dodags[climbingDodag.key]? = some dodag ∧ dodag.rank = 1128 ∧
      (climbed.selectPreferredParent climbingDodag.key).2.dodags[climbingDodag.key]? =
        some after ∧
      after.rank = 528 ∧ after.preferredParent = climbingSecond ∧
      after.preferredEntry = some parent ∧ parent.rank = 400 := by
  have first : (climbed.dodags[climbingDodag.key]?).map (fun dodag => dodag.rank) = some 1128 := by
    decide +kernel
  have second : ((climbed.selectPreferredParent climbingDodag.key).2.dodags[climbingDodag.key]?).map
      (fun dodag => (dodag.preferredParent, dodag.rank, dodag.preferredEntry.map Parent.rank)) =
      some (climbingSecond, 528, some 400) := by
    decide +kernel
  obtain ⟨dodag, held, rank⟩ := Option.map_eq_some_iff.mp first
  obtain ⟨after, heldAfter, fields⟩ := Option.map_eq_some_iff.mp second
  simp only [Prod.mk.injEq] at fields
  obtain ⟨preferred, rankAfter, chosen⟩ := fields
  obtain ⟨parent, entry, parentRank⟩ := Option.map_eq_some_iff.mp chosen
  exact ⟨dodag, after, parent, held, rank, heldAfter, rankAfter, preferred, entry, parentRank⟩

/-- The first of the two evaluations. -/
theorem climbed_evaluations : Evaluations climbingDodag.key climbing climbed :=
  .evaluate .start climbing_held (by decide) (sameRanks_refl _ _)

/-- The second evaluation keeps to the rank of 1128 that it starts from, and to the L of the
start. -/
theorem climbed_near :
    ∃ after parent, (climbed.selectPreferredParent climbingDodag.key).2.dodags[
          climbingDodag.key]? = some after ∧
      after.preferredParent = climbingSecond ∧ after.preferredEntry = some parent ∧
      parent.rank.toNat < 1128 + 128 ∧ parent.rank.toNat + 128 ≤ 256 + 1024 := by
  obtain ⟨dodag, after, parent, held, rank, heldAfter, rankAfter, preferred, entry, -⟩ :=
    climbed_outcome
  have near := chosenNear_of_evaluations climbed_evaluations climbing_held rfl held
    (by rw [rank]; decide) (sameRanks_refl _ _) heldAfter (by rw [preferred]; decide) entry
  rw [rank] at near
  exact ⟨after, parent, heldAfter, preferred, entry, near.1,
    near.2 (by rw [rankAfter]; decide)⟩

/-- It takes fe80::d, whose rank is more than one MinHopRankIncrease above the rank of 256 the
router had at the start. Nothing else has changed, and every rank in between is finite. -/
theorem climbed_not_near :
    Evaluations climbingDodag.key climbing climbed ∧
      ∃ dodag after parent, climbed.dodags[climbingDodag.key]? = some dodag ∧
        dodag.rank ≠ infiniteRank ∧
        (climbed.selectPreferredParent climbingDodag.key).2.dodags[climbingDodag.key]? =
          some after ∧
        after.rank ≠ infiniteRank ∧ after.preferredParent.isAny = false ∧
        after.preferredEntry = some parent ∧
        climbingDodag.rank.toNat + climbingDodag.minHopRankIncrease.toNat ≤ parent.rank.toNat := by
  obtain ⟨dodag, after, parent, held, rank, heldAfter, rankAfter, preferred, entry, parentRank⟩ :=
    climbed_outcome
  refine ⟨climbed_evaluations, dodag, after, parent, held, by rw [rank]; decide, heldAfter,
    by rw [rankAfter]; decide, by rw [preferred]; decide, entry, ?_⟩
  rw [parentRank]
  decide

end Node

end Rpl
