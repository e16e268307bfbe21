import Rpl.ParentChoice
import Rpl.Lib.FirstLeast

/-!
# Which parent is chosen

The rule `SelectPreferredParent` follows, stated without its loops.  The first pass
over the neighbour table that admits anybody settles it: the admitted neighbour that
comes first by path cost under MRHOF, by rank under OF0, and then by address, unless
MRHOF keeps the parent it has.

The code uses the address `::` for "no parent".  A neighbour table is a map over all
addresses, though, and the passes do not take an entry under `::` for a neighbour:
such an entry is not chosen, and whatever it offers does not matter.
-/

namespace Rpl

open Std

namespace DodagPlace

/-! ## The rule -/

variable {place : DodagPlace} {test : Bool → Parent → Bool} {counts : Ipv6Address → Prop}
  {requireFresh : Bool} {address other : Ipv6Address} {parent neighbour : Parent}

/-- The entry is one of those that count and passes the test of a pass. -/
structure Admits (place : DodagPlace) (test : Bool → Parent → Bool) (counts : Ipv6Address → Prop)
    (requireFresh : Bool) (address : Ipv6Address) (parent : Parent) : Prop where
  held : place.parents[address]? = some parent
  counted : counts address
  admitted : test requireFresh parent = true

/-- The pass that found any, and whether it asked for fresh neighbours: the first one does when
there is a fresh neighbour, the second does not. -/
inductive FoundBy (place : DodagPlace) (test : Bool → Parent → Bool)
    (counts : Ipv6Address → Prop) : Bool → Prop
  | first {address : Ipv6Address} {parent : Parent}
      (found : place.Admits test counts place.haveFresh address parent) :
      FoundBy place test counts place.haveFresh
  | second {address : Ipv6Address} {parent : Parent}
      (nothing : ∀ other neighbour, ¬place.Admits test counts place.haveFresh other neighbour)
      (found : place.Admits test counts false address parent) : FoundBy place test counts false

/-- What candidates are put in order by: path cost under MRHOF, rank under OF0, then address. -/
def precedence (place : DodagPlace) (address : Ipv6Address) (parent : Parent) : ℕ ×ₗ ℕ :=
  toLex
    (if place.ocp = ocpMrhof then parent.pathCost else (place.rankViaParent parent).toNat,
      address.toNat)

/-- The candidate that comes first. -/
structure Foremost (place : DodagPlace) (test : Bool → Parent → Bool)
    (counts : Ipv6Address → Prop) (requireFresh : Bool) (address : Ipv6Address)
    (parent : Parent) : Prop extends place.Admits test counts requireFresh address parent where
  least : ∀ other neighbour, place.Admits test counts requireFresh other neighbour →
    place.precedence address parent ≤ place.precedence other neighbour

/-- The parent the node has passes the test, and its path cost is within PARENT_SWITCH_THRESHOLD
of the least one. -/
def KeepsParent (place : DodagPlace) (test : Bool → Parent → Bool) (requireFresh : Bool)
    (least : Parent) : Prop :=
  ∃ current, place.preferredEntry = some current ∧ test requireFresh current = true ∧
    current.pathCost < least.pathCost + mrhofParentSwitchThreshold

/-- The parent is chosen by the rule. -/
structure ChoosesByRule (place : DodagPlace) (counts : Ipv6Address → Prop) : Prop where
  nobody : (∀ requireFresh, ¬place.FoundBy place.admitted counts requireFresh) →
    place.chooseParent.address = anyAddress
  foremost : ∀ requireFresh, place.FoundBy place.admitted counts requireFresh →
    ∃ address parent, place.Foremost place.admitted counts requireFresh address parent ∧
      (place.ocp = ocpMrhof → place.KeepsParent place.admitted requireFresh parent →
        place.chooseParent.address = place.preferredParent) ∧
      (¬(place.ocp = ocpMrhof ∧ place.KeepsParent place.admitted requireFresh parent) →
        place.chooseParent.address = address)
  fresh : ∀ parent, place.parents[place.chooseParent.address]? = some parent →
    counts place.chooseParent.address → parent.fresh = false →
      ∀ other neighbour, place.Admits place.admitted counts false other neighbour →
        neighbour.fresh = false

/-! ## The loops -/

/-- An entry under an address that a neighbour can have. -/
def Named (address : Ipv6Address) : Prop := address.isAny = false

/-- What the loops carry is the entry taken last, or no entry. -/
inductive Carries (place : DodagPlace) : Candidate → Option (Ipv6Address × Parent) → Prop
  | nothing {best : Candidate} (unset : best.address.isAny = true) : Carries place best none
  | entry {best : Candidate} {address : Ipv6Address} {parent : Parent} (named : Named address)
      (sameAddress : best.address = address) (rank : best.rank = place.rankViaParent parent)
      (pathCost : place.ocp = ocpMrhof → best.pathCost = parent.pathCost) :
      Carries place best (some (address, parent))

/-- Taking over is coming strictly before. -/
theorem betterThan_iff {best : Candidate} (named : Named best.address)
    (rank : best.rank = place.rankViaParent parent)
    (pathCost : place.ocp = ocpMrhof → best.pathCost = parent.pathCost) :
    place.betterThan other neighbour best = true ↔
      place.precedence other neighbour < place.precedence best.address parent := by
  rw [betterThan, show best.address.isAny = false from named, Bool.false_or, precedence, precedence,
    Prod.Lex.toLex_lt_toLex]
  split
  · next mrhof =>
    rw [pathCost mrhof]
    simp only [Bool.or_eq_true, Bool.and_eq_true, decide_eq_true_eq, BitVec.lt_def]
  · rw [rank]
    simp only [Bool.or_eq_true, Bool.and_eq_true, decide_eq_true_eq, BitVec.lt_def,
      UInt16.lt_iff_toNat_lt, ← UInt16.toNat_inj]

/-- One neighbour more, under an address of its own. -/
theorem Carries.consider {best : Candidate} {taken : Option (Ipv6Address × Parent)}
    (carries : place.Carries best taken) (named : Named address) :
    place.Carries (place.consider requireFresh best (address, parent))
      (FirstLeast.keepAdmitted (fun entry => place.admitted requireFresh entry.2)
        (fun entry => place.precedence entry.1 entry.2) taken (address, parent)) := by
  have fresh : place.Carries
      { address := address
        rank := place.rankViaParent parent
        pathCost := if place.ocp = ocpMrhof then parent.pathCost else best.pathCost }
      (some (address, parent)) :=
    .entry named rfl rfl fun mrhof => if_pos mrhof
  have admits : place.consider requireFresh best (address, parent) =
      if place.admitted requireFresh parent && place.betterThan address parent best then
        { address := address
          rank := place.rankViaParent parent
          pathCost := if place.ocp = ocpMrhof then parent.pathCost else best.pathCost }
      else best := rfl
  rw [admits, FirstLeast.keepAdmitted]
  cases place.admitted requireFresh parent with
  | false => exact carries
  | true =>
    rw [Bool.true_and, Bool.true_and]
    cases carries with
    | nothing unset =>
      have better : place.betterThan address parent best = true := by
        rw [betterThan, unset, Bool.true_or]
      rw [if_pos better]
      exact fresh
    | @entry other neighbour bestNamed sameAddress rank pathCost =>
      subst sameAddress
      rw [Option.all_some]
      by_cases better : place.betterThan address parent best = true
      · have before := (betterThan_iff bestNamed rank pathCost).mp better
        rw [if_pos better, if_pos (decide_eq_true before)]
        exact fresh
      · have behind : ¬place.precedence address parent < place.precedence best.address neighbour :=
          fun before => better ((betterThan_iff bestNamed rank pathCost).mpr before)
        rw [if_neg better, if_neg (fun before => behind (of_decide_eq_true before))]
        exact .entry bestNamed rfl rank pathCost

/-- An entry under `::` leaves the loop without a candidate. -/
theorem Carries.skip {best : Candidate} (carries : place.Carries best none) :
    place.Carries (place.consider requireFresh best (anyAddress, parent)) none := by
  cases carries with
  | nothing unset =>
    unfold DodagPlace.consider
    split
    · exact .nothing rfl
    · exact .nothing unset

theorem Carries.foldl {best : Candidate} {taken : Option (Ipv6Address × Parent)}
    {entries : List (Ipv6Address × Parent)} (carries : place.Carries best taken)
    (named : ∀ entry ∈ entries, Named entry.1) :
    place.Carries (entries.foldl (place.consider requireFresh) best)
      (entries.foldl (FirstLeast.keepAdmitted (fun entry => place.admitted requireFresh entry.2)
        fun entry => place.precedence entry.1 entry.2) taken) := by
  induction entries generalizing best taken with
  | nil => exact carries
  | cons entry rest ih =>
    exact ih (carries.consider (named entry List.mem_cons_self))
      fun other mem => named other (List.mem_cons_of_mem entry mem)

/-- The entries a pass admits, those under `::` left out. -/
def admittedEntries (place : DodagPlace) (requireFresh : Bool) : List (Ipv6Address × Parent) :=
  place.parents.toList.filter fun entry =>
    !entry.1.isAny && place.admitted requireFresh entry.2

theorem mem_admittedEntries :
    (address, parent) ∈ place.admittedEntries requireFresh ↔
      place.Admits place.admitted Named requireFresh address parent := by
  rw [admittedEntries, List.mem_filter, ExtTreeMap.mem_toList_iff_getElem?_eq_some]
  simp only [Bool.and_eq_true, Bool.not_eq_true']
  constructor
  · rintro ⟨held, named, admitted⟩
    exact ⟨held, named, admitted⟩
  · intro admits
    exact ⟨admits.held, admits.counted, admits.admitted⟩

/-- A pass that starts without a candidate ends with the foremost entry it admits. The table is
in the order of addresses, so that an entry under `::` comes before all others. -/
theorem candidatePass_carries {best : Candidate} (unset : best.address.isAny = true) :
    place.Carries (place.candidatePass requireFresh best)
      ((place.admittedEntries requireFresh).argmin fun entry =>
        place.precedence entry.1 entry.2) := by
  have start : place.Carries best none := .nothing unset
  have ordered := ExtTreeMap.ordered_keys_toList (t := place.parents)
  have run (entries : List (Ipv6Address × Parent)) (named : ∀ entry ∈ entries, Named entry.1)
      {best : Candidate} (start : place.Carries best none) :
      place.Carries (entries.foldl (place.consider requireFresh) best)
        ((entries.filter fun entry => !entry.1.isAny && place.admitted requireFresh entry.2).argmin
          fun entry => place.precedence entry.1 entry.2) := by
    have same : (entries.filter fun entry =>
        !entry.1.isAny && place.admitted requireFresh entry.2) =
          entries.filter fun entry => place.admitted requireFresh entry.2 :=
      List.filter_congr fun entry mem => by
        rw [show entry.1.isAny = false from named entry mem]
        rfl
    rw [same, ← FirstLeast.foldl_keepAdmitted]
    exact start.foldl named
  unfold candidatePass admittedEntries
  cases entries : place.parents.toList with
  | nil => exact start
  | cons entry rest =>
    rw [entries, List.pairwise_cons] at ordered
    have named : ∀ other ∈ rest, Named other.1 := by
      intro other mem
      have above : entry.1 < other.1 := compareOfLessAndEq_eq_lt.mp (ordered.1 other mem)
      refine Bool.eq_false_iff.mpr fun isAny => ?_
      rw [of_decide_eq_true isAny] at above
      exact absurd above (BitVec.not_lt_zero)
    obtain ⟨address, parent⟩ := entry
    by_cases named_ : Named address
    · refine run _ (fun other mem => ?_) start
      rcases List.mem_cons.mp mem with rfl | mem
      · exact named_
      · exact named other mem
    · have isAny : address.isAny = true := Bool.not_eq_false _ ▸ named_
      obtain rfl : address = anyAddress := of_decide_eq_true isAny
      exact run rest named start.skip

/-! ## The choice -/

/-- Only one pass is the one that found any. -/
theorem FoundBy.unique {first second : Bool} (one : place.FoundBy test counts first)
    (two : place.FoundBy test counts second) : first = second := by
  cases one with
  | first found =>
    cases two with
    | first => rfl
    | second nothing => exact absurd found (nothing _ _)
  | second nothing =>
    cases two with
    | first found => exact absurd found (nothing _ _)
    | second => rfl

/-- The first of what a pass admits is the foremost entry. -/
theorem foremost_of_argmin
    (first : ((place.admittedEntries requireFresh).argmin fun entry =>
      place.precedence entry.1 entry.2) = some (address, parent)) :
    place.Foremost place.admitted Named requireFresh address parent :=
  { mem_admittedEntries.mp (List.argmin_mem first) with
    least := fun _ _ admits => List.le_of_mem_argmin (mem_admittedEntries.mpr admits) first }

theorem nobody_of_argmin
    (empty : ((place.admittedEntries requireFresh).argmin fun entry =>
      place.precedence entry.1 entry.2) = none) :
    ¬place.Admits place.admitted Named requireFresh address parent := by
  intro admits
  have mem := mem_admittedEntries.mpr admits
  rw [List.argmin_eq_none.mp empty] at mem
  cases mem

/-- What the passes end with: no candidate, or the foremost one of the pass that found any. -/
inductive Searched (place : DodagPlace) : Bool × Candidate → Prop
  | nobody {requireFresh : Bool} {best : Candidate} (unset : best.address.isAny = true)
      (nobody : ∀ requireFresh, ¬place.FoundBy place.admitted Named requireFresh) :
      Searched place (requireFresh, best)
  | found {requireFresh : Bool} {best : Candidate} {parent : Parent}
      (found : place.FoundBy place.admitted Named requireFresh)
      (foremost : place.Foremost place.admitted Named requireFresh best.address parent)
      (pathCost : place.ocp = ocpMrhof → best.pathCost = parent.pathCost) :
      Searched place (requireFresh, best)

theorem searched (place : DodagPlace) : place.Searched place.searchParents := by
  have start : ({} : Candidate).address.isAny = true := rfl
  have firstPass : place.Carries (place.candidatePass place.haveFresh {}) _ :=
    candidatePass_carries start
  unfold searchParents
  dsimp only
  generalize place.candidatePass place.haveFresh {} = first at firstPass
  cases firstIs : (place.admittedEntries place.haveFresh).argmin fun entry =>
      place.precedence entry.1 entry.2 with
  | some entry =>
    obtain ⟨address, parent⟩ := entry
    have foremost := foremost_of_argmin firstIs
    rw [firstIs] at firstPass
    cases firstPass with
    | entry named sameAddress rank pathCost =>
      subst sameAddress
      rw [if_neg (by rw [show first.address.isAny = false from named]; exact Bool.false_ne_true)]
      exact .found (.first foremost.toAdmits) foremost pathCost
  | none =>
    have nothing :
        ∀ other neighbour, ¬place.Admits place.admitted Named place.haveFresh other neighbour :=
      fun _ _ => nobody_of_argmin firstIs
    rw [firstIs] at firstPass
    cases firstPass with
    | nothing unset =>
      rw [if_pos unset]
      have secondPass : place.Carries (place.candidatePass false first) _ :=
        candidatePass_carries unset
      generalize place.candidatePass false first = second at secondPass
      cases secondIs : (place.admittedEntries false).argmin fun entry =>
          place.precedence entry.1 entry.2 with
      | some entry =>
        obtain ⟨address, parent⟩ := entry
        have foremost := foremost_of_argmin secondIs
        rw [secondIs] at secondPass
        cases secondPass with
        | entry named sameAddress rank pathCost =>
          subst sameAddress
          exact .found (.second nothing foremost.toAdmits) foremost pathCost
      | none =>
        rw [secondIs] at secondPass
        cases secondPass with
        | nothing unset =>
          refine .nobody unset fun requireFresh found => ?_
          cases found with
          | first found => exact nothing _ _ found
          | second _ found => exact nobody_of_argmin secondIs found

/-- What MRHOF's hysteresis tests. -/
theorem keepsCurrent_iff {best : Candidate} {current least : Parent}
    (held : place.preferredEntry = some current) (named : Named best.address)
    (pathCost : place.ocp = ocpMrhof → best.pathCost = least.pathCost) :
    place.keepsCurrent requireFresh best current = true ↔
      place.ocp = ocpMrhof ∧ place.KeepsParent place.admitted requireFresh least := by
  rw [keepsCurrent, show best.address.isAny = false from named]
  simp only [Bool.not_false, Bool.and_true, Bool.and_eq_true, decide_eq_true_eq, and_assoc]
  refine and_congr_right fun mrhof => ?_
  rw [pathCost mrhof]
  constructor
  · rintro ⟨admitted, within_⟩
    exact ⟨current, held, admitted, within_⟩
  · rintro ⟨other, heldOther, admitted, within_⟩
    cases held.symm.trans heldOther
    exact ⟨admitted, within_⟩

/-- A fresh neighbour that any pass admits is admitted by one that asks for freshness. -/
theorem Admits.fresh (admits : place.Admits place.admitted Named false address parent)
    (fresh : parent.fresh = true) :
    place.Admits place.admitted Named requireFresh address parent := by
  refine ⟨admits.held, admits.counted, ?_⟩
  have admitted := admits.admitted
  simp only [DodagPlace.admitted, Bool.and_eq_true, fresh, Bool.or_true] at admitted ⊢
  exact ⟨⟨⟨⟨trivial, admitted.1.1.1.2⟩, admitted.1.1.2⟩, admitted.1.2⟩, admitted.2⟩

/-- The pass that took somebody who is not fresh found nobody who is. -/
theorem FoundBy.stale (found : place.FoundBy place.admitted Named requireFresh)
    (admitted : place.admitted requireFresh parent = true) (stale : parent.fresh = false)
    (admits : place.Admits place.admitted Named false other neighbour) :
    neighbour.fresh = false := by
  refine Bool.eq_false_iff.mpr fun fresh => ?_
  have haveFresh : place.haveFresh = true :=
    OrderedMap.any_eq_true.mpr ⟨other, neighbour, admits.held, fresh⟩
  cases found with
  | first =>
    rw [haveFresh, DodagPlace.admitted, stale] at admitted
    cases admitted
  | second nothing => exact nothing other neighbour (admits.fresh fresh)

theorem chooseParent_eq (place : DodagPlace) :
    place.chooseParent =
      match place.preferredEntry with
      | some current =>
        if place.keepsCurrent place.searchParents.1 place.searchParents.2 current then
          { address := place.preferredParent
            rank := place.rankViaParent current
            pathCost := current.pathCost }
        else place.searchParents.2
      | none => place.searchParents.2 := rfl

/-- Without a candidate there is nothing to keep the parent over. -/
theorem chooseParent_of_unset (unset : place.searchParents.2.address.isAny = true) :
    place.chooseParent = place.searchParents.2 := by
  rw [chooseParent_eq]
  split
  · rw [keepsCurrent, unset, Bool.not_true, Bool.and_false, Bool.false_and, Bool.false_and]
    exact if_neg Bool.false_ne_true
  · rfl

theorem chooseParent_kept {least : Parent} (named : Named place.searchParents.2.address)
    (pathCost : place.ocp = ocpMrhof → place.searchParents.2.pathCost = least.pathCost)
    (keeps : place.ocp = ocpMrhof ∧ place.KeepsParent place.admitted place.searchParents.1 least) :
    place.chooseParent.address = place.preferredParent := by
  obtain ⟨current, held, -⟩ := keeps.2
  rw [chooseParent_eq, held]
  dsimp only
  rw [if_pos ((keepsCurrent_iff held named pathCost).mpr keeps)]

theorem chooseParent_switched {least : Parent} (named : Named place.searchParents.2.address)
    (pathCost : place.ocp = ocpMrhof → place.searchParents.2.pathCost = least.pathCost)
    (switches :
      ¬(place.ocp = ocpMrhof ∧ place.KeepsParent place.admitted place.searchParents.1 least)) :
    place.chooseParent = place.searchParents.2 := by
  rw [chooseParent_eq]
  split
  · next current held =>
    exact if_neg fun keeps => switches ((keepsCurrent_iff held named pathCost).mp keeps)
  · rfl

/-- Among the neighbours, whatever the table holds and whichever parent the node has, the parent
is chosen by the rule. -/
theorem choosesByRule (place : DodagPlace) : place.ChoosesByRule Named := by
  have ends := place.searched
  have split : place.searchParents = (place.searchParents.1, place.searchParents.2) := rfl
  rw [split] at ends
  cases ends with
  | nobody unset nobody =>
    rw [← chooseParent_of_unset unset] at unset
    exact
      { nobody := fun _ => of_decide_eq_true unset
        foremost := fun requireFresh found => absurd found (nobody requireFresh)
        fresh := fun _ _ named => absurd (unset.symm.trans named) Bool.noConfusion }
  | @found _ _ least found foremost pathCost =>
    have named := foremost.counted
    have kept := chooseParent_kept named pathCost
    have switched := chooseParent_switched named pathCost
    refine ⟨fun nobody => absurd found (nobody _), fun requireFresh foundBy => ?_,
      fun parent held _ stale other neighbour admits => ?_⟩
    · obtain rfl := foundBy.unique found
      exact ⟨_, least, foremost, fun mrhof keeps => kept ⟨mrhof, keeps⟩,
        fun switches => congrArg Candidate.address (switched switches)⟩
    · by_cases keeps :
        place.ocp = ocpMrhof ∧ place.KeepsParent place.admitted place.searchParents.1 least
      · obtain ⟨current, heldCurrent, admitted, -⟩ := keeps.2
        rw [kept keeps] at held
        cases held.symm.trans heldCurrent
        exact found.stale admitted stale admits
      · rw [switched keeps] at held
        cases held.symm.trans foremost.held
        exact found.stale foremost.admitted stale admits

/-! ## The neighbour picked -/

/-- The neighbour the rule comes down to, for a test of its own. -/
inductive Picked (place : DodagPlace) (test : Bool → Parent → Bool) (address : Ipv6Address) : Prop
  | foremost {requireFresh : Bool} {parent : Parent}
      (found : place.FoundBy test Named requireFresh)
      (foremost : place.Foremost test Named requireFresh address parent)
      (switches : ¬(place.ocp = ocpMrhof ∧ place.KeepsParent test requireFresh parent)) :
      Picked place test address
  | kept {requireFresh : Bool} {least : Ipv6Address} {parent : Parent}
      (found : place.FoundBy test Named requireFresh)
      (foremost : place.Foremost test Named requireFresh least parent)
      (keeps : place.ocp = ocpMrhof ∧ place.KeepsParent test requireFresh parent)
      (current : address = place.preferredParent) : Picked place test address

/-- Only one entry comes first. -/
theorem Foremost.unique (one : place.Foremost test counts requireFresh address parent)
    (two : place.Foremost test counts requireFresh other neighbour) :
    address = other ∧ parent = neighbour := by
  have same : place.precedence address parent = place.precedence other neighbour :=
    (one.least _ _ two.toAdmits).antisymm (two.least _ _ one.toAdmits)
  have sameAddress : address = other :=
    BitVec.eq_of_toNat_eq (congrArg (fun pair => (ofLex pair).2) same)
  subst sameAddress
  exact ⟨rfl, Option.some.inj (one.held.symm.trans two.held)⟩

/-- The parent chosen is the neighbour picked by the test of a candidate. -/
theorem chooseParent_iff_picked (named : Named address) :
    place.chooseParent.address = address ↔ place.Picked place.admitted address := by
  have ends := place.searched
  have split : place.searchParents = (place.searchParents.1, place.searchParents.2) := rfl
  rw [split] at ends
  cases ends with
  | nobody unset nobody =>
    rw [chooseParent_of_unset unset]
    constructor
    · rintro rfl
      exact absurd (unset.symm.trans named) Bool.noConfusion
    · rintro (⟨found⟩ | ⟨found⟩)
      · exact absurd found (nobody _)
      · exact absurd found (nobody _)
  | @found _ _ least found foremost pathCost =>
    have kept := chooseParent_kept foremost.counted pathCost
    have switched := chooseParent_switched foremost.counted pathCost
    constructor
    · rintro rfl
      by_cases keeps : place.ocp = ocpMrhof ∧
          place.KeepsParent place.admitted place.searchParents.1 least
      · exact .kept found foremost keeps (kept keeps)
      · refine .foremost found ?_ keeps
        rw [switched keeps]
        exact foremost
    · rintro (⟨found', first, switches⟩ | ⟨found', first, keeps, rfl⟩)
      · obtain rfl := found'.unique found
        obtain ⟨rfl, rfl⟩ := first.unique foremost
        exact congrArg Candidate.address (switched switches)
      · obtain rfl := found'.unique found
        obtain ⟨rfl, rfl⟩ := first.unique foremost
        exact kept keeps

/-- Tests that agree on the neighbours pick the same one. -/
theorem Picked.congr {test' : Bool → Parent → Bool} (picked : place.Picked test address)
    (agree : ∀ requireFresh (other : Ipv6Address) neighbour,
      place.parents[other]? = some neighbour →
        test requireFresh neighbour = test' requireFresh neighbour) :
    place.Picked test' address := by
  have admits {requireFresh : Bool} {other : Ipv6Address} {neighbour : Parent} :
      place.Admits test Named requireFresh other neighbour ↔
        place.Admits test' Named requireFresh other neighbour := by
    constructor
    · exact fun ⟨held, named, admitted⟩ => ⟨held, named, agree _ _ _ held ▸ admitted⟩
    · exact fun ⟨held, named, admitted⟩ => ⟨held, named, (agree _ _ _ held).symm ▸ admitted⟩
  have finds {requireFresh : Bool} (found : place.FoundBy test Named requireFresh) :
      place.FoundBy test' Named requireFresh := by
    cases found with
    | first found => exact .first (admits.mp found)
    | second nothing found =>
      exact .second (fun _ _ taken => nothing _ _ (admits.mpr taken)) (admits.mp found)
  have first {requireFresh : Bool} {other : Ipv6Address} {neighbour : Parent}
      (foremost : place.Foremost test Named requireFresh other neighbour) :
      place.Foremost test' Named requireFresh other neighbour :=
    { admits.mp foremost.toAdmits with
      least := fun _ _ taken => foremost.least _ _ (admits.mpr taken) }
  have keeps {requireFresh : Bool} {least : Parent} :
      place.KeepsParent test requireFresh least ↔ place.KeepsParent test' requireFresh least := by
    constructor
    · exact fun ⟨current, held, admitted, within_⟩ =>
        ⟨current, held, agree _ _ _ held ▸ admitted, within_⟩
    · exact fun ⟨current, held, admitted, within_⟩ =>
        ⟨current, held, (agree _ _ _ held).symm ▸ admitted, within_⟩
  cases picked with
  | foremost found foremost switches =>
    exact .foremost (finds found) (first foremost) fun both => switches ⟨both.1, keeps.mpr both.2⟩
  | kept found foremost both current =>
    exact .kept (finds found) (first foremost) ⟨both.1, keeps.mp both.2⟩ current

/-! ## An entry under `::` -/

/-- An entry at the given rank. -/
def entryAt (address : Ipv6Address) (rank : UInt16) : Parent :=
  { address := address, rank := rank }

/-- A node in an OF0 DODAG with an entry under `::` at rank 128 and a neighbour at rank 256. -/
def besideZero : DodagPlace :=
  { parents := ExtTreeMap.empty
      |>.insert anyAddress (entryAt anyAddress 128)
      |>.insert 0xfe800000000000000000000000000001#128
        (entryAt 0xfe800000000000000000000000000001#128 256) }

/-- If every entry counted, the one under `::` would come first. -/
theorem besideZero_not_choosesByRule : ¬besideZero.ChoosesByRule fun _ => True := by
  intro rule
  have chosen : besideZero.haveFresh = false ∧
      besideZero.parents[anyAddress]? = some (entryAt anyAddress 128) ∧
      besideZero.parents[besideZero.chooseParent.address]? =
        some (entryAt 0xfe800000000000000000000000000001#128 256) ∧
      besideZero.admitted false (entryAt anyAddress 128) = true ∧
      ¬besideZero.precedence besideZero.chooseParent.address
        (entryAt 0xfe800000000000000000000000000001#128 256) ≤
          besideZero.precedence anyAddress (entryAt anyAddress 128) := by
    decide +kernel
  obtain ⟨noFresh, held, heldChosen, admitted, behind⟩ := chosen
  have zero : besideZero.Admits besideZero.admitted (fun _ => True) false anyAddress
      (entryAt anyAddress 128) :=
    ⟨held, trivial, admitted⟩
  have found : besideZero.FoundBy besideZero.admitted (fun _ => True) false :=
    noFresh ▸ .first (noFresh ▸ zero)
  obtain ⟨address, parent, foremost, -, switched⟩ := rule.foremost false found
  rw [switched fun mrhof => absurd mrhof.1 (by decide)] at heldChosen behind
  cases heldChosen.symm.trans foremost.held
  exact behind (foremost.least _ _ zero)

end DodagPlace

end Rpl
