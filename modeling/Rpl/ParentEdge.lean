import Rpl.ParentChoice
import Rpl.WellFormed

/-!
# Rank grows along every parent edge

A membership with a finite rank has its preferred parent among its neighbours and
the rank that parent gives: this holds of every node that can be reached.  That the
rank is greater than the parent's needs a MinHopRankIncrease other than 0, and a
membership has the one its DODAG Configuration option carries.
-/

namespace Rpl

open Std

/-! ## The edge to the preferred parent -/

namespace DodagPlace

/-- The preferred parent is a neighbour, and the rank is the one it gives. -/
def TakesRank (place : DodagPlace) : Prop :=
  ∃ parent, place.parents[place.preferredParent]? = some parent ∧
    place.rank = place.rankViaParent parent

/-- The preferred parent is a neighbour, the rank is the one it gives, and it is greater than
the parent's own. -/
def ParentEdge (place : DodagPlace) : Prop :=
  ∃ parent, place.parents[place.preferredParent]? = some parent ∧
    place.rank = place.rankViaParent parent ∧ parent.rank < place.rank

/-- With an increment the rank taken is greater. -/
theorem TakesRank.parentEdge {place : DodagPlace} (takes : place.TakesRank)
    (finite : place.rank ≠ infiniteRank) (increment : place.minHopRankIncrease ≠ 0) :
    place.ParentEdge := by
  obtain ⟨parent, held, rank⟩ := takes
  refine ⟨parent, held, rank, ?_⟩
  rw [rank] at finite ⊢
  have above := rank_add_le_rankViaParent finite
  have positive : 0 < place.minHopRankIncrease.toNat :=
    Nat.pos_of_ne_zero fun zero => increment (UInt16.toNat_inj.mp zero)
  rw [UInt16.lt_iff_toNat_lt]
  omega

/-- A place that a selection leaves as it is. -/
theorem takesRank_of_kept {place : DodagPlace} (finite : place.rank ≠ infiniteRank)
    (preferred : place.preferredParent.isAny = false)
    (same : place.selectionChanged place.chooseParent = false) : place.TakesRank := by
  simp only [selectionChanged, Bool.or_eq_false_iff, decide_eq_false_iff_not, not_not] at same
  obtain ⟨⟨address, rank⟩, -⟩ := same
  have found : place.chooseParent.address.isAny = false := by rw [address]; exact preferred
  obtain ⟨parent, held, via, -⟩ := chooseParent_stands found
  refine ⟨parent, address ▸ held, ?_⟩
  rw [advertisedBest, if_neg (by rw [found]; exact Bool.false_ne_true)] at rank
  rw [← rank] at finite
  rw [← rank, (ceiled_eq finite).1, via]

/-- A place where a parent has been taken. -/
theorem takesRank_of_taken {place : DodagPlace}
    (found : place.chooseParent.address.isAny = false)
    (finite : (place.adoptParent place.chooseParent).rank ≠ infiniteRank) :
    (place.adoptParent place.chooseParent).TakesRank := by
  obtain ⟨parent, held, via, -⟩ := chooseParent_stands found
  exact ⟨parent, held, (ceiled_eq finite).1.trans via⟩

end DodagPlace

/-! ## The invariant -/

/-- A membership that is not a root's takes its rank from its preferred parent. -/
def Member.Ranked (member : Member) : Prop :=
  member.place.isRoot = false → member.place.rank ≠ infiniteRank →
    member.place.preferredParent.isAny = false ∧ member.place.TakesRank

theorem Became.ranked {policy : Policy} {s : Standing} {key : DodagKey} {member : Member}
    (became : Became policy s key member)
    (ranked : ∀ member, s.held[key]? = some member → member.Ranked) : member.Ranked := by
  intro notRoot finite
  cases became with
  | same held => exact ranked _ held notRoot finite
  | created absent root keyed expires => exact absurd (notRoot.symm.trans root) Bool.false_ne_true
  | configured held stillRoot keyed stillTemporary =>
    exact absurd (notRoot.symm.trans stillRoot) Bool.false_ne_true
  | repaired held repairs =>
    have before := ranked _ held
    exact before notRoot finite
  | heard held root => exact absurd (notRoot.symm.trans root) Bool.false_ne_true
  | kept held _ same =>
    have before := ranked _ held
    have preferred := (before notRoot finite).1
    exact ⟨preferred, DodagPlace.takesRank_of_kept finite preferred same⟩
  | taken held _ found => exact ⟨found, DodagPlace.takesRank_of_taken found finite⟩
  | joined fresh enters => exact absurd fresh.rank finite
  | adopted held _ temporary =>
    have before := ranked _ held
    exact before notRoot finite
  | armed held discovers rooted =>
    have before := ranked _ held
    exact before notRoot finite

theorem keeps_ranked (policy : Policy) :
    TransitionSystem.Keeps (Edit policy) fun s =>
      ∀ (key : DodagKey) (member : Member), s.held[key]? = some member → member.Ranked :=
  fun _ _ edit ranked key _ held => (edit.became held).ranked (ranked key)

/-- Joins by DIOs that bring a MinHopRankIncrease. -/
def incrementPolicy : Policy where
  discovers _ := True
  discoversTemporary := trivial
  enters place := place.minHopRankIncrease ≠ 0
  moves _ _ := True

theorem Became.increments {s : Standing} {key : DodagKey} {member : Member}
    (became : Became incrementPolicy s key member)
    (increments : ∀ member : Member, s.held[key]? = some member → member.place.isRoot = false →
      member.place.minHopRankIncrease ≠ 0) (notRoot : member.place.isRoot = false) :
    member.place.minHopRankIncrease ≠ 0 := by
  cases became with
  | same held => exact increments _ held notRoot
  | created absent root keyed expires => exact absurd (notRoot.symm.trans root) Bool.false_ne_true
  | configured held stillRoot keyed stillTemporary =>
    exact absurd (notRoot.symm.trans stillRoot) Bool.false_ne_true
  | repaired held repairs =>
    have before := increments _ held
    exact before notRoot
  | heard held root => exact absurd (notRoot.symm.trans root) Bool.false_ne_true
  | kept held _ same =>
    have before := increments _ held
    exact before notRoot
  | taken held _ found =>
    have before := increments _ held
    exact before notRoot
  | joined fresh enters => exact enters
  | adopted held _ temporary =>
    have before := increments _ held
    exact before notRoot
  | armed held discovers rooted =>
    have before := increments _ held
    exact before notRoot

theorem keeps_increments :
    TransitionSystem.Keeps (Edit incrementPolicy) fun s =>
      ∀ (key : DodagKey) (member : Member), s.held[key]? = some member →
        member.place.isRoot = false → member.place.minHopRankIncrease ≠ 0 :=
  fun _ _ edit increments key _ held => (edit.became held).increments (increments key)

namespace Node

/-- In every node that can be reached a finite rank is the rank the preferred parent gives. -/
theorem takesRank_of_reachable {n : Node} (reachable : nodeSystem.Reachable n) {key : DodagKey}
    {dodag : DodagMembership} (held : n.dodags[key]? = some dodag) (notRoot : dodag.isRoot = false)
    (finite : dodag.rank ≠ infiniteRank) : dodag.toDodagPlace.TakesRank :=
  (invariant_of_edits (fun _ initial => initial.members _) (keeps_ranked .any)
    (run_any_of_reachable reachable) key dodag.member (held_member held) notRoot finite).2

/-! ## The condition -/

/-- A DIO by which the node joins a DODAG, or joins it again in another Version, does not bring
a MinHopRankIncrease of 0. -/
def JoinsWithIncrement (n : Node) (e : Event) : Prop :=
  ∀ heard dio, e = .receive heard (.dio dio) → n.takesDio dio heard = true →
    n.joinsBy dio = true → ∀ conf, dio.dagConf = some conf → conf.minHopRankIncrease ≠ 0

/-- The increment of a membership is the one its DIO brings, or a default. -/
theorem joinedMembership_increment (n : Node) {dio : DioHeader}
    (brings : ∀ conf, dio.dagConf = some conf → conf.minHopRankIncrease ≠ 0) :
    (n.joinedMembership dio).minHopRankIncrease ≠ 0 := by
  have same : (n.joinedMembership dio).minHopRankIncrease =
      (withParameters (n.newMembership dio) dio).minHopRankIncrease := rfl
  rw [same, withParameters]
  split
  · next conf carried => exact brings conf carried
  · split
    · change (256 : UInt16) ≠ 0
      decide
    · change minHopRankIncDefault ≠ 0
      decide

theorem complies_of_joinsWithIncrement (n : Node) (e : Event) (joins : n.JoinsWithIncrement e) :
    n.Complies incrementPolicy e :=
  fun heard dio received takes =>
    { discovers := fun _ _ _ => trivial
      enters := fun joining m =>
        m.joinedMembership_increment (joins heard dio received takes joining)
      moves := fun _ _ _ => trivial }

/-- While no membership is joined with a MinHopRankIncrease of 0, every membership with a
finite rank that is not a root's has its preferred parent among its neighbours, the rank that
parent gives, and a greater rank than the parent. -/
theorem parentEdge_of_run {n : Node} (run : nodeSystem.Run JoinsWithIncrement n) {key : DodagKey}
    {dodag : DodagMembership} (held : n.dodags[key]? = some dodag) (notRoot : dodag.isRoot = false)
    (finite : dodag.rank ≠ infiniteRank) : dodag.toDodagPlace.ParentEdge := by
  have complying := TransitionSystem.Run.mono complies_of_joinsWithIncrement run
  have increment := invariant_of_edits (fun _ initial => initial.members _) keeps_increments
    complying key dodag.member (held_member held) notRoot
  exact (takesRank_of_reachable run.reachable held notRoot finite).parentEdge finite increment

/-! ## A DIO that brings no increment -/

/-- The DIO of a neighbour at rank 128 in the DODAG of 2001:db8::1, with the given
MinHopRankIncrease. -/
def incrementDio (increment : UInt16) : DioHeader :=
  { rank := 128
    dodagId := 0x20010db8000000000000000000000001#128
    dagConf := some { minHopRankIncrease := increment } }

/-- A router that has started and heard that DIO. -/
def joinedWith (increment : UInt16) : Node :=
  (started leafIpv6).apply (hears (incrementDio increment))

theorem joinedWith_run (increment : UInt16) {good : Node → Event → Prop}
    (condition : good (started leafIpv6) (hears (incrementDio increment))) :
    nodeSystem.Run good (joinedWith increment) :=
  run_hears (started_run leafIpv6) (started_listens _) condition

/-- The router takes the rank of its parent. -/
theorem flat_not_parentEdge :
    nodeSystem.Reachable (joinedWith 0) ∧
      ∃ dodag, (joinedWith 0).dodags[(incrementDio 0).key]? = some dodag ∧
        dodag.isRoot = false ∧ dodag.rank ≠ infiniteRank ∧ ¬dodag.toDodagPlace.ParentEdge := by
  refine ⟨joinedWith_run 0 trivial, ?_⟩
  have outcome : ((joinedWith 0).dodags[(incrementDio 0).key]?).map (fun dodag =>
      (dodag.isRoot, dodag.rank, (dodag.parents[dodag.preferredParent]?).map Parent.rank)) =
      some (false, 128, some 128) := by
    decide +kernel
  obtain ⟨dodag, held, fields⟩ := Option.map_eq_some_iff.mp outcome
  simp only [Prod.mk.injEq] at fields
  obtain ⟨notRoot, rank, parentRank⟩ := fields
  refine ⟨dodag, held, notRoot, by rw [rank]; decide, ?_⟩
  rintro ⟨parent, heldParent, -, greater⟩
  rw [heldParent, Option.map_some, Option.some.injEq] at parentRank
  rw [parentRank, rank] at greater
  exact absurd greater (by decide)

theorem joinsWithIncrement_incrementDio (n : Node) :
    n.JoinsWithIncrement (hears (incrementDio 128)) := by
  intro heard dio received _ _ conf carried
  injection received with _ message
  injection message with same
  subst same
  cases carried
  decide

/-- With the default increment the router's rank is greater. -/
theorem stepped_parentEdge :
    ∃ dodag, (joinedWith 128).dodags[(incrementDio 128).key]? = some dodag ∧
      dodag.rank = 256 ∧ dodag.toDodagPlace.ParentEdge := by
  have outcome : ((joinedWith 128).dodags[(incrementDio 128).key]?).map (fun dodag =>
      (dodag.isRoot, dodag.rank)) = some (false, 256) := by
    decide +kernel
  obtain ⟨dodag, held, fields⟩ := Option.map_eq_some_iff.mp outcome
  simp only [Prod.mk.injEq] at fields
  obtain ⟨notRoot, rank⟩ := fields
  have run : nodeSystem.Run JoinsWithIncrement (joinedWith 128) :=
    joinedWith_run 128 (joinsWithIncrement_incrementDio _)
  exact ⟨dodag, held, rank, parentEdge_of_run run held notRoot (by rw [rank]; decide)⟩

end Node

end Rpl
