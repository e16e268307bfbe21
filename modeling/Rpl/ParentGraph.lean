import Rpl.Lib.Forest
import Rpl.ParentEdge

/-!
# Preferred parents lead to a root

Each router's rank is greater than the one its preferred parent advertised last.  Over the
routers of a DODAG, each with a run of its own, the preferred parents then make a forest under
the roots, as long as no router's rank has risen since its children have heard it.
-/

namespace Rpl

open Std

/-! ## The routers -/

/-- The routers of a DODAG, with the one that sends with a link-local address. -/
structure Routers (ι : Type) where
  key : DodagKey
  node : ι → Node
  dodag : ι → DodagMembership
  router : Ipv6Address → Option ι

namespace Routers

variable {ι : Type} {net : Routers ι}

/-- The preferred parent of a router; a root has none. -/
def parent (net : Routers ι) (i : ι) : Option ι :=
  if (net.dodag i).isRoot then none else net.router (net.dodag i).preferredParent

/-- Every router has run up to here, and no preferred parent has a greater rank than its child
has it down with. -/
structure Current (net : Routers ι) : Prop where
  run : ∀ i, nodeSystem.Run Node.JoinsWithIncrement (net.node i)
  held : ∀ i, (net.node i).dodags[net.key]? = some (net.dodag i)
  finite : ∀ i, (net.dodag i).rank ≠ infiniteRank
  found : ∀ i, (net.dodag i).isRoot = false →
    (net.router (net.dodag i).preferredParent).isSome = true
  current : ∀ i above entry, net.parent i = some above →
    (net.dodag i).preferredEntry = some entry → (net.dodag above).rank ≤ entry.rank

variable {i above : ι}

/-- The rank falls along the edge to the preferred parent. -/
theorem Current.rank_lt (current : net.Current) (leads : net.parent i = some above) :
    (net.dodag above).rank < (net.dodag i).rank := by
  have notRoot : (net.dodag i).isRoot = false := by
    rw [parent] at leads
    split at leads
    · cases leads
    · next not => exact Bool.eq_false_iff.mpr not
  have complying := TransitionSystem.Run.mono Node.complies_of_joinsWithIncrement (current.run i)
  have increment := Node.invariant_of_edits (fun _ initial => initial.members _) keeps_increments
    complying net.key (net.dodag i).member (Node.held_member (current.held i)) notRoot
  have takes := Node.takesRank_of_reachable (current.run i).reachable (current.held i) notRoot
    (current.finite i)
  obtain ⟨entry, isEntry, -, less⟩ := takes.parentEdge (current.finite i) increment
  have known := current.current i above entry leads isEntry
  rw [UInt16.lt_iff_toNat_lt] at less ⊢
  exact Nat.lt_of_le_of_lt (UInt16.le_iff_toNat_le.mp known) less

theorem Current.rank_lt_of_below (current : net.Current)
    (below : Forest.Below net.parent i above) : (net.dodag above).rank < (net.dodag i).rank := by
  induction below with
  | single leads => exact current.rank_lt leads
  | tail _ leads ih => exact UInt16.lt_trans (current.rank_lt leads) ih

/-- From every router the preferred parents lead to a root, and never back to the router. -/
theorem parents_lead_to_root (current : net.Current) (i : ι) :
    (∃ root, (net.dodag root).isRoot = true ∧ Forest.Under net.parent i root) ∧
      ¬Forest.Below net.parent i i := by
  refine ⟨?_, fun below => UInt16.lt_irrefl _ (current.rank_lt_of_below below)⟩
  induction rank : (net.dodag i).rank.toNat using Nat.strong_induction_on generalizing i with
  | _ rank ih =>
    cases isRoot : (net.dodag i).isRoot with
    | true => exact ⟨i, isRoot, .refl⟩
    | false =>
      obtain ⟨above, isAbove⟩ := Option.isSome_iff_exists.mp (current.found i isRoot)
      have leads : net.parent i = some above := by
        rw [parent, isRoot, if_neg Bool.false_ne_true, isAbove]
      have less := UInt16.lt_iff_toNat_lt.mp (current.rank_lt leads)
      obtain ⟨root, rootIsRoot, under⟩ := ih _ (by omega) above rfl
      exact ⟨root, rootIsRoot, .head leads under⟩

/-! ## A root and its child -/

/-- 2001:db8::1 on interface 1, with its link-local address. -/
def rootIpv6 : Ipv6L3Protocol :=
  .ofInterfaces
    [{}, { addresses :=
      [{ address := 0xfe800000000000000000000000000001#128, scope := .linkLocal },
        { address := 0x20010db8000000000000000000000001#128, scope := .global }] }]

/-- A node that is made the root, and roots its DODAG once it has an address. -/
def rooted : Node :=
  ((Node.started rootIpv6).apply .setAsRoot).apply
    (.dadSuccess 0x20010db8000000000000000000000001#128)

/-- The root, and the router that has joined under it. -/
def pairOf : Bool → Node
  | true => rooted
  | false => Node.joinedWith 128

def pair : Routers Bool where
  key := (Node.incrementDio 128).key
  node := pairOf
  dodag i := ((pairOf i).dodags[(Node.incrementDio 128).key]?).getD {}
  router a := if a = 0xfe800000000000000000000000000001#128 then some true else none

theorem pair_facts :
    (∀ i, ((pairOf i).dodags[pair.key]?).isSome = true) ∧
      (pair.dodag true).isRoot = true ∧ (pair.dodag true).rank = 128 ∧
      (pair.dodag false).isRoot = false ∧ (pair.dodag false).rank = 256 ∧
      (pair.dodag false).preferredParent = 0xfe800000000000000000000000000001#128 ∧
      (pair.dodag false).preferredEntry.map Parent.rank = some 128 := by
  decide +kernel

theorem rooted_run : nodeSystem.Run Node.JoinsWithIncrement rooted := by
  have started : nodeSystem.Run Node.JoinsWithIncrement (Node.started rootIpv6) :=
    Node.started_run rootIpv6
  refine Node.run_apply (Node.run_apply started trivial ?_) trivial ?_
  · intro heard dio received
    cases received
  · intro heard dio received
    cases received

theorem pair_current : pair.Current := by
  obtain ⟨held, isRoot, rank, notRoot, rankBelow, isParent, entryRank⟩ := pair_facts
  have noParent : pair.parent true = none := by rw [parent, isRoot, if_pos rfl]
  have hasParent : pair.parent false = some true := by
    rw [parent, notRoot, if_neg Bool.false_ne_true, isParent]
    rfl
  exact
    { run := fun i => by
        cases i with
        | true => exact rooted_run
        | false => exact Node.joinedWith_run 128 (Node.joinsWithIncrement_incrementDio _)
      held := fun i => by
        obtain ⟨dodag, isHeld⟩ := Option.isSome_iff_exists.mp (held i)
        have same : pair.dodag i = dodag := congrArg (·.getD {}) isHeld
        exact same ▸ isHeld
      finite := fun i => by
        cases i with
        | true => exact rank ▸ by decide
        | false => exact rankBelow ▸ by decide
      found := fun i notRootHere => by
        cases i with
        | true => exact absurd isRoot (Bool.eq_false_iff.mp notRootHere)
        | false => exact isParent ▸ rfl
      current := fun i above entry leads isEntry => by
        cases i with
        | true =>
          rw [noParent] at leads
          cases leads
        | false =>
          cases hasParent.symm.trans leads
          rw [isEntry, Option.map_some, Option.some.injEq] at entryRank
          rw [rank, entryRank]
          exact UInt16.le_refl _ }

/-- The child's preferred parent is the root. -/
theorem pair_leads_to_root :
    (∃ root, (pair.dodag root).isRoot = true ∧ Forest.Under pair.parent false root) ∧
      ¬Forest.Below pair.parent false false :=
  parents_lead_to_root pair_current false

end Routers

end Rpl
