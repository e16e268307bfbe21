import Rpl.Lib.Climb
import Rpl.Tables

/-!
# Source routes are the chains of parent links

`ComputeSourceRoute` walks from the destination up the parents a Non-Storing root
has been told of.  The chain it walks passes no node twice, so there are enough
turns for every chain there is, whatever cycles the links form elsewhere.
-/

namespace Rpl

open Std

namespace DodagMembership

variable {dodag : DodagMembership} {now : Time} {destination : Ipv6Address}

/-- The parent an unexpired entry of the topology gives a node. -/
def topologyParent (dodag : DodagMembership) (now : Time) (node : Ipv6Address) :
    Option Ipv6Address :=
  (dodag.topology[node]?.filter fun entry => now < entry.expire).map TopologyEntry.parent

/-- Following parent links, one at least, leads from one node to the other. -/
def LinksLead (dodag : DodagMembership) (now : Time) : Ipv6Address → Ipv6Address → Prop :=
  Relation.TransGen fun node parent => dodag.topologyParent now node = some parent

/-- The nodes passed from the destination, which comes first, until the root is reached. -/
def Chain (dodag : DodagMembership) (now : Time) : Ipv6Address → List Ipv6Address → Prop :=
  Climb.Passes (dodag.topologyParent now) dodag.dodagId

theorem topologyParent_eq_some {node parent : Ipv6Address} :
    dodag.topologyParent now node = some parent ↔
      ∃ entry, dodag.topology[node]? = some entry ∧ now < entry.expire ∧ entry.parent = parent := by
  simp only [topologyParent, Option.map_eq_some_iff, Option.filter_eq_some_iff, decide_eq_true_eq,
    and_assoc]

/-- The walk finds the chain, when there are turns enough for it. -/
theorem climbTopology_eq_some {steps : Nat} {current : Ipv6Address}
    {collected route : List Ipv6Address} :
    dodag.climbTopology now steps current collected = some route ↔
      ∃ chain, dodag.Chain now current chain ∧ chain.length ≤ steps ∧
        route = chain.reverse ++ collected := by
  induction steps generalizing current collected with
  | zero =>
    constructor
    · exact fun found => nomatch found
    · rintro ⟨chain, passes, short, -⟩
      cases passes with
      | last _ => exact absurd short (by simp)
      | on _ _ _ => exact absurd short (by simp)
  | succ steps ih =>
    constructor
    · intro found
      unfold climbTopology at found
      split at found
      · exact nomatch found
      · next entry held =>
        split at found
        · exact nomatch found
        · next unexpired =>
          have leads : dodag.topologyParent now current = some entry.parent :=
            topologyParent_eq_some.mpr ⟨entry, held, Int.not_le.mp unexpired, rfl⟩
          split at found
          · next arrives =>
            cases found
            exact ⟨[current], .last (arrives ▸ leads), by simp, rfl⟩
          · next further =>
            obtain ⟨chain, passes, short, rfl⟩ := ih.mp found
            refine ⟨current :: chain, .on leads further passes, ?_, ?_⟩
            · rw [List.length_cons]
              omega
            · rw [List.reverse_cons, List.append_assoc, List.singleton_append]
    · rintro ⟨chain, passes, short, rfl⟩
      unfold climbTopology
      cases passes with
      | last arrives =>
        obtain ⟨entry, held, unexpired, toRoot⟩ := topologyParent_eq_some.mp arrives
        rw [held]
        dsimp only
        rw [if_neg (Int.not_le.mpr unexpired), if_pos toRoot]
        rfl
      | @on _ above chain leads further rest =>
        obtain ⟨entry, held, unexpired, rfl⟩ := topologyParent_eq_some.mp leads
        rw [held]
        dsimp only
        rw [if_neg (Int.not_le.mpr unexpired), if_neg further, ih]
        refine ⟨chain, rest, ?_, ?_⟩
        · rw [List.length_cons] at short
          omega
        · rw [List.reverse_cons, List.append_assoc, List.singleton_append]

/-- A chain passes no node twice. -/
theorem Chain.nodup {chain : List Ipv6Address} (passes : dodag.Chain now destination chain) :
    chain.Nodup :=
  Climb.Passes.nodup passes

/-- A chain is no longer than the topology is wide. -/
theorem Chain.length_le {chain : List Ipv6Address} (passes : dodag.Chain now destination chain) :
    chain.length ≤ dodag.topology.size := by
  refine OrderedMap.length_le_size passes.nodup fun node mem => ?_
  obtain ⟨parent, leads⟩ := Option.isSome_iff_exists.mp (Climb.Passes.isSome_of_mem passes mem)
  obtain ⟨entry, held, -, -⟩ := topologyParent_eq_some.mp leads
  rw [ExtTreeMap.mem_iff_isSome_getElem?, held, Option.isSome_some]

/-- The destination of a chain is in the topology. -/
theorem Chain.contains {chain : List Ipv6Address} (passes : dodag.Chain now destination chain) :
    dodag.topology.contains destination = true := by
  have first : destination ∈ chain := by
    cases passes with
    | last _ => exact List.mem_singleton_self _
    | on _ _ _ => exact List.mem_cons_self
  obtain ⟨parent, leads⟩ := Option.isSome_iff_exists.mp (Climb.Passes.isSome_of_mem passes first)
  obtain ⟨entry, held, -, -⟩ := topologyParent_eq_some.mp leads
  rw [ExtTreeMap.contains_eq_isSome_getElem?, held, Option.isSome_some]

/-- At a root, the route computed is the chain from the root down, as link-local addresses. -/
theorem computeSourceRoute_eq_some {hops : List Ipv6Address} :
    dodag.computeSourceRoute now destination = some hops ↔
      dodag.isRoot = true ∧ ∃ chain, dodag.Chain now destination chain ∧
        hops = chain.reverse.map linkLocalOf := by
  unfold computeSourceRoute
  constructor
  · intro found
    split at found
    · exact nomatch found
    · next kept =>
      obtain ⟨route, climbed, rfl⟩ := Option.map_eq_some_iff.mp found
      obtain ⟨chain, passes, -, rfl⟩ := climbTopology_eq_some.mp climbed
      refine ⟨?_, chain, passes, by rw [List.append_nil]⟩
      by_contra leaf
      rw [Bool.not_eq_true] at leaf
      exact kept (by rw [leaf]; rfl)
  · rintro ⟨root, chain, passes, rfl⟩
    rw [if_neg (by rw [root, passes.contains]; decide)]
    have climbed : dodag.climbTopology now (dodag.topology.size + 1) destination [] =
        some chain.reverse := by
      refine climbTopology_eq_some.mpr ⟨chain, passes, ?_, (List.append_nil _).symm⟩
      have short := passes.length_le
      omega
    rw [climbed, Option.map_some]

/-- A root finds a source route exactly where following parent links through unexpired entries
leads to its DODAGID, and the route is the chain of these links from the root's side: no node
is in it twice, and every hop is the link-local address of its node. -/
theorem sourceRoute_iff (dodag : DodagMembership) (now : Time) (destination : Ipv6Address) :
    ((∃ hops, dodag.computeSourceRoute now destination = some hops) ↔
      dodag.isRoot = true ∧ dodag.LinksLead now destination dodag.dodagId) ∧
    ∀ hops, dodag.computeSourceRoute now destination = some hops →
      ∃ chain, dodag.Chain now destination chain ∧ chain.Nodup ∧
        hops = chain.reverse.map linkLocalOf := by
  refine ⟨?_, fun hops found => ?_⟩
  · rw [LinksLead, ← Climb.exists_passes_iff]
    constructor
    · rintro ⟨hops, found⟩
      obtain ⟨root, chain, passes, -⟩ := computeSourceRoute_eq_some.mp found
      exact ⟨root, chain, passes⟩
    · rintro ⟨root, chain, passes⟩
      exact ⟨_, computeSourceRoute_eq_some.mpr ⟨root, chain, passes, rfl⟩⟩
  · obtain ⟨-, chain, passes, rfl⟩ := computeSourceRoute_eq_some.mp found
    exact ⟨chain, passes, passes.nodup, rfl⟩

end DodagMembership

end Rpl
