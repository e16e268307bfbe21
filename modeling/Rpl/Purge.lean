import Rpl.Forwarding

/-!
# What `RouteOutput` purges

On its way through the lookups `RouteOutput` erases routes and topology entries
that have expired.  Every lookup passes over those anyway, so the purges are not
seen by what comes after: `PrepareOutgoingPacket` adds the same headers as it
would have added before them.
-/

namespace Rpl

open Std

/-! ## One membership -/

/-- The membership after it differs from the one before in entries that have expired only. -/
structure PurgedDodag (now : Time) (before after : DodagMembership) : Prop where
  place : after.toDodagPlace = before.toDodagPlace
  routes : ∀ target, after.findDownwardRoute now target = before.findDownwardRoute now target
  topology : (after.purgeTopology now).topology = (before.purgeTopology now).topology

namespace PurgedDodag

variable {now : Time}

theorem refl (dodag : DodagMembership) : PurgedDodag now dodag dodag :=
  ⟨rfl, fun _ => rfl, rfl⟩

theorem trans {a b c : DodagMembership} (first : PurgedDodag now a b)
    (second : PurgedDodag now b c) : PurgedDodag now a c where
  place := second.place.trans first.place
  routes target := (second.routes target).trans (first.routes target)
  topology := second.topology.trans first.topology

theorem purgeDownwardRoutes (dodag : DodagMembership) :
    PurgedDodag now dodag (dodag.purgeDownwardRoutes now) where
  place := rfl
  topology := rfl
  routes target := by
    unfold DodagMembership.findDownwardRoute DodagMembership.purgeDownwardRoutes
    dsimp only
    rw [OrderedMap.getElem?_eraseIf]
    cases dodag.downwardRoutes[target]? with
    | none => rfl
    | some route =>
      by_cases live : now < route.expire
      · have : ¬route.expire ≤ now := Int.not_le.mpr live
        simp [Option.filter, live, this]
      · have : route.expire ≤ now := Int.not_lt.mp live
        simp [Option.filter, this]

theorem purgeTopology (dodag : DodagMembership) :
    PurgedDodag now dodag (dodag.purgeTopology now) where
  place := rfl
  routes _ := rfl
  topology := by
    unfold DodagMembership.purgeTopology
    dsimp only
    refine ExtTreeMap.ext_getElem? fun target => ?_
    rw [OrderedMap.getElem?_eraseIf, OrderedMap.getElem?_eraseIf]
    cases dodag.topology[target]? with
    | none => rfl
    | some entry => by_cases dead : entry.expire ≤ now <;> simp [Option.filter, dead]

end PurgedDodag

namespace DodagMembership

/-- The climb reads the topology and the DODAGID. -/
theorem climbTopology_congr {before after : DodagMembership}
    (topology : after.topology = before.topology) (dodagId : after.dodagId = before.dodagId)
    (now : Time) (steps : Nat) (current : Ipv6Address) (chain : List Ipv6Address) :
    after.climbTopology now steps current chain = before.climbTopology now steps current chain := by
  induction steps generalizing current chain with
  | zero => rfl
  | succ steps ih =>
    unfold climbTopology
    rw [topology, dodagId]
    cases before.topology[current]? with
    | none => rfl
    | some entry =>
      dsimp only
      rw [ih]

theorem computeSourceRoute_congr {before after : DodagMembership}
    (topology : after.topology = before.topology)
    (place : after.toDodagPlace = before.toDodagPlace) (now : Time) (destination : Ipv6Address) :
    after.computeSourceRoute now destination = before.computeSourceRoute now destination := by
  unfold computeSourceRoute
  rw [topology, place, climbTopology_congr topology (congrArg DodagPlace.dodagId place)]

theorem climbTopology_ne_nil {dodag : DodagMembership} {now : Time} {steps : Nat}
    {current : Ipv6Address} {chain hops : List Ipv6Address}
    (climbed : dodag.climbTopology now steps current chain = some hops) : hops ≠ [] := by
  induction steps generalizing current chain with
  | zero => exact nomatch climbed
  | succ steps ih =>
    unfold climbTopology at climbed
    cases held : dodag.topology[current]? with
    | none =>
      rw [held] at climbed
      exact nomatch climbed
    | some entry =>
      rw [held] at climbed
      dsimp only at climbed
      split at climbed
      · exact nomatch climbed
      split at climbed
      · cases climbed
        exact List.cons_ne_nil _ _
      · exact ih climbed

/-- A source route has a first hop, and its hops are link-local. -/
theorem computeSourceRoute_hops {dodag : DodagMembership} {now : Time}
    {destination : Ipv6Address} {hops : List Ipv6Address}
    (found : dodag.computeSourceRoute now destination = some hops) :
    hops ≠ [] ∧ ∀ hop ∈ hops, hop.isLinkLocal = true := by
  unfold computeSourceRoute at found
  split at found
  · exact nomatch found
  obtain ⟨chain, climbed, rfl⟩ := Option.map_eq_some_iff.mp found
  refine ⟨by simpa using climbTopology_ne_nil climbed, ?_⟩
  intro hop mem
  obtain ⟨address, -, rfl⟩ := List.mem_map.mp mem
  exact isLinkLocal_linkLocalOf address

end DodagMembership

/-! ## The node -/

namespace Node

/-- The node after it differs from the one before in entries that have expired only. -/
def Purged (n after : Node) : Prop :=
  ∃ purge : DodagKey → DodagMembership → DodagMembership,
    (∀ key dodag, PurgedDodag n.now dodag (purge key dodag)) ∧
      after = { n with dodags := n.dodags.map purge }

namespace Purged

variable {n after : Node}

theorem refl (n : Node) : Purged n n := by
  refine ⟨fun _ dodag => dodag, fun _ dodag => PurgedDodag.refl dodag, ?_⟩
  rw [ExtTreeMap.map_id]

theorem trans {a b c : Node} (first : Purged a b) (second : Purged b c) : Purged a c := by
  obtain ⟨purge, purged, rfl⟩ := first
  obtain ⟨purge', purged', rfl⟩ := second
  refine ⟨fun key dodag => purge' key (purge key dodag),
    fun key dodag => (purged key dodag).trans (purged' key _), ?_⟩
  dsimp only
  rw [ExtTreeMap.map_map]

theorem modifyDodag (n : Node) (key : DodagKey) {f : DodagMembership → DodagMembership}
    (purges : ∀ dodag, PurgedDodag n.now dodag (f dodag)) : Purged n (n.modifyDodag key f) := by
  refine ⟨fun other dodag => if other = key then f dodag else dodag, ?_, ?_⟩
  · intro other dodag
    dsimp only
    split
    · exact purges dodag
    · exact PurgedDodag.refl dodag
  · rw [Node.modifyDodag, OrderedMap.modify_eq_map]

theorem purgeStoring (n : Node) : Purged n n.purgeStoring := by
  unfold Node.purgeStoring
  split
  · refine modifyDodag n n.baseDodagKey fun dodag => ?_
    split
    · exact PurgedDodag.purgeDownwardRoutes dodag
    · exact PurgedDodag.refl dodag
  · exact refl n

theorem purgeRoots (n : Node) (destination : Ipv6Address)
    (visited : List (DodagKey × DodagMembership)) :
    Purged n (n.purgeRoots destination visited) := by
  induction visited generalizing n with
  | nil => exact refl n
  | cons entry rest ih =>
    obtain ⟨key, dodag⟩ := entry
    unfold Node.purgeRoots
    split
    · exact ih n
    have here : Purged n (n.modifyDodag key fun dodag => dodag.purgeTopology n.now) :=
      modifyDodag n key fun dodag => PurgedDodag.purgeTopology dodag
    dsimp only
    split
    · exact here
    · exact here.trans (ih _)

theorem afterRouteOutput (n : Node) (destination : Ipv6Address) (oif : Option Nat) :
    Purged n (n.afterRouteOutput destination oif) := by
  unfold Node.afterRouteOutput
  split
  · exact refl n
  split
  · exact purgeStoring n
  · exact (purgeStoring n).trans (purgeRoots _ _ _)

/-! ## The lookups of `PrepareOutgoingPacket` -/

/-- The place of a membership found. -/
theorem getBaseDodag_place (purged : Purged n after) :
    after.getBaseDodag.map DodagMembership.toDodagPlace =
      n.getBaseDodag.map DodagMembership.toDodagPlace := by
  obtain ⟨purge, purges, rfl⟩ := purged
  unfold getBaseDodag
  dsimp only
  split
  · rw [ExtTreeMap.getElem?_map, Option.map_map]
    congr 1
    funext dodag
    exact (purges _ dodag).place
  · rfl

theorem getDownwardRoute (purged : Purged n after) (key : DodagKey) (target : Ipv6Address) :
    after.getDownwardRoute key target = n.getDownwardRoute key target := by
  obtain ⟨purge, purges, rfl⟩ := purged
  unfold Node.getDownwardRoute
  rw [ExtTreeMap.getElem?_map]
  cases n.dodags[key]? with
  | none => rfl
  | some dodag => exact (purges key dodag).routes target

theorem stampingStoring_place (purged : Purged n after) (destination : Ipv6Address) :
    (after.stampingStoring destination).map DodagMembership.toDodagPlace =
      (n.stampingStoring destination).map DodagMembership.toDodagPlace := by
  have base := purged.getBaseDodag_place
  have route := fun key => purged.getDownwardRoute key destination
  unfold stampingStoring
  cases now : n.getBaseDodag with
  | none =>
    rw [now] at base
    rw [Option.map_eq_none_iff.mp base]
    rfl
  | some dodag =>
    rw [now] at base
    obtain ⟨dodag', now', place⟩ := Option.map_eq_some_iff.mp base
    rw [now']
    simp only [Option.filter, route, place]
    split
    · exact congrArg some place
    · rfl

theorem baseFirst (purged : Purged n after) :
    ∃ purge : DodagKey → DodagMembership → DodagMembership,
      (∀ key dodag, PurgedDodag n.now dodag (purge key dodag)) ∧
      after.baseFirst = n.baseFirst.map fun entry => (entry.1, purge entry.1 entry.2) := by
  obtain ⟨purge, purges, rfl⟩ := purged
  refine ⟨purge, purges, ?_⟩
  unfold Node.baseFirst
  dsimp only
  rw [ExtTreeMap.toList_map, List.filter_map, List.filter_map, List.map_append]
  rfl

theorem otherDodags_place (purged : Purged n after) :
    after.otherDodags.map DodagMembership.toDodagPlace =
      n.otherDodags.map DodagMembership.toDodagPlace := by
  obtain ⟨purge, purges, rfl⟩ := purged
  unfold otherDodags
  dsimp only
  rw [ExtTreeMap.toList_map, List.filter_map, List.map_map, List.map_map, List.map_map]
  congr 1
  funext entry
  exact (purges entry.1 entry.2).place

theorem stampingDodag_place (purged : Purged n after) (destination : Ipv6Address) :
    (after.stampingDodag destination).map DodagMembership.toDodagPlace =
      (n.stampingDodag destination).map DodagMembership.toDodagPlace := by
  have others : ∀ m : Node, (m.otherDodags.find? fun other => other.dodagId = destination).map
      DodagMembership.toDodagPlace =
      (m.otherDodags.map DodagMembership.toDodagPlace).find? fun place =>
        place.dodagId = destination := by
    intro m
    rw [List.find?_map]
    rfl
  unfold stampingDodag
  rw [Option.map_or, Option.map_or, others, others, purged.otherDodags_place,
    purged.getBaseDodag_place]

theorem findRootDodagFor_place (purged : Purged n after) (destination : Ipv6Address) :
    (after.findRootDodagFor destination).map (fun found => (found.1.toDodagPlace, found.2)) =
      (n.findRootDodagFor destination).map fun found => (found.1.toDodagPlace, found.2) := by
  have now : after.now = n.now := by
    obtain ⟨purge, -, rfl⟩ := purged
    rfl
  obtain ⟨purge, purges, list⟩ := purged.baseFirst
  unfold findRootDodagFor
  rw [list, List.findSome?_map, List.map_findSome?, List.map_findSome?]
  congr 1
  funext entry
  obtain ⟨key, dodag⟩ := entry
  have here := purges key dodag
  have isRoot : (purge key dodag).isRoot = dodag.isRoot := congrArg DodagPlace.isRoot here.place
  simp only [Function.comp_apply, rootRouteIn, now, isRoot]
  split
  · rfl
  · have place : ((purge key dodag).purgeTopology n.now).toDodagPlace =
        (dodag.purgeTopology n.now).toDodagPlace := here.place
    rw [DodagMembership.computeSourceRoute_congr here.topology place, Option.map_map,
      Option.map_map]
    congr 1
    funext hops
    exact congrArg (·, hops) place

/-- The purges are not seen by what comes after. -/
theorem headersFor (purged : Purged n after) (destination : Ipv6Address) :
    after.headersFor destination = n.headersFor destination := by
  have hopByHop : after.findHopByHopRoute destination = n.findHopByHopRoute destination := by
    obtain ⟨purge, -, rfl⟩ := purged
    rfl
  have discovered : (after.findAodvRoute destination).or (after.findP2pRoute destination) =
      (n.findAodvRoute destination).or (n.findP2pRoute destination) := by
    obtain ⟨purge, -, rfl⟩ := purged
    rfl
  have info : after.hopByHopInfo destination = n.hopByHopInfo destination := by
    obtain ⟨purge, -, rfl⟩ := purged
    rfl
  have membership : ∀ {a b : DodagMembership} (down : Bool),
      a.toDodagPlace = b.toDodagPlace → membershipInfo a down = membershipInfo b down := by
    intro a b down place
    rw [membershipInfo, membershipInfo, place]
  have default : after.defaultInfo destination = n.defaultInfo destination := by
    have place := purged.stampingDodag_place destination
    unfold defaultInfo
    cases stamped : n.stampingDodag destination with
    | none =>
      rw [stamped] at place
      rw [Option.map_eq_none_iff.mp place]
    | some dodag =>
      rw [stamped] at place
      obtain ⟨dodag', stamped', same⟩ := Option.map_eq_some_iff.mp place
      rw [stamped']
      dsimp only
      rw [membership _ same, same]
  unfold Node.headersFor
  rw [hopByHop, discovered, info]
  cases n.findHopByHopRoute destination with
  | some held => rfl
  | none =>
    dsimp only
    have storing := purged.stampingStoring_place destination
    cases stored : n.stampingStoring destination with
    | some base =>
      rw [stored] at storing
      obtain ⟨base', stored', place⟩ := Option.map_eq_some_iff.mp storing
      rw [stored']
      dsimp only
      rw [membership _ place]
    | none =>
      rw [stored] at storing
      rw [Option.map_eq_none_iff.mp storing]
      dsimp only
      cases (n.findAodvRoute destination).or (n.findP2pRoute destination) with
      | some found => rfl
      | none =>
        dsimp only
        have root := purged.findRootDodagFor_place destination
        cases rooted : n.findRootDodagFor destination with
        | none =>
          rw [rooted] at root
          rw [Option.map_eq_none_iff.mp root, default]
        | some found =>
          rw [rooted] at root
          obtain ⟨found', rooted', same⟩ := Option.map_eq_some_iff.mp root
          obtain ⟨dodag, hops⟩ := found
          obtain ⟨dodag', hops'⟩ := found'
          obtain ⟨place, rfl⟩ := Prod.mk.injEq .. ▸ same
          rw [rooted']
          dsimp only
          rw [membership _ place, place]

theorem prepareOutgoingPacket (purged : Purged n after) (destination : Ipv6Address)
    (route : Ipv6Route) :
    after.prepareOutgoingPacket destination route = n.prepareOutgoingPacket destination route := by
  have sockets : after.sockets = n.sockets := by
    obtain ⟨purge, -, rfl⟩ := purged
    rfl
  rw [Node.prepareOutgoingPacket, Node.prepareOutgoingPacket, sockets, purged.headersFor]

end Purged

end Node

end Rpl
