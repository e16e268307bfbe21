import Rpl.Emit
import Rpl.Lib.KeyedFold

/-!
# One target of a DAO

`HandleDao` works through the entries of a DAO one by one, and each of them
touches the tables at its own target only.  So what a DAO does to one target is
what its entries for that target do, one after the other, to three things: the
target's downward route, its topology entry, and what is to be relayed about it.
`takeEntry` is one such entry, and `handleTargets_view` says so of a whole DAO.
-/

namespace Rpl

open Std

/-- What a membership holds about one target while a DAO is handled. -/
structure TargetView where
  route : Option DownwardRoute
  link : Option TopologyEntry
  relayed : List AdditionalTarget := []
  deriving DecidableEq, Repr

namespace DodagMembership

/-! ## One entry -/

@[simp] theorem pathOrder_none (pathSequence : UInt8) : pathOrder none pathSequence = .greater :=
  rfl

/-- The target's downward route after an entry for it. -/
def takeRoute (context : DaoContext) (held : Option DownwardRoute) (entry : AdditionalTarget) :
    Option DownwardRoute :=
  if (pathOrder (held.map DownwardRoute.pathSequence) entry.pathSequence).stale then held
  else if entry.noPath then none
  else some (advertisedRoute context entry)

/-- The entry is news for the routers above. -/
def routeChanged (held : Option DownwardRoute) (entry : AdditionalTarget) : Bool :=
  let order := pathOrder (held.map DownwardRoute.pathSequence) entry.pathSequence
  !order.stale && if entry.noPath then held.isSome else order = .greater

/-- The target's topology entry with an expired one gone. -/
def liveLink (now : Time) (held : Option TopologyEntry) : Option TopologyEntry :=
  held.filter fun link => now < link.expire

theorem liveLink_of_lt {now : Time} {link : TopologyEntry} (alive : now < link.expire) :
    liveLink now (some link) = some link := by
  simp [liveLink, Option.filter, alive]

theorem liveLink_of_not_lt {now : Time} {link : TopologyEntry} (dead : ¬now < link.expire) :
    liveLink now (some link) = none := by
  simp [liveLink, Option.filter, Int.not_lt.mp dead]

/-- The target's topology entry after an entry for it. -/
def takeLink (context : DaoContext) (held : Option TopologyEntry) (entry : AdditionalTarget) :
    Option TopologyEntry :=
  let held := liveLink context.now held
  if (pathOrder (held.map TopologyEntry.pathSequence) entry.pathSequence).stale then held
  else if entry.noPath then none
  else some (advertisedLink context entry)

/-- One entry for the target, at a membership in the given place. -/
def takeEntry (place : DodagPlace) (context : DaoContext) (seen : TargetView)
    (entry : AdditionalTarget) : TargetView :=
  if place.rejectsTarget context entry.target then seen
  else if place.storing then
    { seen with
      route := takeRoute context seen.route entry
      relayed :=
        if routeChanged seen.route entry && !place.isRoot then
          seen.relayed ++ [{ entry with targetPrefixLength := 128 }]
        else seen.relayed }
  else { seen with link := takeLink context seen.link entry }

/-- What a DAO in progress has for a target. -/
def DaoProgress.view (target : Ipv6Address) (progress : DaoProgress) : TargetView :=
  { route := progress.dodag.downwardRoutes[target]?
    link := progress.dodag.topology[target]?
    relayed := progress.toPropagate.filter fun entry => entry.target = target }

/-! ## The tables, pointwise -/

theorem storeDownward_route (dodag : DodagMembership) (context : DaoContext)
    (entry : AdditionalTarget) (target : Ipv6Address) :
    (dodag.storeDownward context entry).1.downwardRoutes[target]? =
      if target = entry.target then takeRoute context dodag.downwardRoutes[target]? entry
      else dodag.downwardRoutes[target]? := by
  by_cases same : target = entry.target
  · subst same
    simp only [storeDownward, takeRoute, if_true]
    split
    · rfl
    split
    · rw [OrderedMap.getElem?_erase_eq, if_pos rfl]
    · rw [OrderedMap.getElem?_insert_eq, if_pos rfl]
  · simp only [storeDownward, if_neg same]
    split
    · rfl
    split
    · rw [OrderedMap.getElem?_erase_eq, if_neg same]
    · rw [OrderedMap.getElem?_insert_eq, if_neg same]

theorem storeDownward_changed (dodag : DodagMembership) (context : DaoContext)
    (entry : AdditionalTarget) :
    (dodag.storeDownward context entry).2 =
      routeChanged dodag.downwardRoutes[entry.target]? entry := by
  simp only [storeDownward, routeChanged]
  split
  · rename_i stale
    simp [stale]
  · rename_i current
    split
    · simp [current]
    · simp [current]

@[simp] theorem storeDownward_topology (dodag : DodagMembership) (context : DaoContext)
    (entry : AdditionalTarget) :
    (dodag.storeDownward context entry).1.topology = dodag.topology := by
  simp only [storeDownward]
  split
  · rfl
  split
  · rfl
  · rfl

theorem withoutExpired_link (dodag : DodagMembership) (now : Time) (entry target : Ipv6Address) :
    (dodag.withoutExpired now entry).topology[target]? =
      if target = entry then liveLink now dodag.topology[target]?
      else dodag.topology[target]? := by
  unfold withoutExpired liveLink
  cases held : dodag.topology[entry]? with
  | none => by_cases same : target = entry <;> simp [same, held]
  | some link =>
    by_cases expired : link.expire ≤ now
    · have late : ¬now < link.expire := Int.not_lt.mpr expired
      simp only [Option.any_some, expired, decide_true, if_true, OrderedMap.getElem?_erase_eq]
      by_cases same : target = entry <;> simp [same, held, late, Option.filter]
    · have live : now < link.expire := Int.not_le.mp expired
      by_cases same : target = entry <;> simp [same, held, live, expired, Option.filter]

theorem storeTopology_link (dodag : DodagMembership) (context : DaoContext)
    (entry : AdditionalTarget) (target : Ipv6Address) :
    (dodag.storeTopology context entry).topology[target]? =
      if target = entry.target then takeLink context dodag.topology[target]? entry
      else dodag.topology[target]? := by
  have live := dodag.withoutExpired_link context.now entry.target target
  by_cases same : target = entry.target
  · subst same
    rw [if_pos rfl] at live
    simp only [storeTopology, takeLink, if_true, live]
    split
    · exact live
    split
    · rw [OrderedMap.getElem?_erase_eq, if_pos rfl]
    · rw [OrderedMap.getElem?_insert_eq, if_pos rfl]
  · rw [if_neg same] at live
    simp only [storeTopology, if_neg same]
    split
    · exact live
    split
    · rw [OrderedMap.getElem?_erase_eq, if_neg same, live]
    · rw [OrderedMap.getElem?_insert_eq, if_neg same, live]

@[simp] theorem withoutExpired_routes (dodag : DodagMembership) (now : Time)
    (target : Ipv6Address) :
    (dodag.withoutExpired now target).downwardRoutes = dodag.downwardRoutes := by
  unfold withoutExpired
  split
  · rfl
  · rfl

@[simp] theorem storeTopology_routes (dodag : DodagMembership) (context : DaoContext)
    (entry : AdditionalTarget) :
    (dodag.storeTopology context entry).downwardRoutes = dodag.downwardRoutes := by
  simp only [storeTopology]
  split
  · exact withoutExpired_routes ..
  split
  · exact withoutExpired_routes ..
  · exact withoutExpired_routes ..

/-! ## The rest of the membership -/

/-- The two memberships differ in their downward tables only. -/
def OnlyTables (before after : DodagMembership) : Prop :=
  after =
    { before with downwardRoutes := after.downwardRoutes, topology := after.topology }

theorem OnlyTables.refl (dodag : DodagMembership) : OnlyTables dodag dodag := rfl

theorem OnlyTables.trans {a b c : DodagMembership} (first : OnlyTables a b)
    (second : OnlyTables b c) : OnlyTables a c := by
  unfold OnlyTables at *
  rw [second, first]

theorem OnlyTables.place {before after : DodagMembership} (tables : OnlyTables before after) :
    after.toDodagPlace = before.toDodagPlace := by
  rw [tables]

theorem OnlyTables.prefixInfo {before after : DodagMembership}
    (tables : OnlyTables before after) : after.prefixInfo = before.prefixInfo := by
  rw [tables]

theorem storeDownward_onlyTables (dodag : DodagMembership) (context : DaoContext)
    (entry : AdditionalTarget) : OnlyTables dodag (dodag.storeDownward context entry).1 := by
  unfold storeDownward
  dsimp only
  split
  · rfl
  split
  · rfl
  · rfl

theorem withoutExpired_onlyTables (dodag : DodagMembership) (now : Time)
    (target : Ipv6Address) : OnlyTables dodag (dodag.withoutExpired now target) := by
  unfold withoutExpired
  split
  · rfl
  · rfl

theorem storeTopology_onlyTables (dodag : DodagMembership) (context : DaoContext)
    (entry : AdditionalTarget) : OnlyTables dodag (dodag.storeTopology context entry) := by
  have purged := dodag.withoutExpired_onlyTables context.now entry.target
  unfold storeTopology
  dsimp only
  split
  · exact purged
  split
  · exact purged.trans rfl
  · exact purged.trans rfl

/-- An entry changes nothing in the membership but the two tables. -/
theorem handleOneTarget_onlyTables (context : DaoContext) (progress : DaoProgress)
    (entry : AdditionalTarget) :
    OnlyTables progress.dodag (handleOneTarget context progress entry).dodag := by
  unfold handleOneTarget
  dsimp only
  split
  · rfl
  split
  · exact storeDownward_onlyTables ..
  · exact storeTopology_onlyTables ..

/-! ## A whole DAO -/

theorem handleOneTarget_own (context : DaoContext) (progress : DaoProgress)
    (entry : AdditionalTarget) :
    (handleOneTarget context progress entry).view entry.target =
      takeEntry progress.dodag.toDodagPlace context (progress.view entry.target) entry := by
  unfold handleOneTarget takeEntry DaoProgress.view
  dsimp only
  split
  · rfl
  split
  · rw [storeDownward_route, if_pos rfl, storeDownward_topology, storeDownward_changed]
    split
    · simp
    · rfl
  · rw [storeTopology_link, if_pos rfl, storeTopology_routes]

theorem handleOneTarget_frame (context : DaoContext) (progress : DaoProgress)
    (entry : AdditionalTarget) {target : Ipv6Address} (other : target ≠ entry.target) :
    (handleOneTarget context progress entry).view target = progress.view target := by
  unfold handleOneTarget DaoProgress.view
  dsimp only
  split
  · rfl
  split
  · rw [storeDownward_route, if_neg other, storeDownward_topology]
    split
    · simp [Ne.symm other]
    · rfl
  · rw [storeTopology_link, if_neg other, storeTopology_routes]

/-- The entries of a DAO for one target. -/
def entriesFor (target : Ipv6Address) (entries : List AdditionalTarget) :
    List AdditionalTarget :=
  entries.filter fun entry => entry.target = target

theorem target_of_mem_entriesFor {target : Ipv6Address} {entry : AdditionalTarget}
    {entries : List AdditionalTarget} (mem : entry ∈ entriesFor target entries) :
    entry.target = target := by
  simpa using (List.mem_filter.mp mem).2

/-- Entries touch their own targets only. -/
theorem handleOneTarget_local (dodag : DodagMembership) (context : DaoContext) :
    KeyedFold.Local (fun progress : DaoProgress => OnlyTables dodag progress.dodag)
      (handleOneTarget context) AdditionalTarget.target DaoProgress.view
      (takeEntry dodag.toDodagPlace context) where
  keeps progress entry tables := tables.trans (handleOneTarget_onlyTables context progress entry)
  own progress entry tables := tables.place ▸ handleOneTarget_own context progress entry
  frame progress entry _ _ other := handleOneTarget_frame context progress entry other

/-- What a DAO leaves of a target is what its entries for the target make of it. -/
theorem handleTargets_view (dodag : DodagMembership) (context : DaoContext)
    (entries : List AdditionalTarget) (target : Ipv6Address) :
    (dodag.handleTargets context entries).view target =
      (entriesFor target entries).foldl (takeEntry dodag.toDodagPlace context)
        ⟨dodag.downwardRoutes[target]?, dodag.topology[target]?, []⟩ :=
  (handleOneTarget_local dodag context).foldl entries (OnlyTables.refl dodag) target

theorem handleTargets_onlyTables (dodag : DodagMembership) (context : DaoContext)
    (entries : List AdditionalTarget) :
    OnlyTables dodag (dodag.handleTargets context entries).dodag :=
  (handleOneTarget_local dodag context).good_foldl entries (OnlyTables.refl dodag)

end DodagMembership

namespace Node

open DodagMembership

/-! ## The node after a DAO -/

/-- The DAO is taken in, by the membership at `key`. -/
structure TakesDao (n : Node) (dao : DaoHeader) (sender : Ipv6Address) (key : DodagKey)
    (dodag : DodagMembership) : Prop where
  found : n.daoMembership dao = some (key, dodag)
  accepted : dropsDao dodag sender = false

variable {n : Node} {dao : DaoHeader} {sender : Ipv6Address} {interface : Nat} {key : DodagKey}
  {dodag : DodagMembership}

theorem daoMembership_held (found : n.daoMembership dao = some (key, dodag)) :
    n.dodags[key]? = some dodag ∧ acceptsDao dodag = true := by
  unfold daoMembership at found
  obtain ⟨named, accepts⟩ := Option.filter_eq_some_iff.mp found
  refine ⟨?_, accepts⟩
  split at named
  · exact (OrderedMap.getElem?_of_first named).1
  · obtain ⟨held, lookup, pair⟩ := Option.map_eq_some_iff.mp named
    cases pair
    exact lookup

/-- A DAO that names its DODAG is for the membership in it. -/
theorem daoMembership_of_named (named : dao.dodagId.isAny = false)
    (held : n.dodags[(⟨dao.instanceId, dao.dodagId⟩ : DodagKey)]? = some dodag)
    (accepts : acceptsDao dodag = true) :
    n.daoMembership dao = some (⟨dao.instanceId, dao.dodagId⟩, dodag) := by
  unfold daoMembership
  dsimp only
  rw [if_neg (by rw [named]; exact Bool.false_ne_true), held]
  simp [Option.filter, accepts]

/-- Which membership a DAO is for does not depend on the membership's tables. -/
theorem daoMembership_setDodag (found : n.daoMembership dao = some (key, dodag))
    {m : Node} {changed : DodagMembership} (tables : OnlyTables dodag changed)
    (dodags : m.dodags = n.dodags.insert key changed) :
    m.daoMembership dao = some (key, changed) := by
  obtain ⟨held, accepts⟩ := daoMembership_held found
  have stillAccepts : acceptsDao changed = true := by
    rw [acceptsDao, DodagPlace.storing, tables.place]
    exact accepts
  unfold daoMembership at found ⊢
  refine Option.filter_eq_some_iff.mpr ⟨?_, stillAccepts⟩
  obtain ⟨named, -⟩ := Option.filter_eq_some_iff.mp found
  split at named
  · -- the first membership of the instance is the first one still
    rename_i unnamed
    rw [if_pos unnamed, findDodagByInstance, dodags, OrderedMap.first_eq_some_iff]
    rw [findDodagByInstance, OrderedMap.first_eq_some_iff] at named
    refine ⟨by rw [OrderedMap.getElem?_insert_eq, if_pos rfl], named.2.1, ?_⟩
    intro other otherDodag present sameInstance
    rw [OrderedMap.getElem?_insert_eq] at present
    by_cases same : other = key
    · exact named.2.2 other dodag (same ▸ held) sameInstance
    · rw [if_neg same] at present
      exact named.2.2 other otherDodag present sameInstance
  · rename_i byName
    rw [if_neg byName]
    obtain ⟨found, lookup, pair⟩ := Option.map_eq_some_iff.mp named
    cases pair
    rw [dodags, OrderedMap.getElem?_insert_eq, if_pos rfl]
    rfl

/-- What a DAO is handled with depends on nothing a DAO changes. -/
theorem daoContext_setDodag {changed : DodagMembership} (tables : OnlyTables dodag changed)
    (sent : List Output) :
    ((n.setDodag key changed).emit sent).daoContext changed dao sender interface =
      n.daoContext dodag dao sender interface := by
  unfold daoContext getGlobalAddressIn
  rw [tables.prefixInfo]
  rfl

/-- A DAO taken in rewrites its membership's tables and sends. -/
theorem handleDao_eq (interface : Nat) (takes : n.TakesDao dao sender key dodag) :
    ∃ sent, n.handleDao dao sender interface =
      (n.setDodag key
        (dodag.handleTargets (n.daoContext dodag dao sender interface) dao.entries).dodag).emit
        sent := by
  unfold handleDao
  rw [takes.found]
  dsimp only
  rw [if_neg (by rw [takes.accepted]; exact Bool.false_ne_true)]
  obtain ⟨relayed, relays⟩ := relayDao_emits
    (n.setDodag key
      (dodag.handleTargets (n.daoContext dodag dao sender interface) dao.entries).dodag)
    (dodag.handleTargets (n.daoContext dodag dao sender interface) dao.entries).dodag
    (relayedEntries (dodag.handleTargets (n.daoContext dodag dao sender interface) dao.entries))
  rw [relays]
  obtain ⟨acknowledged, acknowledges⟩ := acknowledgeDao_emits _
    (dodag.handleTargets (n.daoContext dodag dao sender interface) dao.entries).dodag dao sender
    interface
  rw [acknowledges, emit_emit]
  exact ⟨_, rfl⟩

end Node

end Rpl
