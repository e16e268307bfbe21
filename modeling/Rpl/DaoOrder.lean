import Rpl.DaoTarget

/-!
# The order in which two DAOs arrive

A node that switches parent withdraws along the old path and advertises along
the new one, so its two DAOs may arrive in either order, and the Path Sequence
has to decide.  Between two advertisements, or two withdrawals, it does.  A
withdrawal that is the newer of the two does not survive the older
advertisement: it removes the entry and the Path Sequence with it, and nothing is
left to compare the advertisement with.
-/

namespace Rpl

open Std

namespace DodagMembership

/-! ## One table -/

/-- The downward route an entry asks for. -/
def askedRoute (context : DaoContext) (entry : AdditionalTarget) : Option DownwardRoute :=
  if entry.noPath then none else some (advertisedRoute context entry)

/-- The topology entry an entry asks for. -/
def askedLink (context : DaoContext) (entry : AdditionalTarget) : Option TopologyEntry :=
  if entry.noPath then none else some (advertisedLink context entry)

section

variable {olderContext newerContext : DaoContext} {older newer : AdditionalTarget}

/-- A newer entry is taken as it asks. -/
theorem takeRoute_of_greater {context : DaoContext} {held : Option DownwardRoute}
    {entry : AdditionalTarget}
    (greater : pathOrder (held.map DownwardRoute.pathSequence) entry.pathSequence = .greater) :
    takeRoute context held entry = askedRoute context entry := by
  unfold takeRoute askedRoute
  rw [greater, if_neg (by decide)]

theorem takeLink_of_greater {context : DaoContext} {held : Option TopologyEntry}
    {entry : AdditionalTarget}
    (greater : pathOrder (held.map TopologyEntry.pathSequence) entry.pathSequence = .greater) :
    takeLink context held entry = askedLink context entry := by
  have liveGreater : pathOrder ((liveLink context.now held).map TopologyEntry.pathSequence)
      entry.pathSequence = .greater := by
    cases held with
    | none => rfl
    | some link =>
      by_cases alive : context.now < link.expire
      · rw [liveLink_of_lt alive]
        exact greater
      · rw [liveLink_of_not_lt alive]
        rfl
  unfold takeLink askedLink
  dsimp only
  rw [liveGreater, if_neg (by decide)]

/-- What an older entry that was taken leaves does not hold up a newer one. -/
theorem pathOrder_askedRoute
    (newerWins : sequenceCompare newer.pathSequence older.pathSequence = .greater) :
    pathOrder ((askedRoute olderContext older).map DownwardRoute.pathSequence)
      newer.pathSequence = .greater := by
  unfold askedRoute
  split
  · rfl
  · exact newerWins

theorem pathOrder_askedLink
    (newerWins : sequenceCompare newer.pathSequence older.pathSequence = .greater) :
    pathOrder ((askedLink olderContext older).map TopologyEntry.pathSequence)
      newer.pathSequence = .greater := by
  unfold askedLink
  split
  · rfl
  · exact newerWins

/-- After the newer entry, the older one changes nothing unless the newer one withdrew. -/
theorem takeRoute_askedRoute_iff
    (newerWins : sequenceCompare newer.pathSequence older.pathSequence = .greater) :
    takeRoute olderContext (askedRoute newerContext newer) older =
        askedRoute newerContext newer ↔
      (newer.noPath = true → older.noPath = true) := by
  by_cases withdraws : newer.noPath = true
  · have gone : askedRoute newerContext newer = none := if_pos withdraws
    rw [gone, takeRoute_of_greater rfl]
    unfold askedRoute
    by_cases olderWithdraws : older.noPath = true <;> simp [withdraws, olderWithdraws]
  · have stands : askedRoute newerContext newer = some (advertisedRoute newerContext newer) :=
      if_neg withdraws
    rw [stands]
    have stale : pathOrder (some (advertisedRoute newerContext newer).pathSequence)
        older.pathSequence = .less := sequenceCompare_less_of_greater newerWins
    have unchanged : takeRoute olderContext (some (advertisedRoute newerContext newer)) older =
        some (advertisedRoute newerContext newer) := by
      unfold takeRoute
      rw [Option.map_some, stale, if_pos (by decide)]
    simp [unchanged, withdraws]

/-- An advertisement outlives the instant it arrives in, an infinite one up to the end of
simulated time. -/
theorem lt_pathExpiry_iff {now : Time} {pathLifetime : UInt8} (advertises : pathLifetime ≠ 0) :
    now < pathExpiry now pathLifetime ↔ (pathLifetime ≠ infiniteLifetime ∨ now < timeMax) := by
  unfold pathExpiry
  by_cases infinite : pathLifetime = infiniteLifetime
  · simp [infinite]
  · have positive : 0 < pathLifetime.toNat := by
      rcases Nat.eq_zero_or_pos pathLifetime.toNat with zero | positive
      · exact absurd (UInt8.toNat_inj.mp zero) advertises
      · exact positive
    have later : now < now + seconds (pathLifetime.toNat * defaultLifetimeUnit.toNat) := by
      have : (0 : Int) < (pathLifetime.toNat * defaultLifetimeUnit.toNat : Nat) := by
        exact_mod_cast Nat.mul_pos positive (by decide)
      unfold seconds
      dsimp only [Time] at *
      omega
    simp [infinite, later]

/-- The same of the topology, where an entry also has to be alive still to be compared
with. -/
theorem takeLink_askedLink_iff (now : olderContext.now = newerContext.now)
    (newerWins : sequenceCompare newer.pathSequence older.pathSequence = .greater) :
    takeLink olderContext (askedLink newerContext newer) older = askedLink newerContext newer ↔
      (newer.noPath = true → older.noPath = true) ∧
        (newer.pathLifetime ≠ infiniteLifetime ∨ newerContext.now < timeMax) := by
  by_cases withdraws : newer.noPath = true
  · have gone : askedLink newerContext newer = none := if_pos withdraws
    have finite : newer.pathLifetime ≠ infiniteLifetime := by
      intro infinite
      rw [AdditionalTarget.noPath, infinite] at withdraws
      exact absurd withdraws (by decide)
    rw [gone, takeLink_of_greater rfl]
    unfold askedLink
    by_cases olderWithdraws : older.noPath = true <;> simp [withdraws, olderWithdraws, finite]
  have stands : askedLink newerContext newer = some (advertisedLink newerContext newer) :=
    if_neg withdraws
  have advertises : newer.pathLifetime ≠ 0 := by simpa [AdditionalTarget.noPath] using withdraws
  have stale : pathOrder (some (advertisedLink newerContext newer).pathSequence)
      older.pathSequence = .less := sequenceCompare_less_of_greater newerWins
  rw [stands, ← lt_pathExpiry_iff advertises]
  by_cases alive : newerContext.now < pathExpiry newerContext.now newer.pathLifetime
  · have live : liveLink olderContext.now (some (advertisedLink newerContext newer)) =
        some (advertisedLink newerContext newer) := by
      rw [now]
      exact liveLink_of_lt alive
    have unchanged : takeLink olderContext (some (advertisedLink newerContext newer)) older =
        some (advertisedLink newerContext newer) := by
      unfold takeLink
      dsimp only
      rw [live, Option.map_some, stale, if_pos (by decide)]
    simp [unchanged, withdraws, alive]
  · -- the newer entry is gone at once, so the older one is taken, and it is not the newer one
    have dead : liveLink olderContext.now (some (advertisedLink newerContext newer)) = none := by
      rw [now]
      exact liveLink_of_not_lt alive
    have taken : takeLink olderContext (some (advertisedLink newerContext newer)) older =
        askedLink olderContext older := by
      unfold takeLink askedLink
      dsimp only
      rw [dead, Option.map_none, pathOrder_none, if_neg (by decide)]
    have differs : askedLink olderContext older ≠ some (advertisedLink newerContext newer) := by
      unfold askedLink
      split
      · simp
      · intro same
        have sequences := congrArg (Option.map TopologyEntry.pathSequence) same
        rw [Option.map_some, Option.map_some, Option.some_inj] at sequences
        have equal : newer.pathSequence = older.pathSequence := sequences.symm
        rw [equal, sequenceCompare_self] at newerWins
        exact SequenceOrder.noConfusion newerWins
    rw [taken]
    exact ⟨fun same => absurd same differs, fun condition => absurd condition.2 alive⟩

end

/-! ## Both tables -/

/-- What a membership holds for a target: its downward route and its topology entry. -/
abbrev TargetEntries : Type := Option DownwardRoute × Option TopologyEntry

/-- Both after one entry for the target. -/
def settle (place : DodagPlace) (context : DaoContext) (held : TargetEntries)
    (entry : AdditionalTarget) : TargetEntries :=
  if place.rejectsTarget context entry.target then held
  else if place.storing then (takeRoute context held.1 entry, held.2)
  else (held.1, takeLink context held.2 entry)

/-- Both as an entry for the target asks for them: a target that is passed over stays as it
is, any other is advertised or withdrawn. -/
def asked (place : DodagPlace) (context : DaoContext) (held : TargetEntries)
    (entry : AdditionalTarget) : TargetEntries :=
  if place.rejectsTarget context entry.target then held
  else if place.storing then (askedRoute context entry, held.2)
  else (held.1, askedLink context entry)

theorem takeEntry_tables (place : DodagPlace) (context : DaoContext) (seen : TargetView)
    (entry : AdditionalTarget) :
    ((takeEntry place context seen entry).route, (takeEntry place context seen entry).link) =
      settle place context (seen.route, seen.link) entry := by
  unfold takeEntry settle
  split
  · rfl
  split
  · rfl
  · rfl

end DodagMembership

namespace Node

open DodagMembership

/-- What the node holds for a target in the membership at `key`. -/
def targetEntries (n : Node) (key : DodagKey) (target : Ipv6Address) : TargetEntries :=
  ((n.dodags[key]?).bind fun dodag => dodag.downwardRoutes[target]?,
    (n.dodags[key]?).bind fun dodag => dodag.topology[target]?)

/-- A DAO as it arrives: the message, its sender and the interface. -/
structure DaoDelivery where
  dao : DaoHeader
  sender : Ipv6Address
  interface : Nat

/-- `HandleDao` of a DAO that arrives. -/
def deliver (n : Node) (delivery : DaoDelivery) : Node :=
  n.handleDao delivery.dao delivery.sender delivery.interface

def deliveryContext (n : Node) (dodag : DodagMembership) (delivery : DaoDelivery) : DaoContext :=
  n.daoContext dodag delivery.dao delivery.sender delivery.interface

/-- The delivery is for the membership at `key`, and `entry` is all it says of the target. -/
structure Delivers (n : Node) (delivery : DaoDelivery) (key : DodagKey) (dodag : DodagMembership)
    (entry : AdditionalTarget) : Prop where
  takes : n.TakesDao delivery.dao delivery.sender key dodag
  only : entriesFor entry.target delivery.dao.entries = [entry]

variable {n : Node} {key : DodagKey} {dodag : DodagMembership} {delivery : DaoDelivery}
  {entry : AdditionalTarget}

/-- A delivery settles its target. -/
theorem deliver_targetEntries (delivers : n.Delivers delivery key dodag entry) :
    (n.deliver delivery).targetEntries key entry.target =
      settle dodag.toDodagPlace (n.deliveryContext dodag delivery)
        (n.targetEntries key entry.target) entry := by
  obtain ⟨sent, result⟩ := handleDao_eq delivery.interface delivers.takes
  have view := handleTargets_view dodag (n.deliveryContext dodag delivery) delivery.dao.entries
    entry.target
  rw [delivers.only] at view
  have held := (daoMembership_held delivers.takes.found).1
  rw [deliver, result]
  unfold targetEntries
  rw [emit_dodags, setDodag, OrderedMap.getElem?_insert_eq, if_pos rfl, held]
  rw [List.foldl_cons, List.foldl_nil] at view
  have route := congrArg TargetView.route view
  have link := congrArg TargetView.link view
  simp only [Option.bind_some]
  rw [← takeEntry_tables _ _
    ⟨dodag.downwardRoutes[entry.target]?, dodag.topology[entry.target]?, []⟩]
  exact Prod.ext route link

/-- A delivery leaves another one to the same membership as it was: for the same membership,
in the same context. -/
theorem deliver_delivers (delivers : n.Delivers delivery key dodag entry)
    {next : DaoDelivery} {nextEntry : AdditionalTarget}
    (nextDelivers : n.Delivers next key dodag nextEntry) :
    ∃ after, (n.deliver delivery).Delivers next key after nextEntry ∧
      after.toDodagPlace = dodag.toDodagPlace ∧
      (n.deliver delivery).deliveryContext after next = n.deliveryContext dodag next := by
  obtain ⟨sent, result⟩ := handleDao_eq delivery.interface delivers.takes
  have tables := handleTargets_onlyTables dodag (n.deliveryContext dodag delivery)
    delivery.dao.entries
  refine ⟨_, ⟨⟨daoMembership_setDodag nextDelivers.takes.found tables ?_, ?_⟩,
    nextDelivers.only⟩, tables.place, ?_⟩
  · rw [deliver, result]
    rfl
  · rw [dropsDao, DodagPlace.storing, tables.place]
    exact nextDelivers.takes.accepted
  · rw [deliver, result]
    exact daoContext_setDodag tables sent

/-- Two deliveries one after the other settle their target twice. -/
theorem deliver_deliver_targetEntries {first second : DaoDelivery}
    {firstEntry secondEntry : AdditionalTarget}
    (firstDelivers : n.Delivers first key dodag firstEntry)
    (secondDelivers : n.Delivers second key dodag secondEntry)
    (target : firstEntry.target = secondEntry.target) :
    ((n.deliver first).deliver second).targetEntries key secondEntry.target =
      settle dodag.toDodagPlace (n.deliveryContext dodag second)
        (settle dodag.toDodagPlace (n.deliveryContext dodag first)
          (n.targetEntries key secondEntry.target) firstEntry) secondEntry := by
  obtain ⟨after, delivers, place, context⟩ := deliver_delivers firstDelivers secondDelivers
  rw [deliver_targetEntries delivers, place, context, ← target,
    deliver_targetEntries firstDelivers]

/-! ## Either order -/

/-- Both orders of two deliveries leave the target as the newer of them asks. -/
def OrderIndependent (n : Node) (key : DodagKey) (dodag : DodagMembership)
    (older newer : DaoDelivery) (newerEntry : AdditionalTarget) : Prop :=
  let target := newerEntry.target
  let wanted := asked dodag.toDodagPlace (n.deliveryContext dodag newer)
    (n.targetEntries key target) newerEntry
  ((n.deliver older).deliver newer).targetEntries key target = wanted ∧
    ((n.deliver newer).deliver older).targetEntries key target = wanted

/-- The two orders agree exactly when the newer entry is not a withdrawal that an older
advertisement undoes. (At the last instant of simulated time a Non-Storing root also drops an
advertisement of infinite lifetime at once.) -/
theorem orderIndependent_iff {older newer : DaoDelivery} {olderEntry newerEntry : AdditionalTarget}
    (olderDelivers : n.Delivers older key dodag olderEntry)
    (newerDelivers : n.Delivers newer key dodag newerEntry)
    (target : olderEntry.target = newerEntry.target)
    (newerWins : sequenceCompare newerEntry.pathSequence olderEntry.pathSequence = .greater)
    (routeOlder : ∀ route, dodag.downwardRoutes[newerEntry.target]? = some route →
      sequenceCompare olderEntry.pathSequence route.pathSequence = .greater ∧
        sequenceCompare newerEntry.pathSequence route.pathSequence = .greater)
    (linkOlder : ∀ link, dodag.topology[newerEntry.target]? = some link →
      sequenceCompare olderEntry.pathSequence link.pathSequence = .greater ∧
        sequenceCompare newerEntry.pathSequence link.pathSequence = .greater) :
    n.OrderIndependent key dodag older newer newerEntry ↔
      (dodag.rejectsTarget (n.deliveryContext dodag newer) newerEntry.target = true ∨
        (newerEntry.noPath = true → olderEntry.noPath = true) ∧
          (dodag.storing = true ∨ newerEntry.pathLifetime ≠ infiniteLifetime ∨
            n.now < timeMax)) := by
  have held := (daoMembership_held newerDelivers.takes.found).1
  have route : (n.targetEntries key newerEntry.target).1 =
      dodag.downwardRoutes[newerEntry.target]? := by
    rw [targetEntries, held]; rfl
  have link : (n.targetEntries key newerEntry.target).2 = dodag.topology[newerEntry.target]? := by
    rw [targetEntries, held]; rfl
  have forward := deliver_deliver_targetEntries olderDelivers newerDelivers target
  have backward := deliver_deliver_targetEntries newerDelivers olderDelivers target.symm
  rw [target] at backward
  unfold OrderIndependent
  dsimp only
  rw [forward, backward]
  -- the two contexts reject the same targets
  have rejects : dodag.toDodagPlace.rejectsTarget (n.deliveryContext dodag older)
      olderEntry.target =
      dodag.toDodagPlace.rejectsTarget (n.deliveryContext dodag newer) newerEntry.target := by
    rw [target]; rfl
  unfold settle asked
  rw [rejects]
  by_cases rejected : dodag.toDodagPlace.rejectsTarget (n.deliveryContext dodag newer)
      newerEntry.target = true
  · simp [rejected]
  simp only [rejected, Bool.false_eq_true, if_false, false_or]
  by_cases storing : dodag.toDodagPlace.storing = true
  · have olderFresh : pathOrder ((n.targetEntries key newerEntry.target).1.map
        DownwardRoute.pathSequence) olderEntry.pathSequence = .greater := by
      rw [route]
      cases stored : dodag.downwardRoutes[newerEntry.target]? with
      | none => rfl
      | some stored' => exact (routeOlder stored' stored).1
    have newerFresh : pathOrder ((n.targetEntries key newerEntry.target).1.map
        DownwardRoute.pathSequence) newerEntry.pathSequence = .greater := by
      rw [route]
      cases stored : dodag.downwardRoutes[newerEntry.target]? with
      | none => rfl
      | some stored' => exact (routeOlder stored' stored).2
    simp only [storing, if_true, takeRoute_of_greater olderFresh, takeRoute_of_greater newerFresh,
      takeRoute_of_greater (pathOrder_askedRoute newerWins), Prod.mk.injEq, and_true, true_and,
      true_or]
    exact takeRoute_askedRoute_iff newerWins
  · have olderFresh : pathOrder ((n.targetEntries key newerEntry.target).2.map
        TopologyEntry.pathSequence) olderEntry.pathSequence = .greater := by
      rw [link]
      cases stored : dodag.topology[newerEntry.target]? with
      | none => rfl
      | some stored' => exact (linkOlder stored' stored).1
    have newerFresh : pathOrder ((n.targetEntries key newerEntry.target).2.map
        TopologyEntry.pathSequence) newerEntry.pathSequence = .greater := by
      rw [link]
      cases stored : dodag.topology[newerEntry.target]? with
      | none => rfl
      | some stored' => exact (linkOlder stored' stored).2
    simp only [storing, Bool.false_eq_true, if_false, takeLink_of_greater olderFresh,
      takeLink_of_greater newerFresh, takeLink_of_greater (pathOrder_askedLink newerWins),
      Prod.mk.injEq, true_and, false_or]
    exact takeLink_askedLink_iff rfl newerWins

/-! ### A parent switch whose withdrawal overtakes -/

/-- A router in Storing mode below the root 2001:db8::1. -/
def switchingDodag : DodagMembership :=
  { dodagId := 0x20010db8000000000000000000000001#128
    mop := mopStoringNoMulticast
    rank := 256 }

def switchingRouter : Node := inDodag (.ofInterfaces [{}, {}]) switchingDodag

/-- What a node 2001:db8::9 below the router says of itself, through a neighbour. -/
def switchingDelivery (neighbour : Ipv6Address) (pathSequence pathLifetime : UInt8) :
    DaoDelivery :=
  { dao :=
      { dodagId := 0x20010db8000000000000000000000001#128
        target := 0x20010db8000000000000000000000009#128
        pathSequence := pathSequence
        pathLifetime := pathLifetime }
    sender := neighbour
    interface := 1 }

def switchingEntry (pathSequence pathLifetime : UInt8) : AdditionalTarget :=
  { target := 0x20010db8000000000000000000000009#128
    pathSequence := pathSequence
    pathLifetime := pathLifetime }

theorem switchingRouter_delivers (neighbour : Ipv6Address) (linkLocal : neighbour.isLinkLocal)
    (pathSequence pathLifetime : UInt8) :
    switchingRouter.Delivers (switchingDelivery neighbour pathSequence pathLifetime)
      switchingDodag.key switchingDodag (switchingEntry pathSequence pathLifetime) where
  takes :=
    { found := daoMembership_of_named rfl (inDodag_dodags_self _ switchingDodag) rfl
      accepted := by
        have : (switchingDelivery neighbour pathSequence pathLifetime).sender = neighbour := rfl
        rw [dropsDao, this, linkLocal]
        rfl }
  only := by
    simp [switchingDelivery, switchingEntry, DaoHeader.entries, entriesFor]

/-- An advertisement with Path Sequence 1 and a later withdrawal with Path Sequence 2: in
this order the target is gone, in the other it is back. -/
theorem switching_not_orderIndependent :
    switchingRouter.Delivers (switchingDelivery 0xfe800000000000000000000000000002#128 1 30)
        switchingDodag.key switchingDodag (switchingEntry 1 30) ∧
      switchingRouter.Delivers (switchingDelivery 0xfe800000000000000000000000000003#128 2 0)
        switchingDodag.key switchingDodag (switchingEntry 2 0) ∧
      sequenceCompare (switchingEntry 2 0).pathSequence (switchingEntry 1 30).pathSequence =
        .greater ∧
      switchingRouter.targetEntries switchingDodag.key (switchingEntry 1 30).target =
        (none, none) ∧
      ¬switchingRouter.OrderIndependent switchingDodag.key switchingDodag
        (switchingDelivery 0xfe800000000000000000000000000002#128 1 30)
        (switchingDelivery 0xfe800000000000000000000000000003#128 2 0) (switchingEntry 2 0) := by
  refine ⟨switchingRouter_delivers _ (by decide) 1 30, switchingRouter_delivers _ (by decide) 2 0,
    by decide, by decide +kernel, ?_⟩
  unfold OrderIndependent
  decide +kernel

/-- Two advertisements do settle. -/
theorem switching_orderIndependent_of_advertisements :
    switchingRouter.OrderIndependent switchingDodag.key switchingDodag
      (switchingDelivery 0xfe800000000000000000000000000002#128 1 30)
      (switchingDelivery 0xfe800000000000000000000000000003#128 2 30) (switchingEntry 2 30) := by
  have stored : switchingDodag.downwardRoutes[(switchingEntry 2 30).target]? = none := by
    decide +kernel
  have linked : switchingDodag.topology[(switchingEntry 2 30).target]? = none := by
    decide +kernel
  refine (orderIndependent_iff (switchingRouter_delivers _ (by decide) 1 30)
    (switchingRouter_delivers _ (by decide) 2 30) rfl (by decide) ?_ ?_).mpr (.inr ?_)
  · rw [stored]
    exact fun _ held => nomatch held
  · rw [linked]
    exact fun _ held => nomatch held
  · decide

end Node

end Rpl
