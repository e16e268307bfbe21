import Rpl.DaoAttribution
import Rpl.DaoRelay
import Rpl.StoringDelivery

/-!
# A DAO climbs a line of routers

In Storing mode the DAO of a router goes to its preferred parent, which stores a route and
sends a DAO of its own to its preferred parent, and so on to the root.  What goes up differs
from hop to hop, since every router relays only what has changed for it; the entry for the
router that the first DAO came from is in every one of them.
-/

namespace Rpl

open Std DodagMembership

/-! ## What a DAO brings -/

/-- There is one entry for the target, with this Path Sequence and Path Lifetime. -/
def Brings (target : Ipv6Address) (pathSequence pathLifetime : UInt8)
    (entries : List AdditionalTarget) : Prop :=
  ∃ prefixLength, entriesFor target entries =
    [{ target := target
       targetPrefixLength := prefixLength
       pathSequence := pathSequence
       pathLifetime := pathLifetime }]

/-- The entry is newer than the route held, and withdraws only what is held. -/
structure News (held : Option DownwardRoute) (pathSequence pathLifetime : UInt8) : Prop where
  newer : pathOrder (held.map DownwardRoute.pathSequence) pathSequence = .greater
  withdraws : pathLifetime = 0 → held.isSome = true

/-- The route it leaves, through the neighbour it is heard from. -/
def routeFrom (now : Time) (below : Ipv6Address) (interface : Nat)
    (pathSequence pathLifetime : UInt8) : Option DownwardRoute :=
  if pathLifetime = 0 then none
  else
    some
      { nextHop := below
        interface := interface
        pathSequence := pathSequence
        pathLifetime := pathLifetime
        expire := pathExpiry now pathLifetime }

variable {target : Ipv6Address} {pathSequence pathLifetime : UInt8}
  {entries : List AdditionalTarget} {context : DaoContext} {dodag : DodagMembership}

/-- The length of the target's prefix makes no difference. -/
theorem Brings.primary {primary : AdditionalTarget} (prefixLength : UInt8)
    (brings : Brings target pathSequence pathLifetime (primary :: entries)) :
    Brings target pathSequence pathLifetime
      ({ primary with targetPrefixLength := prefixLength } :: entries) := by
  obtain ⟨length, only⟩ := brings
  rw [entriesFor, List.filter_cons] at only
  rw [Brings, entriesFor, List.filter_cons]
  split at only
  · next isTarget =>
    rw [List.cons.injEq] at only
    refine ⟨prefixLength, ?_⟩
    rw [if_pos isTarget, List.cons.injEq]
    exact ⟨by rw [only.1], only.2⟩
  · next other =>
    exact ⟨length, (if_neg other).trans only⟩

theorem takeRoute_of_news {prefixLength : UInt8} {held : Option DownwardRoute}
    (news : News held pathSequence pathLifetime) :
    takeRoute context held ⟨target, prefixLength, pathSequence, pathLifetime⟩ =
      routeFrom context.now context.sender context.interface pathSequence pathLifetime := by
  unfold takeRoute routeFrom AdditionalTarget.noPath
  rw [news.newer, if_neg (by decide)]
  by_cases withdraws : pathLifetime = 0
  · rw [if_pos withdraws, if_pos (decide_eq_true withdraws)]
  · rw [if_neg withdraws, if_neg (fun noPath => withdraws (of_decide_eq_true noPath))]
    rfl

theorem routeChanged_of_news {prefixLength : UInt8} {held : Option DownwardRoute}
    (news : News held pathSequence pathLifetime) :
    routeChanged held ⟨target, prefixLength, pathSequence, pathLifetime⟩ = true := by
  have current : SequenceOrder.stale .greater = false := rfl
  simp only [routeChanged, AdditionalTarget.noPath, news.newer, current, Bool.not_false,
    Bool.true_and, decide_true]
  by_cases withdraws : pathLifetime = 0
  · rw [if_pos (decide_eq_true withdraws), news.withdraws withdraws]
  · rw [if_neg (fun noPath => withdraws (of_decide_eq_true noPath))]

/-- Every Storing router and root that takes the entry stores the route. -/
theorem handleTargets_stores (storing : dodag.storing = true)
    (taken : dodag.rejectsTarget context target = false)
    (brings : Brings target pathSequence pathLifetime entries)
    (news : News dodag.downwardRoutes[target]? pathSequence pathLifetime) :
    (dodag.handleTargets context entries).dodag.downwardRoutes[target]? =
      routeFrom context.now context.sender context.interface pathSequence pathLifetime := by
  obtain ⟨prefixLength, only⟩ := brings
  have view := congrArg TargetView.route (dodag.handleTargets_view context entries target)
  rw [only, List.foldl_cons, List.foldl_nil, takeEntry, if_neg (ne_true_of_eq_false taken),
    if_pos storing] at view
  exact view.trans (takeRoute_of_news news)

/-- Of entries with a target each, the one for a target is the only one. -/
theorem entriesFor_of_nodup {entry : AdditionalTarget}
    (distinct : (entries.map AdditionalTarget.target).Nodup) (mem : entry ∈ entries) :
    entriesFor entry.target entries = [entry] := by
  induction entries with
  | nil => cases mem
  | cons first rest ih =>
    rw [List.map_cons, List.nodup_cons] at distinct
    rw [entriesFor, List.filter_cons]
    rcases List.mem_cons.mp mem with rfl | later
    · rw [if_pos (decide_eq_true rfl), List.filter_eq_nil_iff.mpr]
      intro other memOther isTarget
      exact distinct.1 (of_decide_eq_true isTarget ▸ List.mem_map_of_mem memOther)
    · have other : first.target ≠ entry.target := fun same =>
        distinct.1 (same ▸ List.mem_map_of_mem later)
      rw [if_neg (fun isTarget => other (of_decide_eq_true isTarget))]
      exact ih distinct.2 later

/-- A router relays it. -/
theorem relayedEntries_bring (storing : dodag.storing = true) (router : dodag.isRoot = false)
    (taken : dodag.rejectsTarget context target = false)
    (brings : Brings target pathSequence pathLifetime entries)
    (news : News dodag.downwardRoutes[target]? pathSequence pathLifetime) :
    Brings target pathSequence pathLifetime
      (relayedEntries (dodag.handleTargets context entries)) := by
  obtain ⟨prefixLength, only⟩ := brings
  have mem : (⟨target, 128, pathSequence, pathLifetime⟩ : AdditionalTarget) ∈
      relayedEntries (dodag.handleTargets context entries) := by
    refine (mem_relayedEntries_iff storing router).mpr
      ⟨taken, ⟨target, prefixLength, pathSequence, pathLifetime⟩, ?_, rfl⟩
    rw [only, changes, changes, if_pos (routeChanged_of_news news)]
    rfl
  exact ⟨128, entriesFor_of_nodup (LastWins.nodup_dedup _) mem⟩

/-! ## Stations -/

/-- The DAO of an output, with the neighbour it is sent to. -/
def daoOf : Output → Option (Ipv6Address × DaoHeader)
  | .sent _ _ destination (.dao dao) => some (destination, dao)
  | _ => none

/-- The DAOs sent between two states of a node, newest first. -/
def Node.daosSent (before after : Node) : List (Ipv6Address × DaoHeader) :=
  (after.outputs.take (after.outputs.length - before.outputs.length)).filterMap daoOf

theorem Node.daosSent_emit {n m : Node} (outputs : m.outputs = n.outputs) (sent : List Output) :
    n.daosSent (m.emit sent) = sent.filterMap daoOf := by
  rw [daosSent, emit_outputs, outputs, List.length_append, Nat.add_sub_cancel, List.take_left]

/-- A router on the line: the link-local address it sends with, and the interface it hears the
one below on. -/
structure Station where
  node : Node
  linkLocal : Ipv6Address
  interface : Nat

namespace Station

/-- The station hears what the one below has sent to it, off the wire. -/
def hear (s : Station) (below : Ipv6Address) (sent : List (Ipv6Address × DaoHeader)) : Node :=
  (sent.filter fun message => message.1 = s.linkLocal).foldl
    (fun n message => n.recvDao message.2.serialize below s.interface) s.node

/-- The stations of a line, the lowest first, after a DAO has gone up from one to the next. -/
def climb : Ipv6Address → List (Ipv6Address × DaoHeader) → List Station → List Station
  | _, _, [] => []
  | below, sent, s :: rest =>
    { s with node := s.hear below sent } ::
      climb s.linkLocal (s.node.daosSent (s.hear below sent)) rest

/-- The downward route a station has for the target. -/
def route (s : Station) (key : DodagKey) (target : Ipv6Address) : Option DownwardRoute :=
  (s.node.dodags[key]?).bind fun dodag => dodag.downwardRoutes[target]?

/-- The station is in the Storing DODAG, and the target is not its own address there. -/
structure Joined (n : Node) (key : DodagKey) (target : Ipv6Address) (dodag : DodagMembership) :
    Prop where
  held : n.dodags[key]? = some dodag
  keyed : dodag.key = key
  storing : dodag.storing = true
  apart : target ≠ n.getGlobalAddressIn dodag

/-- A router that reaches the preferred parent it has. -/
structure Reaches (n : Node) (dodag : DodagMembership) (parent : Ipv6Address) : Prop where
  router : dodag.isRoot = false
  isParent : dodag.preferredParent = parent
  interface : n.interfaceForNeighbour dodag parent ≠ 0
  runs : n.interfaceForNeighbour dodag parent ∈ n.sockets

/-- A line of routers up to the root. -/
inductive Line (key : DodagKey) (target : Ipv6Address) : List Station → Prop
  | root {s : Station} {dodag : DodagMembership} (joined : Joined s.node key target dodag)
      (isRoot : dodag.isRoot = true) : Line key target [s]
  | router {s above : Station} {rest : List Station} {dodag : DodagMembership}
      (joined : Joined s.node key target dodag) (reaches : Reaches s.node dodag above.linkLocal)
      (line : Line key target (above :: rest)) : Line key target (s :: above :: rest)

/-- The DODAG names itself, the target is neither its root nor no address, and neighbours are
heard under link-local addresses. -/
structure Addressed (key : DodagKey) (target below : Ipv6Address) (stations : List Station) :
    Prop where
  named : key.dodagId.isAny = false
  isAddress : target.isAny = false
  notRoot : target ≠ key.dodagId
  below : below.isLinkLocal = true
  stations : ∀ s ∈ stations, s.linkLocal.isLinkLocal = true

/-- A DAO of the DODAG. -/
structure Carries (key : DodagKey) (target : Ipv6Address) (pathSequence pathLifetime : UInt8)
    (dao : DaoHeader) : Prop where
  instanceId : dao.instanceId = key.instanceId
  dodagId : dao.dodagId = key.dodagId
  brings : Brings target pathSequence pathLifetime dao.entries

/-- Every station has the route through the one below it, or none where the entry withdraws. -/
inductive Installed (key : DodagKey) (target : Ipv6Address) (pathSequence pathLifetime : UInt8) :
    Ipv6Address → List Station → List Station → Prop
  | none {below : Ipv6Address} : Installed key target pathSequence pathLifetime below [] []
  | station {below : Ipv6Address} {s after : Station} {rest others : List Station}
      (route : after.route key target =
        routeFrom s.node.now below s.interface pathSequence pathLifetime)
      (above : Installed key target pathSequence pathLifetime s.linkLocal rest others) :
      Installed key target pathSequence pathLifetime below (s :: rest) (after :: others)

variable {n : Node} {key : DodagKey} {below parent : Ipv6Address} {dao : DaoHeader}
  {interface : Nat} {sent : List (Ipv6Address × DaoHeader)} {stations : List Station}

/-! ## One station -/

/-- What goes to the preferred parent is sent. -/
theorem Reaches.sendDaoTo (reaches : Reaches n dodag parent) (storing : dodag.storing = true)
    (dao : DaoHeader) :
    ∃ output, n.sendDaoTo dodag parent dao = n.emit [output] ∧
      daoOf output = some (parent, dao) := by
  rw [Node.sendDaoTo, if_pos storing]
  dsimp only
  rw [if_neg reaches.interface, Node.sendRplMessageOn_eq_emit, Node.messageOn, if_pos reaches.runs]
  exact ⟨_, rfl, rfl⟩

theorem Joined.takesDao (joined : Joined n key target dodag)
    (carries : Carries key target pathSequence pathLifetime dao)
    (addressed : Addressed key target below stations) : n.TakesDao dao below key dodag where
  found := by
    have named : (⟨dao.instanceId, dao.dodagId⟩ : DodagKey) = key := by
      rw [carries.instanceId, carries.dodagId]
    have isNamed : dao.dodagId.isAny = false := by rw [carries.dodagId, addressed.named]
    have held : n.dodags[(⟨dao.instanceId, dao.dodagId⟩ : DodagKey)]? = some dodag := by
      rw [named, joined.held]
    have accepts : Node.acceptsDao dodag = true := by
      rw [Node.acceptsDao, joined.storing, Bool.or_true]
    have found := Node.daoMembership_of_named isNamed held accepts
    rwa [named] at found
  accepted := by
    rw [Node.dropsDao, joined.storing, addressed.below]
    rfl

theorem Joined.taken (joined : Joined n key target dodag)
    (addressed : Addressed key target below stations) (dao : DaoHeader) :
    dodag.rejectsTarget (n.daoContext dodag dao below interface) target = false := by
  have dodagId : dodag.dodagId = key.dodagId := congrArg DodagKey.dodagId joined.keyed
  rw [DodagPlace.rejectsTarget, addressed.isAddress, dodagId, decide_eq_false addressed.notRoot]
  exact decide_eq_false joined.apart

/-- A DAO rewrites nothing that the line depends on. -/
theorem Joined.of_onlyTables {changed : DodagMembership} (joined : Joined n key target dodag)
    (tables : OnlyTables dodag changed) (outputs : List Output) :
    Joined ((n.setDodag key changed).emit outputs) key target changed where
  held := ExtTreeMap.getElem?_insert_self
  keyed := (congrArg DodagPlace.key tables.place).trans joined.keyed
  storing := (congrArg DodagPlace.storing tables.place).trans joined.storing
  apart := by
    rw [Node.getGlobalAddressIn, tables.prefixInfo]
    exact joined.apart

theorem Reaches.of_place {changed : DodagMembership} (reaches : Reaches n dodag parent)
    (place : changed.toDodagPlace = dodag.toDodagPlace) (outputs : List Output) :
    Reaches ((n.setDodag key changed).emit outputs) changed parent := by
  have same : ((n.setDodag key changed).emit outputs).interfaceForNeighbour changed parent =
      n.interfaceForNeighbour dodag parent := by
    rw [Node.interfaceForNeighbour, place]
    rfl
  exact
    { router := (congrArg DodagPlace.isRoot place).trans reaches.router
      isParent := (congrArg DodagPlace.preferredParent place).trans reaches.isParent
      interface := same ▸ reaches.interface
      runs := same ▸ reaches.runs }

/-- An acknowledgement is no DAO. -/
theorem acknowledgeDao_silent (storing : dodag.storing = true) (n : Node) (dao : DaoHeader)
    (below : Ipv6Address) (interface : Nat) :
    ∃ outputs, n.acknowledgeDao dodag dao below interface = n.emit outputs ∧
      outputs.filterMap daoOf = [] := by
  unfold Node.acknowledgeDao
  split
  · dsimp only
    rw [Node.sendRplMessageOn_eq_emit, Node.messageOn]
    split
    · exact ⟨_, rfl, rfl⟩
    · exact ⟨[], rfl, rfl⟩
  · exact ⟨[], rfl, rfl⟩

/-- A router that has stored the route sends the entry on to its preferred parent. -/
theorem Reaches.relays (interface : Nat) (reaches : Reaches n dodag parent)
    (joined : Joined n key target dodag)
    (carries : Carries key target pathSequence pathLifetime dao)
    (addressed : Addressed key target below stations)
    (news : News dodag.downwardRoutes[target]? pathSequence pathLifetime) :
    ∃ relayed, n.daosSent (n.handleDao dao below interface) = [(parent, relayed)] ∧
      Carries key target pathSequence pathLifetime relayed := by
  have takes := joined.takesDao carries addressed
  obtain ⟨tables, isTables⟩ : ∃ progress, progress = dodag.handleTargets
      (n.daoContext dodag dao below interface) dao.entries := ⟨_, rfl⟩
  have brings : Brings target pathSequence pathLifetime (relayedEntries tables) :=
    isTables ▸ relayedEntries_bring joined.storing reaches.router
      (joined.taken addressed dao) carries.brings news
  have only : OnlyTables dodag tables.dodag := isTables ▸ handleTargets_onlyTables dodag _ _
  have reachesStill : Reaches (n.setDodag key tables.dodag) tables.dodag parent :=
    reaches.of_place only.place []
  have joinedStill : Joined (n.setDodag key tables.dodag) key target tables.dodag :=
    joined.of_onlyTables only []
  have handles : n.handleDao dao below interface =
      ((n.setDodag key tables.dodag).relayDao tables.dodag (relayedEntries tables)).acknowledgeDao
        tables.dodag dao below interface := by
    unfold Node.handleDao
    rw [takes.found]
    dsimp only
    rw [takes.accepted, if_neg Bool.false_ne_true, ← isTables]
  cases entries : relayedEntries tables with
  | nil =>
    rw [entries] at brings
    obtain ⟨_, only⟩ := brings
    cases only
  | cons primary rest =>
    obtain ⟨output, sends, isDao⟩ := reachesStill.sendDaoTo joinedStill.storing
      (tables.dodag.daoMessage primary.target tables.dodag.daoSequence primary.pathSequence
        primary.pathLifetime false rest)
    obtain ⟨outputs, acknowledges, silent⟩ := acknowledgeDao_silent joinedStill.storing
      ((n.setDodag key tables.dodag).emit [output]) dao below interface
    rw [entries, Node.relayDao, Node.sendDaoMessage, reachesStill.isParent, sends, acknowledges,
      Node.emit_emit] at handles
    rw [entries] at brings
    refine ⟨tables.dodag.daoMessage primary.target tables.dodag.daoSequence primary.pathSequence
      primary.pathLifetime false rest, ?_, congrArg DodagKey.instanceId joinedStill.keyed,
      congrArg DodagKey.dodagId joinedStill.keyed, brings.primary 128⟩
    have quiet : (n.setDodag key tables.dodag).outputs = n.outputs := rfl
    rw [handles, Node.daosSent_emit quiet, List.filterMap_append, silent, List.nil_append,
      List.filterMap_cons_some isDao, List.filterMap_nil]

/-- What a station hears of one DAO that is sent to it. -/
theorem hear_single (s : Station) (below : Ipv6Address) (dao : DaoHeader) :
    s.hear below [(s.linkLocal, dao)] = s.node.handleDao dao below s.interface := by
  have mine : [(s.linkLocal, dao)].filter (fun message => message.1 = s.linkLocal) =
      [(s.linkLocal, dao)] :=
    List.filter_cons_of_pos (decide_eq_true rfl)
  rw [hear, mine, List.foldl_cons, List.foldl_nil, Node.recvDao, dao.deserialize_serialize]

/-- It stores the route, and stays on the line as it was. -/
theorem Joined.stores (interface : Nat) (joined : Joined n key target dodag)
    (carries : Carries key target pathSequence pathLifetime dao)
    (addressed : Addressed key target below stations)
    (news : News dodag.downwardRoutes[target]? pathSequence pathLifetime) :
    ∃ changed outputs, n.handleDao dao below interface = (n.setDodag key changed).emit outputs ∧
      OnlyTables dodag changed ∧
      changed.downwardRoutes[target]? =
        routeFrom n.now below interface pathSequence pathLifetime := by
  obtain ⟨outputs, handles⟩ := Node.handleDao_eq interface (joined.takesDao carries addressed)
  exact ⟨_, outputs, handles, handleTargets_onlyTables dodag _ _,
    handleTargets_stores joined.storing (joined.taken addressed dao) carries.brings news⟩

/-! ## The line -/

theorem Addressed.above {s above : Station} {rest : List Station}
    (addressed : Addressed key target below (s :: above :: rest)) :
    Addressed key target s.linkLocal (above :: rest) where
  named := addressed.named
  isAddress := addressed.isAddress
  notRoot := addressed.notRoot
  below := addressed.stations s List.mem_cons_self
  stations other mem := addressed.stations other (List.mem_cons_of_mem _ mem)

/-- A DAO that the lowest station hears goes up to the root: every station on the way has the
route in the end, and is on the line as before. -/
theorem climb_installs {s : Station} {rest : List Station} (line : Line key target (s :: rest))
    (carries : Carries key target pathSequence pathLifetime dao)
    (addressed : Addressed key target below (s :: rest))
    (news : ∀ station ∈ s :: rest, News (station.route key target) pathSequence pathLifetime) :
    Installed key target pathSequence pathLifetime below (s :: rest)
        (climb below [(s.linkLocal, dao)] (s :: rest)) ∧
      Line key target (climb below [(s.linkLocal, dao)] (s :: rest)) := by
  induction rest generalizing s below dao with
  | nil =>
    cases line with
    | root joined isRoot =>
      have newsHere := news s List.mem_cons_self
      rw [route, joined.held] at newsHere
      obtain ⟨changed, outputs, handles, only, stored⟩ :=
        joined.stores s.interface carries addressed newsHere
      rw [climb, climb, hear_single, handles]
      have joinedStill := joined.of_onlyTables only outputs
      refine ⟨.station ?_ .none, .root joinedStill ?_⟩
      · rw [route, joinedStill.held]
        exact stored
      · exact (congrArg DodagPlace.isRoot only.place).trans isRoot
  | cons above rest ih =>
    cases line with
    | router joined reaches line =>
      have newsHere := news s List.mem_cons_self
      rw [route, joined.held] at newsHere
      obtain ⟨changed, outputs, handles, only, stored⟩ :=
        joined.stores s.interface carries addressed newsHere
      obtain ⟨relayed, sends, carriesStill⟩ :=
        reaches.relays s.interface joined carries addressed newsHere
      obtain ⟨installed, lineStill⟩ := ih line carriesStill addressed.above
        fun station mem => news station (List.mem_cons_of_mem _ mem)
      rw [climb, hear_single, sends, handles]
      have joinedStill := joined.of_onlyTables only outputs
      refine ⟨.station ?_ installed, ?_⟩
      · rw [route, joinedStill.held]
        exact stored
      · rw [climb] at lineStill ⊢
        exact .router joinedStill (reaches.of_place only.place outputs) lineStill

/-! ## The router below -/

/-- The router that the DAO comes from: the target is its own address, and it has no route for
that itself. -/
structure Leaf (n : Node) (key : DodagKey) (target : Ipv6Address) (dodag : DodagMembership)
    (parent : Ipv6Address) : Prop where
  held : n.dodags[key]? = some dodag
  keyed : dodag.key = key
  storing : dodag.storing = true
  isOwn : n.getGlobalAddressIn dodag = target
  unrouted : dodag.downwardRoutes[target]? = none
  reaches : Reaches n dodag parent

/-- Nothing below is taken for the router itself. -/
theorem entriesFor_aggregatedTargets (unrouted : dodag.downwardRoutes[target]? = none) :
    entriesFor target dodag.aggregatedTargets = [] := by
  rw [entriesFor, List.filter_eq_nil_iff]
  intro entry mem isTarget
  obtain ⟨⟨held, route⟩, listed, rfl⟩ := List.mem_map.mp mem
  have isHeld := ExtTreeMap.mem_toList_iff_getElem?_eq_some.mp listed
  have same : held = target := of_decide_eq_true isTarget
  rw [same, unrouted] at isHeld
  cases isHeld

theorem Leaf.canAdvertise (leaf : Leaf n key target dodag parent)
    (isAddress : target.isAny = false) (through : Ipv6Address) :
    n.canAdvertise dodag through = true := by
  rw [Node.canAdvertise, leaf.isOwn, isAddress, leaf.storing]
  rfl

theorem not_isTemporary_of_storing (storing : dodag.storing = true) :
    dodag.isTemporary = false := by
  have mop : dodag.mop = mopStoringNoMulticast := of_decide_eq_true storing
  rw [DodagPlace.isTemporary, mop]
  rfl

/-- `SendDao` sends one DAO to the preferred parent, and it brings the router's address. -/
theorem Leaf.sendDao (leaf : Leaf n key target dodag parent) (isAddress : target.isAny = false)
    (isLinkLocal : parent.isLinkLocal = true) :
    ∃ dao, n.daosSent (n.sendDao key) = [(parent, dao)] ∧
      Carries key target dodag.pathSequence n.attributes.pathLifetime dao := by
  have isParent : dodag.preferredParent.isAny = false := by
    rw [leaf.reaches.isParent, not_isAny_of_isLinkLocal isLinkLocal]
  obtain ⟨purged, isPurged⟩ : ∃ purged, purged =
      ({ dodag.purgeDownwardRoutes n.now with
        daoSequence := sequenceIncrement (dodag.purgeDownwardRoutes n.now).daoSequence } :
        DodagMembership) := ⟨_, rfl⟩
  have place : purged.toDodagPlace = dodag.toDodagPlace := by rw [isPurged]; rfl
  have storing : purged.storing = true := (congrArg DodagPlace.storing place).trans leaf.storing
  have unrouted : purged.downwardRoutes[target]? = none := by
    rw [isPurged]
    change (OrderedMap.eraseIf _ dodag.downwardRoutes)[target]? = none
    rw [OrderedMap.getElem?_eraseIf, leaf.unrouted]
    rfl
  have reaches : Reaches (n.setDodag key purged) purged parent := leaf.reaches.of_place place []
  obtain ⟨output, sends, isDao⟩ := reaches.sendDaoTo storing
    (purged.daoMessage target purged.daoSequence purged.pathSequence n.attributes.pathLifetime
      true purged.aggregatedTargets)
  have daoSequence : purged.daoSequence =
      sequenceIncrement (dodag.purgeDownwardRoutes n.now).daoSequence := by
    rw [isPurged]
  have pathSequence : purged.pathSequence = (dodag.purgeDownwardRoutes n.now).pathSequence := by
    rw [isPurged]
  have sending : ∃ f, n.sendDao key =
      ((n.setDodag key purged).emit [output]).modifyDodag key f := by
    rw [Node.sendDao, leaf.held]
    dsimp only
    have purging : (if dodag.storing = true then dodag.purgeDownwardRoutes n.now else dodag) =
        dodag.purgeDownwardRoutes n.now := if_pos leaf.storing
    have storingStill : (dodag.purgeDownwardRoutes n.now).storing = true := leaf.storing
    have own : n.getGlobalAddressIn purged = target := by rw [isPurged]; exact leaf.isOwn
    rw [leaf.reaches.router, isParent, not_isTemporary_of_storing leaf.storing,
      leaf.canAdvertise isAddress, if_neg (by decide), purging]
    dsimp only at isPurged
    simp only [storingStill, if_true]
    rw [← isPurged, own, ← sends, Node.sendDaoMessage, reaches.isParent, daoSequence, pathSequence]
    exact ⟨_, rfl⟩
  obtain ⟨f, sending⟩ := sending
  have quiet : (n.setDodag key purged).outputs = n.outputs := rfl
  have keyed : purged.key = key := (congrArg DodagPlace.key place).trans leaf.keyed
  refine ⟨purged.daoMessage target purged.daoSequence purged.pathSequence n.attributes.pathLifetime
    true purged.aggregatedTargets, ?_, congrArg DodagKey.instanceId keyed,
    congrArg DodagKey.dodagId keyed, 128, ?_⟩
  · rw [sending]
    change n.daosSent ((n.setDodag key purged).emit [output]) = _
    rw [Node.daosSent_emit quiet, List.filterMap_cons_some isDao, List.filterMap_nil]
  · have others := entriesFor_aggregatedTargets unrouted
    rw [entriesFor] at others ⊢
    change List.filter _ (_ :: purged.aggregatedTargets) = _
    rw [List.filter_cons_of_pos (by exact decide_eq_true rfl), others, pathSequence]
    rfl

/-- `SendNoPathDao` sends one that withdraws it. -/
theorem Leaf.sendNoPathDao (leaf : Leaf n key target dodag parent)
    (isAddress : target.isAny = false) :
    ∃ dao, n.daosSent (n.sendNoPathDao key parent) = [(parent, dao)] ∧
      Carries key target (sequenceIncrement dodag.pathSequence) 0 dao := by
  obtain ⟨advanced, isAdvanced⟩ : ∃ advanced, advanced =
      ({ dodag with
        daoSequence := sequenceIncrement dodag.daoSequence
        pathSequence := sequenceIncrement dodag.pathSequence } : DodagMembership) := ⟨_, rfl⟩
  have place : advanced.toDodagPlace = dodag.toDodagPlace := by rw [isAdvanced]
  have storing : advanced.storing = true :=
    (congrArg DodagPlace.storing place).trans leaf.storing
  have reaches : Reaches (n.setDodag key advanced) advanced parent := leaf.reaches.of_place place []
  obtain ⟨output, sends, isDao⟩ := reaches.sendDaoTo storing (advanced.noPathMessage target parent)
  have sending : n.sendNoPathDao key parent = (n.setDodag key advanced).emit [output] := by
    rw [Node.sendNoPathDao, leaf.held]
    dsimp only
    rw [not_isTemporary_of_storing leaf.storing, leaf.canAdvertise isAddress, ← sends, isAdvanced,
      ← leaf.isOwn]
    rfl
  have quiet : (n.setDodag key advanced).outputs = n.outputs := rfl
  have keyed : advanced.key = key := (congrArg DodagPlace.key place).trans leaf.keyed
  refine ⟨advanced.noPathMessage target parent, ?_, congrArg DodagKey.instanceId keyed,
    congrArg DodagKey.dodagId keyed, 128, ?_⟩
  · rw [sending, Node.daosSent_emit quiet, List.filterMap_cons_some isDao, List.filterMap_nil]
  · rw [isAdvanced]
    exact List.filter_cons_of_pos (decide_eq_true rfl)

/-! ## There and back -/

theorem Installed.route_of_mem {others : List Station}
    (installed : Installed key target pathSequence pathLifetime below stations others) :
    ∀ after ∈ others, ∃ now through interface,
      after.route key target = routeFrom now through interface pathSequence pathLifetime := by
  induction installed with
  | none => exact fun after mem => absurd mem List.not_mem_nil
  | station route _ ih =>
    intro after mem
    rcases List.mem_cons.mp mem with rfl | above
    · exact ⟨_, _, _, route⟩
    · exact ih after above

theorem climb_linkLocal (below : Ipv6Address) (sent : List (Ipv6Address × DaoHeader))
    (stations : List Station) :
    (climb below sent stations).map linkLocal = stations.map linkLocal := by
  induction stations generalizing below sent with
  | nil => rfl
  | cons s rest ih => rw [climb, List.map_cons, ih, List.map_cons]

/-- The DAO of a router installs a route through the one below at every router up to the root,
with its Path Sequence and Path Lifetime; its No-Path DAO, under a Path Sequence that is newer,
removes all of them. -/
theorem propagates {leafNode : Node} {s : Station} {rest : List Station}
    (line : Line key target (s :: rest)) (addressed : Addressed key target below (s :: rest))
    (leaf : Leaf leafNode key target dodag s.linkLocal)
    (advertises : leafNode.attributes.pathLifetime ≠ 0)
    (newer : ∀ station ∈ s :: rest,
      pathOrder ((station.route key target).map DownwardRoute.pathSequence) dodag.pathSequence =
        .greater) :
    let installed := climb below (leafNode.daosSent (leafNode.sendDao key)) (s :: rest)
    Installed key target dodag.pathSequence leafNode.attributes.pathLifetime below (s :: rest)
        installed ∧
      ∀ later dodagLater, Leaf later key target dodagLater s.linkLocal →
        sequenceCompare (sequenceIncrement dodagLater.pathSequence) dodag.pathSequence =
          .greater →
        ∀ station ∈ climb below (later.daosSent (later.sendNoPathDao key s.linkLocal)) installed,
          station.route key target = none := by
  obtain ⟨dao, sends, carries⟩ :=
    leaf.sendDao addressed.isAddress (addressed.stations s List.mem_cons_self)
  obtain ⟨installs, lineStill⟩ := climb_installs line carries addressed fun station mem =>
    ⟨newer station mem, fun withdraws => absurd withdraws advertises⟩
  rw [sends]
  refine ⟨installs, fun later dodagLater leafLater newerLater => ?_⟩
  obtain ⟨noPath, sendsLater, carriesLater⟩ := leafLater.sendNoPathDao addressed.isAddress
  rw [sendsLater]
  have routed := installs.route_of_mem
  have sameLinks := climb_linkLocal below [(s.linkLocal, dao)] (s :: rest)
  generalize climb below [(s.linkLocal, dao)] (s :: rest) = installed at *
  cases installed with
  | nil => cases lineStill
  | cons first others =>
    rw [List.map_cons, List.map_cons, List.cons.injEq] at sameLinks
    have addressedLater : Addressed key target below (first :: others) :=
      { addressed with
        stations := by
          intro station mem
          have listed : station.linkLocal ∈ (first :: others).map linkLocal :=
            List.mem_map_of_mem mem
          rw [List.map_cons, sameLinks.1, sameLinks.2, ← List.map_cons] at listed
          obtain ⟨before, memBefore, same⟩ := List.mem_map.mp listed
          exact same ▸ addressed.stations before memBefore }
    have news : ∀ station ∈ first :: others,
        News (station.route key target) (sequenceIncrement dodagLater.pathSequence) 0 := by
      intro station mem
      obtain ⟨now, through, interface, isRoute⟩ := routed station mem
      rw [routeFrom, if_neg advertises] at isRoute
      rw [isRoute]
      exact ⟨newerLater, fun _ => rfl⟩
    rw [← sameLinks.1]
    intro station mem
    obtain ⟨_, _, _, isRoute⟩ :=
      (climb_installs lineStill carriesLater addressedLater news).1.route_of_mem station mem
    exact isRoute.trans (if_pos rfl)

/-! ## A leaf below a router and a root -/

open StoringDodag (Fork fork forkBase forkIpv6)

def forkStation (i : Fork) : Station where
  node := fork.node i
  linkLocal := fork.linkLocal i
  interface := 1

/-- The leaf, which has moved on to the next Path Sequence. -/
def forkLeaf : DodagMembership := { forkBase .leaf with pathSequence := 1 }

theorem forkStations_facts :
    (fork.address .leaf ≠ (fork.node .right).getGlobalAddressIn (forkBase .right) ∧
      fork.address .leaf ≠ (fork.node .root).getGlobalAddressIn (forkBase .root)) ∧
    ((fork.node .right).interfaceForNeighbour (forkBase .right) (fork.linkLocal .root) = 1 ∧
      1 ∈ (fork.node .right).sockets) ∧
    (∀ i ∈ [Fork.right, .root], pathOrder
      (((forkStation i).route fork.key (fork.address .leaf)).map DownwardRoute.pathSequence) 1 =
        .greater) ∧
    (Node.inDodag (forkIpv6 .leaf) forkLeaf).interfaceForNeighbour forkLeaf
        (fork.linkLocal .right) = 1 ∧
      1 ∈ (Node.inDodag (forkIpv6 .leaf) forkLeaf).sockets ∧
      forkLeaf.downwardRoutes[fork.address .leaf]? = none := by
  decide +kernel

theorem forkStation_joined (i : Fork)
    (apart : fork.address .leaf ≠ (fork.node i).getGlobalAddressIn (forkBase i)) :
    Joined (fork.node i) fork.key (fork.address .leaf) (forkBase i) where
  held := Node.inDodag_dodags_self _ _
  keyed := rfl
  storing := rfl
  apart := apart

theorem fork_line : Line fork.key (fork.address .leaf) [forkStation .right, forkStation .root] := by
  obtain ⟨⟨apartRight, apartRoot⟩, ⟨interface, runs⟩, -⟩ := forkStations_facts
  refine .router (forkStation_joined .right apartRight) ⟨rfl, rfl, ?_, ?_⟩
    (.root (forkStation_joined .root apartRoot) rfl)
  · exact interface ▸ one_ne_zero
  · exact interface ▸ runs

theorem forkLeaf_leaf :
    Leaf (Node.inDodag (forkIpv6 .leaf) forkLeaf) fork.key (fork.address .leaf) forkLeaf
      (fork.linkLocal .right) where
  held := Node.inDodag_dodags_self _ _
  keyed := rfl
  storing := rfl
  isOwn := by decide +kernel
  unrouted := forkStations_facts.2.2.2.2.2
  reaches :=
    { router := rfl
      isParent := rfl
      interface := forkStations_facts.2.2.2.1 ▸ one_ne_zero
      runs := forkStations_facts.2.2.2.1 ▸ forkStations_facts.2.2.2.2.1 }

/-- The router and the root have routes toward the leaf under the next Path Sequence, and none
after its No-Path DAO. -/
theorem fork_propagates :
    let leaf := Node.inDodag (forkIpv6 .leaf) forkLeaf
    let line := [forkStation .right, forkStation .root]
    let installed := climb (fork.linkLocal .leaf) (leaf.daosSent (leaf.sendDao fork.key)) line
    Installed fork.key (fork.address .leaf) 1 leaf.attributes.pathLifetime (fork.linkLocal .leaf)
        line installed ∧
      ∀ station ∈ climb (fork.linkLocal .leaf)
          (leaf.daosSent (leaf.sendNoPathDao fork.key (fork.linkLocal .right))) installed,
        station.route fork.key (fork.address .leaf) = none := by
  have addressed : Addressed fork.key (fork.address .leaf) (fork.linkLocal .leaf)
      [forkStation .right, forkStation .root] :=
    ⟨by decide, by decide, by decide, isLinkLocal_linkLocalOf _, by decide⟩
  have newer : ∀ station ∈ [forkStation .right, forkStation .root], pathOrder
      ((station.route fork.key (fork.address .leaf)).map DownwardRoute.pathSequence) 1 =
        .greater := by
    intro station mem
    obtain ⟨i, listed, rfl⟩ : ∃ i ∈ [Fork.right, .root], forkStation i = station :=
      List.mem_map.mp mem
    exact forkStations_facts.2.2.1 i listed
  obtain ⟨installs, withdraws⟩ :=
    propagates fork_line addressed forkLeaf_leaf (by decide) newer
  exact ⟨installs, withdraws _ forkLeaf forkLeaf_leaf (by decide)⟩

end Station

end Rpl
