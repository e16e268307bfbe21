import Rpl.DaoPropagation
import Rpl.TopologyClimb

/-!
# Source routes that a Non-Storing root learns

Every router of a Non-Storing DODAG sends its DAO to the root, for its own address under that of
its preferred parent.  In whatever order and however often the DAOs arrive, what the root then
holds is the tree of preferred parents, and `ComputeSourceRoute` leads down it.
-/

namespace Rpl

open Std

/-- The routers of a Non-Storing DODAG below its root, their memberships and addresses there, and
the router that is the preferred parent of each, none where that is the root. -/
structure NonStoringDodag (ι : Type) where
  key : DodagKey
  node : ι → Node
  member : ι → DodagMembership
  address : ι → Ipv6Address
  parent : ι → Option ι

namespace NonStoringDodag

variable {ι : Type} {net : NonStoringDodag ι} {i j : ι}

/-- The address of a router's preferred parent. -/
def parentAddress (net : NonStoringDodag ι) (i : ι) : Ipv6Address :=
  ((net.parent i).map net.address).getD net.key.dodagId

/-- The router has an address to advertise, under that of its preferred parent. -/
structure Advertises (net : NonStoringDodag ι) (i : ι) : Prop where
  held : (net.node i).dodags[net.key]? = some (net.member i)
  keyed : (net.member i).key = net.key
  nonStoring : (net.member i).storing = false
  permanent : (net.member i).isTemporary = false
  router : (net.member i).isRoot = false
  own : (net.node i).getGlobalAddressIn (net.member i) = net.address i
  isAddress : (net.address i).isAny = false
  under : (net.member i).globalAddressOf (net.member i).preferredParent = net.parentAddress i
  underAddress : (net.parentAddress i).isAny = false
  runs : ∃ interface, interface ∈ (net.node i).sockets
  lasts : (net.node i).attributes.pathLifetime ≠ 0

/-- Every router advertises an address of its own. -/
structure Settled (net : NonStoringDodag ι) : Prop where
  advertises : ∀ i, net.Advertises i
  distinct : Function.Injective net.address
  named : net.key.dodagId.isAny = false
  notRoot : ∀ i, net.address i ≠ net.key.dodagId

/-- What the DAO of a router says of it. -/
def entry (net : NonStoringDodag ι) (i : ι) : AdditionalTarget :=
  { target := net.address i
    targetPrefixLength := 128
    pathSequence := (net.member i).pathSequence
    pathLifetime := (net.node i).attributes.pathLifetime }

/-- What the root holds of a router whose DAO it has taken in at the time. -/
def link (net : NonStoringDodag ι) (i : ι) (at_ : Time) : TopologyEntry :=
  { parent := net.parentAddress i
    pathSequence := (net.member i).pathSequence
    expire := pathExpiry at_ (net.node i).attributes.pathLifetime }

/-! ## Sending -/

theorem sendRplMessageUnicast_eq {n : Node} (runs : ∃ interface, interface ∈ n.sockets)
    (message : RplMessage) (destination : Ipv6Address) :
    ∃ interface source, n.sendRplMessageUnicast message destination =
      n.emit [.sent interface source destination message] := by
  obtain ⟨interface, mem⟩ := runs
  rw [← ExtTreeSet.mem_toList] at mem
  cases listed : n.sockets.toList with
  | nil =>
    rw [listed] at mem
    cases mem
  | cons first rest =>
    have isSocket : first ∈ n.sockets := by
      rw [← ExtTreeSet.mem_toList, listed]
      exact List.mem_cons_self
    rw [Node.sendRplMessageUnicast, listed]
    dsimp only [List.head?_cons]
    rw [Node.sendRplMessageOn_eq_emit, Node.messageOn, if_pos isSocket]
    exact ⟨_, _, rfl⟩

/-- `SendDao` sends one DAO, to the root. -/
theorem Advertises.sendDao (advertises : net.Advertises i) :
    ∃ dao, (net.node i).daosSent ((net.node i).sendDao net.key) = [(net.key.dodagId, dao)] ∧
      dao.instanceId = net.key.instanceId ∧ dao.dodagId = net.key.dodagId ∧
      dao.parent = net.parentAddress i ∧ dao.entries = [net.entry i] := by
  have hasParent : (net.member i).preferredParent.isAny = false := by
    by_contra named
    have unnamed := advertises.underAddress
    rw [Bool.not_eq_false] at named
    rw [← advertises.under, DodagMembership.globalAddressOf, named, Bool.or_true, if_pos rfl]
      at unnamed
    cases unnamed
  obtain ⟨advanced, isAdvanced⟩ : ∃ advanced, advanced =
      ({ net.member i with daoSequence := sequenceIncrement (net.member i).daoSequence } :
        DodagMembership) := ⟨_, rfl⟩
  have can : (net.node i).canAdvertise (net.member i) (net.member i).preferredParent = true := by
    rw [Node.canAdvertise, advertises.own, advertises.isAddress, advertises.under,
      advertises.underAddress]
    exact Bool.or_true _
  have nonStoring : advanced.storing = false := by
    rw [isAdvanced]
    exact advertises.nonStoring
  have keyed : advanced.key = net.key := by
    rw [isAdvanced]
    exact advertises.keyed
  have dodagId : advanced.dodagId = net.key.dodagId := congrArg DodagKey.dodagId keyed
  obtain ⟨dao, isDao⟩ : ∃ dao, dao = advanced.daoMessage (net.address i) advanced.daoSequence
      advanced.pathSequence (net.node i).attributes.pathLifetime true [] := ⟨_, rfl⟩
  have sending : ∃ f, (net.node i).sendDao net.key =
      (((net.node i).setDodag net.key advanced).sendRplMessageUnicast (.dao dao)
        net.key.dodagId).modifyDodag net.key f := by
    have own : (net.node i).getGlobalAddressIn advanced = net.address i := by
      rw [isAdvanced]
      exact advertises.own
    rw [Node.sendDao, advertises.held]
    dsimp only
    rw [advertises.router, hasParent, advertises.permanent, can, if_neg (by decide)]
    simp only [advertises.nonStoring, Bool.false_eq_true, if_false]
    rw [← isAdvanced, own, Node.sendDaoMessage, Node.sendDaoTo, nonStoring,
      if_neg Bool.false_ne_true, dodagId, isDao, isAdvanced]
    exact ⟨_, rfl⟩
  obtain ⟨f, sending⟩ := sending
  obtain ⟨interface, source, sends⟩ := @sendRplMessageUnicast_eq
    ((net.node i).setDodag net.key advanced) advertises.runs (.dao dao) net.key.dodagId
  have quiet : ((net.node i).setDodag net.key advanced).outputs = (net.node i).outputs := rfl
  refine ⟨dao, ?_, ?_, ?_, ?_, ?_⟩
  · rw [sending, sends]
    change (net.node i).daosSent (((net.node i).setDodag net.key advanced).emit _) = _
    rw [Node.daosSent_emit quiet]
    rfl
  · rw [isDao]
    exact congrArg DodagKey.instanceId keyed
  · rw [isDao]
    exact dodagId
  · rw [isDao, DodagMembership.daoMessage, nonStoring, isAdvanced]
    exact advertises.under
  · rw [isDao, isAdvanced]
    rfl

/-! ## Arriving -/

/-- A DAO of the router's arrives at the root. -/
structure Arrival (ι : Type) where
  origin : ι
  at_ : Time
  sender : Ipv6Address
  interface : Nat

/-- The root hears what the router has sent to it, off the wire. -/
def hear (net : NonStoringDodag ι) (root : Node) (arrival : Arrival ι) : Node :=
  (((net.node arrival.origin).daosSent ((net.node arrival.origin).sendDao net.key)).filter
      fun message => message.1 = net.key.dodagId).foldl
    (fun n message => n.recvDao message.2.serialize arrival.sender arrival.interface)
    (root.apply (.tick arrival.at_))

/-- One DAO after the other arrives. -/
def hearAll (net : NonStoringDodag ι) (root : Node) (arrivals : List (Arrival ι)) : Node :=
  arrivals.foldl net.hear root

/-- When the router was last heard. -/
def lastHeard [DecidableEq ι] (arrivals : List (Arrival ι)) (i : ι) : Option Time :=
  (arrivals.filter fun arrival => arrival.origin = i).getLast?.map Arrival.at_

/-- The root of the DODAG, which has an address of its own. -/
structure Hosts (net : NonStoringDodag ι) (root : Node) (dodag : DodagMembership) : Prop where
  held : root.dodags[net.key]? = some dodag
  keyed : dodag.key = net.key
  nonStoring : dodag.storing = false
  isRoot : dodag.isRoot = true
  apart : ∀ i, net.address i ≠ root.getGlobalAddressIn dodag

/-- There is nothing in its topology that is newer than what the routers advertise. -/
structure Collects (net : NonStoringDodag ι) (root : Node) (dodag : DodagMembership) : Prop
    extends net.Hosts root dodag where
  current : ∀ i, (pathOrder
    (dodag.topology[net.address i]?.map TopologyEntry.pathSequence)
    (net.member i).pathSequence).stale = false

/-- What the root holds of a router after a DAO of its: an expired link is forgotten first, and
one under a Path Sequence that is newer stays. -/
def absorb (net : NonStoringDodag ι) (i : ι) (at_ : Time) (held : Option TopologyEntry) :
    Option TopologyEntry :=
  let held := DodagMembership.liveLink at_ held
  if (pathOrder (held.map TopologyEntry.pathSequence) (net.member i).pathSequence).stale then held
  else some (net.link i at_)

variable {root n : Node} {dodag : DodagMembership} {dao : DaoHeader}

/-- Time passes at the root. -/
theorem Hosts.tick (hosts : net.Hosts root dodag) (at_ : Time) :
    net.Hosts (root.apply (.tick at_)) dodag where
  held := hosts.held
  keyed := hosts.keyed
  nonStoring := hosts.nonStoring
  isRoot := hosts.isRoot
  apart := hosts.apart

/-- The root takes in what names its DODAG. -/
theorem Hosts.takesDao (hosts : net.Hosts root dodag)
    (named : net.key.dodagId.isAny = false) (instanceId : dao.instanceId = net.key.instanceId)
    (dodagId : dao.dodagId = net.key.dodagId) (sender : Ipv6Address) :
    root.TakesDao dao sender net.key dodag where
  found := by
    have isKey : (⟨dao.instanceId, dao.dodagId⟩ : DodagKey) = net.key := by
      rw [instanceId, dodagId]
    have isNamed : dao.dodagId.isAny = false := by rw [dodagId, named]
    have held : root.dodags[(⟨dao.instanceId, dao.dodagId⟩ : DodagKey)]? = some dodag := by
      rw [isKey, hosts.held]
    have accepts : Node.acceptsDao dodag = true := by
      rw [Node.acceptsDao, hosts.isRoot, Bool.true_or]
    have found := Node.daoMembership_of_named isNamed held accepts
    rwa [isKey] at found
  accepted := by
    rw [Node.dropsDao, hosts.nonStoring, Bool.false_and]

/-- A DAO of a router's changes what the root holds of it, and nothing else in the topology. -/
theorem Hosts.handleTargets (hosts : net.Hosts root dodag) (settled : net.Settled)
    (parent : dao.parent = net.parentAddress i) (entries : dao.entries = [net.entry i])
    (sender : Ipv6Address) (interface : Nat) (target : Ipv6Address) :
    (dodag.handleTargets (root.daoContext dodag dao sender interface)
        dao.entries).dodag.topology[target]? =
      if target = net.address i then net.absorb i root.now dodag.topology[target]?
      else dodag.topology[target]? := by
  have view := congrArg TargetView.link (dodag.handleTargets_view
    (root.daoContext dodag dao sender interface) dao.entries target)
  rw [entries] at view ⊢
  refine view.trans ?_
  rw [DodagMembership.entriesFor]
  by_cases isTarget : target = net.address i
  · subst isTarget
    have dodagId : dodag.dodagId = net.key.dodagId := congrArg DodagKey.dodagId hosts.keyed
    have taken : dodag.rejectsTarget (root.daoContext dodag dao sender interface)
        (net.entry i).target = false := by
      change dodag.rejectsTarget _ (net.address i) = false
      rw [DodagPlace.rejectsTarget, (settled.advertises i).isAddress, dodagId,
        decide_eq_false (settled.notRoot i)]
      exact decide_eq_false (hosts.apart i)
    have mine : [net.entry i].filter (fun entry => entry.target = net.address i) =
        [net.entry i] :=
      List.filter_cons_of_pos (decide_eq_true rfl)
    have installs : (net.entry i).noPath = false :=
      decide_eq_false (settled.advertises i).lasts
    have advertised : DodagMembership.advertisedLink
        (root.daoContext dodag dao sender interface) (net.entry i) = net.link i root.now := by
      rw [DodagMembership.advertisedLink, Node.daoContext, parent]
      rfl
    rw [mine, List.foldl_cons, List.foldl_nil, DodagMembership.takeEntry,
      if_neg (ne_true_of_eq_false taken), if_neg (ne_true_of_eq_false hosts.nonStoring),
      if_pos rfl, absorb, ← advertised]
    dsimp only [DodagMembership.takeLink]
    rw [installs, if_neg Bool.false_ne_true]
    rfl
  · have others : [net.entry i].filter (fun entry => entry.target = target) = [] :=
      List.filter_eq_nil_iff.mpr fun entry mem isEntry => by
        rw [List.mem_singleton] at mem
        subst mem
        exact isTarget (of_decide_eq_true isEntry).symm
    rw [others, List.foldl_nil, if_neg isTarget]

/-- The root hears one DAO of a router's. -/
theorem hear_eq (settled : net.Settled) (root : Node) (arrival : Arrival ι) :
    ∃ dao, net.hear root arrival = (root.apply (.tick arrival.at_)).handleDao dao arrival.sender
        arrival.interface ∧
      dao.instanceId = net.key.instanceId ∧ dao.dodagId = net.key.dodagId ∧
      dao.parent = net.parentAddress arrival.origin ∧
      dao.entries = [net.entry arrival.origin] := by
  obtain ⟨dao, sends, about⟩ := (settled.advertises arrival.origin).sendDao
  refine ⟨dao, ?_, about⟩
  have mine : [(net.key.dodagId, dao)].filter (fun message => message.1 = net.key.dodagId) =
      [(net.key.dodagId, dao)] :=
    List.filter_cons_of_pos (decide_eq_true rfl)
  rw [hear, sends, mine, List.foldl_cons, List.foldl_nil, Node.recvDao, dao.deserialize_serialize]

/-- After a router's DAO the root holds what it makes of that, and of the others what it held. -/
theorem Hosts.hear (hosts : net.Hosts root dodag) (settled : net.Settled)
    (arrival : Arrival ι) :
    ∃ after, net.Hosts (net.hear root arrival) after ∧
      ∀ target, after.topology[target]? =
        if target = net.address arrival.origin then
          net.absorb arrival.origin arrival.at_ dodag.topology[target]?
        else dodag.topology[target]? := by
  obtain ⟨dao, hears, instanceId, dodagId, parent, entries⟩ := hear_eq settled root arrival
  have later := hosts.tick arrival.at_
  have takes := later.takesDao settled.named instanceId dodagId arrival.sender
  obtain ⟨outputs, handles⟩ := Node.handleDao_eq arrival.interface takes
  have tables := dodag.handleTargets_onlyTables
    ((root.apply (.tick arrival.at_)).daoContext dodag dao arrival.sender arrival.interface)
    dao.entries
  have topology := later.handleTargets settled parent entries arrival.sender arrival.interface
  obtain ⟨after, isAfter⟩ : ∃ after, after = (dodag.handleTargets
    ((root.apply (.tick arrival.at_)).daoContext dodag dao arrival.sender arrival.interface)
    dao.entries).dodag := ⟨_, rfl⟩
  rw [← isAfter] at handles tables topology
  refine ⟨after, ?_, topology⟩
  rw [hears, handles]
  exact
    { held := ExtTreeMap.getElem?_insert_self
      keyed := (congrArg DodagPlace.key tables.place).trans hosts.keyed
      nonStoring := (congrArg DodagPlace.storing tables.place).trans hosts.nonStoring
      isRoot := (congrArg DodagPlace.isRoot tables.place).trans hosts.isRoot
      apart := fun j => by
        rw [Node.getGlobalAddressIn, tables.prefixInfo]
        exact hosts.apart j }

/-- A DAO that is not superseded takes the place of what is held. -/
theorem absorb_of_current {held : Option TopologyEntry} {at_ : Time}
    (current : (pathOrder (held.map TopologyEntry.pathSequence)
      (net.member i).pathSequence).stale = false) :
    net.absorb i at_ held = some (net.link i at_) := by
  have live : (pathOrder ((DodagMembership.liveLink at_ held).map TopologyEntry.pathSequence)
      (net.member i).pathSequence).stale = false := by
    rw [DodagMembership.liveLink]
    cases filtered : held.filter fun link => at_ < link.expire with
    | none => rfl
    | some link =>
      have isHeld : held = some link := (Option.filter_eq_some_iff.mp filtered).1
      rwa [isHeld] at current
  rw [absorb, live, if_neg Bool.false_ne_true]

theorem Collects.hear (collects : net.Collects root dodag) (settled : net.Settled)
    (arrival : Arrival ι) :
    ∃ after, net.Collects (net.hear root arrival) after ∧
      ∀ target, after.topology[target]? =
        if target = net.address arrival.origin then some (net.link arrival.origin arrival.at_)
        else dodag.topology[target]? := by
  obtain ⟨after, hosts, absorbed⟩ := collects.toHosts.hear settled arrival
  have topology : ∀ target, after.topology[target]? =
      if target = net.address arrival.origin then some (net.link arrival.origin arrival.at_)
      else dodag.topology[target]? := by
    intro target
    rw [absorbed]
    by_cases isOrigin : target = net.address arrival.origin
    · rw [if_pos isOrigin, if_pos isOrigin, isOrigin,
        absorb_of_current (collects.current arrival.origin)]
    · rw [if_neg isOrigin, if_neg isOrigin]
  refine ⟨after, ⟨hosts, fun j => ?_⟩, topology⟩
  rw [topology]
  split
  · next same =>
    rw [settled.distinct same, Option.map_some, link, pathOrder, sequenceCompare_self]
    rfl
  · exact collects.current j

/-! ## What the root holds -/

/-- The way up the preferred parents, from a router to the last before the root. -/
inductive Way (net : NonStoringDodag ι) : ι → List ι → Prop
  | top {i : ι} (underRoot : net.parent i = none) : Way net i [i]
  | on {i above : ι} {routers : List ι} (leads : net.parent i = some above)
      (rest : Way net above routers) : Way net i (i :: routers)

/-- The root holds what the router said, and it has not expired. -/
def Holds (net : NonStoringDodag ι) (dodag : DodagMembership) (now : Time) (i : ι) : Prop :=
  ∃ at_, dodag.topology[net.address i]? = some (net.link i at_) ∧
    now < pathExpiry at_ (net.node i).attributes.pathLifetime

variable {routers : List ι} {now : Time}

theorem Holds.leads (holds : net.Holds dodag now i) :
    dodag.topologyParent now (net.address i) = some (net.parentAddress i) := by
  obtain ⟨at_, held, unexpired⟩ := holds
  exact DodagMembership.topologyParent_eq_some.mpr ⟨_, held, unexpired, rfl⟩

/-- Where it holds what every router on the way said, the links lead along it. -/
theorem Way.chain (way : net.Way i routers) (settled : net.Settled)
    (dodagId : dodag.dodagId = net.key.dodagId) (holds : ∀ j ∈ routers, net.Holds dodag now j) :
    dodag.Chain now (net.address i) (routers.map net.address) := by
  induction way with
  | @top i underRoot =>
    have leads := (holds i (List.mem_singleton_self i)).leads
    rw [parentAddress, underRoot, ← dodagId] at leads
    exact .last leads
  | @on i above routers isAbove rest ih =>
    have leads := (holds i List.mem_cons_self).leads
    rw [parentAddress, isAbove] at leads
    have further : net.address above ≠ dodag.dodagId := by
      rw [dodagId]
      exact settled.notRoot above
    exact .on leads further (ih fun j mem => holds j (List.mem_cons_of_mem i mem))

/-- Where it holds nothing of a router but what that said, the links lead along no other. -/
theorem way_of_chain {chain : List Ipv6Address} (settled : net.Settled)
    (dodagId : dodag.dodagId = net.key.dodagId)
    (said : ∀ j entry, dodag.topology[net.address j]? = some entry →
      ∃ at_, entry = net.link j at_)
    (passes : dodag.Chain now (net.address i) chain) :
    ∃ routers, net.Way i routers ∧ (∀ j ∈ routers, net.Holds dodag now j) ∧
      chain = routers.map net.address := by
  obtain ⟨start, isStart⟩ : ∃ start, start = net.address i := ⟨_, rfl⟩
  have holds : ∀ j parent, dodag.topologyParent now (net.address j) = some parent →
      net.Holds dodag now j ∧ parent = net.parentAddress j := by
    intro j parent leads
    obtain ⟨entry, held, unexpired, isParent⟩ :=
      DodagMembership.topologyParent_eq_some.mp leads
    obtain ⟨at_, rfl⟩ := said j entry held
    exact ⟨⟨at_, held, unexpired⟩, isParent.symm⟩
  rw [← isStart] at passes
  induction passes generalizing i with
  | last arrives =>
    subst isStart
    obtain ⟨here, isParent⟩ := holds i _ arrives
    refine ⟨[i], .top ?_, ?_, rfl⟩
    · cases isAbove : net.parent i with
      | none => rfl
      | some above =>
        rw [parentAddress, isAbove, dodagId] at isParent
        exact absurd isParent.symm (settled.notRoot above)
    · rintro j mem
      exact (List.mem_singleton.mp mem) ▸ here
  | on leads further rest ih =>
    subst isStart
    obtain ⟨here, isParent⟩ := holds i _ leads
    cases isAbove : net.parent i with
    | none =>
      rw [parentAddress, isAbove] at isParent
      exact absurd (isParent.trans dodagId.symm) further
    | some above =>
      rw [parentAddress, isAbove] at isParent
      obtain ⟨routers, way, holdsRest, rfl⟩ := ih isParent
      refine ⟨i :: routers, .on isAbove way, ?_, rfl⟩
      rintro j mem
      rcases List.mem_cons.mp mem with rfl | later
      · exact here
      · exact holdsRest j later

/-! ## What the root has learnt -/

variable [DecidableEq ι] {arrivals : List (Arrival ι)}

theorem lastHeard_concat (arrivals : List (Arrival ι)) (arrival : Arrival ι) (i : ι) :
    lastHeard (arrivals ++ [arrival]) i =
      if arrival.origin = i then some arrival.at_ else lastHeard arrivals i := by
  rw [lastHeard, List.filter_append, List.getLast?_append]
  by_cases heard : arrival.origin = i
  · have mine : [arrival].filter (fun arrival => arrival.origin = i) = [arrival] :=
      List.filter_cons_of_pos (decide_eq_true heard)
    rw [mine, if_pos heard]
    rfl
  · have others : [arrival].filter (fun arrival => arrival.origin = i) = [] :=
      List.filter_eq_nil_iff.mpr fun other mem isOrigin => by
        rw [List.mem_singleton] at mem
        subst mem
        exact heard (of_decide_eq_true isOrigin)
    rw [others, if_neg heard]
    rfl

/-- However often and in whatever order they arrive, the root holds of every router what its last
DAO said, and of one it has not heard what it held before. -/
theorem Collects.hearAll (collects : net.Collects root dodag) (settled : net.Settled)
    (arrivals : List (Arrival ι)) :
    ∃ after, net.Collects (net.hearAll root arrivals) after ∧
      ∀ i, after.topology[net.address i]? =
        ((lastHeard arrivals i).map (net.link i)).or dodag.topology[net.address i]? := by
  induction arrivals using List.reverseRecOn with
  | nil => exact ⟨dodag, collects, fun i => rfl⟩
  | append_singleton arrivals arrival ih =>
    obtain ⟨before, collectsBefore, topologyBefore⟩ := ih
    obtain ⟨after, collectsAfter, topology⟩ := collectsBefore.hear settled arrival
    refine ⟨after, ?_, fun i => ?_⟩
    · rw [NonStoringDodag.hearAll, List.foldl_concat]
      exact collectsAfter
    · rw [topology, lastHeard_concat]
      by_cases heard : arrival.origin = i
      · subst heard
        rw [if_pos rfl, if_pos rfl]
        rfl
      · rw [if_neg fun same => heard (settled.distinct same).symm, if_neg heard, topologyBefore]

/-- The root has heard the router, and not so long ago that what it said has expired. -/
def Heard (net : NonStoringDodag ι) (arrivals : List (Arrival ι)) (now : Time) (i : ι) : Prop :=
  ∃ at_, lastHeard arrivals i = some at_ ∧
    now < pathExpiry at_ (net.node i).attributes.pathLifetime

theorem Heard.holds {after : DodagMembership} (heard : net.Heard arrivals now i)
    (topology : ∀ j, after.topology[net.address j]? =
      ((lastHeard arrivals j).map (net.link j)).or dodag.topology[net.address j]?) :
    net.Holds after now i := by
  obtain ⟨at_, isLast, unexpired⟩ := heard
  refine ⟨at_, ?_, unexpired⟩
  rw [topology, isLast]
  rfl

/-- In whatever order and however often the DAOs arrive, the root computes the way down to every
router for which it has lately heard all routers on the way.  One that held nothing of the
routers before computes no other source route to them. -/
theorem sourceRoute_learnt (collects : net.Collects root dodag) (settled : net.Settled)
    (arrivals : List (Arrival ι)) (now : Time) :
    ∃ after, net.Collects (net.hearAll root arrivals) after ∧
      (∀ i routers, net.Way i routers → (∀ j ∈ routers, net.Heard arrivals now j) →
        after.computeSourceRoute now (net.address i) =
          some ((routers.reverse.map net.address).map linkLocalOf)) ∧
      ((∀ i, dodag.topology[net.address i]? = none) → ∀ i hops,
        after.computeSourceRoute now (net.address i) = some hops →
          ∃ routers, net.Way i routers ∧ (∀ j ∈ routers, net.Heard arrivals now j) ∧
            hops = (routers.reverse.map net.address).map linkLocalOf) := by
  obtain ⟨after, collectsAfter, topology⟩ := collects.hearAll settled arrivals
  have dodagId : after.dodagId = net.key.dodagId := congrArg DodagKey.dodagId collectsAfter.keyed
  refine ⟨after, collectsAfter, fun i routers way heard => ?_, fun blank i hops found => ?_⟩
  · have holds : ∀ j ∈ routers, net.Holds after now j := fun j mem =>
      (heard j mem).holds topology
    refine DodagMembership.computeSourceRoute_eq_some.mpr ⟨collectsAfter.isRoot, _,
      way.chain settled dodagId holds, ?_⟩
    rw [List.map_reverse]
  · have lastSaid : ∀ j entry, after.topology[net.address j]? = some entry →
        ∃ at_, lastHeard arrivals j = some at_ ∧ net.link j at_ = entry := by
      intro j entry held
      rw [topology, blank, Option.or_none] at held
      exact Option.map_eq_some_iff.mp held
    obtain ⟨-, chain, passes, rfl⟩ := DodagMembership.computeSourceRoute_eq_some.mp found
    obtain ⟨routers, way, holds, rfl⟩ := way_of_chain settled dodagId
      (fun j entry held => (lastSaid j entry held).imp fun at_ last => last.2.symm) passes
    refine ⟨routers, way, fun j mem => ?_, by rw [← List.map_reverse]⟩
    obtain ⟨at_, held, unexpired⟩ := holds j mem
    obtain ⟨heardAt, isLast, same⟩ := lastSaid j _ held
    have expire : pathExpiry heardAt (net.node j).attributes.pathLifetime =
        pathExpiry at_ (net.node j).attributes.pathLifetime :=
      congrArg TopologyEntry.expire same
    exact ⟨heardAt, isLast, expire ▸ unexpired⟩

/-! ## A router below another -/

inductive Twig
  | upper
  | lower
  deriving DecidableEq

def twigRootAddress : Ipv6Address := 0x20010db8000000000000000000000001#128

def twigAddress : Twig → Ipv6Address
  | .upper => 0x20010db8000000000000000000000002#128
  | .lower => 0x20010db8000000000000000000000003#128

def twigParent : Twig → Option Twig
  | .upper => none
  | .lower => some .upper

def twigMember (i : Twig) : DodagMembership :=
  { instanceId := 0
    dodagId := twigRootAddress
    mop := mopNonStoring
    preferredParent := linkLocalOf (((twigParent i).map twigAddress).getD twigRootAddress)
    pathSequence := 1 }

def twigNode (i : Twig) : Node :=
  .inDodag
    (.ofInterfaces
      [{}, { addresses :=
          [{ address := linkLocalOf (twigAddress i), scope := .linkLocal },
           { address := twigAddress i, scope := .global }] }])
    (twigMember i)

def twigRootMember : DodagMembership :=
  { instanceId := 0
    dodagId := twigRootAddress
    isRoot := true
    mop := mopNonStoring
    rank := 128 }

def twigRoot : Node :=
  .inDodag (.ofInterfaces [{}, { addresses := [{ address := twigRootAddress, scope := .global }] }])
    twigRootMember

def twig : NonStoringDodag Twig where
  key := twigRootMember.key
  node := twigNode
  member := twigMember
  address := twigAddress
  parent := twigParent

theorem twig_advertises (i : Twig) : twig.Advertises i := by
  refine ⟨Node.inDodag_dodags_self _ _, rfl, rfl, rfl, rfl, ?_, ?_, ?_, ?_, ⟨1, ?_⟩, ?_⟩
  all_goals
    cases i with
    | upper => decide +kernel
    | lower => decide +kernel

theorem twig_settled : twig.Settled where
  advertises := twig_advertises
  distinct i j same := by
    cases i with
    | upper =>
      cases j with
      | upper => rfl
      | lower => exact absurd same (by decide)
    | lower =>
      cases j with
      | upper => exact absurd same (by decide)
      | lower => rfl
  named := by decide
  notRoot i := by
    cases i with
    | upper => decide
    | lower => decide

theorem twigRoot_hosts : twig.Hosts twigRoot twigRootMember where
  held := Node.inDodag_dodags_self _ _
  keyed := rfl
  nonStoring := rfl
  isRoot := rfl
  apart i := by
    cases i with
    | upper => decide +kernel
    | lower => decide +kernel

theorem twigRoot_collects : twig.Collects twigRoot twigRootMember where
  toHosts := twigRoot_hosts
  current _ := rfl

/-- The lower router is heard before the upper one, and again after it. -/
def twigArrivals : List (Arrival Twig) :=
  [{ origin := .lower, at_ := seconds 1, sender := twigAddress .lower, interface := 1 },
   { origin := .upper, at_ := seconds 2, sender := twigAddress .upper, interface := 1 },
   { origin := .lower, at_ := seconds 3, sender := twigAddress .lower, interface := 1 }]

theorem twig_heard (i : Twig) : twig.Heard twigArrivals (seconds 9) i := by
  cases i with
  | upper => exact ⟨seconds 2, rfl, by decide +kernel⟩
  | lower => exact ⟨seconds 3, rfl, by decide +kernel⟩

theorem twig_sourceRoute :
    ∃ after, twig.Collects (twig.hearAll twigRoot twigArrivals) after ∧
      after.computeSourceRoute (seconds 9) (twigAddress .lower) =
        some [linkLocalOf (twigAddress .upper), linkLocalOf (twigAddress .lower)] := by
  obtain ⟨after, collects, leads, -⟩ :=
    sourceRoute_learnt twigRoot_collects twig_settled twigArrivals (seconds 9)
  have way : twig.Way .lower [.lower, .upper] := .on rfl (.top rfl)
  exact ⟨after, collects, leads .lower _ way fun j _ => twig_heard j⟩

end NonStoringDodag

end Rpl
