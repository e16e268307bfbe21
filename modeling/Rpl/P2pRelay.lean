import Rpl.P2pDroCodec
import Rpl.RouteTables

/-!
# One P2P-DRO at one router

What a member of the temporary DAG does with a P2P-DRO as it comes off the wire: the
Origin takes the route, the router that NH names relays the message with NH one less, and
everyone else only heeds the Stop flag.
-/

namespace Rpl

open Std

/-! ## The reply -/

/-- What a P2P-DRO says, but for NH. -/
structure P2pReply where
  key : DodagKey
  stop : Bool
  ackRequested : Bool
  sequence : UInt8
  hopByHop : Bool
  /-- The routers between the Origin and the Target. -/
  addressVector : List Ipv6Address
  target : Ipv6Address

namespace P2pReply

/-- The option with NH, and the Compr it was read with. -/
def rdo (reply : P2pReply) (nh : Nat) (compr : UInt8) : P2pRdoOption :=
  { reply := false
    hopByHop := reply.hopByHop
    compr := compr
    maxRankOrNh := UInt8.ofNat nh
    target := reply.target
    addressVector := reply.addressVector }

def dro (reply : P2pReply) (nh : Nat) (compr : UInt8) : P2pDroHeader :=
  { instanceId := reply.key.instanceId
    stop := reply.stop
    ackRequested := reply.ackRequested
    sequence := reply.sequence
    dodagId := reply.key.dodagId
    p2pRdo := some (reply.rdo nh compr) }

/-- The Compr the reply is written under. -/
def compr (reply : P2pReply) : UInt8 :=
  p2pRdoCompr reply.target reply.addressVector reply.key.dodagId

/-- The reply on the wire. -/
def octets (reply : P2pReply) (nh : Nat) : List UInt8 := (reply.dro nh reply.compr).serialize

/-- The reply fits its option, and its sequence number the two bits of its field. -/
structure Fits (reply : P2pReply) : Prop where
  sequence : reply.sequence < 4
  entries : reply.addressVector.length ≤ p2pMaxAddressVectorEntries reply.compr

variable {reply : P2pReply} {nh other : Nat}

theorem Fits.length_le (fits : reply.Fits) : reply.addressVector.length ≤ 30 := by
  have entries := fits.entries
  have known := (P2pRdoOption.compr_cases reply.target reply.addressVector
    reply.key.dodagId).imp_right And.left
  change reply.compr = 0 ∨ reply.compr = 8 at known
  rcases known with zero | eight
  · rw [zero] at entries
    exact entries.trans (by decide)
  · rw [eight] at entries
    exact entries.trans (by decide)

theorem Fits.toNat_nh (fits : reply.Fits) (within_ : nh ≤ reply.addressVector.length) :
    (UInt8.ofNat nh).toNat = nh := by
  rw [UInt8.toNat_ofNat']
  exact Nat.mod_eq_of_lt (by have := fits.length_le; omega)

theorem deserialize_octets (fits : reply.Fits) (within_ : nh ≤ reply.addressVector.length) :
    P2pDroHeader.deserialize (reply.octets nh) = some (reply.dro nh reply.compr) := by
  have small : UInt8.ofNat nh < 64 := by
    rw [UInt8.lt_iff_toNat_lt, fits.toNat_nh within_]
    have most := fits.length_le
    change nh < 64
    omega
  rw [octets, P2pDroHeader.deserialize_serialize fits.sequence]
  · rfl
  · rintro rdo ⟨⟩
    exact ⟨show (0 : UInt8) < 4 by decide, show (0 : UInt8) < 4 by decide, small, fits.entries⟩

/-- Replies with different NH differ on the wire. -/
theorem octets_inj (fits : reply.Fits) (within_ : nh ≤ reply.addressVector.length)
    (otherWithin : other ≤ reply.addressVector.length)
    (same : reply.octets nh = reply.octets other) : nh = other := by
  have read := deserialize_octets fits within_
  rw [same, deserialize_octets fits otherWithin] at read
  have nhs : UInt8.ofNat other = UInt8.ofNat nh := by
    have := congrArg (fun dro => dro.bind fun d => d.p2pRdo.map P2pRdoOption.maxRankOrNh) read
    exact Option.some.inj this
  rw [← fits.toNat_nh within_, ← fits.toNat_nh otherWithin, nhs]

end P2pReply

namespace Node

/-! ## Multicasts -/

/-- The P2P-DRO an output puts on an interface. -/
def droOn (interface : Nat) : Output → Option P2pDroHeader
  | .sent over_ _ _ (.p2pDro dro) => if over_ = interface then some dro else none
  | _ => none

/-- The P2P-DROs multicast between two states of a node. A multicast goes out once on every
interface RPL runs on; it is counted on the first. -/
def drosSent (before after : Node) : List P2pDroHeader :=
  (after.outputs.take (after.outputs.length - before.outputs.length)).filterMap
    (droOn before.firstSocket)

/-- A P2P-DRO comes off the wire. -/
def hearDro (n : Node) (octets : List UInt8) : Node :=
  match P2pDroHeader.deserialize octets with
  | none => n
  | some dro => n.handleP2pDro dro

variable {n : Node}

theorem drosSent_emit (n : Node) (sent : List Output) :
    n.drosSent (n.emit sent) = sent.filterMap (droOn n.firstSocket) := by
  rw [drosSent, emit_outputs, List.length_append, Nat.add_sub_cancel, List.take_left]

theorem drosSent_of_outputs {before after : Node} (same : after.outputs = before.outputs) :
    before.drosSent after = [] := by
  rw [drosSent, same, Nat.sub_self, List.take_zero, List.filterMap_nil]

/-- What a multicast hands down: one copy for each interface, the last one newest. -/
theorem sendRplMessageMulticast_eq_emit (n : Node) (message : RplMessage)
    (destination : Ipv6Address) :
    n.sendRplMessageMulticast message destination =
      n.emit ((n.sockets.toList.map fun interface =>
        .sent interface
          (n.ipv6.sourceAddressSelection n.ipv6.interfaces interface destination) destination
          message).reverse) := by
  have over_ : ∀ (interfaces : List Nat) (n : Node), (∀ i ∈ interfaces, i ∈ n.sockets) →
      interfaces.foldl (fun n i => n.sendRplMessageOn i message destination) n =
        n.emit ((interfaces.map fun i =>
          .sent i (n.ipv6.sourceAddressSelection n.ipv6.interfaces i destination) destination
            message).reverse) := by
    intro interfaces
    induction interfaces with
    | nil => exact fun n _ => rfl
    | cons first rest ih =>
      intro n running
      rw [List.forall_mem_cons] at running
      rw [List.foldl_cons, sendRplMessageOn_eq_emit, messageOn, if_pos running.1,
        ih (n.emit _) running.2, emit_emit, emit_ipv6, List.map_cons, List.reverse_cons]
  exact over_ _ n fun _ mem => ExtTreeSet.mem_toList.mp mem

/-- A multicast P2P-DRO is counted once. -/
theorem drosSent_multicast (running : n.sockets.isEmpty = false) (dro : P2pDroHeader)
    (destination : Ipv6Address) :
    n.drosSent (n.sendRplMessageMulticast (.p2pDro dro) destination) = [dro] := by
  rw [sendRplMessageMulticast_eq_emit, drosSent_emit, List.filterMap_reverse, List.filterMap_map]
  have distinct := ExtTreeSet.ordered_toList (t := n.sockets)
  unfold firstSocket
  cases interfaces : n.sockets.toList with
  | nil =>
    rw [← ExtTreeSet.isEmpty_toList, interfaces] at running
    cases running
  | cons first rest =>
    rw [interfaces, List.pairwise_cons] at distinct
    have others : rest.filterMap (droOn first ∘ fun interface =>
        .sent interface
          (n.ipv6.sourceAddressSelection n.ipv6.interfaces interface destination) destination
          (.p2pDro dro)) = [] := by
      rw [List.filterMap_eq_nil_iff]
      intro other mem
      have apart : other ≠ first := by
        rintro rfl
        have below := distinct.1 other mem
        rw [Nat.compare_eq_lt] at below
        exact Nat.lt_irrefl _ below
      exact if_neg apart
    have taken : (droOn first ∘ fun interface =>
        .sent interface
          (n.ipv6.sourceAddressSelection n.ipv6.interfaces interface destination) destination
          (.p2pDro dro)) first = some dro := if_pos rfl
    rw [List.head?_cons, Option.getD_some, List.filterMap_cons_some taken, others]
    rfl

/-! ## Taking part -/

/-- A member of the temporary DAG of a reply; the Origin has asked for its Target. -/
def TakesPart (n : Node) (reply : P2pReply) (origin : Bool) : Prop :=
  ∃ dodag, n.dodags[reply.key]? = some dodag ∧ dodag.isTemporary = true ∧
    dodag.p2p.target.isAny = false ∧ dodag.p2p.isOrigin = origin ∧
    (origin = true → dodag.p2p.target = reply.target)

/-- What a P2P-DRO leaves of a member as it was. -/
structure SameSeat (reply : P2pReply) (n m : Node) : Prop where
  now : m.now = n.now
  attributes : m.attributes = n.attributes
  ipv6 : m.ipv6 = n.ipv6
  sockets : m.sockets = n.sockets
  takesPart : ∀ origin, n.TakesPart reply origin → m.TakesPart reply origin

variable {m : Node} {reply : P2pReply} {nh : Nat} {compr : UInt8}

theorem SameSeat.refl (reply : P2pReply) (n : Node) : SameSeat reply n n :=
  ⟨rfl, rfl, rfl, rfl, fun _ takes => takes⟩

theorem SameSeat.trans {after : Node} (first : SameSeat reply n m)
    (second : SameSeat reply m after) : SameSeat reply n after :=
  ⟨second.now.trans first.now, second.attributes.trans first.attributes,
    second.ipv6.trans first.ipv6, second.sockets.trans first.sockets,
    fun origin takes => second.takesPart origin (first.takesPart origin takes)⟩

theorem sameSeat_emit (n : Node) (reply : P2pReply) (sent : List Output) :
    SameSeat reply n (n.emit sent) := ⟨rfl, rfl, rfl, rfl, fun _ takes => takes⟩

/-- A membership rewritten where a reply does not look. -/
theorem sameSeat_modifyDodag {f : DodagMembership → DodagMembership}
    (temporary : ∀ dodag, (f dodag).isTemporary = dodag.isTemporary)
    (target : ∀ dodag, (f dodag).p2p.target = dodag.p2p.target)
    (isOrigin : ∀ dodag, (f dodag).p2p.isOrigin = dodag.p2p.isOrigin) :
    SameSeat reply n (n.modifyDodag reply.key f) := by
  refine ⟨rfl, rfl, rfl, rfl, ?_⟩
  rintro origin ⟨dodag, held, isTemporary, notAny, role, asked⟩
  refine ⟨f dodag, ?_, ?_, ?_, ?_, ?_⟩
  · rw [modifyDodag, OrderedMap.getElem?_modify_eq, if_pos rfl, held, Option.map_some]
  · rw [temporary, isTemporary]
  · rw [target, notAny]
  · rw [isOrigin, role]
  · rw [target]
    exact asked

theorem sameSeat_recordP2pStop (n : Node) (reply : P2pReply) (stop : Bool) :
    SameSeat reply n (n.recordP2pStop reply.key stop) := by
  refine sameSeat_modifyDodag (fun dodag => ?_) (fun dodag => ?_) fun dodag => ?_
  · split <;> rfl
  · split <;> rfl
  · split <;> rfl

@[simp] theorem routeTables_recordP2pStop (n : Node) (key : DodagKey) (stop : Bool) :
    (n.recordP2pStop key stop).routeTables = n.routeTables := rfl

@[simp] theorem recordP2pStop_outputs (n : Node) (key : DodagKey) (stop : Bool) :
    (n.recordP2pStop key stop).outputs = n.outputs := rfl

/-! ## A router -/

/-- The hop-by-hop route a reply sets up. -/
def droRoute (n : Node) (reply : P2pReply) (nextHop : Ipv6Address) : HopByHopRoute :=
  { instanceId := reply.key.instanceId
    dodagId := reply.key.dodagId
    nextHop := nextHop
    expire := n.now + n.attributes.routeLifetime }

/-- No live route of this discovery goes another way. -/
def OpenTo (n : Node) (reply : P2pReply) (nextHop : Ipv6Address) : Prop :=
  ∀ held, n.findHopByHopRouteIn reply.key reply.target = some held → held.nextHop = nextHop

theorem OpenTo.of_routeTables {nextHop : Ipv6Address} (open_ : n.OpenTo reply nextHop)
    (tables : m.routeTables = n.routeTables) : m.OpenTo reply nextHop := by
  have now : m.now = n.now := congrArg RouteTables.now tables
  have hopByHop : m.hopByHopRoutes = n.hopByHopRoutes := congrArg RouteTables.hopByHop tables
  intro held found
  rw [findHopByHopRouteIn, findHopByHopRoute, now, hopByHop] at found
  exact open_ held found

/-- The next hop is stored where the reply is for a hop-by-hop route. -/
def withDroRoute (n : Node) (reply : P2pReply) (nextHop : Ipv6Address) : Node :=
  if reply.hopByHop then
    { n with
      hopByHopRoutes := n.hopByHopRoutes.insert reply.target (n.droRoute reply nextHop) }
  else n

theorem sameSeat_withDroRoute (n : Node) (reply : P2pReply) (nextHop : Ipv6Address) :
    SameSeat reply n (n.withDroRoute reply nextHop) := by
  unfold withDroRoute
  split
  · exact ⟨rfl, rfl, rfl, rfl, fun _ takes => takes⟩
  · exact .refl ..

theorem routeTables_withDroRoute {nextHop : Ipv6Address} (tables : m.routeTables = n.routeTables)
    (attributes : m.attributes = n.attributes) :
    (m.withDroRoute reply nextHop).routeTables = (n.withDroRoute reply nextHop).routeTables := by
  have now : m.now = n.now := congrArg RouteTables.now tables
  have hopByHop : m.hopByHopRoutes = n.hopByHopRoutes := congrArg RouteTables.hopByHop tables
  unfold withDroRoute
  split
  · have aodv : m.aodvRoutes = n.aodvRoutes := congrArg RouteTables.aodv tables
    have p2p : m.p2pRoutes = n.p2pRoutes := congrArg RouteTables.p2p tables
    simp only [routeTables, droRoute, now, hopByHop, aodv, p2p, attributes]
  · exact tables

theorem storeHopByHopRoute_of_openTo {nextHop : Ipv6Address} (open_ : n.OpenTo reply nextHop) :
    n.storeHopByHopRoute reply.key reply.target nextHop n.attributes.routeLifetime none true =
      (true, { n with
        hopByHopRoutes := n.hopByHopRoutes.insert reply.target (n.droRoute reply nextHop) }) := by
  have accepts : n.refusesHopByHopRoute reply.key reply.target nextHop none true = false := by
    unfold refusesHopByHopRoute
    cases found : n.findHopByHopRouteIn reply.key reply.target with
    | none => rfl
    | some held =>
      rw [Option.any_some]
      exact decide_eq_false (not_not_intro (open_ held found))
  rw [storeHopByHopRoute, accepts]
  rfl

theorem handleP2pDro_of_held {dodag : DodagMembership}
    (held : n.dodags[reply.key]? = some dodag) :
    n.handleP2pDro (reply.dro nh compr) =
      if !dodag.isTemporary || dodag.p2p.target.isAny then n
      else if dodag.p2p.isOrigin then
        if reply.target ≠ dodag.p2p.target then n
        else
          (n.completeP2pRoute reply.key dodag (reply.dro nh compr)
            (reply.rdo nh compr)).recordP2pStop reply.key reply.stop
      else
        (n.relayP2pDro reply.key (reply.dro nh compr) (reply.rdo nh compr)).recordP2pStop
          reply.key reply.stop := by
  have heldHere : n.dodags[(⟨(reply.dro nh compr).instanceId, (reply.dro nh compr).dodagId⟩ :
      DodagKey)]? = some dodag := held
  unfold handleP2pDro
  dsimp only
  rw [heldHere]
  rfl

theorem handleP2pDro_of_takesPart (takes : n.TakesPart reply false) :
    n.handleP2pDro (reply.dro nh compr) =
      (n.relayP2pDro reply.key (reply.dro nh compr) (reply.rdo nh compr)).recordP2pStop
        reply.key reply.stop := by
  obtain ⟨dodag, held, temporary, notAny, role, -⟩ := takes
  rw [handleP2pDro_of_held held, temporary, notAny, role]
  rfl

/-- A member that NH does not name heeds the Stop flag and does nothing else. -/
theorem handleP2pDro_of_aside (takes : n.TakesPart reply false)
    (aside : n.namedNext (reply.rdo nh compr) = false) :
    n.handleP2pDro (reply.dro nh compr) = n.recordP2pStop reply.key reply.stop := by
  rw [handleP2pDro_of_takesPart takes, relayP2pDro, aside]
  rfl

/-- The router that NH names stores its next hop and relays, with NH one less. -/
theorem handleP2pDro_of_named (takes : n.TakesPart reply false) (fits : reply.Fits)
    (named : n.namedNext (reply.rdo (nh + 1) compr) = true)
    (within_ : nh < reply.addressVector.length)
    (open_ : reply.hopByHop = true →
      n.OpenTo reply ((reply.addressVector[nh + 1]?).getD reply.target)) :
    n.handleP2pDro (reply.dro (nh + 1) compr) =
      ((n.withDroRoute reply ((reply.addressVector[nh + 1]?).getD reply.target))
        |>.sendRplMessageMulticast (.p2pDro (reply.dro nh compr)) allNodesMulticast
        |>.recordP2pStop reply.key reply.stop) := by
  have position : (reply.rdo (nh + 1) compr).maxRankOrNh.toNat = nh + 1 :=
    fits.toNat_nh within_
  have nextHop : ((reply.rdo (nh + 1) compr).addressVector[(reply.rdo (nh + 1)
      compr).maxRankOrNh.toNat]?).getD (reply.rdo (nh + 1) compr).target =
      (reply.addressVector[nh + 1]?).getD reply.target := by
    rw [position]
    rfl
  have less : (reply.rdo (nh + 1) compr).maxRankOrNh - 1 = UInt8.ofNat nh := by
    change UInt8.ofNat (nh + 1) - 1 = UInt8.ofNat nh
    rw [UInt8.ofNat_add]
    exact UInt8.add_sub_cancel ..
  have stored : n.storeDroRoute reply.key (reply.rdo (nh + 1) compr) =
      some (n.withDroRoute reply ((reply.addressVector[nh + 1]?).getD reply.target)) := by
    unfold storeDroRoute withDroRoute
    rw [nextHop]
    change (if reply.hopByHop then _ else _) = _
    split
    · next hopByHop =>
      have stores : n.storeHopByHopRoute reply.key (reply.rdo (nh + 1) compr).target _
          n.attributes.routeLifetime none true = _ := storeHopByHopRoute_of_openTo (open_ hopByHop)
      dsimp only
      rw [stores]
    · rfl
  rw [handleP2pDro_of_takesPart takes, relayP2pDro, named, stored]
  dsimp only
  have enough : ¬p2pMaxAddressVectorEntries (p2pRdoCompr (reply.rdo (nh + 1) compr).target
      (reply.rdo (nh + 1) compr).addressVector (reply.dro (nh + 1) compr).dodagId) <
      (reply.rdo (nh + 1) compr).addressVector.length := Nat.not_lt.mpr fits.entries
  rw [Bool.not_true, if_neg Bool.false_ne_true, if_neg enough, less]
  rfl

/-! ## The Origin -/

/-- The Origin holds the route of the reply. -/
def HoldsReply (n : Node) (reply : P2pReply) : Prop :=
  if reply.hopByHop then
    n.hopByHopRoutes[reply.target]? =
      some (n.droRoute reply ((reply.addressVector.head?).getD reply.target))
  else
    ∃ route, n.p2pRoutes[reply.target]? = some route ∧
      route.hops = reply.addressVector ++ [reply.target] ∧
      route.expire = n.now + n.attributes.routeLifetime

/-- Nothing the Origin holds keeps it from taking the route: no live hop-by-hop route of the
discovery that goes another way, no shorter source route of the discovery. -/
def ReadyFor (n : Node) (reply : P2pReply) : Prop :=
  if reply.hopByHop then n.OpenTo reply ((reply.addressVector.head?).getD reply.target)
  else
    ∀ dodag, n.dodags[reply.key]? = some dodag → dodag.p2p.routeStored = true →
      ∀ existing, n.p2pRoutes[reply.target]? = some existing →
        reply.addressVector.length < existing.hops.length

theorem acknowledgeP2pDro_emits (n : Node) (dro : P2pDroHeader) (target : Ipv6Address) :
    ∃ sent, n.acknowledgeP2pDro dro target = n.emit sent ∧
      sent.filterMap (droOn n.firstSocket) = [] := by
  unfold acknowledgeP2pDro
  split
  · unfold sendRplMessageUnicast
    split
    · exact ⟨[], rfl, rfl⟩
    · refine ⟨_, n.sendRplMessageOn_eq_emit .., ?_⟩
      unfold messageOn
      split
      · rfl
      · rfl
  · exact ⟨[], rfl, rfl⟩

theorem HoldsReply.emit (holds : n.HoldsReply reply) (sent : List Output) :
    (n.emit sent).HoldsReply reply := holds

theorem drosSent_emit_of_silent {stored : Node} (outputs : stored.outputs = n.outputs)
    {sent : List Output} (silent : sent.filterMap (droOn n.firstSocket) = []) :
    n.drosSent (stored.emit sent) = [] := by
  rw [drosSent, emit_outputs, outputs, List.length_append, Nat.add_sub_cancel, List.take_left,
    silent]

/-- The source route of the reply is stored. -/
theorem holdsReply_storeP2pRoute {dodag : DodagMembership} (source : reply.hopByHop = false)
    (held : n.dodags[reply.key]? = some dodag) (ready : n.ReadyFor reply) :
    (n.storeP2pRoute reply.key dodag (reply.rdo nh compr)).HoldsReply reply := by
  rw [ReadyFor, source, if_neg Bool.false_ne_true] at ready
  rw [HoldsReply, source, if_neg Bool.false_ne_true]
  have kept : (dodag.p2p.routeStored && (n.p2pRoutes[(reply.rdo nh compr).target]?).any fun
      existing => existing.hops.length <
        ((reply.rdo nh compr).addressVector ++ [(reply.rdo nh compr).target]).length) = false := by
    rw [Bool.and_eq_false_iff]
    cases stored : dodag.p2p.routeStored with
    | false => exact .inl rfl
    | true =>
      right
      change (n.p2pRoutes[reply.target]?).any _ = false
      cases found : n.p2pRoutes[reply.target]? with
      | none => rfl
      | some existing =>
        have longer := ready dodag held stored existing found
        rw [Option.any_some, decide_eq_false_iff_not, List.length_append]
        change ¬existing.hops.length < reply.addressVector.length + 1
        omega
  unfold storeP2pRoute
  dsimp only
  rw [kept, if_neg Bool.false_ne_true]
  exact ⟨_, ExtTreeMap.getElem?_insert_self, rfl, rfl⟩

theorem sameSeat_storeP2pRoute (n : Node) (dodag : DodagMembership) :
    SameSeat reply n (n.storeP2pRoute reply.key dodag (reply.rdo nh compr)) := by
  unfold storeP2pRoute
  dsimp only
  have marked (m : Node) : SameSeat reply m
      (m.modifyP2p reply.key fun p2p => { p2p with routeStored := true }) :=
    sameSeat_modifyDodag (fun _ => rfl) (fun _ => rfl) fun _ => rfl
  split
  · exact marked n
  · refine SameSeat.trans ?_ (marked _)
    exact ⟨rfl, rfl, rfl, rfl, fun _ takes => takes⟩

theorem storeP2pRoute_outputs (n : Node) (dodag : DodagMembership) :
    (n.storeP2pRoute reply.key dodag (reply.rdo nh compr)).outputs = n.outputs := by
  unfold storeP2pRoute
  dsimp only
  split
  · rfl
  · rfl

theorem completeP2pRoute_of_readyFor {dodag : DodagMembership}
    (held : n.dodags[reply.key]? = some dodag) (ready : n.ReadyFor reply) :
    let completed := n.completeP2pRoute reply.key dodag (reply.dro nh compr) (reply.rdo nh compr)
    SameSeat reply n completed ∧ completed.HoldsReply reply ∧ n.drosSent completed = [] := by
  intro completed
  cases kind : reply.hopByHop with
  | true =>
    let nextHop := (reply.addressVector.head?).getD reply.target
    have open_ : n.OpenTo reply nextHop := by
      rw [ReadyFor, kind, if_pos rfl] at ready
      exact ready
    have stores : n.storeHopByHopRoute reply.key (reply.rdo nh compr).target
        ((reply.rdo nh compr).addressVector.head?.getD (reply.rdo nh compr).target)
        n.attributes.routeLifetime none true = _ := storeHopByHopRoute_of_openTo open_
    let stored : Node :=
      { n with
        hopByHopRoutes := n.hopByHopRoutes.insert reply.target (n.droRoute reply nextHop) }
    have result : completed = stored.acknowledgeP2pDro (reply.dro nh compr) reply.target := by
      change (if reply.hopByHop then _ else _) = _
      rw [kind, if_pos rfl]
      dsimp only
      rw [stores]
      rfl
    obtain ⟨sent, emits, silent⟩ := stored.acknowledgeP2pDro_emits (reply.dro nh compr) reply.target
    have holds : stored.HoldsReply reply := by
      rw [HoldsReply, kind, if_pos rfl]
      exact ExtTreeMap.getElem?_insert_self
    have seat : SameSeat reply n stored := ⟨rfl, rfl, rfl, rfl, fun _ takes => takes⟩
    rw [result, emits]
    exact ⟨seat.trans (sameSeat_emit ..), holds.emit sent, drosSent_emit_of_silent rfl silent⟩
  | false =>
    let stored := n.storeP2pRoute reply.key dodag (reply.rdo nh compr)
    have result : completed = stored.acknowledgeP2pDro (reply.dro nh compr) reply.target := by
      change (if reply.hopByHop then _ else _) = _
      rw [kind, if_neg Bool.false_ne_true]
      rfl
    obtain ⟨sent, emits, silent⟩ := stored.acknowledgeP2pDro_emits (reply.dro nh compr) reply.target
    have holds : stored.HoldsReply reply := holdsReply_storeP2pRoute kind held ready
    have seat : SameSeat reply n stored := n.sameSeat_storeP2pRoute dodag
    have sockets : stored.firstSocket = n.firstSocket := by
      rw [firstSocket, firstSocket, seat.sockets]
    rw [sockets] at silent
    rw [result, emits]
    exact ⟨seat.trans (sameSeat_emit ..), holds.emit sent,
      drosSent_emit_of_silent (n.storeP2pRoute_outputs dodag) silent⟩

/-- The Origin takes the route, and relays nothing. -/
theorem handleP2pDro_of_origin (takes : n.TakesPart reply true) (ready : n.ReadyFor reply) :
    SameSeat reply n (n.handleP2pDro (reply.dro nh compr)) ∧
      (n.handleP2pDro (reply.dro nh compr)).HoldsReply reply ∧
      n.drosSent (n.handleP2pDro (reply.dro nh compr)) = [] := by
  obtain ⟨dodag, held, temporary, notAny, role, asked⟩ := takes
  rw [handleP2pDro_of_held held, temporary, notAny, role, Bool.not_true, Bool.false_or,
    if_neg Bool.false_ne_true, if_pos rfl, if_neg (not_not_intro (asked rfl).symm)]
  have completes := @completeP2pRoute_of_readyFor n reply nh compr dodag held ready
  obtain ⟨seat, holds, silent⟩ := completes
  refine ⟨seat.trans (sameSeat_recordP2pStop ..), holds, ?_⟩
  exact silent

/-- The route it holds does not keep the Origin from taking it again. -/
theorem readyFor_of_holdsReply (holds : n.HoldsReply reply) : n.ReadyFor reply := by
  unfold HoldsReply at holds
  unfold ReadyFor
  split
  · next hopByHop =>
    rw [if_pos hopByHop] at holds
    intro held found
    have live := (Option.filter_eq_some_iff.mp found).1
    have stored := (Option.filter_eq_some_iff.mp live).1
    rw [holds] at stored
    cases stored
    rfl
  · next source =>
    rw [if_neg source] at holds
    obtain ⟨route, stored, hops, -⟩ := holds
    intro dodag _ _ existing found
    rw [stored] at found
    cases found
    rw [hops, List.length_append]
    exact Nat.lt_succ_self _

/-! ## What a hearing comes to -/

theorem hearDro_octets (fits : reply.Fits) (within_ : nh ≤ reply.addressVector.length) :
    n.hearDro (reply.octets nh) = n.handleP2pDro (reply.dro nh reply.compr) := by
  rw [hearDro, P2pReply.deserialize_octets fits within_]

theorem hearDro_of_aside (fits : reply.Fits) (within_ : nh ≤ reply.addressVector.length)
    (takes : n.TakesPart reply false) (aside : n.namedNext (reply.rdo nh reply.compr) = false) :
    SameSeat reply n (n.hearDro (reply.octets nh)) ∧
      (n.hearDro (reply.octets nh)).routeTables = n.routeTables ∧
      n.drosSent (n.hearDro (reply.octets nh)) = [] := by
  rw [hearDro_octets fits within_, handleP2pDro_of_aside takes aside]
  exact ⟨sameSeat_recordP2pStop .., rfl, drosSent_of_outputs rfl⟩

theorem hearDro_of_named (fits : reply.Fits) (within_ : nh < reply.addressVector.length)
    (running : n.sockets.isEmpty = false) (takes : n.TakesPart reply false)
    (named : n.namedNext (reply.rdo (nh + 1) reply.compr) = true)
    (open_ : reply.hopByHop = true →
      n.OpenTo reply ((reply.addressVector[nh + 1]?).getD reply.target)) :
    SameSeat reply n (n.hearDro (reply.octets (nh + 1))) ∧
      (n.hearDro (reply.octets (nh + 1))).routeTables =
        (n.withDroRoute reply ((reply.addressVector[nh + 1]?).getD reply.target)).routeTables ∧
      n.drosSent (n.hearDro (reply.octets (nh + 1))) = [reply.dro nh reply.compr] := by
  rw [hearDro_octets fits within_, handleP2pDro_of_named takes fits named within_ open_]
  have seat := n.sameSeat_withDroRoute reply ((reply.addressVector[nh + 1]?).getD reply.target)
  have outputs : (n.withDroRoute reply
      ((reply.addressVector[nh + 1]?).getD reply.target)).outputs = n.outputs := by
    unfold withDroRoute
    split <;> rfl
  generalize n.withDroRoute reply ((reply.addressVector[nh + 1]?).getD reply.target) = stored at *
  have sent := stored.drosSent_multicast (by rw [seat.sockets, running])
    (reply.dro nh reply.compr) allNodesMulticast
  rw [sendRplMessageMulticast_eq_emit] at sent ⊢
  refine ⟨(seat.trans (sameSeat_emit ..)).trans (sameSeat_recordP2pStop ..), rfl, ?_⟩
  rw [drosSent, firstSocket] at sent ⊢
  rw [recordP2pStop_outputs, ← outputs, ← seat.sockets]
  exact sent

theorem hearDro_of_origin (fits : reply.Fits) (within_ : nh ≤ reply.addressVector.length)
    (takes : n.TakesPart reply true) (ready : n.ReadyFor reply) :
    SameSeat reply n (n.hearDro (reply.octets nh)) ∧
      (n.hearDro (reply.octets nh)).HoldsReply reply ∧
      n.drosSent (n.hearDro (reply.octets nh)) = [] := by
  rw [hearDro_octets fits within_]
  exact handleP2pDro_of_origin takes ready

end Node

end Rpl
