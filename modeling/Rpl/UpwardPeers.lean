import Rpl.UpwardRoutes

/-!
# Two routers of an RREQ-Instance

Two routers hear the RREQ-DIOs of one instance, from each other and from anyone else, in
any order, and their timers fire and time passes in between.  A DIO of the other router
carries a rank the other has held since it joined, however long ago.

The upward routes of the two form a loop when each is the next hop of the other.  The
rank bound of the parent selection keeps them apart for as long as it excludes, at every
DIO, the router that points here already.
-/

namespace Rpl

open Std

/-- The two routers. -/
inductive Side
  | first
  | second
  deriving DecidableEq, Repr

namespace Side

def other : Side → Side
  | first => second
  | second => first

theorem other_ne (side : Side) : side.other ≠ side := by cases side <;> decide

@[simp] theorem other_other (side : Side) : side.other.other = side := by cases side <;> rfl

end Side

/-- Two routers, and the ranks each has held in the instance. -/
structure Peers where
  node : Side → Node
  ranks : Side → List UInt16

/-- What happens at one of them, or to both. -/
inductive PeerEvent
  | hear (side : Side) (heard : Reception) (dio : DioHeader)
  | fire (side : Side) (timer : TimerName)
  | tick (later : Time)
  deriving DecidableEq, Repr

/-- An RREQ-DIO of the instance, with hop-by-hop routes. -/
structure OfRreqInstance (key : DodagKey) (origSeqNo : UInt8) (dio : DioHeader) : Prop where
  keyed : dio.key = key
  rreq : dio.rreq.isSome = true
  hopByHop : dio.getRreq.hopByHop = true
  sequenced : dio.getRreq.origSeqNo = origSeqNo

/-- The timers of a membership in an RREQ-Instance. -/
def rreqTimers (key : DodagKey) : List TimerName :=
  [.trickleTransmit key, .trickleInterval key, .aodvExpiry key]

namespace Peers

/-- An event at one router, with the rank it holds after it. -/
def act (p : Peers) (key : DodagKey) (side : Side) (e : Event) : Peers :=
  let after := (p.node side).apply e
  { node := Function.update p.node side after
    ranks := Function.update p.ranks side
      (((after.placeAt key).map DodagPlace.rank).toList ++ p.ranks side) }

def next (key : DodagKey) (p : Peers) : PeerEvent → Peers
  | .hear side heard dio => p.act key side (.receive heard (.dio dio))
  | .fire side timer => p.act key side (.fire timer)
  | .tick later => { p with node := fun side => (p.node side).apply (.tick later) }

/-- A DIO of the other router carries a rank it has held, or the infinite rank of a farewell;
those of anyone else carry any rank. -/
def Enabled (key : DodagKey) (origSeqNo : UInt8) (address : Side → Ipv6Address) (p : Peers) :
    PeerEvent → Prop
  | .hear side heard dio =>
    heard.interface ∈ (p.node side).sockets ∧ OfRreqInstance key origSeqNo dio ∧
      (heard.sender = address side.other →
        dio.rank ∈ p.ranks side.other ∨ dio.rank = infiniteRank)
  | .fire side timer => timer ∈ rreqTimers key ∧ (p.node side).Enabled (.fire timer)
  | .tick later => ∀ side, (p.node side).Enabled (.tick later)

/-- Neither router has come across the instance. -/
structure Initial (key : DodagKey) (address : Side → Ipv6Address) (p : Peers) : Prop where
  owns : ∀ side, (p.node side).ipv6.isOwnAddress (address side) = true
  outside : ∀ side, (p.node side).placeAt key = none
  routeless : ∀ side, (p.node side).upwardHop key = none
  rankless : ∀ side, p.ranks side = []

/-- Each router's live route toward the OrigNode has the other as its next hop. -/
def Loops (key : DodagKey) (address : Side → Ipv6Address) (p : Peers) : Prop :=
  ∀ side, (p.node side).upwardHop key = some (address side.other)

/-- At a router the other one points at, the rank bound excludes the other. -/
def BoundExcludes (key : DodagKey) (address : Side → Ipv6Address) (p : Peers) : PeerEvent → Prop
  | .hear side heard dio =>
    (p.node side.other).upwardHop key = some (address side) →
      (p.node side).findsCloser dio heard (address side.other) = false
  | _ => True

end Peers

/-- Two routers and the RREQ-DIOs of one instance. -/
def peerSystem (key : DodagKey) (origSeqNo : UInt8) (address : Side → Ipv6Address) :
    TransitionSystem Peers PeerEvent where
  initial := Peers.Initial key address
  enabled := Peers.Enabled key origSeqNo address
  next := Peers.next key

/-! ## What an event does to the upward route -/

namespace Node

variable {n : Node} {key : DodagKey}

theorem upwardHop_receive {heard : Reception} {dio : DioHeader} (keyed : dio.key = key)
    (rreq : dio.rreq.isSome = true) (hopByHop : dio.getRreq.hopByHop = true) {hop : Ipv6Address}
    (found : (n.apply (.receive heard (.dio dio))).upwardHop key = some hop) :
    n.upwardHop key = some hop ∨ n.findsCloser dio heard hop = true := by
  subst keyed
  change (n.recvRpl heard (.dio dio)).upwardHop dio.key = some hop at found
  unfold recvRpl at found
  split at found
  · exact .inl found
  · exact upwardHop_handleDio rreq hopByHop found

theorem upwardHop_fire {timer : TimerName} (known : timer ∈ rreqTimers key) :
    (n.apply (.fire timer)).upwardHop key = n.upwardHop key := by
  refine upwardHop_of_routeTables ?_
  change (n.fire timer).routeTables = n.routeTables
  rw [rreqTimers, List.mem_cons, List.mem_cons, List.mem_singleton] at known
  rcases known with rfl | rfl | rfl
  · change (n.trickleTransmit key).routeTables = n.routeTables
    unfold trickleTransmit
    split
    · rfl
    · dsimp only
      split
      · rw [routeTables_dioTrickleFire, routeTables_modifyDodag]
      · exact routeTables_modifyDodag ..
  · exact routeTables_modifyDodag ..
  · change ((n.modifyAodv key _).leaveDodag key false).routeTables = n.routeTables
    rw [routeTables_leaveDodag, routeTables_modifyAodv]

theorem upwardHop_tick {later : Time} (forward : n.now ≤ later) {hop : Ipv6Address}
    (found : (n.apply (.tick later)).upwardHop key = some hop) : n.upwardHop key = some hop := by
  obtain ⟨route, kept, rfl⟩ := Option.map_eq_some_iff.mp found
  obtain ⟨kept, ofInstance⟩ := Option.filter_eq_some_iff.mp kept
  obtain ⟨stored, live⟩ := Option.filter_eq_some_iff.mp kept
  have liveBefore : n.now < route.expire :=
    Int.lt_of_le_of_lt forward (of_decide_eq_true live)
  refine Option.map_eq_some_iff.mpr ⟨route, ?_, rfl⟩
  refine Option.filter_eq_some_iff.mpr ⟨?_, ofInstance⟩
  exact Option.filter_eq_some_iff.mpr ⟨stored, decide_eq_true liveBefore⟩

end Node

/-! ## Runs -/

namespace Peers

variable {key : DodagKey} {origSeqNo : UInt8} {address : Side → Ipv6Address} {p : Peers}

theorem act_node_self (p : Peers) (side : Side) (e : Event) :
    (p.act key side e).node side = (p.node side).apply e := Function.update_self ..

theorem act_node_other (p : Peers) (side : Side) (e : Event) :
    (p.act key side e).node side.other = p.node side.other :=
  Function.update_of_ne side.other_ne ..

theorem Loops.of_side (side : Side) (own : (p.node side).upwardHop key = some (address side.other))
    (others : (p.node side.other).upwardHop key = some (address side)) : p.Loops key address := by
  intro any
  cases side <;> cases any
  · exact own
  · exact others
  · exact others
  · exact own

theorem Loops.next {e : PeerEvent} (enabled : p.Enabled key origSeqNo address e)
    (excludes : p.BoundExcludes key address e) (loops : (p.next key e).Loops key address) :
    p.Loops key address := by
  cases e with
  | hear side heard dio =>
    obtain ⟨-, rreq, -⟩ := enabled
    have own := loops side
    have others := loops side.other
    rw [Side.other_other] at others
    change ((p.act key side _).node side).upwardHop key = _ at own
    change ((p.act key side _).node side.other).upwardHop key = _ at others
    rw [act_node_self] at own
    rw [act_node_other] at others
    rcases Node.upwardHop_receive rreq.keyed rreq.rreq rreq.hopByHop own with before | closer
    · exact .of_side side before others
    · rw [excludes others] at closer
      exact absurd closer Bool.false_ne_true
  | fire side timer =>
    have own := loops side
    have others := loops side.other
    rw [Side.other_other] at others
    change ((p.act key side _).node side).upwardHop key = _ at own
    change ((p.act key side _).node side.other).upwardHop key = _ at others
    rw [act_node_self, Node.upwardHop_fire enabled.1] at own
    rw [act_node_other] at others
    exact .of_side side own others
  | tick later => exact fun side => Node.upwardHop_tick (enabled side).1 (loops side)

/-- As long as the rank bound excludes the router that points here, the two routers do not
point at each other. -/
theorem not_loops_of_run
    (run : (peerSystem key origSeqNo address).Run (BoundExcludes key address) p) :
    ¬p.Loops key address := by
  refine run.invariant (I := fun p => ¬p.Loops key address) (fun p initial loops => ?_)
    fun p e apart enabled excludes loops => apart (loops.next enabled excludes)
  have routed := loops .first
  rw [initial.routeless] at routed
  cases routed

/-! ## A pair -/

/-- fe80::a and fe80::b. -/
def pairAddress : Side → Ipv6Address
  | .first => 0xfe80000000000000000000000000000a#128
  | .second => 0xfe80000000000000000000000000000b#128

/-- Two routers with nothing but a link-local address, RPL just started. -/
def pair : Peers where
  node side :=
    .started (.ofInterfaces
      [{}, { addresses := [{ address := pairAddress side, scope := .linkLocal }] }])
  ranks _ := []

/-- The instance of a discovery from 2001:db8::1. -/
def pairKey : DodagKey :=
  { instanceId := 0x80, dodagId := 0x20010db8000000000000000000000001#128 }

/-- One of its RREQ-DIOs, in search of 2001:db8::9. -/
def pairRreq (rank : UInt16) : DioHeader :=
  { instanceId := pairKey.instanceId
    dodagId := pairKey.dodagId
    mop := mopP2pRouteDiscovery
    rank := rank
    dagConf := some {}
    rreq := some { hopByHop := true, origSeqNo := 1 }
    arts := [{ target := 0x20010db8000000000000000000000009#128 }] }

/-- The DIO is heard on interface 1. -/
def hears (side : Side) (sender : Ipv6Address) (rank : UInt16) : PeerEvent :=
  .hear side { sender := sender, interface := 1 } (pairRreq rank)

/-- fe80::1, a neighbour of the first router. -/
def third : Ipv6Address := 0xfe800000000000000000000000000001#128

theorem pair_initial : pair.Initial pairKey pairAddress where
  owns side := by cases side <;> decide +kernel
  outside side := by cases side <;> decide +kernel
  routeless side := by cases side <;> decide +kernel
  rankless _ := rfl

theorem run_hears {good : Peers → PeerEvent → Prop} {side : Side} {sender : Ipv6Address}
    {rank : UInt16} (run : (peerSystem pairKey 1 pairAddress).Run good p)
    (listens : 1 ∈ (p.node side).sockets)
    (held : sender = pairAddress side.other → rank ∈ p.ranks side.other ∨ rank = infiniteRank)
    (condition : good p (hears side sender rank)) :
    (peerSystem pairKey 1 pairAddress).Run good (p.next pairKey (hears side sender rank)) :=
  TransitionSystem.Run.step (e := hears side sender rank) run
    ⟨listens, ⟨rfl, rfl, rfl, rfl⟩, held⟩ condition

/-- The first router joins through its neighbour, and the second through the first. -/
def pairJoined : Peers :=
  (pair.next pairKey (hears .first third 128)).next pairKey (hears .second (pairAddress .first) 256)

theorem pairJoined_run {good : Peers → PeerEvent → Prop}
    (first : good pair (hears .first third 128))
    (second : good (pair.next pairKey (hears .first third 128))
      (hears .second (pairAddress .first) 256)) :
    (peerSystem pairKey 1 pairAddress).Run good pairJoined :=
  run_hears
    (run_hears (.start pair_initial) (by decide +kernel) (by decide +kernel) first)
    (by decide +kernel) (by decide +kernel) second

/-- The first router hears the second back, whose rank is over its bound. -/
def pairHeard : Peers := pairJoined.next pairKey (hears .first (pairAddress .second) 384)

theorem pairHeard_not_loops : ¬pairHeard.Loops pairKey pairAddress := by
  have joined : (peerSystem pairKey 1 pairAddress).Run (BoundExcludes pairKey pairAddress)
      pairJoined :=
    pairJoined_run (fun routed => absurd routed (by decide +kernel))
      fun routed => absurd routed (by decide +kernel)
  exact @not_loops_of_run pairKey 1 pairAddress _
    (run_hears joined (by decide +kernel) (by decide +kernel) fun _ => by decide +kernel)

/-- The neighbour's rank rises until the second router's is under the bound of the first. -/
def pairRisen : Peers :=
  ((pairJoined.next pairKey (hears .first third 255)).next pairKey
    (hears .first third 382)).next pairKey (hears .first third 500)

/-- The second router is heard often enough to be preferred. -/
def pairLooped : Peers :=
  ((((pairRisen.next pairKey (hears .first (pairAddress .second) 384)).next pairKey
    (hears .first (pairAddress .second) 384)).next pairKey
    (hears .first (pairAddress .second) 384)).next pairKey
    (hears .first (pairAddress .second) 384))

theorem pairLooped_reachable :
    (peerSystem pairKey 1 pairAddress).Reachable pairLooped ∧
      pairLooped.Loops pairKey pairAddress := by
  have joined : (peerSystem pairKey 1 pairAddress).Reachable pairJoined :=
    pairJoined_run trivial trivial
  have risen : (peerSystem pairKey 1 pairAddress).Reachable pairRisen :=
    run_hears (run_hears (run_hears joined
      (by decide +kernel) (by decide +kernel) trivial)
      (by decide +kernel) (by decide +kernel) trivial)
      (by decide +kernel) (by decide +kernel) trivial
  refine ⟨?_, fun side => by cases side <;> decide +kernel⟩
  exact run_hears (run_hears (run_hears (run_hears risen
    (by decide +kernel) (by decide +kernel) trivial)
    (by decide +kernel) (by decide +kernel) trivial)
    (by decide +kernel) (by decide +kernel) trivial)
    (by decide +kernel) (by decide +kernel) trivial

end Peers

end Rpl
