import Rpl.Lib.TransitionSystem
import Rpl.P2pRelay

/-!
# A P2P-DRO on its way to the Origin

The Target multicasts one P2P-DRO over a discovered route.  Every multicast is heard once
by the neighbours on the route and by any of the other members besides, and the receptions
come in any order.  However they come, the routers of the route relay the message once
each, from the one next to the Target to the one next to the Origin.
-/

namespace Rpl

open Std

/-- The members of a temporary DAG, a route discovered in it, and the reply over the route. -/
structure P2pDag (ι : Type) where
  /-- The members as the reply finds them. -/
  member : ι → Node
  origin : ι
  /-- The routers between the Origin and the Target, from the Origin on. -/
  routers : List ι
  target : ι
  /-- The address by which a router, or the Target, is in the address vector. -/
  address : ι → Ipv6Address
  /-- The address the Origin asks for. -/
  asked : Ipv6Address
  key : DodagKey
  stop : Bool
  trackAck : Bool
  hopByHop : Bool
  sequence : UInt8

namespace P2pDag

variable {ι : Type} {dag : P2pDag ι}

def addresses (dag : P2pDag ι) : List Ipv6Address := dag.routers.map dag.address

/-- The route as the Target keeps it, its own address last. -/
def route (dag : P2pDag ι) : List Ipv6Address := dag.addresses ++ [dag.address dag.target]

/-- Of the sequence number only two bits travel. -/
def reply (dag : P2pDag ι) : P2pReply :=
  { key := dag.key
    stop := dag.stop
    ackRequested := dag.trackAck
    sequence := dag.sequence &&& p2pDroSeqMax
    hopByHop := dag.hopByHop
    addressVector := dag.addresses
    target := dag.asked }

/-- The next hops along the route, from the Origin's on. -/
def nextHops (dag : P2pDag ι) : List Ipv6Address := dag.addresses ++ [dag.asked]

/-- Neighbours on the route. -/
def Adjacent (dag : P2pDag ι) (i j : ι) : Prop :=
  let chain := dag.origin :: dag.routers ++ [dag.target]
  ∃ k, (chain[k]? = some i ∧ chain[k + 1]? = some j) ∨ (chain[k]? = some j ∧ chain[k + 1]? = some i)

/-- The Target is to answer over the route. -/
def Answering (dag : P2pDag ι) (dodag : DodagMembership) : Prop :=
  dodag.instanceId = dag.key.instanceId ∧ dodag.p2p.hopByHop = dag.hopByHop ∧
    dodag.p2p.droSequence = dag.sequence ∧ dodag.p2p.target = dag.asked

/-- The routers are distinct, all are members of the temporary DAG still, the Target has
taken the route into its option, and nothing held conflicts with it: no live hop-by-hop route
of the discovery that goes another way, no shorter source route of it at the Origin. -/
structure Stands [DecidableEq ι] (dag : P2pDag ι) : Prop where
  distinct : (dag.origin :: dag.routers ++ [dag.target]).Nodup
  owns : ∀ i, ∀ j ∈ dag.routers,
    (dag.member i).ipv6.isOwnAddress (dag.address j) = true ↔ i = j
  running : ∀ i, (dag.member i).sockets.isEmpty = false
  takesPart : ∀ i, (dag.member i).TakesPart dag.reply (decide (i = dag.origin))
  answering : ∃ dodag, (dag.member dag.target).dodags[dag.key]? = some dodag ∧ dag.Answering dodag
  isTarget : (dag.member dag.target).ipv6.isOwnAddress dag.asked = true
  fits : dag.route.length ≤
    p2pMaxAddressVectorEntries (p2pRdoCompr dag.asked dag.route dag.key.dodagId)
  ready : (dag.member dag.origin).ReadyFor dag.reply
  open_ : dag.hopByHop = true → ∀ (k : Nat) (i : ι) (nextHop : Ipv6Address),
    dag.routers[k]? = some i → dag.nextHops[k + 1]? = some nextHop →
    (dag.member i).OpenTo dag.reply nextHop

end P2pDag

/-! ## The medium -/

/-- The members, the receptions still to come and the P2P-DROs multicast, newest first. -/
structure DroNetwork (ι : Type) where
  node : ι → Node
  pending : List (ι × List UInt8)
  sent : List (ι × P2pDroHeader)

/-- One of the receptions to come, by its place, and who is to hear what the receiver then
multicasts. -/
structure DroHearing (ι : Type) where
  place : Nat
  hearers : List ι

namespace DroNetwork

variable {ι : Type} [DecidableEq ι]

/-- A member has come to another state; what it has multicast is on its way. -/
def become (s : DroNetwork ι) (i : ι) (after : Node) (hearers : List ι) : DroNetwork ι :=
  let dros := (s.node i).drosSent after
  { node := Function.update s.node i after
    pending := s.pending ++ dros.flatMap fun dro => hearers.map fun hearer =>
      (hearer, dro.serialize)
    sent := dros.map (fun dro => (i, dro)) ++ s.sent }

def next (s : DroNetwork ι) (e : DroHearing ι) : DroNetwork ι :=
  match s.pending[e.place]? with
  | none => s
  | some (receiver, octets) =>
    { s with pending := s.pending.eraseIdx e.place }.become receiver
      ((s.node receiver).hearDro octets) e.hearers

/-- The Target multicasts its reply. -/
def start (dag : P2pDag ι) (hearers : List ι) : DroNetwork ι :=
  { node := dag.member, pending := [], sent := [] : DroNetwork ι }.become dag.target
    ((dag.member dag.target).sendP2pDroRoute dag.key dag.route dag.stop dag.trackAck) hearers

/-- Who hears a multicast: the neighbours on the route, and any others, once each. -/
structure Heard (dag : P2pDag ι) (sender : ι) (hearers : List ι) : Prop where
  once : hearers.Nodup
  others : sender ∉ hearers
  neighbours : ∀ i, dag.Adjacent sender i → i ∈ hearers

end DroNetwork

/-- The members of a temporary DAG while a reply is on its way. -/
def droSystem {ι : Type} [DecidableEq ι] (dag : P2pDag ι) :
    TransitionSystem (DroNetwork ι) (DroHearing ι) where
  initial s := ∃ hearers, DroNetwork.Heard dag dag.target hearers ∧ s = .start dag hearers
  enabled s e := ∃ receiver octets, s.pending[e.place]? = some (receiver, octets) ∧
    DroNetwork.Heard dag receiver e.hearers
  next := DroNetwork.next

/-! ## The route and its reply -/

namespace P2pDag

section Message

variable {ι : Type} {dag : P2pDag ι}

@[simp] theorem length_addresses (dag : P2pDag ι) : dag.addresses.length = dag.routers.length :=
  List.length_map ..

theorem reply_addressVector (dag : P2pDag ι) : dag.reply.addressVector = dag.addresses := rfl

theorem length_route (dag : P2pDag ι) : dag.route.length = dag.routers.length + 1 := by
  rw [route, List.length_append, length_addresses, List.length_singleton]

/-- The address vector elides what the route of the Target elides. -/
theorem entries_le (fits : dag.route.length ≤
    p2pMaxAddressVectorEntries (p2pRdoCompr dag.asked dag.route dag.key.dodagId)) :
    dag.addresses.length ≤ p2pMaxAddressVectorEntries dag.reply.compr := by
  rw [length_route] at fits
  have known := P2pRdoOption.compr_cases dag.asked dag.addresses dag.key.dodagId
  change dag.addresses.length ≤
    p2pMaxAddressVectorEntries (p2pRdoCompr dag.asked dag.addresses dag.key.dodagId)
  rw [length_addresses]
  have most : p2pMaxAddressVectorEntries 8 = 30 := by decide
  have least : p2pMaxAddressVectorEntries 0 = 14 := by decide
  rcases P2pRdoOption.compr_cases dag.asked dag.route dag.key.dodagId with none_ | ⟨eight, shares⟩
  · rw [none_] at fits
    rcases known with none_ | ⟨eight, -⟩
    · rw [none_]
      omega
    · rw [eight]
      omega
  · rw [eight] at fits
    have elided : p2pRdoCompr dag.asked dag.addresses dag.key.dodagId = 8 := by
      have vector : dag.addresses.any
          (fun address => address.prefixHalf ≠ dag.key.dodagId.prefixHalf) = false := by
        rw [List.any_eq_false]
        intro address mem differs
        rw [decide_eq_true_eq] at differs
        exact differs (shares address (List.mem_cons_of_mem _ (List.mem_append_left _ mem)))
      rw [p2pRdoCompr, if_neg (not_not_intro (shares dag.asked List.mem_cons_self)), vector]
      rfl
    rw [elided]
    omega

/-- Only two bits of a sequence number are written. -/
theorem sequence_bits (sequence : UInt8) :
    (sequence <<< 4) &&& p2pDroSeqMask = ((sequence &&& p2pDroSeqMax) <<< 4) &&& p2pDroSeqMask := by
  revert sequence
  refine Octets.forall_octet ?_
  decide +kernel

/-- What the Target says is the reply with NH at the end of the address vector. -/
theorem p2pDroMessage_eq {n : Node} {dodag : DodagMembership} (answering : dag.Answering dodag)
    (isTarget : n.ipv6.isOwnAddress dag.asked = true) (notAny : dag.asked.isAny = false) :
    n.p2pDroMessage dodag dag.key dag.route dag.stop dag.trackAck =
      { dag.reply.dro dag.routers.length 0 with sequence := dag.sequence } := by
  obtain ⟨instanceId, hopByHop, sequence, asked⟩ := answering
  have matched : n.matchedP2pTargetAddress dodag = dag.asked := by
    rw [Node.matchedP2pTargetAddress, asked, List.find?_cons_of_pos isTarget, Option.getD_some]
  have vector : dag.route.dropLast = dag.addresses := List.dropLast_concat
  unfold Node.p2pDroMessage
  dsimp only
  rw [matched, notAny, vector, length_route, Nat.add_sub_cancel, instanceId, hopByHop, sequence]
  rfl

end Message

variable {ι : Type} [DecidableEq ι] {dag : P2pDag ι}

theorem Stands.replyFits (stands : dag.Stands) : dag.reply.Fits where
  sequence := by
    change dag.sequence &&& p2pDroSeqMax < 4
    rw [UInt8.lt_iff_toNat_lt, UInt8.toNat_and]
    exact Nat.lt_of_le_of_lt Nat.and_le_right (by decide)
  entries := entries_le stands.fits

theorem Stands.routers_nodup (stands : dag.Stands) : dag.routers.Nodup := by
  have distinct := stands.distinct
  rw [List.cons_append, List.nodup_cons, List.nodup_append] at distinct
  exact distinct.2.1

theorem Stands.origin_not_mem (stands : dag.Stands) : dag.origin ∉ dag.routers := by
  have distinct := stands.distinct
  rw [List.cons_append, List.nodup_cons] at distinct
  exact fun mem => distinct.1 (List.mem_append_left _ mem)

/-- NH names a member exactly when the member is the router at that place. -/
theorem Stands.namedNext_iff (stands : dag.Stands) {i : ι} {n : Node}
    (ipv6 : n.ipv6 = (dag.member i).ipv6) {nh : Nat} (within_ : nh ≤ dag.routers.length)
    (compr : UInt8) :
    n.namedNext (dag.reply.rdo nh compr) = true ↔
      ∃ k, nh = k + 1 ∧ dag.routers[k]? = some i := by
  have position : (dag.reply.rdo nh compr).maxRankOrNh.toNat = nh :=
    stands.replyFits.toNat_nh (by rw [reply_addressVector, length_addresses]; exact within_)
  have own : ∀ j ∈ dag.routers, n.ipv6.isOwnAddress (dag.address j) = decide (i = j) := by
    intro j mem
    rw [ipv6, Bool.eq_iff_iff, stands.owns i j mem, decide_eq_true_eq]
  have once : dag.addresses.countP n.ipv6.isOwnAddress ≤ 1 := by
    rw [addresses, List.countP_map]
    have same : dag.routers.countP (n.ipv6.isOwnAddress ∘ dag.address) =
        dag.routers.countP (· == i) := by
      refine List.countP_congr fun j mem => ?_
      rw [Function.comp_apply, own j mem, decide_eq_true_eq, beq_iff_eq]
      exact eq_comm
    rw [same]
    exact List.nodup_iff_count_le_one.mp stands.routers_nodup i
  unfold Node.namedNext
  rw [position]
  cases nh with
  | zero => simp
  | succ k =>
    change ((dag.addresses[k]?).any n.ipv6.isOwnAddress &&
      decide (dag.addresses.countP n.ipv6.isOwnAddress ≤ 1)) = true ↔ _
    rw [decide_eq_true once, Bool.and_true, addresses, List.getElem?_map]
    cases router : dag.routers[k]? with
    | none =>
      simp [router]
    | some j =>
      rw [Option.map_some, Option.any_some, own j (List.mem_of_getElem? router), decide_eq_true_eq]
      constructor
      · rintro rfl
        exact ⟨k, rfl, router⟩
      · rintro ⟨k', same, found⟩
        cases same
        rw [router] at found
        exact (Option.some.inj found).symm

/-- The Target's own multicast, as it is on the wire. -/
theorem Stands.target_sends (stands : dag.Stands) :
    ∃ dro : P2pDroHeader, dro.serialize = dag.reply.octets dag.routers.length ∧
      dro.p2pRdo.map (fun rdo => rdo.maxRankOrNh.toNat) = some dag.routers.length ∧
      let after := (dag.member dag.target).sendP2pDroRoute dag.key dag.route dag.stop dag.trackAck
      (dag.member dag.target).drosSent after = [dro] ∧
        Node.SameSeat dag.reply (dag.member dag.target) after ∧
        after.routeTables = (dag.member dag.target).routeTables := by
  obtain ⟨dodag, held, answering⟩ := stands.answering
  obtain ⟨same, heldToo, -, notAny, -, -⟩ := stands.takesPart dag.target
  have heldAt : (dag.member dag.target).dodags[dag.key]? = some same := heldToo
  rw [held] at heldAt
  cases heldAt
  rw [answering.2.2.2] at notAny
  have message := p2pDroMessage_eq answering stands.isTarget notAny
  have running := stands.running dag.target
  generalize dag.member dag.target = n at *
  refine ⟨n.p2pDroMessage dodag dag.key dag.route dag.stop dag.trackAck, ?_, ?_, ?_⟩
  · rw [message, P2pReply.octets, P2pDroHeader.serialize, P2pDroHeader.serialize,
      P2pDroHeader.flags, sequence_bits]
    rfl
  · rw [message]
    exact congrArg some (stands.replyFits.toNat_nh (by
      rw [reply_addressVector, length_addresses]))
  · intro after
    have sent := n.drosSent_multicast running
      (n.p2pDroMessage dodag dag.key dag.route dag.stop dag.trackAck) allNodesMulticast
    have emits := n.sendRplMessageMulticast_eq_emit (.p2pDro (n.p2pDroMessage dodag dag.key
      dag.route dag.stop dag.trackAck)) allNodesMulticast
    have sends : after = n.sendP2pDroRoute dag.key dag.route dag.stop dag.trackAck := rfl
    unfold Node.sendP2pDroRoute at sends
    rw [held] at sends
    dsimp only at sends
    generalize n.sendRplMessageMulticast (.p2pDro (n.p2pDroMessage dodag dag.key dag.route dag.stop
      dag.trackAck)) allNodesMulticast = multicast at sent emits sends
    rw [sends]
    split
    · refine ⟨sent, ?_, ?_⟩
      · rw [emits]
        exact (Node.sameSeat_emit ..).trans
          (Node.sameSeat_modifyDodag (fun _ => rfl) (fun _ => rfl) fun _ => rfl)
      · rw [emits]
        rfl
    · refine ⟨sent, ?_, ?_⟩
      · rw [emits]
        exact Node.sameSeat_emit ..
      · rw [emits]
        rfl

end P2pDag

/-! ## The reply on its way -/

namespace DroNetwork

variable {ι : Type} [DecidableEq ι] {dag : P2pDag ι} {s : DroNetwork ι} {h : Nat}

/-- Who multicast, and with what NH. -/
def nhOf (sent : ι × P2pDroHeader) : ι × Option Nat :=
  (sent.1, sent.2.p2pRdo.map fun rdo => rdo.maxRankOrNh.toNat)

/-- The multicasts of a reply, the last one first: NH is a sender's place on the route. -/
def multicasts (dag : P2pDag ι) : List (ι × Option Nat) :=
  (dag.routers ++ [dag.target]).zipIdx.map (Prod.map id some)

/-- The next hop of the router at a place. -/
def nextHopAt (dag : P2pDag ι) (k : Nat) : Ipv6Address :=
  (dag.addresses[k + 1]?).getD dag.asked

/-- How far a reply has come: it was last multicast with NH `h`. -/
structure Progress (dag : P2pDag ι) (h : Nat) (s : DroNetwork ι) : Prop where
  within_ : h ≤ dag.routers.length
  sent : s.sent.map nhOf = (multicasts dag).drop h
  known : ∀ i octets, (i, octets) ∈ s.pending →
    ∃ m, h ≤ m ∧ m ≤ dag.routers.length ∧ octets = dag.reply.octets m
  /-- The routers that have relayed will not be asked to again. -/
  done : ∀ k i, h ≤ k → dag.routers[k]? = some i → (i, dag.reply.octets (k + 1)) ∉ s.pending
  /-- The router whose turn it is will hear the message once. -/
  turn : ∀ k i, h = k + 1 → dag.routers[k]? = some i →
    s.pending.count (i, dag.reply.octets (k + 1)) = 1
  arrival : h = 0 → (dag.origin, dag.reply.octets 0) ∈ s.pending ∨
    (s.node dag.origin).HoldsReply dag.reply
  origin : s.node dag.origin = dag.member dag.origin ∨
    (s.node dag.origin).HoldsReply dag.reply
  seat : ∀ i, Node.SameSeat dag.reply (dag.member i) (s.node i)
  relayed : ∀ k i, h ≤ k → dag.routers[k]? = some i →
    (s.node i).routeTables =
      ((dag.member i).withDroRoute dag.reply (nextHopAt dag k)).routeTables
  others : ∀ i, i ≠ dag.origin → (∀ k, h ≤ k → dag.routers[k]? ≠ some i) →
    (s.node i).routeTables = (dag.member i).routeTables

section Places

variable {ι : Type} {dag : P2pDag ι}

theorem getElem?_multicasts {k : Nat} {i : ι} (router : dag.routers[k]? = some i) :
    (multicasts dag)[k]? = some (i, some k) := by
  have place : k < dag.routers.length := (List.getElem?_eq_some_iff.mp router).1
  rw [multicasts, List.getElem?_map, List.getElem?_zipIdx,
    List.getElem?_append_left place, router, Nat.zero_add]
  rfl

/-- The last multicast but those of the routers is the Target's. -/
theorem drop_multicasts (dag : P2pDag ι) :
    (multicasts dag).drop dag.routers.length = [(dag.target, some dag.routers.length)] := by
  have front : (dag.routers.zipIdx.map (Prod.map id some)).length = dag.routers.length := by
    rw [List.length_map, List.length_zipIdx]
  rw [multicasts, List.zipIdx_append, List.map_append, ← front, List.drop_left, front,
    Nat.zero_add]
  rfl

theorem getElem?_nextHops {k : Nat} (place : k ≤ dag.routers.length) :
    dag.nextHops[k]? = some ((dag.addresses[k]?).getD dag.asked) := by
  rcases Nat.lt_or_eq_of_le place with inside | rfl
  · have there : k < dag.addresses.length := by
      rw [P2pDag.length_addresses]
      exact inside
    rw [P2pDag.nextHops, List.getElem?_append_left there, List.getElem?_eq_getElem there,
      Option.getD_some]
  · rw [P2pDag.nextHops, ← P2pDag.length_addresses, List.getElem?_append_right le_rfl,
      Nat.sub_self, List.getElem?_eq_none le_rfl]
    rfl

/-- The sender after a place is a neighbour of the member at the place. -/
theorem adjacent_of_place {k : Nat} {i j : ι}
    (here : (dag.origin :: (dag.routers ++ [dag.target]))[k]? = some i)
    (sender : (dag.routers ++ [dag.target])[k]? = some j) : dag.Adjacent j i :=
  ⟨k, .inr ⟨here, sender⟩⟩

end Places

/-- A neighbour is among those who hear a multicast once. -/
theorem count_receptions {hearers : List ι} (once : hearers.Nodup) {i : ι} (mem : i ∈ hearers)
    {octets : List UInt8} :
    (hearers.map fun hearer => (hearer, octets)).count (i, octets) = 1 :=
  (List.count_map_of_injective hearers (fun hearer => (hearer, octets))
    (fun _ _ same => congrArg Prod.fst same) i).trans (List.count_eq_one_of_mem once mem)

theorem openTo_nextHopAt (stands : dag.Stands)
    (hopByHop : dag.hopByHop = true) {k : Nat} {i : ι} (router : dag.routers[k]? = some i) :
    (dag.member i).OpenTo dag.reply (nextHopAt dag k) := by
  exact stands.open_ hopByHop k i _ router
    (getElem?_nextHops (List.getElem?_eq_some_iff.mp router).1)

/-! ### The start -/

theorem progress_start (stands : dag.Stands) {hearers : List ι}
    (heard : Heard dag dag.target hearers) :
    Progress dag dag.routers.length (start dag hearers) := by
  obtain ⟨dro, octets, nh, sends, seat, tables⟩ := stands.target_sends
  have distinct := stands.distinct
  rw [List.cons_append, List.nodup_cons, List.nodup_append] at distinct
  obtain ⟨originApart, -, -, apart⟩ := distinct
  have originTarget : dag.origin ≠ dag.target := fun same =>
    originApart (by rw [same]; exact List.mem_append_right _ (List.mem_singleton_self _))
  have pending : (start dag hearers).pending =
      hearers.map fun hearer => (hearer, dag.reply.octets dag.routers.length) := by
    rw [start, become, sends]
    simp only [List.flatMap_cons, List.flatMap_nil, List.append_nil, List.nil_append, octets]
  have last {k : Nat} {i : ι} (router : dag.routers[k]? = some i) : k < dag.routers.length :=
    (List.getElem?_eq_some_iff.mp router).1
  have targetPlace : (dag.routers ++ [dag.target])[dag.routers.length]? = some dag.target := by
    rw [List.getElem?_append_right le_rfl, Nat.sub_self]
    rfl
  have others {i : ι} (other : i ≠ dag.target) :
      (start dag hearers).node i = dag.member i := Function.update_of_ne other _ _
  have atTarget : (start dag hearers).node dag.target =
      (dag.member dag.target).sendP2pDroRoute dag.key dag.route dag.stop dag.trackAck :=
    Function.update_self ..
  constructor
  case within_ => exact le_rfl
  case sent =>
    rw [start, become, sends, drop_multicasts]
    simp only [List.map_cons, List.map_nil, List.append_nil, nhOf, nh]
  case known =>
    intro i o mem
    rw [pending, List.mem_map] at mem
    obtain ⟨hearer, -, same⟩ := mem
    exact ⟨_, le_rfl, le_rfl, (congrArg Prod.snd same).symm⟩
  case done =>
    intro k i past router
    exact absurd (last router) (Nat.not_lt.mpr past)
  case turn =>
    intro k i here router
    have neighbour : i ∈ hearers := heard.neighbours i (adjacent_of_place (k := k + 1)
      (by rw [List.getElem?_cons_succ, List.getElem?_append_left (last router), router])
      (by rw [← here]; exact targetPlace))
    rw [pending, here]
    exact count_receptions heard.once neighbour
  case arrival =>
    intro none_
    left
    have neighbour : dag.origin ∈ hearers := heard.neighbours _ (adjacent_of_place (k := 0) rfl
      (by rw [← none_]; exact targetPlace))
    rw [pending, none_]
    exact List.mem_map_of_mem neighbour
  case origin => exact .inl (others originTarget)
  case seat =>
    intro i
    by_cases same : i = dag.target
    · rw [same, atTarget]
      exact seat
    · rw [others same]
      exact .refl ..
  case relayed =>
    intro k i past router
    exact absurd (last router) (Nat.not_lt.mpr past)
  case others =>
    intro i _ _
    by_cases same : i = dag.target
    · rw [same, atTarget]
      exact tables
    · rw [others same]

/-! ### One reception -/

section Reception

variable {receiver : ι} {octets : List UInt8} {rest : List (ι × List UInt8)} {after : Node}
  {hearers : List ι}

theorem become_node_self : (s.become receiver after hearers).node receiver = after :=
  Function.update_self ..

theorem become_node_of_ne {i : ι} (other : i ≠ receiver) :
    (s.become receiver after hearers).node i = s.node i := Function.update_of_ne other ..

theorem become_of_silent (silent : (s.node receiver).drosSent after = []) :
    ({ s with pending := rest }.become receiver after hearers).pending = rest ∧
      ({ s with pending := rest }.become receiver after hearers).sent = s.sent := by
  rw [become]
  simp only [silent, List.flatMap_nil, List.append_nil, List.map_nil, List.nil_append, and_self]

/-- A reception after which nothing is multicast leaves the reply where it was. -/
theorem Progress.silent (stands : dag.Stands) (progress : Progress dag h s)
    (perm : ((receiver, octets) :: rest).Perm s.pending)
    (silent : (s.node receiver).drosSent after = [])
    (seat : Node.SameSeat dag.reply (s.node receiver) after)
    (notTurn : ∀ k, h = k + 1 → dag.routers[k]? = some receiver →
      octets ≠ dag.reply.octets (k + 1))
    (originTakes : receiver = dag.origin → after.HoldsReply dag.reply)
    (tables : receiver ≠ dag.origin → after.routeTables = (s.node receiver).routeTables) :
    Progress dag h ({ s with pending := rest }.become receiver after hearers) := by
  obtain ⟨pending, sent⟩ := @become_of_silent ι _ s receiver rest after hearers silent
  have before {x : ι × List UInt8} (mem : x ∈ rest) : x ∈ s.pending :=
    perm.subset (List.mem_cons_of_mem _ mem)
  constructor
  case within_ => exact progress.within_
  case sent => rw [sent, progress.sent]
  case known =>
    rw [pending]
    exact fun i o mem => progress.known i o (before mem)
  case done =>
    rw [pending]
    exact fun k i past router mem => progress.done k i past router (before mem)
  case turn =>
    intro k i here router
    have apart : (receiver, octets) ≠ (i, dag.reply.octets (k + 1)) := by
      intro same
      cases same
      exact notTurn k here router rfl
    have once := progress.turn k i here router
    rw [← perm.count_eq, List.count_cons_of_ne apart] at once
    rw [pending]
    exact once
  case arrival =>
    intro none_
    by_cases same : receiver = dag.origin
    · right
      subst same
      rw [become_node_self]
      exact originTakes rfl
    · rw [become_node_of_ne (Ne.symm same), pending]
      refine (progress.arrival none_).imp_left fun mem => ?_
      refine List.mem_of_ne_of_mem (fun at_ => same ?_) (perm.symm.subset mem)
      exact (congrArg Prod.fst at_).symm
  case origin =>
    by_cases same : receiver = dag.origin
    · right
      subst same
      rw [become_node_self]
      exact originTakes rfl
    · rw [become_node_of_ne (Ne.symm same)]
      exact progress.origin
  case seat =>
    intro i
    by_cases same : i = receiver
    · subst same
      rw [become_node_self]
      exact (progress.seat i).trans seat
    · rw [become_node_of_ne same]
      exact progress.seat i
  case relayed =>
    intro k i past router
    have notOrigin : i ≠ dag.origin := by
      rintro rfl
      exact stands.origin_not_mem (List.mem_of_getElem? router)
    by_cases same : i = receiver
    · subst same
      rw [become_node_self, tables notOrigin]
      exact progress.relayed k i past router
    · rw [become_node_of_ne same]
      exact progress.relayed k i past router
  case others =>
    intro i notOrigin aside
    by_cases same : i = receiver
    · subst same
      rw [become_node_self, tables notOrigin]
      exact progress.others i notOrigin aside
    · rw [become_node_of_ne same]
      exact progress.others i notOrigin aside

/-- The router whose turn it is relays, and the reply has come one place nearer. -/
theorem Progress.relay {k : Nat} (stands : dag.Stands) (progress : Progress dag (k + 1) s)
    (router : dag.routers[k]? = some receiver)
    (perm : ((receiver, dag.reply.octets (k + 1)) :: rest).Perm s.pending)
    (sends : (s.node receiver).drosSent after = [dag.reply.dro k dag.reply.compr])
    (seat : Node.SameSeat dag.reply (s.node receiver) after)
    (tables : after.routeTables =
      ((s.node receiver).withDroRoute dag.reply (nextHopAt dag k)).routeTables)
    (heard : Heard dag receiver hearers) :
    Progress dag k ({ s with pending := rest }.become receiver after hearers) := by
  have place : k < dag.routers.length := (List.getElem?_eq_some_iff.mp router).1
  have vector : dag.reply.addressVector.length = dag.routers.length := by
    rw [P2pDag.reply_addressVector, P2pDag.length_addresses]
  have receiverNotOrigin : receiver ≠ dag.origin := by
    rintro rfl
    exact stands.origin_not_mem (List.mem_of_getElem? router)
  have pending : ({ s with pending := rest }.become receiver after hearers).pending =
      rest ++ hearers.map fun hearer => (hearer, dag.reply.octets k) := by
    rw [become]
    simp only [sends, List.flatMap_cons, List.flatMap_nil, List.append_nil]
    rfl
  have sent : ({ s with pending := rest }.become receiver after hearers).sent =
      (receiver, dag.reply.dro k dag.reply.compr) :: s.sent := by
    rw [become]
    simp only [sends, List.map_cons, List.map_nil, List.singleton_append]
  have before {x : ι × List UInt8} (mem : x ∈ rest) : x ∈ s.pending :=
    perm.subset (List.mem_cons_of_mem _ mem)
  -- what is sent now differs from all that was sent before
  have fresh {m : Nat} (later : k < m) (most : m ≤ dag.routers.length) :
      dag.reply.octets k ≠ dag.reply.octets m := by
    intro same
    have := P2pReply.octets_inj stands.replyFits (by omega) (by omega) same
    omega
  have neighbour {i : ι} (here : (dag.origin :: (dag.routers ++ [dag.target]))[k]? = some i) :
      i ∈ hearers :=
    heard.neighbours i (adjacent_of_place here (by rw [List.getElem?_append_left place, router]))
  constructor
  case within_ => omega
  case sent =>
    have nh : nhOf (receiver, dag.reply.dro k dag.reply.compr) = (receiver, some k) := by
      have read := @P2pReply.Fits.toNat_nh _ k stands.replyFits (by omega)
      exact congrArg (fun nh => (receiver, some nh)) read
    rw [sent, List.map_cons, progress.sent, nh, List.drop_eq_getElem?_toList_append (i := k),
      getElem?_multicasts router]
    rfl
  case known =>
    intro i o mem
    rw [pending, List.mem_append, List.mem_map] at mem
    rcases mem with mem | ⟨hearer, -, same⟩
    · obtain ⟨m, least, most, rfl⟩ := progress.known i o (before mem)
      exact ⟨m, by omega, most, rfl⟩
    · exact ⟨k, le_rfl, by omega, (congrArg Prod.snd same).symm⟩
  case done =>
    intro j i past routerThere mem
    have within_ : j < dag.routers.length := (List.getElem?_eq_some_iff.mp routerThere).1
    rw [pending, List.mem_append, List.mem_map] at mem
    rcases mem with mem | ⟨hearer, -, same⟩
    · rcases Nat.lt_or_eq_of_le past with later | rfl
      · exact progress.done j i later routerThere (before mem)
      · rw [router] at routerThere
        cases routerThere
        have once := progress.turn k receiver rfl router
        rw [← perm.count_eq, List.count_cons_self] at once
        have none_ : rest.count (receiver, dag.reply.octets (k + 1)) = 0 := by omega
        exact List.count_eq_zero.mp none_ mem
    · exact fresh (Nat.lt_succ_of_le past) within_ (congrArg Prod.snd same)
  case turn =>
    intro j i here routerThere
    have mem : i ∈ hearers := neighbour (by
      rw [here, List.getElem?_cons_succ, List.getElem?_append_left (by omega), routerThere])
    have none_ : rest.count (i, dag.reply.octets (j + 1)) = 0 := by
      rw [List.count_eq_zero]
      intro there
      obtain ⟨m, least, most, same⟩ := progress.known _ _ (before there)
      rw [← here] at same
      exact fresh (by omega) most same
    rw [pending, List.count_append, none_, Nat.zero_add, here]
    exact count_receptions heard.once mem
  case arrival =>
    intro none_
    left
    have mem : dag.origin ∈ hearers := neighbour (by rw [none_]; rfl)
    rw [pending, none_]
    exact List.mem_append_right _ (List.mem_map_of_mem mem)
  case origin =>
    rw [become_node_of_ne (Ne.symm receiverNotOrigin)]
    exact progress.origin
  case seat =>
    intro i
    by_cases same : i = receiver
    · subst same
      rw [become_node_self]
      exact (progress.seat i).trans seat
    · rw [become_node_of_ne same]
      exact progress.seat i
  case relayed =>
    intro j i past routerThere
    by_cases same : i = receiver
    · subst same
      have unique {j : Nat} (there : dag.routers[j]? = some i) : k = j :=
        (List.getElem?_inj place stands.routers_nodup).mp (router.trans there.symm)
      have untouched := progress.others i receiverNotOrigin fun j past there =>
        absurd (unique there) (by omega)
      rw [become_node_self, tables, ← unique routerThere]
      exact Node.routeTables_withDroRoute untouched (progress.seat i).attributes
    · rw [become_node_of_ne same]
      refine progress.relayed j i (Nat.lt_of_le_of_ne past fun at_ => same ?_) routerThere
      rw [← at_, router] at routerThere
      exact (Option.some.inj routerThere).symm
  case others =>
    intro i notOrigin aside
    have other : i ≠ receiver := by
      rintro rfl
      exact aside k le_rfl router
    rw [become_node_of_ne other]
    exact progress.others i notOrigin fun j past => aside j (by omega)

end Reception

theorem progress_next (stands : dag.Stands) (progress : Progress dag h s) {e : DroHearing ι}
    (enabled : (droSystem dag).enabled s e) :
    (Progress dag h (s.next e) ∧ (s.next e).sent = s.sent ∧
        (s.next e).pending.length < s.pending.length) ∨
      ∃ k, h = k + 1 ∧ Progress dag k (s.next e) := by
  obtain ⟨receiver, octets, found, heard⟩ := enabled
  have place : e.place < s.pending.length := (List.getElem?_eq_some_iff.mp found).1
  have perm : ((receiver, octets) :: s.pending.eraseIdx e.place).Perm s.pending := by
    have erased := List.getElem_cons_eraseIdx_perm place
    rw [(List.getElem?_eq_some_iff.mp found).2] at erased
    exact erased
  have shorter : (s.pending.eraseIdx e.place).length < s.pending.length := by
    rw [List.length_eraseIdx_of_lt place]
    omega
  have mem : (receiver, octets) ∈ s.pending := List.mem_of_getElem? found
  obtain ⟨m, least, most, rfl⟩ := progress.known receiver octets mem
  have next : s.next e = { s with pending := s.pending.eraseIdx e.place }.become receiver
      ((s.node receiver).hearDro (dag.reply.octets m)) e.hearers := by
    rw [DroNetwork.next, found]
  rw [next]
  have mostEntries : m ≤ dag.reply.addressVector.length := by
    rw [P2pDag.reply_addressVector, P2pDag.length_addresses]
    exact most
  have seat := progress.seat receiver
  have takes := seat.takesPart _ (stands.takesPart receiver)
  by_cases isOrigin : receiver = dag.origin
  · rw [decide_eq_true isOrigin] at takes
    have ready : (s.node receiver).ReadyFor dag.reply := by
      rw [isOrigin]
      rcases progress.origin with same | holds
      · rw [same]
        exact stands.ready
      · exact Node.readyFor_of_holdsReply holds
    obtain ⟨kept, holds, silent⟩ :=
      Node.hearDro_of_origin stands.replyFits mostEntries takes ready
    obtain ⟨pending, sent⟩ := @become_of_silent ι _ s receiver
      (s.pending.eraseIdx e.place) _ e.hearers silent
    refine .inl ⟨?_, sent, by rw [pending]; exact shorter⟩
    refine progress.silent stands perm silent kept (fun k _ router => ?_) (fun _ => holds)
      fun notOrigin => absurd isOrigin notOrigin
    rw [isOrigin] at router
    exact absurd (List.mem_of_getElem? router) stands.origin_not_mem
  · rw [decide_eq_false isOrigin] at takes
    have names := stands.namedNext_iff seat.ipv6 most dag.reply.compr
    cases named : (s.node receiver).namedNext (dag.reply.rdo m dag.reply.compr) with
    | false =>
      obtain ⟨kept, tables, silent⟩ :=
        Node.hearDro_of_aside stands.replyFits mostEntries takes named
      obtain ⟨pending, sent⟩ := @become_of_silent ι _ s receiver
        (s.pending.eraseIdx e.place) _ e.hearers silent
      refine .inl ⟨?_, sent, by rw [pending]; exact shorter⟩
      refine progress.silent stands perm silent kept (fun k here router same => ?_)
        (fun origin => absurd origin isOrigin) fun _ => tables
      have within_ := progress.within_
      have at_ : m = k + 1 := P2pReply.octets_inj stands.replyFits mostEntries
        (by rw [P2pDag.reply_addressVector, P2pDag.length_addresses]; omega) same
      rw [names.mpr ⟨k, at_, router⟩] at named
      cases named
    | true =>
      obtain ⟨k, rfl, router⟩ := names.mp named
      have turn : h = k + 1 := by
        have late : ¬h ≤ k := fun past => progress.done k receiver past router mem
        omega
      subst turn
      have untouched : (s.node receiver).routeTables = (dag.member receiver).routeTables := by
        refine progress.others receiver isOrigin fun j past there => ?_
        have same := (List.getElem?_inj most stands.routers_nodup).mp (router.trans there.symm)
        omega
      obtain ⟨kept, tables, sends⟩ := Node.hearDro_of_named stands.replyFits mostEntries
        (by rw [seat.sockets]; exact stands.running receiver) takes named
        fun hopByHop => (openTo_nextHopAt stands hopByHop router).of_routeTables untouched
      exact .inr ⟨k, rfl, progress.relay stands router perm sends kept tables heard⟩

/-! ### Whole runs -/

theorem progress_of_reachable (stands : dag.Stands) (reachable : (droSystem dag).Reachable s) :
    ∃ h, Progress dag h s := by
  refine reachable.invariant (I := fun s => ∃ h, Progress dag h s) ?_ ?_
  · rintro _ ⟨hearers, heard, rfl⟩
    exact ⟨_, progress_start stands heard⟩
  · rintro s e ⟨h, progress⟩ enabled -
    rcases progress_next stands progress enabled with ⟨still, -⟩ | ⟨k, -, nearer⟩
    · exact ⟨h, still⟩
    · exact ⟨k, nearer⟩

/-- The multicasts still to come. -/
theorem Progress.left_eq (progress : Progress dag h s) :
    dag.routers.length + 1 - s.sent.length = h := by
  have lengths := congrArg List.length progress.sent
  rw [List.length_map, List.length_drop, multicasts, List.length_map, List.length_zipIdx,
    List.length_append, List.length_singleton] at lengths
  have within_ := progress.within_
  omega

/-- Every reception brings the last multicast nearer, or leaves one reception less to come. -/
theorem not_endless (stands : dag.Stands) (states : ℕ → DroNetwork ι) :
    ¬(droSystem dag).Endless states := by
  refine TransitionSystem.not_endless
    (fun s => toLex (dag.routers.length + 1 - s.sent.length, s.pending.length))
    (fun s e reachable enabled => ?_) states
  obtain ⟨h, progress⟩ := progress_of_reachable stands reachable
  change toLex (dag.routers.length + 1 - (s.next e).sent.length, (s.next e).pending.length) < _
  rcases progress_next stands progress enabled with ⟨-, sent, fewer⟩ | ⟨k, rfl, nearer⟩
  · rw [sent]
    exact Prod.Lex.toLex_lt_toLex.mpr (.inr ⟨rfl, fewer⟩)
  · rw [nearer.left_eq, progress.left_eq]
    exact Prod.Lex.toLex_lt_toLex.mpr (.inl (Nat.lt_succ_self k))

/-- The reply has done what it is for. -/
structure Delivered (dag : P2pDag ι) (s : DroNetwork ι) : Prop where
  /-- The Target, then the routers from the one next to it on, once each, NH counting down. -/
  relays : s.sent.map nhOf = multicasts dag
  sourceRoute : dag.hopByHop = false →
    ∃ route, (s.node dag.origin).p2pRoutes[dag.asked]? = some route ∧
      route.hops = dag.addresses ++ [dag.asked] ∧
      route.expire = (s.node dag.origin).now + (s.node dag.origin).attributes.routeLifetime
  chain : dag.hopByHop = true → ∀ (k : Nat) (i : ι) (nextHop : Ipv6Address),
    (dag.origin :: dag.routers)[k]? = some i → dag.nextHops[k]? = some nextHop →
    (s.node i).hopByHopRoutes[dag.asked]? = some ((s.node i).droRoute dag.reply nextHop)
  others : ∀ i, i ∉ dag.origin :: dag.routers →
    (s.node i).hopByHopRoutes = (dag.member i).hopByHopRoutes

theorem Progress.delivered (progress : Progress dag h s) (quiet : s.pending = []) :
    Delivered dag s := by
  have arrived : h = 0 := by
    cases h with
    | zero => rfl
    | succ k =>
      have place : k < dag.routers.length := progress.within_
      have once := progress.turn k _ rfl (List.getElem?_eq_getElem place)
      rw [quiet] at once
      cases once
  subst arrived
  have holds : (s.node dag.origin).HoldsReply dag.reply := by
    rcases progress.arrival rfl with mem | holds
    · rw [quiet] at mem
      cases mem
    · exact holds
  constructor
  case relays => rw [progress.sent, List.drop_zero]
  case sourceRoute =>
    intro source
    have kind : dag.reply.hopByHop = false := source
    rw [Node.HoldsReply, kind, if_neg Bool.false_ne_true] at holds
    exact holds
  case chain =>
    intro hopByHop k i nextHop here hop
    have kind : dag.reply.hopByHop = true := hopByHop
    cases k with
    | zero =>
      cases here
      rw [Node.HoldsReply, kind, if_pos rfl] at holds
      rw [getElem?_nextHops (Nat.zero_le _), ← List.head?_eq_getElem?] at hop
      cases hop
      exact holds
    | succ k =>
      rw [List.getElem?_cons_succ] at here
      rw [getElem?_nextHops (List.getElem?_eq_some_iff.mp here).1] at hop
      cases hop
      have seat := progress.seat i
      have tables := congrArg RouteTables.hopByHop (progress.relayed k i (Nat.zero_le _) here)
      have route : (dag.member i).droRoute dag.reply (nextHopAt dag k) =
          (s.node i).droRoute dag.reply (nextHopAt dag k) := by
        rw [Node.droRoute, Node.droRoute, seat.now, seat.attributes]
      change (s.node i).hopByHopRoutes =
        ((dag.member i).withDroRoute dag.reply (nextHopAt dag k)).hopByHopRoutes at tables
      rw [tables, Node.withDroRoute, kind, if_pos rfl]
      exact ExtTreeMap.getElem?_insert_self.trans (congrArg some route)
  case others =>
    intro i aside
    rw [List.mem_cons, not_or] at aside
    exact congrArg RouteTables.hopByHop (progress.others i aside.1
      fun k _ router => aside.2 (List.mem_of_getElem? router))

/-- Every run of a P2P-DRO ends, and at its end the message has been relayed along the
route and the route is where it belongs. -/
theorem reply_delivered (stands : dag.Stands) :
    (∀ states, ¬(droSystem dag).Endless states) ∧
      ∀ s, (droSystem dag).Reachable s → s.pending = [] → Delivered dag s := by
  refine ⟨not_endless stands, fun s reachable quiet => ?_⟩
  obtain ⟨h, progress⟩ := progress_of_reachable stands reachable
  exact progress.delivered quiet

/-! ### Five members -/

/-- 2001:db8::1 for the Origin, 2001:db8::2 and 2001:db8::3 for the routers, 2001:db8::4 for the
Target, and 2001:db8::5 for a member that is not on the route. -/
def quintetAddress (i : Fin 5) : Ipv6Address :=
  0x20010db8000000000000000000000001#128 + BitVec.ofNat 128 i

def quintetKey : DodagKey := { instanceId := 0x80, dodagId := quintetAddress 0 }

def quintetMembership (i : Fin 5) : DodagMembership :=
  { instanceId := quintetKey.instanceId
    dodagId := quintetKey.dodagId
    mop := mopP2pRouteDiscovery
    p2p :=
      { isOrigin := i = 0
        isTarget := i = 3
        target := quintetAddress 3
        hopByHop := true } }

def quintetNode (i : Fin 5) : Node :=
  { ipv6 := .ofInterfaces
      [{}, { addresses := [{ address := quintetAddress i, scope := .global }] }]
    sockets := {1}
    dodags := (∅ : ExtTreeMap DodagKey DodagMembership).insert quintetKey (quintetMembership i) }

/-- A hop-by-hop route over the two routers. -/
def quintet : P2pDag (Fin 5) where
  member := quintetNode
  origin := 0
  routers := [1, 2]
  target := 3
  address := quintetAddress
  asked := quintetAddress 3
  key := quintetKey
  stop := true
  trackAck := true
  hopByHop := true
  sequence := 0

theorem quintet_held (i : Fin 5) :
    (quintet.member i).dodags[quintetKey]? = some (quintetMembership i) :=
  ExtTreeMap.getElem?_insert_self

theorem quintet_openTo (i : Fin 5) (nextHop : Ipv6Address) :
    (quintet.member i).OpenTo quintet.reply nextHop := by
  intro held found
  have none_ : (quintet.member i).findHopByHopRouteIn quintet.reply.key quintet.reply.target =
      none := by
    rw [Node.findHopByHopRouteIn, Node.findHopByHopRoute]
    change ((Option.filter _ (∅ : ExtTreeMap Ipv6Address HopByHopRoute)[_]?).filter _) = none
    rw [ExtTreeMap.getElem?_empty]
    rfl
  rw [none_] at found
  cases found

theorem quintet_stands : quintet.Stands where
  distinct := by decide +kernel
  owns := by decide +kernel
  running := by decide +kernel
  takesPart i := by
    have sought : (quintetAddress 3).isAny = false := by decide +kernel
    exact ⟨quintetMembership i, quintet_held i, rfl, sought, rfl, fun _ => rfl⟩
  answering := ⟨quintetMembership 3, quintet_held 3, rfl, rfl, rfl, rfl⟩
  isTarget := by decide +kernel
  fits := by decide +kernel
  ready := by
    have hopByHop : quintet.reply.hopByHop = true := rfl
    rw [Node.ReadyFor, hopByHop, if_pos rfl]
    exact quintet_openTo 0 _
  open_ _ _ i nextHop _ _ := quintet_openTo i nextHop

theorem quintet_delivered :
    (∀ states, ¬(droSystem quintet).Endless states) ∧
      ∀ s, (droSystem quintet).Reachable s → s.pending = [] → Delivered quintet s :=
  reply_delivered quintet_stands

end DroNetwork

end Rpl
