import Rpl.TargetTurns

/-!
# The batch a Target replies with

When its collection window closes, a Target answers over its address vector and over the further
routes it has recorded.  A route is recorded with the node's own address on the interface it came
in on, and told from the others with it; a P2P-DRO carries it without.  The routes of a batch are
apart unless the same address vector has come in on two interfaces with addresses of their own.
-/

namespace Rpl

open Std

/-- The route a P2P-DRO carries: its address vector, and its Target. -/
def P2pDroHeader.route (dro : P2pDroHeader) : List Ipv6Address :=
  (dro.p2pRdo.map fun rdo => rdo.addressVector ++ [rdo.target]).getD []

namespace Node

/-- The P2P-DROs handed down on an interface between two states of a node, in the order they go
out. -/
def handedDown (interface : Nat) (n after : Node) : List P2pDroHeader :=
  (drosOn interface (after.outputs.take (after.outputs.length - n.outputs.length))).reverse

/-- What goes out on an interface when the collection window closes. -/
def batchOn (key : DodagKey) (interface : Nat) (n : Node) : List P2pDroHeader :=
  handedDown interface n (n.fire (.droCollect key))

/-! ## Copies that double a route -/

/-- Two routes that nothing but this node's own address tells apart. -/
def SharesVector (route held : List Ipv6Address) : Prop :=
  held ≠ route ∧ held.dropLast = route.dropLast

/-- A new route finds its place among the alternates. -/
def keepsAlternate (dodag : DodagMembership) (rdo : P2pRdoOption) (route : List Ipv6Address) :
    Bool :=
  dodag.p2p.isTarget && 0 < askedRoutes rdo &&
    (dodag.p2p.alternateRoutes.length < (askedRoutes rdo).toNat ||
      dodag.p2p.alternateRoutes.any (route.length < ·.length))

/-- The route of a copy comes to be held beside one that carries the same address vector: beside
an alternate, where it is kept as another one or becomes the address vector, or beside the address
vector, where it is kept as an alternate and the copy is passed over. -/
def DoublesRoute (n : Node) (dodag : DodagMembership) (dio : DioHeader) (heard : Reception) :
    Prop :=
  ∃ route, n.p2pRouteThrough dodag dio.getP2pRdo heard.interface = some route ∧
    ((∃ held ∈ dodag.p2p.alternateRoutes, SharesVector route held) ∧
        (keepsAlternate dodag dio.getP2pRdo route = true ∨
          n.ignoresP2pRdo dodag heard.sender = false) ∨
      SharesVector route dodag.p2p.addressVector ∧
        keepsAlternate dodag dio.getP2pRdo route = true ∧
        n.ignoresP2pRdo dodag heard.sender = true)

/-- The event is a P2P mode DIO that doubles a route of the temporary DAG. -/
def Doubles (key : DodagKey) (n : Node) (e : Event) : Prop :=
  ∃ dio heard m dodag, n.Takes e dio heard ∧ dio.p2pRdo.isSome = true ∧ dio.key = key ∧
    n.beforeDiscovery dio heard = some m ∧ m.dodags[key]? = some dodag ∧
    m.DoublesRoute dodag dio heard

end Node

/-! ## Routes that are apart -/

/-- The routes held carry different address vectors. -/
structure Replying.Distinct (replying : Replying) : Prop where
  alternates : (replying.alternateRoutes.map List.dropLast).Nodup
  primary : replying.addressVector ≠ [] →
    replying.addressVector.dropLast ∉ replying.alternateRoutes.map List.dropLast

namespace Replying

variable {replying later : Replying}

theorem Blank.distinct (blank : replying.Blank) : replying.Distinct := by
  refine ⟨?_, fun _ => ?_⟩
  · rw [blank.alternateRoutes]
    exact List.nodup_nil
  · rw [blank.alternateRoutes]
    exact List.not_mem_nil

theorem Distinct.fewer (distinct : replying.Distinct)
    (addressVector : later.addressVector = replying.addressVector)
    (fewer : later.alternateRoutes.Sublist replying.alternateRoutes) : later.Distinct where
  alternates := distinct.alternates.sublist (fewer.map _)
  primary nonempty mem := by
    rw [addressVector] at nonempty mem
    exact distinct.primary nonempty ((fewer.map _).subset mem)

end Replying

namespace Node

variable {n m after : Node} {e : Event} {key : DodagKey} {interface : Nat}
  {dodag : DodagMembership} {p2p : P2pState} {replying later : Replying}
  {route : List Ipv6Address} {routes : List (List Ipv6Address)}

/-- A longest route is displaced only by a shorter one. -/
theorem displaceLongest_cases (routes : List (List Ipv6Address)) (route : List Ipv6Address) :
    displaceLongest routes route = routes ∨
      (∃ index, displaceLongest routes route = routes.set index route) ∧
        routes.any (route.length < ·.length) = true := by
  have reached (lengths : List Nat) (start : Nat)
      (longer : route.length < lengths.foldl max start) :
      route.length < start ∨ ∃ length ∈ lengths, route.length < length := by
    induction lengths generalizing start with
    | nil => exact .inl longer
    | cons length rest ih =>
      rcases ih _ longer with first | ⟨other, mem, isLonger⟩
      · rcases lt_max_iff.mp first with before | here
        · exact .inl before
        · exact .inr ⟨length, List.mem_cons_self, here⟩
      · exact .inr ⟨other, List.mem_cons_of_mem _ mem, isLonger⟩
  unfold displaceLongest
  dsimp only
  split
  · exact .inl rfl
  next longer =>
  split
  · exact .inl rfl
  · refine .inr ⟨⟨_, rfl⟩, List.any_eq_true.mpr ?_⟩
    rcases reached _ _ (Nat.lt_of_not_le longer) with none_ | ⟨length, mem, isLonger⟩
    · exact absurd none_ (Nat.not_lt_zero _)
    · obtain ⟨held, isHeld, rfl⟩ := List.mem_map.mp mem
      exact ⟨held, isHeld, decide_eq_true isLonger⟩

theorem filter_set_sublist (routes : List (List Ipv6Address)) (index : Nat)
    (route : List Ipv6Address) : ((routes.set index route).filter (· ≠ route)).Sublist routes := by
  induction routes generalizing index with
  | nil => exact List.Sublist.refl _
  | cons first rest ih =>
    cases index with
    | zero =>
      rw [List.set_cons_zero, List.filter_cons_of_neg (by simp)]
      exact List.filter_sublist.cons first
    | succ index =>
      rw [List.set_cons_succ, List.filter_cons]
      split
      · exact (ih index).cons_cons first
      · exact (ih index).cons first

/-- The alternates stay, or take in a new route, at the end or in the place of a longer one. -/
theorem alternatesWith_cases (n : Node) (dodag : DodagMembership) (rdo : P2pRdoOption)
    (interface : Nat) :
    n.alternatesWith dodag rdo interface = dodag.p2p.alternateRoutes ∨
      ∃ route, n.p2pRouteThrough dodag rdo interface = some route ∧
        keepsAlternate dodag rdo route = true ∧ route ≠ dodag.p2p.addressVector ∧
        route ∉ dodag.p2p.alternateRoutes ∧
        (n.alternatesWith dodag rdo interface = dodag.p2p.alternateRoutes ++ [route] ∨
          ∃ index, n.alternatesWith dodag rdo interface =
            dodag.p2p.alternateRoutes.set index route) := by
  unfold alternatesWith
  cases n.p2pRouteThrough dodag rdo interface with
  | none => exact .inl rfl
  | some route =>
    dsimp only
    split
    case isFalse => exact .inl rfl
    next target =>
    unfold withAlternate
    split
    · exact .inl rfl
    next fresh =>
    simp only [Bool.or_eq_true, decide_eq_true_eq, List.contains_iff_mem, not_or] at fresh
    split
    · rcases displaceLongest_cases dodag.p2p.alternateRoutes route with
        same | ⟨displaces, longer⟩
      · exact .inl same
      · refine .inr ⟨route, rfl, ?_, fresh.1, fresh.2, .inr displaces⟩
        rw [keepsAlternate, target, longer, Bool.or_true]
        rfl
    · next room =>
      refine .inr ⟨route, rfl, ?_, fresh.1, fresh.2, .inl rfl⟩
      rw [keepsAlternate, target, decide_eq_true (Nat.lt_of_not_le room), Bool.true_or]
      rfl

/-- What is beside the new route among the alternates is told from it by its address vector. -/
theorem apart_of_not_shared (notHeld : route ∉ routes)
    (apart : ∀ held ∈ routes, ¬SharesVector route held) :
    route.dropLast ∉ routes.map List.dropLast := by
  intro mem
  obtain ⟨held, isHeld, same⟩ := List.mem_map.mp mem
  exact apart held isHeld ⟨fun isRoute => notHeld (isRoute ▸ isHeld), same⟩

/-- A copy that is passed over keeps the routes held apart, unless it doubles one. -/
theorem distinct_records {dio : DioHeader} {heard : Reception}
    (distinct : dodag.p2p.replying.Distinct) (apart : ¬n.DoublesRoute dodag dio heard)
    (passed : n.ignoresP2pRdo dodag heard.sender = true ∨
      (n.getGlobalAddressOnInterface dodag heard.interface).isAny = true)
    (addressVector : p2p.addressVector = dodag.p2p.addressVector)
    (alternateRoutes :
      p2p.alternateRoutes = n.alternatesWith dodag dio.getP2pRdo heard.interface) :
    p2p.replying.Distinct := by
  rcases n.alternatesWith_cases dodag dio.getP2pRdo heard.interface with
    same | ⟨route, through, keeps, notPrimary, notHeld, placed⟩
  · refine distinct.fewer addressVector ?_
    change p2p.alternateRoutes.Sublist dodag.p2p.alternateRoutes
    rw [alternateRoutes, same]
  · have ignored : n.ignoresP2pRdo dodag heard.sender = true := by
      rcases passed with ignored | any
      · exact ignored
      · unfold p2pRouteThrough at through
        dsimp only at through
        rw [if_pos any] at through
        cases through
    have fromAlternates := apart_of_not_shared notHeld fun held isHeld shares =>
      apart ⟨route, through, .inl ⟨⟨held, isHeld, shares⟩, .inl keeps⟩⟩
    have fromPrimary : dodag.p2p.addressVector.dropLast ≠ route.dropLast := fun same =>
      apart ⟨route, through, .inr ⟨⟨notPrimary.symm, same⟩, keeps, ignored⟩⟩
    have wasDistinct : (dodag.p2p.alternateRoutes.map List.dropLast).Nodup := distinct.alternates
    have wasApart : dodag.p2p.addressVector ≠ [] → dodag.p2p.addressVector.dropLast ∉
        dodag.p2p.alternateRoutes.map List.dropLast := distinct.primary
    constructor
    · change (p2p.alternateRoutes.map List.dropLast).Nodup
      rw [alternateRoutes]
      rcases placed with appended | ⟨index, displaced⟩
      · rw [appended, List.map_append]
        exact wasDistinct.append (List.nodup_singleton _)
          (List.disjoint_singleton.mpr fromAlternates)
      · rw [displaced, List.map_set]
        exact wasDistinct.set fromAlternates
    · change p2p.addressVector ≠ [] → p2p.addressVector.dropLast ∉
        p2p.alternateRoutes.map List.dropLast
      rw [addressVector, alternateRoutes]
      intro nonempty mem
      rcases placed with appended | ⟨index, displaced⟩
      · rw [appended, List.map_append] at mem
        rcases List.mem_append.mp mem with before | last
        · exact wasApart nonempty before
        · exact fromPrimary (List.mem_singleton.mp last)
      · rw [displaced, List.map_set] at mem
        rcases List.mem_or_eq_of_mem_set mem with before | here
        · exact wasApart nonempty before
        · exact fromPrimary here

/-- A copy that gives the address vector keeps the routes held apart, unless it doubles one. -/
theorem distinct_takes {dio : DioHeader} {heard : Reception}
    (distinct : dodag.p2p.replying.Distinct) (apart : ¬n.DoublesRoute dodag dio heard)
    (attends : n.ignoresP2pRdo dodag heard.sender = false)
    (through : n.p2pRouteThrough dodag dio.getP2pRdo heard.interface = some p2p.addressVector)
    (alternateRoutes : p2p.alternateRoutes =
      (n.alternatesWith dodag dio.getP2pRdo heard.interface).filter (· ≠ p2p.addressVector)) :
    p2p.replying.Distinct := by
  have fewer : p2p.alternateRoutes.Sublist dodag.p2p.alternateRoutes := by
    rw [alternateRoutes]
    rcases n.alternatesWith_cases dodag dio.getP2pRdo heard.interface with
      same | ⟨route, throughToo, -, -, -, placed⟩
    · rw [same]
      exact List.filter_sublist
    · cases through.symm.trans throughToo
      rcases placed with appended | ⟨index, displaced⟩
      · rw [appended, List.filter_append]
        simp
      · rw [displaced]
        exact filter_set_sublist ..
  have notHeld : p2p.addressVector ∉ p2p.alternateRoutes := by
    rw [alternateRoutes]
    simp
  refine ⟨List.Nodup.sublist (fewer.map _) distinct.alternates, fun _ =>
    apart_of_not_shared notHeld fun held isHeld shares => apart ⟨_, through, .inl
      ⟨⟨held, fewer.subset isHeld, shares⟩, .inr attends⟩⟩⟩

theorem distinct_heeds (distinct : replying.Distinct) (inOrder : n.stakes.InOrder)
    (apart : ¬n.Doubles key e) (heeds : n.Heeds e key replying later) : later.Distinct := by
  obtain ⟨dio, heard, m, dodag, p2p, takes, rdo, rfl, handles, held, routed, rfl, rfl⟩ :=
    heeds.routed
  have apartThen : ¬m.DoublesRoute dodag dio heard := fun doubles =>
    apart ⟨dio, heard, m, dodag, takes, rdo, rfl, handles, held, doubles⟩
  cases routed with
  | origin same =>
    rw [same]
    exact distinct
  | records passed addressVector alternateRoutes =>
    exact distinct_records distinct apartThen passed addressVector alternateRoutes
  | takes attends addressed addressVector fits alternateRoutes =>
    refine distinct_takes distinct apartThen attends ?_ alternateRoutes
    have inOrderThen : m.stakes.InOrder :=
      Shifts.keeps (fun _ _ _ shift => inOrder_shift shift) (shifts_beforeDiscovery takes handles)
        inOrder
    have keyed : dodag.dodagId = dio.key.dodagId :=
      congrArg DodagKey.dodagId (keyed_of_inOrder inOrderThen held)
    rw [← keyed, addressVector] at fits
    unfold p2pRouteThrough
    dsimp only
    rw [if_neg (Bool.eq_false_iff.mp addressed), if_neg (Nat.not_lt_of_le fits), addressVector]

theorem distinct_moves {count : Nat} (distinct : replying.Distinct) (inOrder : n.stakes.InOrder)
    (apart : ¬n.Doubles key e) (moves : n.Moves e key replying later count) : later.Distinct := by
  cases moves with
  | heeds heeds => exact distinct_heeds distinct inOrder apart heeds
  | starts heeds _ _ starts =>
    have ready := distinct_heeds distinct inOrder apart heeds
    cases starts with
    | atOnce => exact ready.fewer rfl (List.Sublist.refl _)
    | waits => exact ready.fewer rfl (List.Sublist.refl _)
    | opens => exact ready.fewer rfl (List.Sublist.refl _)
  | idles => exact distinct.fewer rfl (List.Sublist.refl _)
  | settles => exact distinct.fewer rfl (List.Sublist.refl _)
  | retries => exact distinct.fewer rfl (List.Sublist.refl _)
  | collects _ fewer => exact distinct.fewer rfl fewer

/-- In a run that doubles no route the routes held stay apart. -/
theorem distinct_of_run (run : nodeSystem.Run (fun n e => ¬n.Doubles key e) n)
    (held : n.dodags[key]? = some dodag) : dodag.p2p.replying.Distinct := by
  have kept : n.stakes.InOrder ∧
      ∀ replying, (n.replyState key).held = some replying → replying.Distinct := by
    refine run.invariant (I := fun n => n.stakes.InOrder ∧
      ∀ replying, (n.replyState key).held = some replying → replying.Distinct) ?_ ?_
    · refine fun n initial => ⟨fun key stake held => ?_, fun replying held => ?_⟩
      · rw [stakes_held, initial.dodags] at held
        cases held
      · have absent : n.dodags[key]? = none := by rw [initial.dodags, ExtTreeMap.getElem?_empty]
        rw [replyState, absent] at held
        cases held
    · rintro n e ⟨inOrder, distinct⟩ enabled apart
      refine ⟨keeps_apply enabled (fun _ _ _ shift => inOrder_shift shift) inOrder, ?_⟩
      intro replying held
      have renewed {after : Answering} (renews : (n.replyState key).Renews after)
          {replying : Replying} (held : after.held = some replying) : replying.Distinct := by
        rcases renews with rfl | ⟨blank, -, -⟩
        · exact distinct replying held
        · exact (blank replying held).distinct
      rcases apply_cases key 0 enabled inOrder with
        ⟨renews, -⟩ | ⟨-, same⟩ | ⟨ended, before, later, count, renews, moves, isAfter, -⟩
      · exact renewed renews held
      · exact renewed (.inl same) held
      · change ((n.apply e).replyState key).held = some replying at held
        rw [isAfter] at held
        cases held
        exact distinct_moves (renewed renews rfl) inOrder apart moves
  exact kept.2 _ (congrArg Answering.held (replyState_of_held held))

/-! ## The batch -/

theorem handedDown_of_answers {sent : List P2pDroHeader}
    (answers : n.Answers key interface dodag after p2p sent) :
    handedDown interface n after = sent.reverse := by
  obtain ⟨outputs, rfl, rfl⟩ := answers
  have added : ((n.emit outputs).setDodag key { dodag with p2p := p2p }).outputs =
      outputs ++ n.outputs := rfl
  rw [handedDown, added, List.length_append, Nat.add_sub_cancel, List.take_left]

/-- Either the window closes on nothing to be sent on the interface, or the whole batch goes
out. -/
theorem batchOn_cases (key : DodagKey) (interface : Nat) (n : Node) :
    n.batchOn key interface = [] ∨ ∃ dodag, n.dodags[key]? = some dodag ∧
      dodag.p2p.addressVector ≠ [] ∧ n.batchOn key interface = n.batch key dodag := by
  cases held : n.dodags[key]? with
  | none =>
    refine .inl ?_
    rw [batchOn, fire_droCollect_of_absent held, handedDown, Nat.sub_self]
    rfl
  | some dodag =>
    rcases answers_collect interface held with ⟨_, -, answers⟩ | ⟨-, -, found, answers⟩
    · exact .inl (handedDown_of_answers answers)
    · have whole := handedDown_of_answers answers
      by_cases runs : interface ∈ n.sockets
      · have copies : n.copyOn interface = fun dro => [dro] := funext fun _ => if_pos runs
        rw [copies, List.flatMap_singleton', List.reverse_reverse] at whole
        exact .inr ⟨dodag, rfl, found, whole⟩
      · have copies : n.copyOn interface = fun _ => [] := funext fun _ => if_neg runs
        have nothing (dros : List P2pDroHeader) :
            dros.flatMap (fun _ => ([] : List P2pDroHeader)) = [] := by simp
        rw [copies, nothing] at whole
        exact .inl whole

theorem route_dropLast (n : Node) (dodag : DodagMembership) (key : DodagKey)
    (route : List Ipv6Address) (stop trackAck : Bool) :
    (n.p2pDroMessage dodag key route stop trackAck).route.dropLast = route.dropLast :=
  List.dropLast_concat

theorem batch_routes (n : Node) (key : DodagKey) (dodag : DodagMembership) :
    ((n.batch key dodag).map P2pDroHeader.route).map List.dropLast =
      (dodag.p2p.addressVector :: alternateReplies dodag.p2p).map List.dropLast := by
  rw [batch, List.map_cons, List.map_cons, List.map_cons, route_dropLast, List.map_map,
    List.map_map]
  refine congrArg _ (List.map_congr_left fun route _ => ?_)
  exact route_dropLast ..

/-- The reply after a collection window goes out over the address vector first and over no more
routes than one and the number asked for last; in a run that doubles no route the routes its
P2P-DROs carry are all different. -/
theorem reply_batch (key : DodagKey) (interface : Nat) :
    (∀ n : Node, n.batchOn key interface = [] ∨ ∃ dodag first rest,
      n.dodags[key]? = some dodag ∧ n.batchOn key interface = first :: rest ∧
      first.route.dropLast = dodag.p2p.addressVector.dropLast ∧
      (n.batchOn key interface).length ≤ 1 + dodag.p2p.numRoutes.toNat) ∧
    ∀ n, nodeSystem.Run (fun n e => ¬n.Doubles key e) n →
      ((n.batchOn key interface).map P2pDroHeader.route).Nodup := by
  refine ⟨fun n => ?_, fun n run => ?_⟩
  · rcases n.batchOn_cases key interface with nothing | ⟨dodag, held, -, whole⟩
    · exact .inl nothing
    · refine .inr ⟨dodag, _, _, held, whole, route_dropLast .., ?_⟩
      rw [whole, batch, List.length_cons, List.length_map, Nat.add_comm]
      exact Nat.add_le_add_left (List.length_take_le ..) 1
  · rcases n.batchOn_cases key interface with nothing | ⟨dodag, held, found, whole⟩
    · rw [nothing]
      exact List.nodup_nil
    · have distinct := distinct_of_run run held
      have further : (alternateReplies dodag.p2p).Sublist dodag.p2p.alternateRoutes :=
        (List.take_sublist ..).trans List.filter_sublist
      refine List.Nodup.of_map List.dropLast ?_
      rw [whole, batch_routes, List.map_cons, List.nodup_cons]
      exact ⟨fun mem => distinct.primary found ((further.map _).subset mem),
        distinct.alternates.sublist (further.map _)⟩

/-! ## A Target on two links -/

/-- A node with the addresses fe80::2 and 2001:db8::9 on one interface, and fe80::3 and
2001:db8::a on another. -/
def twoLinks : Ipv6L3Protocol :=
  .ofInterfaces
    [{}, { addresses :=
        [{ address := 0xfe800000000000000000000000000002#128, scope := .linkLocal },
          { address := 0x20010db8000000000000000000000009#128, scope := .global }] },
      { addresses :=
        [{ address := 0xfe800000000000000000000000000003#128, scope := .linkLocal },
          { address := 0x20010db800000000000000000000000a#128, scope := .global }] }]

/-- 2001:db8::1 looks for 2001:db8::9 through the router, and wants one route more. -/
def seekingOver (router : Ipv6Address) : DioHeader :=
  { instanceId := 0x80
    version := 0
    rank := 256
    grounded := true
    mop := mopP2pRouteDiscovery
    dodagId := 0x20010db8000000000000000000000001#128
    dagConf := some { intervalMin := 16, maxRankIncrease := 0 }
    p2pRdo := some
      { reply := true
        numRoutes := 1
        lifetime := 3
        maxRankOrNh := 6
        addressVector := [router]
        target := 0x20010db8000000000000000000000009#128 } }

/-- Through 2001:db8::5. -/
def seekingTwo : DioHeader := seekingOver 0x20010db8000000000000000000000005#128

def onTwoLinks : Node := (started twoLinks).apply (.startInterface 2)

/-- The DIO has come in on the first link. -/
def heardOnce : Node := onTwoLinks.apply (hears seekingTwo)

/-- The same neighbour's DIO comes in on the second. -/
def hearsAgain : Event :=
  .receive { sender := 0xfe800000000000000000000000000001#128, interface := 2 } (.dio seekingTwo)

def heardTwice : Node := heardOnce.apply hearsAgain

/-- The collection window is over. -/
def windowOver : Node := heardTwice.apply (.tick (milliSeconds 256))

/-- A DIO with another address vector comes in on the first, from another neighbour. -/
def hearsOther : Event :=
  .receive { sender := 0xfe800000000000000000000000000004#128, interface := 1 }
    (.dio (seekingOver 0x20010db8000000000000000000000006#128))

def heardOther : Node := heardOnce.apply hearsOther

/-- The collection window is over for a node that has heard the two on the first link. -/
def otherOver : Node := heardOther.apply (.tick (milliSeconds 256))

/-- The copy has a route of its own. -/
def bringsFresh (n : Node) (dio : DioHeader) (heard : Reception) : Bool :=
  (n.beforeDiscovery dio heard).all fun m => (m.dodags[dio.key]?).all fun dodag =>
    (m.p2pRouteThrough dodag dio.getP2pRdo heard.interface).all fun route =>
      (dodag.p2p.addressVector :: dodag.p2p.alternateRoutes).all fun held =>
        route.dropLast ≠ held.dropLast

/-- What happens to the node on two links. -/
theorem windowOver_run :
    (onTwoLinks.bringsFresh seekingTwo
        { sender := 0xfe800000000000000000000000000001#128, interface := 1 } = true ∧
      heardOnce.bringsFresh (seekingOver 0x20010db8000000000000000000000006#128)
        { sender := 0xfe800000000000000000000000000004#128, interface := 1 } = true ∧
      heardOnce.sockets.contains 1 = true ∧ heardOther.now ≤ milliSeconds 256 ∧
      heardOther.nothingBefore (milliSeconds 256) = true ∧
      (otherOver.batchOn seekingTwo.key 1).map P2pDroHeader.route =
        [[0x20010db8000000000000000000000005#128, 0x20010db8000000000000000000000009#128],
          [0x20010db8000000000000000000000006#128, 0x20010db8000000000000000000000009#128]]) ∧
    (onTwoLinks.sockets.contains 1 = true ∧ heardOnce.sockets.contains 2 = true ∧
      heardTwice.now ≤ milliSeconds 256 ∧ heardTwice.nothingBefore (milliSeconds 256) = true ∧
      windowOver.timer (.droCollect seekingTwo.key) = some windowOver.now) ∧
    (windowOver.batchOn seekingTwo.key 1).map P2pDroHeader.route =
      [[0x20010db8000000000000000000000005#128, 0x20010db8000000000000000000000009#128],
        [0x20010db8000000000000000000000005#128, 0x20010db8000000000000000000000009#128]] := by
  decide +kernel

/-- A copy with a route of its own doubles nothing. -/
theorem not_doubles_of_fresh {dio : DioHeader} {heard : Reception}
    (fresh : n.bringsFresh dio heard = true) :
    ¬n.Doubles dio.key (.receive heard (.dio dio)) := by
  rintro ⟨_, _, m, dodag, takes, -, -, handles, held, route, through, doubled⟩
  cases takes.event
  rw [bringsFresh, handles, Option.all_some, held, Option.all_some, through, Option.all_some,
    List.all_eq_true] at fresh
  rcases doubled with ⟨⟨other, mem, shares⟩, -⟩ | ⟨shares, -⟩
  · exact of_decide_eq_true (fresh other (List.mem_cons_of_mem _ mem)) shares.2.symm
  · exact of_decide_eq_true (fresh _ List.mem_cons_self) shares.2.symm

/-- After the two with different address vectors, a P2P-DRO goes out over each. -/
theorem reply_batch_once :
    (otherOver.batchOn seekingTwo.key 1).map P2pDroHeader.route =
        [[0x20010db8000000000000000000000005#128, 0x20010db8000000000000000000000009#128],
          [0x20010db8000000000000000000000006#128, 0x20010db8000000000000000000000009#128]] ∧
      ((otherOver.batchOn seekingTwo.key 1).map P2pDroHeader.route).Nodup := by
  obtain ⟨⟨first, second, listensStill, forward, nothing, batch⟩, ⟨listens, -⟩, -⟩ :=
    windowOver_run
  have onTwo : nodeSystem.Run (fun n e => ¬n.Doubles seekingTwo.key e) onTwoLinks :=
    run_apply (started_run twoLinks) (Nat.succ_ne_zero 1) fun doubles => by
      obtain ⟨dio, heard, -, -, takes, -⟩ := doubles
      cases takes.event
  have once : nodeSystem.Run (fun n e => ¬n.Doubles seekingTwo.key e) heardOnce :=
    run_hears onTwo (ExtTreeSet.contains_iff_mem.mp listens) (not_doubles_of_fresh first)
  have other : nodeSystem.Run (fun n e => ¬n.Doubles seekingTwo.key e) heardOther :=
    run_apply once (ExtTreeSet.contains_iff_mem.mp listensStill) (not_doubles_of_fresh second)
  have over_ : nodeSystem.Run (fun n e => ¬n.Doubles seekingTwo.key e) otherOver :=
    run_apply other (enabled_tick forward nothing) fun doubles => by
      obtain ⟨dio, heard, -, -, takes, -⟩ := doubles
      cases takes.event
  exact ⟨batch, (reply_batch seekingTwo.key 1).2 otherOver over_⟩

/-- It replies with the same route twice. -/
theorem windowOver_doubled :
    ∃ n, nodeSystem.Reachable n ∧ n.Enabled (.fire (.droCollect seekingTwo.key)) ∧
      ¬((n.batchOn seekingTwo.key 1).map P2pDroHeader.route).Nodup := by
  obtain ⟨-, ⟨listens, listensToo, forward, nothing, due⟩, batch⟩ := windowOver_run
  have onTwo : nodeSystem.Reachable onTwoLinks :=
    run_apply (started_run twoLinks) (Nat.succ_ne_zero 1) trivial
  have once : nodeSystem.Reachable heardOnce :=
    run_hears onTwo (ExtTreeSet.contains_iff_mem.mp listens) trivial
  have twice : nodeSystem.Reachable heardTwice :=
    run_apply once (ExtTreeSet.contains_iff_mem.mp listensToo) trivial
  refine ⟨windowOver, run_apply twice (enabled_tick forward nothing) trivial, due, ?_⟩
  rw [batch]
  decide

end Node

end Rpl
