import Rpl.DiscoveryReturn
import Rpl.P2pLine
import Rpl.P2pReplyRun

/-!
# Source-routed P2P-RPL discovery in both directions

`DiscoverP2pRoute` asks for one source route.  The Target answers the P2P mode DIO at once with a
P2P-DRO over the routers it has passed, which these relay, each the one that NH names, and the
Origin stores the route.
-/

namespace Rpl

open Std

/-! ## From the Origin to the Target -/

section Ends

variable {n : Node} {key : DodagKey} {dodag : DodagMembership} {target : Ipv6Address}

/-- `DiscoverP2pRoute` roots a temporary DAG that asks for the target. -/
theorem Node.asking_discoverP2pRoute (single : n.attributes.p2pNumRoutes = 0)
    (asks : (n.discoverP2pRoute target false).1 = some key) :
    ∃ p2p, (n.apply (.discoverP2pRoute target false)).partIn key =
        some (key, mopP2pRouteDiscovery, {}, p2p) ∧
      AskingRoute target [] p2p ∧ p2p.isOrigin = true ∧ p2p.routeStored = false ∧
      target.isAny = false := by
  change ∃ p2p, ((n.discoverP2pRoute target false).2).partIn key = _ ∧ _
  unfold Node.discoverP2pRoute at asks ⊢
  dsimp only at asks ⊢
  split at asks
  · cases asks
  · next isTarget =>
    rw [if_neg isTarget]
    simp only [Bool.or_eq_true, not_or, Bool.not_eq_true] at isTarget
    split at asks
    · cases asks
    · next instanceId allocated =>
      split at asks
      · cases asks
      · next formed created creates =>
        cases asks
        obtain ⟨dodag, dodags, keyed, temporary, cleanAodv, cleanP2p⟩ :=
          Node.dodags_createLocalDodag creates
        have held : created.dodags[key]? = some dodag := by
          rw [dodags]
          exact ExtTreeMap.getElem?_insert_self
        have rooted := Node.setDodag_of_held held fun dodag =>
          Node.restartTrickle (n.noteP2pUse target instanceId).now
            (Node.withP2pParameters (n.noteP2pUse target instanceId).attributes
              { dodag with
                p2p := (n.noteP2pUse target instanceId).originP2pState target false dodag.p2p })
        rw [rooted]
        obtain ⟨expiry, arms⟩ := @Node.answers_armP2pExpiry (created.setDodag key _) key 0 _
          ExtTreeMap.getElem?_insert_self
        have unstored : dodag.p2p.routeStored = false := by rw [cleanP2p]
        refine ⟨_, (congrArg (Option.map DodagMembership.part) arms.held).trans
          (congrArg some (Prod.ext keyed (Prod.ext temporary (Prod.ext cleanAodv rfl)))), ?_,
          rfl, unstored, isTarget.1.1⟩
        refine ⟨rfl, rfl, single, rfl, ?_, rfl, fun candidate mem => ?_⟩
        · change dodag.p2p.additionalTargets = []
          rw [cleanP2p]
        · change candidate ∈ dodag.p2p.candidateRoutes at mem
          rw [cleanP2p] at mem
          exact absurd mem List.not_mem_nil

/-- A reply over the one route asked for goes out at once. -/
theorem Node.startReply_single (interface : Nat) (held : n.dodags[key]? = some dodag)
    (single : dodag.p2p.numRoutes = 0) :
    ∃ closed, n.Answers key interface dodag closed
        { n.startedP2pState dodag.p2p with droCollectEvent := none, droCollecting := false } [] ∧
      n.startReply key = closed.sendP2pDro key := by
  have noted : n.Answers key interface dodag (n.modifyP2p key n.startedP2pState)
      (n.startedP2pState dodag.p2p) [] := Node.answers_modifyP2p interface held _
  refine ⟨_, noted.silent_trans (Node.answers_modifyP2p interface noted.held fun p2p =>
    { p2p with droCollectEvent := none, droCollecting := false }), ?_⟩
  have heldToo : (n.modifyP2p key fun p2p =>
      { p2p with
        lastRepliedAddressVector := p2p.addressVector
        droSequence := (p2p.droSequence + 1) &&& p2pDroSeqMax
        droAckPending := n.attributes.p2pDroAckRequested
        droRetriesLeft := n.attributes.p2pDroMaxRetransmissions }).dodags[key]? =
      some { dodag with p2p := n.startedP2pState dodag.p2p } := noted.held
  unfold Node.startReply
  dsimp only
  rw [heldToo]
  exact if_pos single

/-- The reply over the routers, for the one source route asked for: it stops the discovery. -/
def sourceReply (key : DodagKey) (target : Ipv6Address) (routers : List Ipv6Address)
    (trackAck : Bool) (sequence : UInt8) : P2pReply :=
  { key := key
    stop := true
    ackRequested := trackAck
    sequence := sequence &&& p2pDroSeqMax
    hopByHop := false
    addressVector := routers
    target := target }

/-- The P2P-DRO by which the Target gives the reply over the routers: NH names the last of
them. -/
def RepliesWith (key : DodagKey) (target : Ipv6Address) (routers : List Ipv6Address)
    (dro : P2pDroHeader) : Prop :=
  ∃ trackAck sequence, dro =
    { (sourceReply key target routers trackAck sequence).dro routers.length 0 with
      sequence := sequence }

theorem AskingRoute.repliesWith {vector : List Ipv6Address} {own : Ipv6Address}
    (asking : AskingRoute target (vector ++ [own]) dodag.p2p) (keyed : dodag.key = key)
    (isTarget : n.ipv6.isOwnAddress target = true) (notAny : target.isAny = false) :
    RepliesWith key target vector (n.p2pDroMessage dodag key dodag.p2p.addressVector
      (!n.hasOtherP2pTargets dodag) n.attributes.p2pDroAckRequested) := by
  have matched : n.matchedP2pTargetAddress dodag = target := by
    rw [Node.matchedP2pTargetAddress, asking.asks, List.find?_cons_of_pos isTarget,
      Option.getD_some]
  have last : n.hasOtherP2pTargets dodag = false := by
    rw [Node.hasOtherP2pTargets, asking.alone]
    rfl
  subst keyed
  refine ⟨n.attributes.p2pDroAckRequested, dodag.p2p.droSequence, ?_⟩
  rw [asking.gathered, last]
  unfold Node.p2pDroMessage
  dsimp only
  rw [matched, notAny, asking.hopByHop, List.dropLast_concat, List.length_append,
    List.length_singleton, Nat.add_sub_cancel]
  rfl

end Ends

/-! ## The way back -/

/-- The P2P-DRO that the first of the routers hears comes out of the last: each multicasts one
when it hears it. -/
inductive Relayed : P2pDroHeader → List Hop → P2pDroHeader → Prop
  | out {dro : P2pDroHeader} : Relayed dro [] dro
  | hop {dro said last : P2pDroHeader} {h : Hop} {rest : List Hop}
      (sends : said ∈ h.node.drosSent (h.node.hearDro dro.serialize))
      (relayed : Relayed said rest last) : Relayed dro (h :: rest) last

/-- A router of the vector, in the temporary DAG still, as the reply comes to it: no other
address of the vector is its own. -/
structure Hop.RelaysReply (h : Hop) (key : DodagKey) (vector : List Ipv6Address) : Prop where
  running : h.node.sockets.isEmpty = false
  member : ∃ dodag, h.node.dodags[key]? = some dodag ∧ dodag.isTemporary = true ∧
    dodag.p2p.target.isAny = false ∧ dodag.p2p.isOrigin = false
  isOwn : h.node.ipv6.isOwnAddress h.address = true
  once : ∀ address ∈ vector, h.node.ipv6.isOwnAddress address = true → address = h.address

section Returning

variable {n : Node} {h : Hop} {reply : P2pReply} {dro last : P2pDroHeader} {hops : List Hop}
  {k : Nat}

theorem Hop.RelaysReply.takesPart (relays : h.RelaysReply reply.key reply.addressVector) :
    h.node.TakesPart reply false := by
  obtain ⟨dodag, held, temporary, isTarget, role⟩ := relays.member
  exact ⟨dodag, held, temporary, isTarget, role, fun origin => by cases origin⟩

/-- NH names the router. -/
theorem Hop.RelaysReply.namedNext (relays : h.RelaysReply reply.key reply.addressVector)
    (fits : reply.Fits) (distinct : reply.addressVector.Nodup)
    (place : reply.addressVector[k]? = some h.address) (compr : UInt8) :
    h.node.namedNext (reply.rdo (k + 1) compr) = true := by
  have inside : k + 1 ≤ reply.addressVector.length :=
    (List.getElem?_eq_some_iff.mp place).1
  have position : (reply.rdo (k + 1) compr).maxRankOrNh.toNat = k + 1 := fits.toNat_nh inside
  have few : reply.addressVector.countP h.node.ipv6.isOwnAddress ≤ 1 := by
    refine Nat.le_trans (List.countP_mono_left fun address mem isOwn => ?_)
      (List.nodup_iff_count_le_one.mp distinct h.address)
    exact beq_iff_eq.mpr (relays.once address mem isOwn)
  unfold Node.namedNext
  rw [position]
  change ((reply.addressVector[k]?).any h.node.ipv6.isOwnAddress &&
    decide (reply.addressVector.countP h.node.ipv6.isOwnAddress ≤ 1)) = true
  rw [place, Option.any_some, relays.isOwn, decide_eq_true few]
  rfl

/-- A source-routed reply goes from router to router, each one named by NH. -/
theorem Relayed.octets (relayed : Relayed dro hops last) (fits : reply.Fits)
    (source : reply.hopByHop = false) (distinct : reply.addressVector.Nodup)
    (within_ : k ≤ reply.addressVector.length)
    (back : hops.map Hop.address = (reply.addressVector.take k).reverse)
    (relays : ∀ h ∈ hops, h.RelaysReply reply.key reply.addressVector)
    (hears : dro.serialize = reply.octets k) : last.serialize = reply.octets 0 := by
  induction relayed generalizing k with
  | out =>
    have none_ : k = 0 := by
      have lengths := congrArg List.length back
      rw [List.map_nil, List.length_reverse, List.length_take, Nat.min_eq_left within_] at lengths
      exact lengths.symm
    rw [hears, none_]
  | @hop dro said last h rest sends _ ih =>
    cases k with
    | zero => cases back
    | succ k =>
      rw [List.take_add_one, List.getElem?_eq_getElem within_, Option.toList_some,
        List.reverse_append, List.reverse_singleton, List.singleton_append, List.map_cons,
        List.cons.injEq] at back
      have here := relays h List.mem_cons_self
      have place : reply.addressVector[k]? = some h.address := by
        rw [List.getElem?_eq_getElem within_, back.1]
      have named := here.namedNext fits distinct place reply.compr
      rw [hears, (Node.hearDro_of_named fits within_ here.running here.takesPart named fun kind =>
        absurd (source.symm.trans kind) Bool.false_ne_true).2.2] at sends
      refine ih (Nat.le_of_succ_le within_) back.2 (fun h mem =>
        relays h (List.mem_cons_of_mem _ mem)) ?_
      rw [List.mem_singleton.mp sends]
      rfl

end Returning

/-! ## Both ways -/

/-- `DiscoverP2pRoute` asks for one source route to the target, and the P2P mode DIO gets over
the routers to it: it joins by the DIO. -/
structure P2pSought (orig : Node) (key : DodagKey) (target : Ipv6Address) (routers : List Hop)
    (t : Hop) (dio : DioHeader) (m : Node) (dodag : DodagMembership) : Prop where
  asks : (orig.discoverP2pRoute target false).1 = some key
  single : orig.attributes.p2pNumRoutes = 0
  floods : ∃ (speaker : Node) (first : DioHeader),
    speaker.partIn key = (orig.apply (.discoverP2pRoute target false)).partIn key ∧
      speaker.Utters key first ∧ P2pFloods key first routers dio
  joins : t.JoinsP2p dio m dodag
  reached : m.ipv6.isOwnAddress target = true
  room : RoomFor key target (routers.map Hop.address ++ [t.address])

/-- The Target answers a source-routed P2P-RPL discovery at once, with one P2P-DRO on each
interface it runs RPL on: over exactly the routers that the DIO has passed, in their order from
the Origin, whatever routes the routers drew. -/
theorem P2pSought.answered {orig m : Node} {key : DodagKey} {target : Ipv6Address}
    {routers : List Hop} {t : Hop} {dio : DioHeader} {dodag : DodagMembership}
    (sought : P2pSought orig key target routers t dio m dodag) {interface : Nat}
    (runs : interface ∈ m.sockets) :
    ∃ dro, RepliesWith key target (routers.map Hop.address) dro ∧
      Node.drosOn interface (t.after dio).outputs = dro :: Node.drosOn interface m.outputs := by
  obtain ⟨speaker, first, kept, utters, floods⟩ := sought.floods
  obtain ⟨p2p, part, asking, -, -, notAny⟩ :=
    Node.asking_discoverP2pRoute sought.single sought.asks
  have asksFirst := asking.asksRoute notAny (kept.trans part) utters
  have roomThere : RoomFor key target ([] ++ routers.map Hop.address) := fun vector before =>
    sought.room vector (before.trans (List.prefix_append _ _))
  have asks := floods.gathers asksFirst notAny roomThere
  rw [List.nil_append] at asks
  obtain ⟨-, keyed, -, ready, gathered, answers, after, asked, isTarget, unanswered, -⟩ :=
    sought.joins.after_eq interface asks (sought.room _ (List.prefix_refl _))
  rw [sought.reached] at isTarget
  have starts : ready.replyAsTarget key = ready.startReply key := by
    have fresh : gathered.addressVector ≠ gathered.lastRepliedAddressVector := by
      rw [asked.gathered, unanswered]
      exact List.concat_ne_nil _ _
    unfold Node.replyAsTarget
    rw [answers.held]
    exact if_pos (by simp only [isTarget, asked.reply, decide_eq_true fresh, Bool.and_self])
  obtain ⟨closed, closes, sends⟩ :=
    Node.startReply_single interface answers.held asked.numRoutes
  have replying := answers.silent_trans closes
  have isOwn : closed.ipv6.isOwnAddress target = true := by
    rw [replying.ipv6]
    exact sought.reached
  have runsToo : interface ∈ closed.sockets := by
    obtain ⟨outputs, rfl, -⟩ := replying
    exact runs
  have message := @AskingRoute.repliesWith closed key { dodag with p2p := _ } target
    (routers.map Hop.address) t.address
    (show AskingRoute target _ { ready.startedP2pState gathered with
      droCollectEvent := none, droCollecting := false } from
      ⟨asked.asks, asked.hopByHop, asked.numRoutes, asked.reply, asked.alone, asked.gathered,
        asked.candidates⟩) keyed isOwn notAny
  refine ⟨_, message, ?_⟩
  obtain ⟨outputs, whole, dros⟩ :=
    replying.silent_trans (Node.answers_sendP2pDro interface replying.held)
  rw [Node.copyOn, if_pos runsToo] at dros
  rw [after, starts, sends, whole]
  change Node.drosOn interface (outputs ++ m.outputs) = _
  rw [Node.drosOn_append, dros]
  rfl

/-- What is written of the sequence number is what the reply says of it. -/
theorem octets_sourceReply {key : DodagKey} {target : Ipv6Address} {routers : List Ipv6Address}
    (trackAck : Bool) (sequence : UInt8) :
    ({ (sourceReply key target routers trackAck sequence).dro routers.length 0 with
      sequence := sequence } : P2pDroHeader).serialize =
      (sourceReply key target routers trackAck sequence).octets routers.length := by
  rw [P2pReply.octets, P2pDroHeader.serialize, P2pDroHeader.serialize, P2pDroHeader.flags,
    P2pDag.sequence_bits]
  rfl

theorem fits_sourceReply {key : DodagKey} {target : Ipv6Address} {routers : List Ipv6Address}
    (room : RoomFor key target routers) (trackAck : Bool) (sequence : UInt8) :
    (sourceReply key target routers trackAck sequence).Fits where
  sequence := by
    change sequence &&& p2pDroSeqMax < 4
    rw [UInt8.lt_iff_toNat_lt, UInt8.toNat_and]
    exact Nat.lt_of_le_of_lt Nat.and_le_right (by decide)
  entries := room routers (List.prefix_refl _)

/-- A source-routed P2P-RPL discovery along a line of routers: the P2P mode DIO goes from one to
the next, the Target answers, and its reply goes back over the same routers.  The Origin then
holds the route over exactly these routers, in their order, and it lasts for the lifetime of a
route. -/
theorem P2pSought.source_route {orig m home : Node} {key : DodagKey} {target : Ipv6Address}
    {routers backs : List Hop} {t : Hop} {dio : DioHeader} {dodag : DodagMembership}
    {dro last : P2pDroHeader} {interface : Nat}
    (sought : P2pSought orig key target routers t dio m dodag) (runs : interface ∈ m.sockets)
    (back : backs.map Hop.address = (routers.map Hop.address).reverse)
    (distinct : (routers.map Hop.address).Nodup)
    (relays : ∀ h ∈ backs, h.RelaysReply key (routers.map Hop.address))
    (handed : (Node.drosOn interface (t.after dio).outputs).head? = some dro)
    (relayed : Relayed dro backs last)
    (kept : home.partIn key = (orig.apply (.discoverP2pRoute target false)).partIn key) :
    ∃ route, (home.hearDro last.serialize).p2pRoutes[target]? = some route ∧
      route.hops = routers.map Hop.address ++ [target] ∧
      route.expire = home.now + home.attributes.routeLifetime := by
  obtain ⟨said, ⟨trackAck, sequence, message⟩, sent⟩ := sought.answered runs
  rw [sent, List.head?_cons, Option.some.injEq] at handed
  subst handed message
  have fits : (sourceReply key target (routers.map Hop.address) trackAck sequence).Fits :=
    fits_sourceReply (fun vector before =>
      sought.room vector (before.trans (List.prefix_append _ _))) trackAck sequence
  have gone := relayed.octets fits rfl distinct (Nat.le_refl _)
    (back.trans (congrArg List.reverse (List.take_length).symm)) relays
    (octets_sourceReply trackAck sequence)
  obtain ⟨p2p, part, asking, isOrigin, unstored, notAny⟩ :=
    Node.asking_discoverP2pRoute sought.single sought.asks
  obtain ⟨member, held, -, temporary, -, rfl⟩ := Node.member_of_partIn (kept.trans part)
  have takes : home.TakesPart
      (sourceReply key target (routers.map Hop.address) trackAck sequence) true :=
    ⟨member, held, decide_eq_true temporary, asking.asks ▸ notAny, isOrigin, fun _ => asking.asks⟩
  have ready : home.ReadyFor
      (sourceReply key target (routers.map Hop.address) trackAck sequence) := by
    intro other heldToo stored
    cases held.symm.trans heldToo
    rw [unstored] at stored
    cases stored
  obtain ⟨seat, ⟨route, found, hops, expire⟩, -⟩ :=
    Node.hearDro_of_origin fits (Nat.zero_le _) takes ready
  rw [gone]
  refine ⟨route, found, hops, ?_⟩
  rw [expire, seat.now, seat.attributes]

/-- A node joins by a P2P mode DIO that it takes in, where what it is then has the property. -/
theorem Hop.exists_joinsP2p {h : Hop} {dio : DioHeader} {has : Node → Bool}
    (takes : h.node.takesDio dio h.heard = true) (absent : h.node.dodags[dio.key]?.isNone = true)
    (joins : h.node.joinsBy dio = true) (isAddress : h.address.isAny = false)
    (holds : (h.node.beforeDiscovery dio h.heard).any (fun m =>
      (m.dodags[dio.key]?).any fun dodag =>
        m.getGlobalAddressOnInterface dodag h.heard.interface = h.address && has m) = true) :
    ∃ m dodag, h.JoinsP2p dio m dodag ∧ has m = true := by
  obtain ⟨m, handles, holds⟩ := (Option.any_eq_true _ _).mp holds
  obtain ⟨dodag, held, holds⟩ := (Option.any_eq_true _ _).mp holds
  rw [Bool.and_eq_true, decide_eq_true_eq] at holds
  exact ⟨m, dodag, ⟨⟨rfl, takes⟩, Option.isNone_iff_eq_none.mp absent, joins, handles, held,
    holds.1, isAddress⟩, holds.2⟩

/-- The P2P mode DIO of the node that looks for 2001:db8::9. -/
def lineP2pDio (rank : UInt16) (vector : List Ipv6Address) : DioHeader :=
  { instanceId := 0x80
    rank := rank
    mop := mopP2pRouteDiscovery
    grounded := true
    dodagId := lineKey.dodagId
    dagConf := some
      { intervalDoublings := 4
        intervalMin := 7
        redundancy := 1
        maxRankIncrease := 0
        minHopRankIncrease := 128
        ocp := 0
        defaultLifetime := 30
        lifetimeUnit := 60 }
    p2pRdo := some
      { numRoutes := 0
        lifetime := 2
        maxRankOrNh := 8
        target := 0x20010db8000000000000000000000009#128
        addressVector := vector } }

theorem lineP2pDio_encodable {rank : UInt16} {vector : List Ipv6Address}
    (fits : vector.length ≤ p2pMaxAddressVectorEntries
      (p2pRdoCompr 0x20010db8000000000000000000000009#128 vector lineKey.dodagId)) :
    (lineP2pDio rank vector).Encodable where
  mop := (by decide : mopP2pRouteDiscovery ≤ 7)
  preference := (by decide : (0 : UInt8) ≤ 7)
  lql lql held := by cases held
  rreq rreq held := by cases held
  rrep rrep held := by cases held
  arts art mem := by cases mem
  p2pRdo rdo held := by
    cases held
    exact ⟨(by decide : (0 : UInt8) < 4), (by decide : (2 : UInt8) < 4),
      (by decide : (8 : UInt8) < 64), fits⟩

/-- The Origin, its temporary DAG rooted. -/
def lineP2pOrigin : Node :=
  (Node.started Node.seekerIpv6).apply
    (.discoverP2pRoute 0x20010db8000000000000000000000009#128 false)

/-- The routers, once the P2P mode DIO has come by. -/
def lineP2pNear : Node := lineNear.after (lineP2pDio 128 []).compressed

def lineP2pFar : Node := lineFar.after (lineP2pDio 256 [lineNear.address]).compressed

theorem lineP2pDio_floods :
    lineP2pOrigin.Utters lineKey (lineP2pDio 128 []).compressed ∧
      P2pFloods lineKey (lineP2pDio 128 []).compressed [lineNear, lineFar]
        (lineP2pDio 384 lineVector).compressed := by
  have sent : (lineP2pOrigin.sendDio lineKey allNodesMulticast 0).outputs =
        .sent 1 0xfe800000000000000000000000000002#128 allNodesMulticast
          (.dio (lineP2pDio 128 [])) :: lineP2pOrigin.outputs ∧
      (lineP2pNear.sendDio lineKey allNodesMulticast 0).outputs =
        .sent 1 0xfe800000000000000000000000000005#128 allNodesMulticast
          (.dio (lineP2pDio 256 [lineNear.address])) :: lineP2pNear.outputs ∧
      (lineP2pFar.sendDio lineKey allNodesMulticast 0).outputs =
        .sent 1 0xfe800000000000000000000000000006#128 allNodesMulticast
          (.dio (lineP2pDio 384 lineVector)) :: lineP2pFar.outputs := by
    decide +kernel
  obtain ⟨m, dodag, joins, passes⟩ := @Hop.exists_joinsP2p lineNear
    (lineP2pDio 128 []).compressed
    (fun m => !m.ipv6.isOwnAddress 0x20010db8000000000000000000000009#128)
    (by decide +kernel) (by decide +kernel) (by decide +kernel) (by decide) (by decide +kernel)
  obtain ⟨m', dodag', joins', passes'⟩ := @Hop.exists_joinsP2p lineFar
    (lineP2pDio 256 [lineNear.address]).compressed
    (fun m => !m.ipv6.isOwnAddress 0x20010db8000000000000000000000009#128)
    (by decide +kernel) (by decide +kernel) (by decide +kernel) (by decide) (by decide +kernel)
  refine ⟨Node.utters_of_sent (lineP2pDio_encodable (by decide)) sent.1, ?_⟩
  exact .hop joins (Bool.not_eq_true' _ |>.mp passes) rfl
    (Node.utters_of_sent (lineP2pDio_encodable (by decide)) sent.2.1)
    (.hop joins' (Bool.not_eq_true' _ |>.mp passes') rfl
      (Node.utters_of_sent (lineP2pDio_encodable (by decide)) sent.2.2) .out)

/-- The P2P-DRO over the routers. -/
def lineP2pDro (nh compr : UInt8) : P2pDroHeader :=
  { instanceId := 0x80
    stop := true
    ackRequested := true
    sequence := 1
    dodagId := lineKey.dodagId
    p2pRdo := some
      { reply := false
        compr := compr
        maxRankOrNh := nh
        target := 0x20010db8000000000000000000000009#128
        addressVector := lineVector } }

/-- The target joins by it. -/
theorem lineP2p_sought : ∃ m dodag,
    P2pSought (Node.started Node.seekerIpv6) lineKey 0x20010db8000000000000000000000009#128
      [lineNear, lineFar] (lineTarget false) (lineP2pDio 384 lineVector).compressed m dodag ∧
      1 ∈ m.sockets := by
  obtain ⟨m, dodag, joins, facts⟩ := @Hop.exists_joinsP2p (lineTarget false)
    (lineP2pDio 384 lineVector).compressed
    (fun m => m.ipv6.isOwnAddress 0x20010db8000000000000000000000009#128 && m.sockets.contains 1)
    (by decide +kernel) (by decide +kernel) (by decide +kernel) (by decide) (by decide +kernel)
  simp only [Bool.and_eq_true] at facts
  have room : ∀ vector ∈ (lineVector ++ [(lineTarget false).address]).inits,
      vector.length ≤ p2pMaxAddressVectorEntries
        (p2pRdoCompr 0x20010db8000000000000000000000009#128 vector lineKey.dodagId) := by
    decide +kernel
  exact ⟨m, dodag, ⟨by decide +kernel, rfl, ⟨lineP2pOrigin, _, rfl, lineP2pDio_floods⟩, joins,
    facts.1, fun vector before => room vector ((List.mem_inits _ _).mpr before)⟩,
    ExtTreeSet.mem_iff_contains.mpr facts.2⟩

/-- The routers, as the P2P-DRO comes to them. -/
def lineP2pBack : List Hop :=
  [{ lineFar with node := lineP2pFar }, { lineNear with node := lineP2pNear }]

theorem lineP2pBack_facts :
    lineP2pBack.all (fun h =>
      (h.node.dodags[lineKey]?).any (fun dodag => dodag.isTemporary &&
        !dodag.p2p.target.isAny && !dodag.p2p.isOrigin) &&
      !h.node.sockets.isEmpty && h.node.ipv6.isOwnAddress h.address &&
      lineVector.all fun address =>
        !h.node.ipv6.isOwnAddress address || address = h.address) = true := by
  decide +kernel

theorem lineP2pBack_relays : ∀ h ∈ lineP2pBack, h.RelaysReply lineKey lineVector := by
  intro h mem
  have facts := List.all_eq_true.mp lineP2pBack_facts h mem
  simp only [Bool.and_eq_true, Bool.not_eq_true', List.all_eq_true, Bool.or_eq_true,
    decide_eq_true_eq] at facts
  obtain ⟨⟨⟨member, running⟩, isOwn⟩, once⟩ := facts
  obtain ⟨dodag, held, joined⟩ := (Option.any_eq_true _ _).mp member
  simp only [Bool.and_eq_true, Bool.not_eq_true'] at joined
  refine ⟨running, ⟨dodag, held, joined.1.1, joined.1.2, joined.2⟩, isOwn, ?_⟩
  intro address listed own
  refine (once address listed).resolve_left fun foreign => ?_
  rw [own] at foreign
  cases foreign

/-- The Origin has the route over the routers, in order. -/
theorem line_p2p_route : ∃ route,
    (lineP2pOrigin.hearDro (lineP2pDro 0 8).serialize).p2pRoutes[
        (0x20010db8000000000000000000000009#128 : Ipv6Address)]? = some route ∧
      route.hops =
        [0x20010db8000000000000000000000005#128, 0x20010db8000000000000000000000006#128,
          0x20010db8000000000000000000000009#128] ∧
      route.expire = lineP2pOrigin.now + lineP2pOrigin.attributes.routeLifetime := by
  obtain ⟨m, dodag, sought, runs⟩ := lineP2p_sought
  have handed : (Node.drosOn 1 ((lineTarget false).after
        (lineP2pDio 384 lineVector).compressed).outputs).head? = some (lineP2pDro 2 0) ∧
      lineP2pDro 1 8 ∈ lineP2pFar.drosSent (lineP2pFar.hearDro (lineP2pDro 2 0).serialize) ∧
      lineP2pDro 0 8 ∈ lineP2pNear.drosSent (lineP2pNear.hearDro (lineP2pDro 1 8).serialize) := by
    decide +kernel
  have back : lineP2pBack.map Hop.address = ([lineNear, lineFar].map Hop.address).reverse := rfl
  have distinct : ([lineNear, lineFar].map Hop.address).Nodup := by decide +kernel
  exact sought.source_route runs back distinct lineP2pBack_relays handed.1
    (.hop handed.2.1 (.hop handed.2.2 .out)) rfl

end Rpl
