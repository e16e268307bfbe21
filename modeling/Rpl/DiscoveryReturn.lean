import Rpl.DiscoveryReply

/-!
# Source-routed discovery in both directions

Where a router on the way takes its link for an asymmetric one, the target roots an
RREP-Instance.  Its DIOs gather the addresses of the routers on the way back, and the OrigNode
turns them round.  A discovery leaves the OrigNode with the same route either way.
-/

namespace Rpl

open Std

/-! ## The RREP-Instance -/

/-- An RREP-DIO of the RREP-Instance for the OrigNode, without hop-by-hop routes, that has
gathered the vector. -/
structure BringsBack (key : DodagKey) (origNode : Ipv6Address) (vector : List Ipv6Address)
    (dio : DioHeader) : Prop where
  keyed : dio.key = key
  rrep : ∃ rrep, dio.rrep = some rrep ∧ rrep.hopByHop = false ∧ rrep.addressVector = vector
  arts : dio.arts.map ArtOption.target = [origNode]

/-- The state of an RREP-Instance for the OrigNode. -/
structure BringingBack (origNode : Ipv6Address) (vector : List Ipv6Address) (aodv : AodvRreqState) :
    Prop where
  isRrepInstance : aodv.isRrepInstance = true
  isFor : aodv.origNode = origNode
  hopByHop : aodv.hopByHop = false
  gathered : aodv.addressVector = vector

section Returning

variable {n m : Node} {key : DodagKey} {dodag : DodagMembership} {dio : DioHeader} {h : Hop}
  {origNode : Ipv6Address} {vector : List Ipv6Address}

/-- A member of the RREP-Instance sends what it has gathered. -/
theorem BringingBack.brings {aodv : AodvRreqState} (bringing : BringingBack origNode vector aodv)
    (role : n.roleIn key = some (key, mopP2pRouteDiscovery, aodv)) (utters : n.Utters key dio) :
    BringsBack key origNode vector dio := by
  obtain ⟨dodag, held, same⟩ := Option.map_eq_some_iff.mp role
  obtain ⟨keyed, temporary, rfl⟩ : dodag.key = key ∧ dodag.mop = mopP2pRouteDiscovery ∧
      dodag.aodv = aodv := by
    simpa only [DodagMembership.role, Prod.mk.injEq] using same
  have option : dodag.discoveryOption = .rrep := by
    have isTemporary : dodag.isTemporary = true := decide_eq_true temporary
    rw [DodagMembership.discoveryOption, isTemporary, bringing.isRrepInstance]
    rfl
  obtain ⟨enableLql, rfl⟩ := utters.eq_compressed held (by rw [option]; decide)
  have keyedToo := dodag.dioMessage_key enableLql []
  unfold DodagMembership.dioMessage at keyedToo ⊢
  rw [option] at keyedToo ⊢
  exact ⟨keyedToo.trans keyed, ⟨_, rfl, bringing.hopByHop, bringing.gathered⟩,
    congrArg (fun origNode => [origNode]) bringing.isFor⟩

theorem BringsBack.getRrep (brings : BringsBack key origNode vector dio) :
    dio.rrep.isSome = true ∧ dio.getRrep.hopByHop = false ∧ dio.getRrep.addressVector = vector ∧
      dio.getArt.target = origNode := by
  obtain ⟨rrep, held, hopByHop, gathered⟩ := brings.rrep
  have named := brings.arts
  cases arts : dio.arts with
  | nil =>
    rw [arts] at named
    cases named
  | cons art rest =>
    rw [arts, List.map_cons, List.cons.injEq] at named
    rw [DioHeader.getRrep, held, DioHeader.getArt, arts]
    exact ⟨rfl, hopByHop, gathered, named.1⟩

/-- A router that an RREP-DIO makes a member adds its address to the vector, and the OrigNode
has its route. -/
theorem Hop.Joins.after_rrep (joins : h.Joins dio m dodag)
    (brings : BringsBack key origNode vector dio)
    (room : vector.length < aodvAddressVectorMaxEntries) :
    dodag.key = key ∧ dodag.mop = mopP2pRouteDiscovery ∧ ∃ (joined : Node) (aodv : AodvRreqState),
      joined.dodags[key]? = some { dodag with aodv := aodv } ∧
        BringingBack origNode (vector ++ [h.address]) aodv ∧ aodv.target = key.dodagId ∧
        h.after dio =
          if m.ipv6.isOwnAddress origNode then joined.completeAsymmetricRoute key else joined := by
  obtain ⟨isRrep, sourceRouted, gathered, asks⟩ := brings.getRrep
  obtain rfl := brings.keyed
  have clean := (Node.clean_of_joins joins.joins joins.handles joins.held).1
  obtain ⟨keyed, temporary⟩ := joins.place (.inr isRrep)
  have holds : m.holds dio.key = true := by
    rw [Node.holds, ExtTreeMap.contains_eq_isSome_getElem?, joins.held]
    rfl
  have handles := joins.takes.apply_eq_handleDiscovery joins.handles
  rw [Node.handleDiscovery_of_rrep joins.takes isRrep holds] at handles
  have heldUnbarred : (m.unbarred dio.key).dodags[dio.key]? = some dodag := joins.held
  have heeds : (m.unbarred dio.key).ignoresRrepInstance dodag dio h.heard.sender = false := by
    rw [Node.ignoresRrepInstance, clean, sourceRouted]
    rfl
  have sameAddress (aodv : AodvRreqState) :
      (m.unbarred dio.key).getGlobalAddressIn { dodag with aodv := aodv } = h.address :=
    joins.address
  have sameIpv6 : (m.unbarred dio.key).ipv6 = m.ipv6 := rfl
  generalize isUnbarred : m.unbarred dio.key = unbarred
    at heldUnbarred heeds sameAddress sameIpv6
  obtain ⟨first, armed⟩ : ∃ expiry, (unbarred.modifyAodv dio.key fun _ =>
      unbarred.withRrep dio dodag.aodv).armAodvExpiry dio.key = unbarred.setDodag dio.key
        { dodag with aodv := { unbarred.withRrep dio dodag.aodv with expiry := expiry } } := by
    rw [Node.modifyAodv, Node.setDodag_of_held heldUnbarred]
    obtain ⟨expiry, arms⟩ := @Node.armAodvExpiry_eq (unbarred.setDodag dio.key
      { dodag with aodv := unbarred.withRrep dio dodag.aodv }) _ _ ExtTreeMap.getElem?_insert_self
    exact ⟨expiry, by rw [arms, Node.setDodag_setDodag]⟩
  have extended := @Node.extendVector_setDodag unbarred dio.key { dodag with aodv :=
    { unbarred.withRrep dio dodag.aodv with expiry := first } } vector
    ((congrArg Ipv6Address.isAny (sameAddress _)).trans joins.isAddress) room
  rw [sameAddress] at extended
  obtain ⟨second, rearms⟩ := @Node.armAodvExpiry_eq (unbarred.setDodag dio.key
    { dodag with aodv := { unbarred.withRrep dio dodag.aodv with
      expiry := first
      addressVector := vector ++ [h.address] } }) dio.key _ ExtTreeMap.getElem?_insert_self
  rw [Node.setDodag_setDodag] at rearms
  refine ⟨keyed, temporary, unbarred.setDodag dio.key
    { dodag with aodv := { unbarred.withRrep dio dodag.aodv with
      addressVector := vector ++ [h.address]
      expiry := second } }, { unbarred.withRrep dio dodag.aodv with
      addressVector := vector ++ [h.address]
      expiry := second }, ExtTreeMap.getElem?_insert_self, ⟨rfl, asks, sourceRouted, rfl⟩, rfl, ?_⟩
  rw [Hop.after, handles]
  unfold Node.handleAodvRrepInstance
  extract_lets key rrep lifted
  have isLifted : lifted = unbarred := isUnbarred
  rw [isLifted, heldUnbarred]
  dsimp only
  rw [heeds, if_neg Bool.false_ne_true, armed, sourceRouted, if_neg Bool.false_ne_true, gathered,
    extended]
  dsimp only
  rw [Bool.not_true, if_neg Bool.false_ne_true, rearms, ← asks, ← sameIpv6]
  rfl

/-- A router that is not the OrigNode has what the RREP gathered and its own address. -/
theorem Hop.Joins.bringing (joins : h.Joins dio m dodag)
    (brings : BringsBack key origNode vector dio) (passes : m.ipv6.isOwnAddress origNode = false)
    (room : vector.length < aodvAddressVectorMaxEntries) :
    ∃ aodv, (h.after dio).roleIn key = some (key, mopP2pRouteDiscovery, aodv) ∧
      BringingBack origNode (vector ++ [h.address]) aodv := by
  obtain ⟨keyed, temporary, joined, aodv, held, bringing, -, after⟩ := joins.after_rrep brings room
  rw [passes, if_neg Bool.false_ne_true] at after
  refine ⟨aodv, ?_, bringing⟩
  rw [after, Node.roleIn, held, Option.map_some, DodagMembership.role]
  exact congrArg some (Prod.ext keyed (Prod.ext temporary rfl))

/-- The RREP that comes out of the routers has gathered their addresses in order. -/
theorem Floods.brings {first last : DioHeader} {hops : List Hop}
    (floods : Floods key first hops last) (brings : BringsBack key origNode vector first)
    (room : vector.length + hops.length ≤ aodvAddressVectorMaxEntries) :
    BringsBack key origNode (vector ++ hops.map Hop.address) last := by
  induction floods generalizing vector with
  | out =>
    rw [List.map_nil, List.append_nil]
    exact brings
  | @hop dio said last h m speaker dodag rest joins passes kept utters _ ih =>
    rw [brings.getRrep.2.2.2] at passes
    rw [List.length_cons] at room
    obtain ⟨aodv, role, bringing⟩ := joins.bringing brings passes (by omega)
    have onward := bringing.brings (kept.trans role) utters
    rw [List.map_cons, ← List.singleton_append, ← List.append_assoc]
    exact ih onward (by rw [List.length_append, List.length_singleton]; omega)

/-- The OrigNode stores the vector the other way round, with the TargNode in its own place. -/
theorem Hop.Joins.completes (joins : h.Joins dio m dodag)
    (brings : BringsBack key origNode vector dio) (home : m.ipv6.isOwnAddress origNode = true)
    (room : vector.length < aodvAddressVectorMaxEntries) :
    ∃ route, (h.after dio).aodvRoutes[key.dodagId]? = some route ∧
      route.hops = vector.reverse ++ [key.dodagId] := by
  obtain ⟨-, -, joined, aodv, held, bringing, isFor, after⟩ := joins.after_rrep brings room
  rw [home, if_pos rfl] at after
  rw [after, Node.completeAsymmetricRoute, held]
  dsimp only
  rw [isFor]
  refine ⟨_, ExtTreeMap.getElem?_insert_self, ?_⟩
  rw [Node.reversedRoute, bringing.gathered, List.dropLast_concat, isFor]

/-- The new instance of a target with an asymmetric path is an RREP-Instance for the OrigNode. -/
theorem Answers.roots {joined : Node} {answering : DodagMembership} {target : Ipv6Address}
    {rrepKey : DodagKey} (answers : Answers m joined dodag answering key target vector false)
    (absent : m.dodags[rrepKey]? = none) (other : rrepKey ≠ key)
    (rooted : ((joined.sendAodvRrep key).dodags[rrepKey]?).isSome = true) :
    ∃ aodv, (joined.sendAodvRrep key).roleIn rrepKey =
        some (rrepKey, mopP2pRouteDiscovery, aodv) ∧ BringingBack key.dodagId [] aodv := by
  have absentToo : joined.dodags[rrepKey]? = none := by
    rw [answers.dodags, OrderedMap.getElem?_insert_eq, if_neg other]
    exact absent
  rw [Node.sendAodvRrep, answers.held] at rooted ⊢
  dsimp only at rooted ⊢
  rw [answers.isSymmetric, Bool.not_false, if_pos rfl] at rooted ⊢
  have unrooted (n : Node) (same : n.dodags = joined.dodags)
      (rooted : (n.dodags[rrepKey]?).isSome = true) : False := by
    rw [same, absentToo] at rooted
    cases rooted
  unfold Node.startAodvRrepInstance at rooted ⊢
  dsimp only at rooted ⊢
  split at rooted
  · exact (unrooted joined rfl rooted).elim
  · next fresh =>
    rw [if_neg fresh]
    split at rooted
    · exact (unrooted joined rfl rooted).elim
    · split at rooted
      · exact (unrooted joined rfl rooted).elim
      · next formed created creates =>
        obtain ⟨root, dodags, keyed, temporary, clean, -⟩ :=
          Node.dodags_createLocalDodag creates
        have held : created.advanceAodvSeqNoForRrep.dodags[formed]? = some root := by
          rw [Node.advanceAodvSeqNoForRrep, dodags]
          exact ExtTreeMap.getElem?_insert_self
        obtain ⟨expiry, role, others⟩ := Node.roleIn_rooted held fun dodag =>
          Node.restartTrickle created.advanceAodvSeqNoForRrep.now
            (Node.withAodvParameters created.advanceAodvSeqNoForRrep.attributes
              { dodag with
                aodv := created.advanceAodvSeqNoForRrep.targNodeRrepState answering.aodv key
                  (joined.getGlobalAddressIn answering) dodag.aodv })
        by_cases isFormed : rrepKey = formed
        · subst isFormed
          exact ⟨_, role.trans (congrArg some (Prod.ext keyed (Prod.ext temporary rfl))), rfl, rfl,
            answers.hopByHop, rfl⟩
        · rw [others rrepKey isFormed, Node.advanceAodvSeqNoForRrep, dodags,
            OrderedMap.getElem?_insert_eq, if_neg isFormed] at rooted
          exact (unrooted joined rfl rooted).elim

end Returning

/-! ## Both ways -/

/-- `DiscoverRoute` asks for the target, and the RREQ gets over the routers to it: it joins by
the RREQ, under the address that is sought. -/
structure Sought (orig : Node) (key : DodagKey) (target : Ipv6Address) (routers : List Hop)
    (t : Hop) (dio : DioHeader) (m : Node) (dodag : DodagMembership) : Prop where
  asks : (orig.discoverRoute target false).1 = some key
  floods : ∃ (speaker : Node) (first : DioHeader),
    speaker.roleIn key = (orig.apply (.discoverRoute target false)).roleIn key ∧
      speaker.Utters key first ∧ Floods key first routers dio
  joins : t.Joins dio m dodag
  reached : m.ipv6.isOwnAddress target = true
  named : t.address = target
  few : routers.length < aodvAddressVectorMaxEntries

/-- The OrigNode, as the RREP gets home by unicast: it has had none from the target yet. -/
structure Hop.IsHome (o : Hop) (dio : DioHeader) (key : DodagKey) (target : Ipv6Address) :
    Prop where
  unicast : o.heard.toMulticast = false
  foreign : o.heard.sender ≠ o.node.ipv6.getLinkLocalAddress o.heard.interface
  keeps : o.node.dropsDio dio o.heard.sender = false
  member : ∃ dodag, o.node.dodags[key]? = some dodag ∧
    dodag.aodv.rrepHandled.contains target = false
  own : o.node.ipv6.isOwnAddress key.dodagId = true

section BothWays

variable {orig m : Node} {key : DodagKey} {target : Ipv6Address} {routers back : List Hop}
  {t o : Hop} {dio reply last : DioHeader} {dodag : DodagMembership}

/-- The target has the whole route as it answers. -/
theorem Sought.answers (sought : Sought orig key target routers t dio m dodag) :
    ∃ joined answering, Answers m joined dodag answering key target (routers.map Hop.address)
        (dio.getRreq.symmetric && !m.attributes.aodvForceAsymmetric) ∧
      t.after dio = joined.sendAodvRrep key ∧ dio.key = key := by
  obtain ⟨speaker, first, kept, utters, floods⟩ := sought.floods
  obtain ⟨aodv, role, seeking, isTarget⟩ := Node.seeking_discoverRoute sought.asks
  have few := sought.few
  obtain ⟨symmetric, seeks⟩ := floods.gathers (seeking.seeks isTarget (kept.trans role) utters)
    isTarget (by rw [List.length_nil, Nat.zero_add]; exact few.le)
  rw [List.nil_append] at seeks
  rw [seeks.getRreq.2.2]
  obtain ⟨joined, answering, answers, after⟩ := sought.joins.answers seeks sought.reached
    sought.named (by rw [List.length_map]; exact few)
  exact ⟨joined, answering, answers, after, seeks.keyed⟩

/-- Where every router on the way keeps the S flag, the RREP goes back by unicast over the same
routers, and leaves the OrigNode with the routers in order and the target after them. -/
theorem Sought.symmetric_route (sought : Sought orig key target routers t dio m dodag)
    (symmetric : dio.getRreq.symmetric = true)
    (unforced : m.attributes.aodvForceAsymmetric = false)
    (same : back.map Hop.address = (routers.map Hop.address).reverse)
    (distinct : (routers.map Hop.address ++ [target]).Nodup)
    (linked : m.LinkedTo dodag (nextOf key back))
    (delivers : (t.after dio).DeliversTo (nextOf key back) reply)
    (returns : Returns key (routers.map Hop.address ++ [target]) reply back last)
    (home : o.IsHome last key target) :
    ∃ route, (o.after last).aodvRoutes[target]? = some route ∧
      route.hops = routers.map Hop.address ++ [target] := by
  obtain ⟨joined, answering, answers, after, -⟩ := sought.answers
  rw [symmetric, unforced] at answers
  have gathered : routers.map Hop.address = (back.map Hop.address).reverse := by
    rw [same, List.reverse_reverse]
  obtain ⟨said, hands, replies⟩ := answers.replies (sought.named ▸ sought.joins.isAddress)
    gathered linked
  rw [← after] at hands
  have arrives := returns.replies (replies.delivered hands delivers)
    (congrArg (· ++ [target]) gathered) distinct
  obtain ⟨member, held, first⟩ := home.member
  exact Hop.stores_of_replies arrives home.unicast home.foreign home.keeps held first home.own
    (List.getLast?_concat ..)

/-- Where some router on the way clears the S flag, the RREP-Instance that the target roots
floods back over the same routers, and leaves the OrigNode with the same route. -/
theorem Sought.asymmetric_route (sought : Sought orig key target routers t dio m dodag)
    (asymmetric : (dio.getRreq.symmetric && !m.attributes.aodvForceAsymmetric) = false)
    (same : back.map Hop.address = (routers.map Hop.address).reverse) {rrepKey : DodagKey}
    (absent : m.dodags[rrepKey]? = none)
    (rooted : ((t.after dio).dodags[rrepKey]?).isSome = true)
    (rootedAt : rrepKey.dodagId = target) {speaker home : Node} {there : DodagMembership}
    (kept : speaker.roleIn rrepKey = (t.after dio).roleIn rrepKey)
    (utters : speaker.Utters rrepKey reply) (floods : Floods rrepKey reply back last)
    (joins : o.Joins last home there) (own : home.ipv6.isOwnAddress key.dodagId = true) :
    ∃ route, (o.after last).aodvRoutes[target]? = some route ∧
      route.hops = routers.map Hop.address ++ [target] := by
  obtain ⟨joined, answering, answers, after, keyed⟩ := sought.answers
  rw [asymmetric] at answers
  have other : rrepKey ≠ key := by
    intro equal
    have held := sought.joins.held
    rw [keyed, ← equal, absent] at held
    cases held
  rw [after] at rooted kept
  obtain ⟨aodv, role, bringing⟩ := answers.roots absent other rooted
  have length : back.length = routers.length := by
    have := congrArg List.length same
    rwa [List.length_map, List.length_reverse, List.length_map] at this
  have few := sought.few
  have arrives := floods.brings (bringing.brings (kept.trans role) utters)
    (by rw [List.length_nil, Nat.zero_add, length]; exact few.le)
  rw [List.nil_append, same] at arrives
  obtain ⟨route, stored, hops⟩ := joins.completes arrives own
    (by rw [List.length_reverse, List.length_map]; exact few)
  rw [rootedAt, List.reverse_reverse] at hops
  rw [rootedAt] at stored
  exact ⟨route, stored, hops⟩

end BothWays

/-! ### A line of four -/

section Line

/-- A node with the link-local and the global address on interface 1. -/
def lineIpv6 (linkLocal globalAddress : Ipv6Address) : Ipv6L3Protocol :=
  .ofInterfaces
    [{},
      { addresses :=
          [{ address := linkLocal, scope := .linkLocal },
            { address := globalAddress, scope := .global }] }]

/-- The RREQ-Instance of a node that looks for 2001:db8::9. -/
def lineKey : DodagKey := ⟨0x80, 0x20010db8000000000000000000000001#128⟩

def lineBase (rank : UInt16) (dodagId : Ipv6Address) : DioHeader :=
  { instanceId := 0x80
    rank := rank
    mop := mopP2pRouteDiscovery
    grounded := true
    dodagId := dodagId
    dagConf := some
      { intervalDoublings := 4
        intervalMin := 7
        redundancy := 1
        maxRankIncrease := 1024
        minHopRankIncrease := 128
        ocp := 0
        defaultLifetime := 30
        lifetimeUnit := 60 } }

def lineRreq (rank : UInt16) (vector : List Ipv6Address) : DioHeader :=
  { lineBase rank lineKey.dodagId with
    rreq := some
      { symmetric := true, lifetime := 1, rankLimit := 8, origSeqNo := 1, addressVector := vector }
    arts := [{ target := 0x20010db8000000000000000000000009#128 }] }

def lineRrep (rank : UInt16) (vector : List Ipv6Address) : DioHeader :=
  { lineBase rank 0x20010db8000000000000000000000009#128 with
    rrep := some { lifetime := 1, rankLimit := 8, addressVector := vector }
    arts := [{ destSeqNo := 1, target := lineKey.dodagId }] }

/-- The RREP by unicast. -/
def lineReply : DioHeader :=
  { lineRrep 128
      [0x20010db8000000000000000000000005#128, 0x20010db8000000000000000000000006#128,
        0x20010db8000000000000000000000009#128] with
    dagConf := none }

theorem lineRreq_encodable {rank : UInt16} {vector : List Ipv6Address}
    (few : vector.length ≤ aodvAddressVectorMaxEntries) : (lineRreq rank vector).Encodable where
  mop := (by decide : mopP2pRouteDiscovery ≤ 7)
  preference := (by decide : (0 : UInt8) ≤ 7)
  lql lql held := by cases held
  rreq rreq held := by
    cases held
    exact ⟨vectorFits_of_le few, (by decide : (1 : UInt8) ≤ 3), (by decide : (8 : UInt8) ≤ 127)⟩
  rrep rrep held := by cases held
  arts art mem := by
    rw [List.mem_singleton.mp mem]
    decide
  p2pRdo rdo held := by cases held

theorem lineRrep_encodable {rank : UInt16} {vector : List Ipv6Address}
    {conf : Option DagConfiguration} (few : vector.length ≤ aodvAddressVectorMaxEntries) :
    { lineRrep rank vector with dagConf := conf }.Encodable where
  mop := (by decide : mopP2pRouteDiscovery ≤ 7)
  preference := (by decide : (0 : UInt8) ≤ 7)
  lql lql held := by cases held
  rreq rreq held := by cases held
  rrep rrep held := by
    cases held
    exact ⟨vectorFits_of_le few, (by decide : (1 : UInt8) ≤ 3), (by decide : (8 : UInt8) ≤ 127),
      (by decide : (0 : UInt8) ≤ 63)⟩
  arts art mem := by
    rw [List.mem_singleton.mp mem]
    decide
  p2pRdo rdo held := by cases held

/-- The router 2001:db8::5, next to the node that looks. -/
def lineNear : Hop :=
  { node := Node.started (lineIpv6 0xfe800000000000000000000000000005#128
      0x20010db8000000000000000000000005#128)
    heard := { sender := 0xfe800000000000000000000000000002#128, interface := 1 }
    address := 0x20010db8000000000000000000000005#128 }

/-- The router 2001:db8::6, next to the target. -/
def lineFar : Hop :=
  { node := Node.started (lineIpv6 0xfe800000000000000000000000000006#128
      0x20010db8000000000000000000000006#128)
    heard := { sender := 0xfe800000000000000000000000000005#128, interface := 1 }
    address := 0x20010db8000000000000000000000006#128 }

/-- Their addresses, in order. -/
def lineVector : List Ipv6Address := [lineNear.address, lineFar.address]

/-- The target, that may take every path for an asymmetric one. -/
def lineTarget (force : Bool) : Hop :=
  { node :=
      { Node.started (lineIpv6 0xfe800000000000000000000000000009#128
          0x20010db8000000000000000000000009#128) with
        attributes := { aodvForceAsymmetric := force } }
    heard := { sender := 0xfe800000000000000000000000000006#128, interface := 1 }
    address := 0x20010db8000000000000000000000009#128 }

/-- A node joins by a DIO that it takes in, where what it is then has the property. -/
theorem Hop.exists_joins {h : Hop} {dio : DioHeader} {has : Node → DodagMembership → Bool}
    (takes : h.node.takesDio dio h.heard = true) (absent : h.node.dodags[dio.key]?.isNone = true)
    (joins : h.node.joinsBy dio = true) (isAddress : h.address.isAny = false)
    (holds : (h.node.beforeDiscovery dio h.heard).any (fun m =>
      (m.dodags[dio.key]?).any fun dodag =>
        m.getGlobalAddressIn dodag = h.address && has m dodag) = true) :
    ∃ m dodag, h.Joins dio m dodag ∧ has m dodag = true := by
  obtain ⟨m, handles, holds⟩ := (Option.any_eq_true _ _).mp holds
  obtain ⟨dodag, held, holds⟩ := (Option.any_eq_true _ _).mp holds
  rw [Bool.and_eq_true, decide_eq_true_eq] at holds
  exact ⟨m, dodag, ⟨⟨rfl, takes⟩, Option.isNone_iff_eq_none.mp absent, joins, handles, held,
    holds.1, isAddress⟩, holds.2⟩

/-- What a node that has sent it hands over by `SendDio`. -/
theorem Node.utters_of_sent {n : Node} {key : DodagKey} {said : DioHeader} {interface : Nat}
    {source : Ipv6Address} (encodable : said.Encodable)
    (sent : (n.sendDio key allNodesMulticast 0).outputs =
      .sent interface source allNodesMulticast (.dio said) :: n.outputs) :
    n.Utters key said.compressed :=
  ⟨[.sent interface source allNodesMulticast (.dio said)], interface, source, said, sent,
    List.mem_singleton_self _, encodable, DioHeader.readFrom_serialize_encodable encodable⟩

theorem Node.deliversTo_of_sent {n : Node} {next source : Ipv6Address} {said : DioHeader}
    {interface : Nat} (encodable : said.Encodable)
    (sent : n.outputs.head? = some (.sent interface source (linkLocalOf next) (.dio said))) :
    n.DeliversTo next said.compressed := by
  rintro other ⟨_, _, handed⟩
  rw [sent] at handed
  cases handed
  exact ⟨encodable, DioHeader.readFrom_serialize_encodable encodable⟩

/-- The routers, once the RREQ has come by. -/
def lineNearMember : Node := lineNear.after (lineRreq 128 []).compressed

def lineFarMember : Node := lineFar.after (lineRreq 256 [lineNear.address]).compressed

/-- The RREQ gets over the routers to the target. -/
theorem lineRreq_floods :
    Node.seeking.roleIn lineKey =
        ((Node.started Node.seekerIpv6).apply
          (.discoverRoute 0x20010db8000000000000000000000009#128 false)).roleIn lineKey ∧
      Node.seeking.Utters lineKey (lineRreq 128 []).compressed ∧
      Floods lineKey (lineRreq 128 []).compressed [lineNear, lineFar]
        (lineRreq 384 lineVector).compressed := by
  have sent : (Node.seeking.sendDio lineKey allNodesMulticast 0).outputs =
        .sent 1 0xfe800000000000000000000000000002#128 allNodesMulticast
          (.dio (lineRreq 128 [])) :: Node.seeking.outputs ∧
      (lineNearMember.sendDio lineKey allNodesMulticast 0).outputs =
        .sent 1 0xfe800000000000000000000000000005#128 allNodesMulticast
          (.dio (lineRreq 256 [lineNear.address])) :: lineNearMember.outputs ∧
      (lineFarMember.sendDio lineKey allNodesMulticast 0).outputs =
        .sent 1 0xfe800000000000000000000000000006#128 allNodesMulticast
          (.dio (lineRreq 384 lineVector)) :: lineFarMember.outputs := by decide +kernel
  obtain ⟨m, dodag, joins, passes⟩ := @Hop.exists_joins lineNear (lineRreq 128 []).compressed
    (fun m _ => !m.ipv6.isOwnAddress 0x20010db8000000000000000000000009#128)
    (by decide +kernel) (by decide +kernel) (by decide +kernel) (by decide) (by decide +kernel)
  obtain ⟨m', dodag', joins', passes'⟩ := @Hop.exists_joins lineFar
    (lineRreq 256 [lineNear.address]).compressed
    (fun m _ => !m.ipv6.isOwnAddress 0x20010db8000000000000000000000009#128)
    (by decide +kernel) (by decide +kernel) (by decide +kernel) (by decide) (by decide +kernel)
  refine ⟨rfl, Node.utters_of_sent (lineRreq_encodable (Nat.zero_le _)) sent.1, ?_⟩
  exact .hop joins (Bool.not_eq_true' _ |>.mp passes) rfl
    (Node.utters_of_sent (lineRreq_encodable (by decide)) sent.2.1)
    (.hop joins' (Bool.not_eq_true' _ |>.mp passes') rfl
      (Node.utters_of_sent (lineRreq_encodable (by decide)) sent.2.2) .out)

/-- The target joins by it. -/
theorem lineTarget_sought (force : Bool) : ∃ m dodag,
    Sought (Node.started Node.seekerIpv6) lineKey 0x20010db8000000000000000000000009#128
      [lineNear, lineFar] (lineTarget force) (lineRreq 384 lineVector).compressed m dodag ∧
    m.attributes.aodvForceAsymmetric = force ∧ m.LinkedTo dodag lineFar.address ∧
    m.dodags[(⟨0x80, 0x20010db8000000000000000000000009#128⟩ : DodagKey)]? = none := by
  have joins : ∀ force, ∃ m dodag, (lineTarget force).Joins
      (lineRreq 384 lineVector).compressed m dodag ∧
      (m.ipv6.isOwnAddress 0x20010db8000000000000000000000009#128 &&
        decide (m.attributes.aodvForceAsymmetric = force) && !m.sockets.contains 0 &&
        m.sockets.contains (if m.interfaceForNeighbour dodag (linkLocalOf lineFar.address) = 0
          then m.firstSocket
          else m.interfaceForNeighbour dodag (linkLocalOf lineFar.address)) &&
        m.dodags[(⟨0x80, 0x20010db8000000000000000000000009#128⟩ : DodagKey)]?.isNone) = true := by
    intro force
    cases force with
    | false =>
      exact Hop.exists_joins (by decide +kernel) (by decide +kernel) (by decide +kernel)
        (by decide) (by decide +kernel)
    | true =>
      exact Hop.exists_joins (by decide +kernel) (by decide +kernel) (by decide +kernel)
        (by decide) (by decide +kernel)
  obtain ⟨m, dodag, joins, facts⟩ := joins force
  simp only [Bool.and_eq_true, decide_eq_true_eq, Bool.not_eq_true'] at facts
  obtain ⟨⟨⟨⟨reached, forced⟩, loopback⟩, runs⟩, absent⟩ := facts
  refine ⟨m, dodag, ⟨by decide +kernel, ⟨_, _, lineRreq_floods⟩, joins, reached, rfl, by decide⟩,
    forced, ⟨?_, runs⟩, Option.isNone_iff_eq_none.mp absent⟩
  exact Bool.eq_false_iff.mp loopback

theorem DioHeader.Encodable.compressed {dio : DioHeader} (encodable : dio.Encodable) :
    dio.compressed.Encodable where
  mop := encodable.mop
  preference := encodable.preference
  lql := encodable.lql
  rreq rreq held := by
    obtain ⟨option, there, rfl⟩ := Option.map_eq_some_iff.mp held
    exact encodable.rreq option there
  rrep rrep held := by
    obtain ⟨option, there, rfl⟩ := Option.map_eq_some_iff.mp held
    exact encodable.rrep option there
  arts := encodable.arts
  p2pRdo rdo held := by
    obtain ⟨option, there, rfl⟩ := Option.map_eq_some_iff.mp held
    have fits := encodable.p2pRdo option there
    exact ⟨fits.numRoutes, fits.lifetime, fits.maxRankOrNh, fits.entries⟩

/-- The routers, as the RREP or an RREP-DIO comes to them. -/
def lineFarBack (toMulticast : Bool) : Hop :=
  { node := lineFarMember
    heard :=
      { sender := 0xfe800000000000000000000000000009#128
        interface := 1
        toMulticast := toMulticast }
    address := lineFar.address }

def lineNearBack (toMulticast : Bool) : Hop :=
  { node := lineNearMember
    heard :=
      { sender := 0xfe800000000000000000000000000006#128
        interface := 1
        toMulticast := toMulticast }
    address := lineNear.address }

/-- The OrigNode, as the RREP or an RREP-DIO gets home. -/
def lineOrigin (toMulticast : Bool) : Hop :=
  { node := Node.seeking
    heard :=
      { sender := 0xfe800000000000000000000000000005#128
        interface := 1
        toMulticast := toMulticast }
    address := lineKey.dodagId }

/-- A router relays what it has all the means to relay. -/
theorem Hop.exists_relays {r : Hop} {dio : DioHeader} {key : DodagKey}
    {vector : List Ipv6Address} {next : Ipv6Address}
    (hears : (!r.heard.toMulticast &&
      r.heard.sender ≠ r.node.ipv6.getLinkLocalAddress r.heard.interface &&
      !r.node.dropsDio dio r.heard.sender) = true)
    (addressed : (r.node.ipv6.isOwnAddress r.address && vector.all (fun address =>
      !r.node.ipv6.isOwnAddress address || address = r.address) &&
      !r.node.ipv6.isOwnAddress key.dodagId) = true)
    (linked : (!r.node.sockets.contains 0 && (r.node.dodags[key]?).any fun dodag =>
      !dodag.aodv.rrepHandled.contains dio.dodagId && r.node.sockets.contains
        (if r.node.interfaceForNeighbour dodag (linkLocalOf next) = 0 then r.node.firstSocket
          else r.node.interfaceForNeighbour dodag (linkLocalOf next))) = true) :
    ∃ dodag, r.Relays dio key vector next dodag := by
  rw [Bool.and_eq_true] at linked
  obtain ⟨dodag, held, links⟩ := (Option.any_eq_true _ _).mp linked.2
  simp only [Bool.and_eq_true, Bool.not_eq_true', decide_eq_true_eq, List.all_eq_true,
    Bool.or_eq_true] at hears addressed links linked
  refine ⟨dodag, hears.1.1, hears.1.2, hears.2, held, links.1, addressed.1.1, ?_, addressed.2,
    ⟨Bool.eq_false_iff.mp linked.1, links.2⟩⟩
  intro address mem isOwn
  rcases addressed.1.2 address mem with foreign | same
  · rw [isOwn] at foreign
    cases foreign
  · exact same

theorem Hop.isHome_of {o : Hop} {dio : DioHeader} {key : DodagKey} {target : Ipv6Address}
    (hears : (!o.heard.toMulticast &&
      o.heard.sender ≠ o.node.ipv6.getLinkLocalAddress o.heard.interface &&
      !o.node.dropsDio dio o.heard.sender && o.node.ipv6.isOwnAddress key.dodagId) = true)
    (member : ((o.node.dodags[key]?).any fun dodag =>
      !dodag.aodv.rrepHandled.contains target) = true) : o.IsHome dio key target := by
  obtain ⟨dodag, held, first⟩ := (Option.any_eq_true _ _).mp member
  simp only [Bool.and_eq_true, Bool.not_eq_true', decide_eq_true_eq] at hears first
  exact ⟨hears.1.1.1, hears.1.1.2, hears.1.2, ⟨dodag, held, first⟩, hears.2⟩

/-- Along the symmetric path the OrigNode has the route over the routers, in order. -/
theorem line_symmetric :
    ∃ route, ((lineOrigin false).after
        lineReply.compressed.compressed.compressed).aodvRoutes[
        (0x20010db8000000000000000000000009#128 : Ipv6Address)]? = some route ∧
      route.hops =
        [0x20010db8000000000000000000000005#128, 0x20010db8000000000000000000000006#128,
          0x20010db8000000000000000000000009#128] := by
  obtain ⟨m, dodag, sought, unforced, linked, -⟩ := lineTarget_sought false
  have encodable : lineReply.Encodable := lineRrep_encodable (by decide)
  have sent : ((lineTarget false).after (lineRreq 384 lineVector).compressed).outputs.head? =
        some (.sent 1 0xfe800000000000000000000000000009#128
          (linkLocalOf lineFar.address) (.dio lineReply)) ∧
      ((lineFarBack false).after lineReply.compressed).outputs.head? =
        some (.sent 1 0xfe800000000000000000000000000006#128
          (linkLocalOf lineNear.address) (.dio lineReply.compressed)) ∧
      ((lineNearBack false).after lineReply.compressed.compressed).outputs.head? =
        some (.sent 1 0xfe800000000000000000000000000005#128
          (linkLocalOf lineKey.dodagId) (.dio lineReply.compressed.compressed)) := by
    decide +kernel
  have symmetric : (lineRreq 384 lineVector).compressed.getRreq.symmetric = true := by
    decide +kernel
  have home : (lineOrigin false).IsHome lineReply.compressed.compressed.compressed lineKey
      0x20010db8000000000000000000000009#128 :=
    Hop.isHome_of (by decide +kernel) (by decide +kernel)
  obtain ⟨far, farRelays⟩ := @Hop.exists_relays (lineFarBack false) lineReply.compressed lineKey
    ([lineNear, lineFar].map Hop.address ++ [0x20010db8000000000000000000000009#128])
    (nextOf lineKey [lineNearBack false]) (by decide +kernel) (by decide +kernel)
    (by decide +kernel)
  obtain ⟨near, nearRelays⟩ := @Hop.exists_relays (lineNearBack false)
    lineReply.compressed.compressed lineKey
    ([lineNear, lineFar].map Hop.address ++ [0x20010db8000000000000000000000009#128])
    (nextOf lineKey []) (by decide +kernel) (by decide +kernel) (by decide +kernel)
  have returns := Returns.relay farRelays
    (Node.deliversTo_of_sent encodable.compressed sent.2.1)
    (.relay nearRelays (Node.deliversTo_of_sent encodable.compressed.compressed sent.2.2) .home)
  have same : [lineFarBack false, lineNearBack false].map Hop.address =
      ([lineNear, lineFar].map Hop.address).reverse := rfl
  exact sought.symmetric_route symmetric unforced same (by decide +kernel) linked
    (Node.deliversTo_of_sent encodable sent.1) returns home

/-- Over the RREP-Instance, whose DIOs gather the routers the other way round, it has the same
route. -/
theorem line_asymmetric :
    ∃ route, ((lineOrigin true).after (lineRrep 384 lineVector.reverse).compressed).aodvRoutes[
        (0x20010db8000000000000000000000009#128 : Ipv6Address)]? = some route ∧
      route.hops =
        [0x20010db8000000000000000000000005#128, 0x20010db8000000000000000000000006#128,
          0x20010db8000000000000000000000009#128] := by
  obtain ⟨m, dodag, sought, forced, -, absent⟩ := lineTarget_sought true
  generalize answered : (lineTarget true).after (lineRreq 384 lineVector).compressed = speaker
  have said : ((lineTarget true).after (lineRreq 384 lineVector).compressed).dodags[
        (⟨0x80, 0x20010db8000000000000000000000009#128⟩ : DodagKey)]?.isSome = true ∧
      (((lineTarget true).after (lineRreq 384 lineVector).compressed).sendDio
        ⟨0x80, 0x20010db8000000000000000000000009#128⟩ allNodesMulticast 0).outputs =
        .sent 1 0xfe800000000000000000000000000009#128 allNodesMulticast
          (.dio (lineRrep 128 [])) ::
          ((lineTarget true).after (lineRreq 384 lineVector).compressed).outputs ∧
      (((lineFarBack true).after (lineRrep 128 []).compressed).sendDio
        ⟨0x80, 0x20010db8000000000000000000000009#128⟩ allNodesMulticast 0).outputs =
        .sent 1 0xfe800000000000000000000000000006#128 allNodesMulticast
          (.dio (lineRrep 256 [lineFar.address])) ::
          ((lineFarBack true).after (lineRrep 128 []).compressed).outputs ∧
      (((lineNearBack true).after (lineRrep 256 [lineFar.address]).compressed).sendDio
        ⟨0x80, 0x20010db8000000000000000000000009#128⟩ allNodesMulticast 0).outputs =
        .sent 1 0xfe800000000000000000000000000005#128 allNodesMulticast
          (.dio (lineRrep 384 lineVector.reverse)) ::
          ((lineNearBack true).after (lineRrep 256 [lineFar.address]).compressed).outputs := by
    decide +kernel
  rw [answered] at said
  obtain ⟨rooted, utters, farSpeaks, nearSpeaks⟩ := said
  obtain ⟨farBetween, far, farJoins, farPasses⟩ := @Hop.exists_joins (lineFarBack true)
    (lineRrep 128 []).compressed (fun m _ => !m.ipv6.isOwnAddress lineKey.dodagId)
    (by decide +kernel) (by decide +kernel) (by decide +kernel) (by decide) (by decide +kernel)
  obtain ⟨nearBetween, near, nearJoins, nearPasses⟩ := @Hop.exists_joins (lineNearBack true)
    (lineRrep 256 [lineFar.address]).compressed
    (fun m _ => !m.ipv6.isOwnAddress lineKey.dodagId)
    (by decide +kernel) (by decide +kernel) (by decide +kernel) (by decide) (by decide +kernel)
  obtain ⟨home, member, arrives, own⟩ := @Hop.exists_joins (lineOrigin true)
    (lineRrep 384 lineVector.reverse).compressed
    (fun m _ => m.ipv6.isOwnAddress lineKey.dodagId)
    (by decide +kernel) (by decide +kernel) (by decide +kernel) (by decide) (by decide +kernel)
  have encodable : ∀ rank vector, vector.length ≤ aodvAddressVectorMaxEntries →
      (lineRrep rank vector).Encodable := fun _ _ few => lineRrep_encodable few
  have floods := Floods.hop farJoins (Bool.not_eq_true' _ |>.mp farPasses) rfl
    (Node.utters_of_sent (encodable 256 [lineFar.address] (by decide)) farSpeaks)
    (.hop nearJoins (Bool.not_eq_true' _ |>.mp nearPasses) rfl
      (Node.utters_of_sent (encodable 384 lineVector.reverse (by decide)) nearSpeaks) .out)
  have same : [lineFarBack true, lineNearBack true].map Hop.address =
      ([lineNear, lineFar].map Hop.address).reverse := rfl
  exact sought.asymmetric_route (by rw [forced, Bool.not_true, Bool.and_false]) same absent
    (answered ▸ rooted) rfl (answered ▸ rfl)
    (Node.utters_of_sent (encodable 128 [] (Nat.zero_le _)) utters) floods arrives own

end Line

end Rpl
