import Rpl.DiscoveryLine
import Rpl.ReplyReencoding

/-!
# An RREP back along a line of routers

Along a symmetric path the target answers an RREQ by unicast.  Its RREP carries the vector that
the RREQ has gathered, and every router finds its own entry there and passes the RREP on, as it
is, to the entry before that.  The OrigNode takes the vector for its route.
-/

namespace Rpl

open Std

/-! ## The reply by unicast -/

/-- The RREP of the target for the RREQ-Instance, with the vector of a route. -/
structure Replies (key : DodagKey) (target : Ipv6Address) (vector : List Ipv6Address)
    (dio : DioHeader) : Prop where
  instanceId : dio.instanceId = key.instanceId
  dodagId : dio.dodagId = target
  rrep : ∃ rrep, dio.rrep = some rrep ∧ rrep.hopByHop = false ∧ rrep.delta = 0 ∧
    rrep.addressVector = vector
  arts : dio.arts.map ArtOption.target = [key.dodagId]

/-- The interface toward the next router is one RPL runs on. -/
structure Node.LinkedTo (n : Node) (dodag : DodagMembership) (next : Ipv6Address) : Prop where
  loopback : 0 ∉ n.sockets
  runs : (if n.interfaceForNeighbour dodag (linkLocalOf next) = 0 then n.firstSocket
    else n.interfaceForNeighbour dodag (linkLocalOf next)) ∈ n.sockets

/-- The last thing the node has handed down is the DIO, to the link-local address of a router. -/
def Node.HandsTo (n : Node) (next : Ipv6Address) (dio : DioHeader) : Prop :=
  ∃ interface source, n.outputs.head? = some (.sent interface source (linkLocalOf next) (.dio dio))

/-- Whatever DIO the node has handed down to the router can be encoded, and is read off the wire
there as the DIO heard. -/
def Node.DeliversTo (n : Node) (next : Ipv6Address) (heard : DioHeader) : Prop :=
  ∀ said, n.HandsTo next said → said.Encodable ∧ DioHeader.readFrom said.serialize = .ok (heard, [])

/-- A router that an RREP comes to by unicast, a member of the instance that has passed on none
of the target's yet, with one address in the vector and a link to the next router. -/
structure Hop.Relays (r : Hop) (dio : DioHeader) (key : DodagKey) (vector : List Ipv6Address)
    (next : Ipv6Address) (dodag : DodagMembership) : Prop where
  unicast : r.heard.toMulticast = false
  foreign : r.heard.sender ≠ r.node.ipv6.getLinkLocalAddress r.heard.interface
  keeps : r.node.dropsDio dio r.heard.sender = false
  member : r.node.dodags[key]? = some dodag
  first : dodag.aodv.rrepHandled.contains dio.dodagId = false
  own : r.node.ipv6.isOwnAddress r.address = true
  only : ∀ address ∈ vector, r.node.ipv6.isOwnAddress address = true → address = r.address
  between : r.node.ipv6.isOwnAddress key.dodagId = false
  linked : r.node.LinkedTo dodag next

/-- Where an RREP goes that has the routers still before it: to the first of them, or home. -/
def nextOf (key : DodagKey) (routers : List Hop) : Ipv6Address :=
  (routers.head?.map Hop.address).getD key.dodagId

/-- The RREP that the first of the routers hears comes to the OrigNode from the last: what each
one sends to the next is heard there. -/
inductive Returns (key : DodagKey) (vector : List Ipv6Address) :
    DioHeader → List Hop → DioHeader → Prop
  | home {dio : DioHeader} : Returns key vector dio [] dio
  | relay {dio onward last : DioHeader} {r : Hop} {dodag : DodagMembership} {rest : List Hop}
      (relays : r.Relays dio key vector (nextOf key rest) dodag)
      (delivers : (r.after dio).DeliversTo (nextOf key rest) onward)
      (returns : Returns key vector onward rest last) : Returns key vector dio (r :: rest) last

section Replying

variable {n m : Node} {key : DodagKey} {dodag : DodagMembership} {dio onward : DioHeader}
  {r : Hop} {target next : Ipv6Address} {vector before behind : List Ipv6Address}

/-- A DIO by unicast goes down to a linked router. -/
theorem Node.LinkedTo.handsTo (linked : n.LinkedTo dodag next) (dio : DioHeader) :
    (n.sendAodvTo dodag dio next).HandsTo next dio := by
  have onSocket : ¬(if n.interfaceForNeighbour dodag (linkLocalOf next) = 0 then n.firstSocket
      else n.interfaceForNeighbour dodag (linkLocalOf next)) = 0 := by
    intro zero
    have runs := linked.runs
    rw [zero] at runs
    exact linked.loopback runs
  unfold Node.sendAodvTo
  dsimp only
  rw [if_neg onSocket, Node.sendRplMessageOn_eq_emit, Node.messageOn, if_pos linked.runs]
  exact ⟨_, _, rfl⟩

theorem Replies.compressed (replies : Replies key target vector dio) :
    Replies key target vector dio.compressed := by
  obtain ⟨rrep, held, hopByHop, delta, gathered⟩ := replies.rrep
  refine ⟨replies.instanceId, replies.dodagId, ⟨_, congrArg (Option.map _) held, hopByHop, delta,
    gathered⟩, replies.arts⟩

theorem Replies.delivered (replies : Replies key target vector dio) (hands : n.HandsTo next dio)
    (delivers : n.DeliversTo next onward) : Replies key target vector onward := by
  obtain ⟨encodable, read⟩ := delivers dio hands
  rw [DioHeader.readFrom_serialize_encodable encodable] at read
  cases read
  exact replies.compressed

theorem Replies.getRrep (replies : Replies key target vector dio) :
    dio.rrep.isSome = true ∧ dio.getRrep.hopByHop = false ∧ dio.getRrep.addressVector = vector ∧
      Node.answeredKey dio = key ∧ dio.arts.isEmpty = false := by
  obtain ⟨rrep, held, hopByHop, delta, gathered⟩ := replies.rrep
  have named := replies.arts
  have getRrep : dio.getRrep = rrep := by rw [DioHeader.getRrep, held]; rfl
  cases arts : dio.arts with
  | nil =>
    rw [arts] at named
    cases named
  | cons art rest =>
    rw [arts, List.map_cons, List.cons.injEq] at named
    rw [Node.answeredKey, getRrep, delta, replies.instanceId, DioHeader.getArt, arts]
    refine ⟨by rw [held]; rfl, hopByHop, gathered, ?_, rfl⟩
    rw [UInt8.sub_zero]
    exact congrArg (DodagKey.mk key.instanceId) named.1

/-- A router finds its own entry in the vector, and the one before it. -/
theorem rrepRelayHop_eq {rrep : RrepOption} {routers : List Hop} (sourceRouted :
      rrep.hopByHop = false)
    (gathered : rrep.addressVector = (routers.map Hop.address).reverse ++ r.address :: behind)
    (distinct : rrep.addressVector.Nodup) (own : n.ipv6.isOwnAddress r.address = true)
    (only : ∀ address ∈ rrep.addressVector, n.ipv6.isOwnAddress address = true →
      address = r.address) : n.rrepRelayHop key rrep = some (nextOf key routers) := by
  have foreign : ∀ address ∈ (routers.map Hop.address).reverse,
      n.ipv6.isOwnAddress address = false := by
    intro address mem
    refine Bool.eq_false_iff.mpr fun isOwn => ?_
    have same := only address (by rw [gathered]; exact List.mem_append_left _ mem) isOwn
    rw [gathered, List.nodup_append] at distinct
    exact distinct.2.2 address mem r.address List.mem_cons_self same
  have place : rrep.addressVector.findIdx? n.ipv6.isOwnAddress = some routers.length := by
    rw [gathered, List.findIdx?_append, List.findIdx?_eq_none_iff.mpr foreign, Option.none_or,
      List.findIdx?_cons, if_pos own, List.length_reverse, List.length_map]
    exact congrArg some (Nat.zero_add _)
  rw [Node.rrepRelayHop, sourceRouted, if_neg Bool.false_ne_true, place]
  cases routers with
  | nil => rfl
  | cons next rest =>
    dsimp only [List.length_cons]
    rw [gathered, List.map_cons, List.reverse_cons, List.append_assoc, List.getElem?_append_right
      (by rw [List.length_reverse, List.length_map])]
    rw [List.length_reverse, List.length_map, Nat.sub_self]
    rfl

/-- An RREP heard by unicast is handled. -/
theorem Hop.after_of_unicast (rrep : dio.rrep.isSome = true) (unicast : r.heard.toMulticast = false)
    (foreign : r.heard.sender ≠ r.node.ipv6.getLinkLocalAddress r.heard.interface)
    (keeps : r.node.dropsDio dio r.heard.sender = false) :
    r.after dio = r.node.handleAodvRrep dio r.heard.sender := by
  rw [Hop.after, Node.apply, Node.recvRpl, if_neg foreign, Node.handleDio, keeps,
    if_neg Bool.false_ne_true, rrep, unicast]
  rfl

/-- A router passes the RREP on, as it is, to the router before it. -/
theorem Hop.Relays.handsTo {routers : List Hop}
    (relays : r.Relays dio key vector (nextOf key routers) dodag)
    (replies : Replies key target vector dio)
    (gathered : vector = (routers.map Hop.address).reverse ++ r.address :: behind)
    (distinct : vector.Nodup) : (r.after dio).HandsTo (nextOf key routers) dio := by
  obtain ⟨isRrep, sourceRouted, hasVector, answers, named⟩ := replies.getRrep
  have passes : r.node.PassesOn dio r.heard.sender dodag r.node (nextOf key routers) := by
    refine ⟨named, answers ▸ relays.member, relays.first, ?_, answers ▸ relays.between, ?_⟩
    · rw [sourceRouted, if_neg Bool.false_ne_true]
    · rw [answers]
      exact rrepRelayHop_eq sourceRouted (hasVector.trans gathered) (hasVector ▸ distinct)
        relays.own (hasVector ▸ relays.only)
  rw [Hop.after_of_unicast isRrep relays.unicast relays.foreign relays.keeps, passes.handles]
  have linked : (r.node.markRrepHandled (Node.answeredKey dio) dio.dodagId).LinkedTo dodag
      (nextOf key routers) := ⟨relays.linked.loopback, relays.linked.runs⟩
  exact linked.handsTo dio

/-- The RREP gets home over the routers of its vector, from the last to the first. -/
theorem Returns.replies {last : DioHeader} {routers : List Hop}
    (returns : Returns key vector dio routers last) (replies : Replies key target vector dio)
    (gathered : vector = (routers.map Hop.address).reverse ++ behind) (distinct : vector.Nodup) :
    Replies key target vector last := by
  induction returns generalizing behind with
  | home => exact replies
  | @relay dio onward last r dodag rest relays delivers _ ih =>
    rw [List.map_cons, List.reverse_cons, List.append_assoc, List.singleton_append] at gathered
    exact ih (replies.delivered (relays.handsTo replies gathered distinct) delivers) gathered

/-- The OrigNode stores the vector of an RREP that it has not had from the target. -/
theorem Hop.stores_of_replies (replies : Replies key target vector dio)
    (unicast : r.heard.toMulticast = false)
    (foreign : r.heard.sender ≠ r.node.ipv6.getLinkLocalAddress r.heard.interface)
    (keeps : r.node.dropsDio dio r.heard.sender = false)
    (member : r.node.dodags[key]? = some dodag)
    (first : dodag.aodv.rrepHandled.contains target = false)
    (home : r.node.ipv6.isOwnAddress key.dodagId = true)
    (ends : vector.getLast? = some target) :
    ∃ route, (r.after dio).aodvRoutes[target]? = some route ∧ route.hops = vector := by
  obtain ⟨isRrep, sourceRouted, hasVector, answers, named⟩ := replies.getRrep
  unfold Node.answeredKey at answers
  have several : vector.isEmpty = false := by
    cases vector with
    | nil => cases ends
    | cons => rfl
  rw [Hop.after_of_unicast isRrep unicast foreign keeps, Node.handleAodvRrep, named,
    if_neg Bool.false_ne_true, answers, member]
  dsimp only
  rw [replies.dodagId, first, if_neg Bool.false_ne_true, sourceRouted, if_neg Bool.false_ne_true]
  dsimp only
  rw [Bool.not_true, if_neg Bool.false_ne_true, home, if_pos rfl, if_neg Bool.false_ne_true,
    hasVector, several, if_neg Bool.false_ne_true, Node.completeAodvRoute, hasVector, ends]
  exact ⟨_, ExtTreeMap.getElem?_insert_self, rfl⟩

end Replying

/-! ## The target answers -/

section Answering

variable {n m : Node} {key : DodagKey} {dodag : DodagMembership} {dio : DioHeader} {t : Hop}
  {target : Ipv6Address} {vector : List Ipv6Address} {symmetric : Bool}

/-- The target takes its own address off the targets and answers. -/
theorem Seeks.reached (seeks : Seeks key target vector symmetric dio) (clean : dodag.aodv = {})
    (reached : m.ipv6.isOwnAddress target = true) :
    (m.takeRreq dodag dio).1 = true ∧ (m.takeRreq dodag dio).2.hopByHop = false ∧
      (m.takeRreq dodag dio).2.symmetric =
        (symmetric && !m.attributes.aodvForceAsymmetric) := by
  obtain ⟨sourceRouted, -, isSymmetric⟩ := seeks.getRreq
  have unprocessed : Node.rreqProcessed dodag.aodv dio.getRreq = false := by
    rw [clean, Node.rreqProcessed, sourceRouted]
    rfl
  have own : [target].any m.ipv6.isOwnAddress = true := by
    rw [List.any_cons, reached]
    rfl
  simp only [Node.takeRreq, Node.matchTargets, Node.intersectTargets, Node.withRreq, unprocessed,
    seeks.arts, own, sourceRouted, isSymmetric, Bool.false_eq_true, if_false, and_self]

/-- The target as it answers: a member with the whole route. -/
structure Answers (m joined : Node) (dodag answering : DodagMembership) (key : DodagKey)
    (target : Ipv6Address) (vector : List Ipv6Address) (symmetric : Bool) : Prop where
  dodags : joined.dodags = m.dodags.insert key answering
  sockets : joined.sockets = m.sockets
  isSymmetric : answering.aodv.symmetric = symmetric
  hopByHop : answering.aodv.hopByHop = false
  gathered : answering.aodv.addressVector = vector ++ [target]
  parents : answering.parents = dodag.parents
  address : joined.getGlobalAddressIn answering = target

theorem Answers.held {joined : Node} {answering : DodagMembership}
    (answers : Answers m joined dodag answering key target vector symmetric) :
    joined.dodags[key]? = some answering := by
  rw [answers.dodags]
  exact ExtTreeMap.getElem?_insert_self

theorem Hop.Joins.answers (joins : t.Joins dio m dodag)
    (seeks : Seeks key target vector symmetric dio) (reached : m.ipv6.isOwnAddress target = true)
    (named : t.address = target) (room : vector.length < aodvAddressVectorMaxEntries) :
    ∃ joined answering, Answers m joined dodag answering key target vector
        (symmetric && !m.attributes.aodvForceAsymmetric) ∧
      t.after dio = joined.sendAodvRrep key := by
  obtain ⟨clean, keyed, temporary, joined, logged, expiry, isLogged, isJoined, after⟩ :=
    joins.after_eq seeks room
  obtain ⟨takesIn, sourceRouted, isSymmetric⟩ := seeks.reached clean reached
  rw [takesIn, if_pos rfl] at after
  refine ⟨joined, { dodag with
    aodv := { (m.takeRreq dodag dio).2 with
      addressVector := vector ++ [t.address]
      expiry := expiry } }, ⟨(congrArg Node.dodags isJoined).trans ?_, ?_, isSymmetric,
    sourceRouted, congrArg (vector ++ [·]) named, rfl, ?_⟩, after⟩
  · rcases isLogged with rfl | rfl
    · rfl
    · rfl
  · rw [isJoined]
    rcases isLogged with rfl | rfl
    · rfl
    · rfl
  · rw [isJoined, ← named, ← joins.address]
    rcases isLogged with rfl | rfl
    · rfl
    · rfl

/-- Along a symmetric path the target sends an RREP with what the RREQ gathered and its own
address to the last router on the way. -/
theorem Answers.replies {joined : Node} {answering : DodagMembership} {routers : List Hop}
    (answers : Answers m joined dodag answering key target vector true)
    (isTarget : target.isAny = false) (gathered : vector = (routers.map Hop.address).reverse)
    (linked : m.LinkedTo dodag (nextOf key routers)) :
    ∃ reply, (joined.sendAodvRrep key).HandsTo (nextOf key routers) reply ∧
      Replies key target (vector ++ [target]) reply := by
  have linkedToo : joined.advanceAodvSeqNoForRrep.LinkedTo answering (nextOf key routers) := by
    obtain ⟨loopback, runs⟩ := linked
    unfold Node.interfaceForNeighbour Node.firstSocket at runs
    refine ⟨answers.sockets ▸ loopback, ?_⟩
    unfold Node.interfaceForNeighbour Node.firstSocket
    have socketsToo : joined.advanceAodvSeqNoForRrep.sockets = m.sockets := answers.sockets
    rw [socketsToo, answers.parents]
    exact runs
  have onward : joined.advanceAodvSeqNoForRrep.rrepNextHop answering key =
      some (nextOf key routers) := by
    rw [Node.rrepNextHop, answers.hopByHop, if_neg Bool.false_ne_true, answers.gathered, gathered,
      List.reverse_append, List.reverse_reverse]
    cases routers with
    | nil => rfl
    | cons => rfl
  rw [Node.sendAodvRrep, answers.held]
  dsimp only
  rw [answers.isSymmetric, Bool.not_true, if_neg Bool.false_ne_true, answers.address, isTarget,
    if_neg Bool.false_ne_true, onward]
  dsimp only
  exact ⟨_, linkedToo.handsTo _, rfl, rfl, ⟨_, rfl, answers.hopByHop, rfl, answers.gathered⟩, rfl⟩

end Answering

end Rpl
