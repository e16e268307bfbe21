import Rpl.CandidateRoutes
import Rpl.DiscoveryLine
import Rpl.TargetReplies

/-!
# A P2P mode DIO along a line of routers

A source-routed P2P-RPL discovery gathers the addresses of the routers that its DIO passes.  Each
draws the route it tells from those it knows of, and on a line it knows of one.
-/

namespace Rpl

open Std

/-! ## What is asked -/

/-- What the DIOs of a membership say of a P2P-RPL discovery. -/
def DodagMembership.part (dodag : DodagMembership) :
    DodagKey × UInt8 × AodvRreqState × P2pState :=
  (dodag.key, dodag.mop, dodag.aodv, dodag.p2p)

def Node.partIn (n : Node) (key : DodagKey) :
    Option (DodagKey × UInt8 × AodvRreqState × P2pState) :=
  (n.dodags[key]?).map DodagMembership.part

/-- A P2P mode DIO that asks for one source route to the one target, and has gathered the
vector. -/
structure AsksRoute (key : DodagKey) (target : Ipv6Address) (vector : List Ipv6Address)
    (dio : DioHeader) : Prop where
  keyed : dio.key = key
  rdo : ∃ rdo, dio.p2pRdo = some rdo ∧ rdo.target = target ∧ rdo.hopByHop = false ∧
    rdo.numRoutes = 0 ∧ rdo.reply = true ∧ rdo.addressVector = vector
  alone : dio.targets = []

/-- The state of a discovery that asks so: every route known of is the one gathered. -/
structure AskingRoute (target : Ipv6Address) (vector : List Ipv6Address) (p2p : P2pState) :
    Prop where
  asks : p2p.target = target
  hopByHop : p2p.hopByHop = false
  numRoutes : p2p.numRoutes = 0
  reply : p2p.reply = true
  alone : p2p.additionalTargets = []
  gathered : p2p.addressVector = vector
  candidates : ∀ candidate ∈ p2p.candidateRoutes, candidate.route = vector

section Asking

variable {n m : Node} {key : DodagKey} {dodag : DodagMembership} {dio : DioHeader}
  {target : Ipv6Address} {vector : List Ipv6Address} {p2p : P2pState}

theorem Node.member_of_partIn {mop : UInt8} {aodv : AodvRreqState}
    (part : n.partIn key = some (key, mop, aodv, p2p)) :
    ∃ dodag, n.dodags[key]? = some dodag ∧ dodag.key = key ∧ dodag.mop = mop ∧
      dodag.aodv = aodv ∧ dodag.p2p = p2p := by
  obtain ⟨dodag, held, same⟩ := Option.map_eq_some_iff.mp part
  exact ⟨dodag, held, by simpa only [DodagMembership.part, Prod.mk.injEq] using same⟩

/-- The route drawn is the one gathered. -/
theorem AskingRoute.drawP2pRoute (asking : AskingRoute target vector dodag.p2p) :
    (n.drawP2pRoute key dodag).1 = vector := by
  unfold Node.drawP2pRoute
  dsimp only
  split
  · exact asking.gathered
  · next several =>
    have known : ∀ candidate ∈ dodag.pruneP2pCandidateRoutes.p2p.candidateRoutes,
        candidate.route = vector := fun candidate mem =>
      asking.candidates candidate (DodagMembership.sublist_prune.subset mem)
    have some_ : 0 < dodag.pruneP2pCandidateRoutes.p2p.candidateRoutes.length :=
      List.length_pos_iff.mpr fun empty => several (List.isEmpty_iff.mpr empty)
    obtain ⟨low, high⟩ := @RandomStream.getValue_range
      (n.setDodag key dodag.pruneP2pCandidateRoutes).p2pRouteSelector 0
      (dodag.pruneP2pCandidateRoutes.p2p.candidateRoutes.length - 1)
      (Int.sub_nonneg.mpr (Int.ofNat_le.mpr some_))
    generalize ((n.setDodag key dodag.pruneP2pCandidateRoutes).p2pRouteSelector.getValue 0
      (dodag.pruneP2pCandidateRoutes.p2p.candidateRoutes.length - 1)).1 = draw at low high ⊢
    have inside : draw.toNat < dodag.pruneP2pCandidateRoutes.p2p.candidateRoutes.length :=
      (Int.toNat_lt low).mpr (Int.le_sub_one_iff.mp high)
    rw [List.getElem?_eq_getElem inside]
    exact known _ (List.getElem_mem inside)

/-- The DIO of a membership as it is read off the wire, and the route it tells. -/
theorem Node.Utters.eq_told (utters : n.Utters key dio) (held : n.dodags[key]? = some dodag)
    (option : dodag.discoveryOption = .p2p) :
    ∃ enableLql, dio =
      (dodag.dioMessage enableLql (n.drawP2pRoute key dodag).1).compressed := by
  obtain ⟨sent, interface, source, said, outputs, mem, encodable, read⟩ := utters
  rw [Node.sendDio, held] at outputs
  simp only [option, if_true] at outputs
  split at outputs
  · have silent : sent = [] := List.self_eq_append_left.mp outputs
    rw [silent] at mem
    cases mem
  · have quiet : (n.drawP2pRoute key dodag).2.outputs = n.outputs := by
      unfold Node.drawP2pRoute
      dsimp only
      split
      · rfl
      · rfl
    obtain ⟨written, emits, carry⟩ := @Node.hands_sendRplMessage (n.drawP2pRoute key dodag).2
      (.dio (dodag.dioMessage (n.drawP2pRoute key dodag).2.attributes.enableLql
        (n.drawP2pRoute key dodag).1)) allNodesMulticast 0
    rw [emits, emit_outputs, quiet, List.append_left_inj] at outputs
    obtain ⟨_, _, same⟩ := carry _ (outputs ▸ mem)
    cases same
    rw [DioHeader.readFrom_serialize_encodable encodable] at read
    cases read
    exact ⟨_, rfl⟩

/-- A member sends what it has gathered. -/
theorem AskingRoute.asksRoute (asking : AskingRoute target vector p2p)
    (isTarget : target.isAny = false)
    (part : n.partIn key = some (key, mopP2pRouteDiscovery, {}, p2p))
    (utters : n.Utters key dio) : AsksRoute key target vector dio := by
  obtain ⟨dodag, held, keyed, temporary, clean, rfl⟩ := Node.member_of_partIn part
  have option : dodag.discoveryOption = .p2p := by
    have isTemporary : dodag.isTemporary = true := decide_eq_true temporary
    rw [DodagMembership.discoveryOption, isTemporary, clean, asking.asks, isTarget]
    rfl
  obtain ⟨enableLql, rfl⟩ := utters.eq_told held option
  rw [asking.drawP2pRoute]
  have keyedToo := dodag.dioMessage_key enableLql vector
  unfold DodagMembership.dioMessage at keyedToo ⊢
  rw [option] at keyedToo ⊢
  refine ⟨keyedToo.trans keyed, ⟨_, rfl, asking.asks, asking.hopByHop, asking.numRoutes,
    asking.reply, rfl⟩, ?_⟩
  change dodag.p2p.additionalTargets.map _ = []
  rw [asking.alone]
  rfl

theorem AsksRoute.getP2pRdo (asks : AsksRoute key target vector dio) :
    dio.getP2pRdo.target = target ∧ dio.getP2pRdo.hopByHop = false ∧
      dio.getP2pRdo.numRoutes = 0 ∧ dio.getP2pRdo.reply = true ∧
      dio.getP2pRdo.addressVector = vector := by
  obtain ⟨rdo, held, about⟩ := asks.rdo
  rw [DioHeader.getP2pRdo, held]
  exact about

theorem AsksRoute.isSome (asks : AsksRoute key target vector dio) :
    dio.p2pRdo.isSome = true := by
  obtain ⟨rdo, held, -⟩ := asks.rdo
  rw [held]
  rfl

end Asking

/-! ## Joining -/

section Joining

variable {n m : Node} {key : DodagKey} {dodag : DodagMembership} {dio : DioHeader}
  {target : Ipv6Address} {vector : List Ipv6Address} {heard : Reception} {rdo : P2pRdoOption}

/-- A candidate recorded is the route through this node, or was one before. -/
theorem Node.mem_recordP2pCandidateRoute {candidate : P2pCandidate}
    (mem : candidate ∈ (m.recordP2pCandidateRoute dodag rdo heard).p2p.candidateRoutes) :
    candidate ∈ dodag.p2p.candidateRoutes ∨
      m.p2pRouteThrough dodag rdo heard.interface = some candidate.route := by
  unfold Node.recordP2pCandidateRoute at mem
  split at mem
  · exact .inl mem
  · dsimp only at mem
    split at mem
    · exact .inl mem
    split at mem
    · exact .inl (DodagMembership.sublist_prune.subset mem)
    split at mem
    · exact .inl (DodagMembership.sublist_prune.subset mem)
    · next route through =>
      have throughHere : m.p2pRouteThrough dodag rdo heard.interface = some route := through
      have added : candidate ∈ dodag.pruneP2pCandidateRoutes.p2p.candidateRoutes ∨
          candidate.route = route := by
        unfold Node.addCandidate at mem
        dsimp only at mem
        split at mem
        · split at mem
          · exact .inl (absurd mem List.not_mem_nil)
          · rcases List.mem_append.mp mem with old | new
            · exact .inl (absurd old List.not_mem_nil)
            · exact .inr (congrArg P2pCandidate.route (List.mem_singleton.mp new))
        · split at mem
          · exact .inl mem
          · rcases List.mem_append.mp mem with old | new
            · exact .inl old
            · exact .inr (congrArg P2pCandidate.route (List.mem_singleton.mp new))
      rcases added with old | new
      · exact .inl (DodagMembership.sublist_prune.subset old)
      · exact .inr (new ▸ throughHere)

theorem Node.p2pRouteThrough_eq {route : List Ipv6Address} {interface : Nat}
    (through : m.p2pRouteThrough dodag rdo interface = some route) :
    route = rdo.addressVector ++ [m.getGlobalAddressOnInterface dodag interface] := by
  unfold Node.p2pRouteThrough at through
  dsimp only at through
  split at through
  · cases through
  split at through
  · cases through
  · cases through
    rfl

theorem Node.candidateRoutes_recordP2pRoutes :
    (m.recordP2pRoutes dodag rdo heard).p2p.candidateRoutes =
      (m.recordP2pCandidateRoute dodag rdo heard).p2p.candidateRoutes := by
  unfold Node.recordP2pRoutes Node.recordP2pAlternateRoute
  dsimp only
  split
  · split
    · rfl
    · split
      · rfl
      · rfl
  · rfl

/-- What is recorded of the first copy. -/
theorem Node.recordP2pRoutes_first (clean : dodag.p2p = {}) :
    ∃ candidates rank, m.recordP2pRoutes dodag rdo heard =
        { dodag with p2p := { candidateRoutes := candidates, candidateRank := rank } } ∧
      ∀ candidate ∈ candidates, candidate.route =
        rdo.addressVector ++ [m.getGlobalAddressOnInterface dodag heard.interface] := by
  obtain ⟨candidates, rank, records⟩ := m.recordP2pRoutes_spec dodag rdo heard
  have noAlternates : m.alternatesWith dodag rdo heard.interface = [] := by
    unfold Node.alternatesWith
    rw [clean]
    split
    · rfl
    · rfl
  refine ⟨candidates, rank, ?_, fun candidate mem => ?_⟩
  · rw [records, noAlternates, clean]
  · have recorded : candidate ∈
        (m.recordP2pCandidateRoute dodag rdo heard).p2p.candidateRoutes := by
      rw [← Node.candidateRoutes_recordP2pRoutes, records]
      exact mem
    rcases Node.mem_recordP2pCandidateRoute recorded with old | through
    · rw [clean] at old
      exact absurd old List.not_mem_nil
    · exact Node.p2pRouteThrough_eq through

/-- A member whose address fits the vector adds it. -/
theorem Node.Answers.takeP2pVector {told : Node} {p2p : P2pState} {interface : Nat}
    (answers : m.Answers key interface dodag told p2p []) {own : Ipv6Address}
    (isOwn : m.getGlobalAddressOnInterface dodag heard.interface = own)
    (addressed : own.isAny = false)
    (fits : (rdo.addressVector ++ [own]).length ≤
      p2pMaxAddressVectorEntries (p2pRdoCompr rdo.target (rdo.addressVector ++ [own])
        key.dodagId)) :
    told.takeP2pVector key rdo heard.interface =
      (true, told.modifyP2p key fun p2p =>
        { p2p with
          addressVector := rdo.addressVector ++ [own]
          alternateRoutes := p2p.alternateRoutes.filter (· ≠ rdo.addressVector ++ [own]) }) := by
  have ownToo : told.getGlobalAddressOnInterface { dodag with p2p := p2p } heard.interface =
      own := by
    rw [← isOwn]
    unfold Node.getGlobalAddressOnInterface
    rw [answers.ipv6]
  unfold Node.takeP2pVector
  rw [answers.held]
  dsimp only
  rw [ownToo, addressed, if_neg Bool.false_ne_true, if_neg (Nat.not_lt.mpr fits)]

/-- The first P2P mode DIO that a member takes in: the route through this node is all that it
knows of, and it answers if it is the Target. -/
theorem Node.handleP2pRdo_first (interface : Nat) (asks : AsksRoute key target vector dio)
    (held : m.dodags[key]? = some dodag) (clean : dodag.p2p = {}) {own : Ipv6Address}
    (isOwn : m.getGlobalAddressOnInterface dodag heard.interface = own)
    (addressed : own.isAny = false)
    (fits : (vector ++ [own]).length ≤
      p2pMaxAddressVectorEntries (p2pRdoCompr target (vector ++ [own]) key.dodagId)) :
    ∃ (ready : Node) (p2p : P2pState), m.Answers key interface dodag ready p2p [] ∧
      m.handleP2pRdo dio heard = ready.replyAsTarget key ∧
      AskingRoute target (vector ++ [own]) p2p ∧
      p2p.isTarget = m.ipv6.isOwnAddress target ∧ p2p.lastRepliedAddressVector = [] ∧
      p2p.isOrigin = false := by
  obtain ⟨named, hopByHop, numRoutes, reply, gathered⟩ := asks.getP2pRdo
  have keyed := asks.keyed
  subst keyed
  have matched : m.matchesP2pTarget dio = m.ipv6.isOwnAddress target := by
    rw [Node.matchesP2pTarget, named, asks.alone, List.any_nil, Bool.or_false]
  obtain ⟨candidates, rank, records, known⟩ :=
    @Node.recordP2pRoutes_first m dodag heard dio.getP2pRdo clean
  rw [isOwn, gathered] at known
  have noted := @Node.answers_setDodag m dio.key interface dodag
    { candidateRoutes := candidates, candidateRank := rank }
  have told := noted.silent_trans (Node.answers_modifyP2p interface noted.held fun _ =>
    m.withP2pRdo dio { candidateRoutes := candidates, candidateRank := rank })
  obtain ⟨expiry, arms⟩ := Node.answers_armP2pExpiry interface told.held
  have armed := told.silent_trans arms
  -- whether this is the first time that the Target is reached makes no difference
  obtain ⟨logged, answers, follows⟩ : ∃ logged, m.Answers dio.key interface dodag logged
      { m.withP2pRdo dio { candidateRoutes := candidates, candidateRank := rank } with
        expiry := expiry } [] ∧
      m.handleP2pRdo dio heard =
        if (logged.takeP2pVector dio.key dio.getP2pRdo heard.interface).1 then
          ((logged.takeP2pVector dio.key dio.getP2pRdo heard.interface).2.armP2pExpiry
            dio.key).replyAsTarget dio.key
        else (logged.takeP2pVector dio.key dio.getP2pRdo heard.interface).2 := by
    have attends : (m.setDodag dio.key { dodag with
        p2p := { candidateRoutes := candidates, candidateRank := rank } }).ignoresP2pRdo
          { dodag with p2p := { candidateRoutes := candidates, candidateRank := rank } }
          heard.sender = false := rfl
    have notOrigin : dodag.p2p.isOrigin = false := by rw [clean]
    unfold Node.handleP2pRdo
    extract_lets key rdo
    rw [held]
    dsimp only
    rw [notOrigin, if_neg Bool.false_ne_true, records]
    dsimp only
    rw [attends, if_neg Bool.false_ne_true]
    split
    · exact ⟨_, armed.log_reached dio.key, rfl⟩
    · exact ⟨_, armed, rfl⟩
  have extends_ : logged.takeP2pVector dio.key dio.getP2pRdo heard.interface = _ :=
    answers.takeP2pVector isOwn addressed (by rw [gathered, named]; exact fits)
  have grown := answers.silent_trans (Node.answers_modifyP2p interface answers.held fun p2p =>
    { p2p with
      addressVector := dio.getP2pRdo.addressVector ++ [own]
      alternateRoutes := p2p.alternateRoutes.filter
        (· ≠ dio.getP2pRdo.addressVector ++ [own]) })
  obtain ⟨again, rearms⟩ := Node.answers_armP2pExpiry interface grown.held
  refine ⟨_, _, grown.silent_trans rearms, ?_, ?_, ?_, rfl, rfl⟩
  · rw [follows, extends_]
    rfl
  · refine ⟨named, hopByHop, ?_, reply, ?_, ?_, ?_⟩
    · change Node.askedRoutes dio.getP2pRdo = 0
      rw [Node.askedRoutes, numRoutes, ite_self]
    · change dio.targets.map _ = []
      rw [asks.alone]
      rfl
    · change dio.getP2pRdo.addressVector ++ [own] = vector ++ [own]
      rw [gathered]
    · exact known
  · change (false || m.matchesP2pTarget dio) = _
    rw [Bool.false_or, matched]

end Joining

/-! ## The line -/

/-- The node joins the temporary DAG by the DIO, and has an address there on the interface it
hears it on. -/
structure Hop.JoinsP2p (h : Hop) (dio : DioHeader) (m : Node) (dodag : DodagMembership) :
    Prop where
  takes : h.node.Takes (.receive h.heard (.dio dio)) dio h.heard
  absent : h.node.dodags[dio.key]? = none
  joins : h.node.joinsBy dio = true
  handles : h.node.beforeDiscovery dio h.heard = some m
  held : m.dodags[dio.key]? = some dodag
  address : m.getGlobalAddressOnInterface dodag h.heard.interface = h.address
  isAddress : h.address.isAny = false

/-- The DIO that the first of the routers hears comes out of the last: each one joins by it, is
not the Target, and sends one of its own while it still is what it was then in the discovery. -/
inductive P2pFloods (key : DodagKey) : DioHeader → List Hop → DioHeader → Prop
  | out {dio : DioHeader} : P2pFloods key dio [] dio
  | hop {dio said last : DioHeader} {h : Hop} {m speaker : Node} {dodag : DodagMembership}
      {rest : List Hop} (joins : h.JoinsP2p dio m dodag)
      (passes : m.ipv6.isOwnAddress dio.getP2pRdo.target = false)
      (kept : speaker.partIn key = (h.after dio).partIn key)
      (utters : speaker.Utters key said) (floods : P2pFloods key said rest last) :
      P2pFloods key dio (h :: rest) last

/-- A vector that starts as this one fits one option of the discovery. -/
def RoomFor (key : DodagKey) (target : Ipv6Address) (whole : List Ipv6Address) : Prop :=
  ∀ vector, vector <+: whole →
    vector.length ≤ p2pMaxAddressVectorEntries (p2pRdoCompr target vector key.dodagId)

section Line

variable {n m : Node} {key : DodagKey} {dodag : DodagMembership} {dio : DioHeader} {h : Hop}
  {target : Ipv6Address} {vector : List Ipv6Address}

/-- What a node makes of the DIO that it joins by. -/
theorem Hop.JoinsP2p.after_eq (interface : Nat) (joins : h.JoinsP2p dio m dodag)
    (asks : AsksRoute key target vector dio)
    (fits : (vector ++ [h.address]).length ≤
      p2pMaxAddressVectorEntries (p2pRdoCompr target (vector ++ [h.address]) key.dodagId)) :
    dodag.aodv = {} ∧ dodag.key = key ∧ dodag.mop = mopP2pRouteDiscovery ∧
      ∃ (ready : Node) (p2p : P2pState), m.Answers key interface dodag ready p2p [] ∧
        h.after dio = ready.replyAsTarget key ∧
        AskingRoute target (vector ++ [h.address]) p2p ∧
        p2p.isTarget = m.ipv6.isOwnAddress target ∧ p2p.lastRepliedAddressVector = [] ∧
        p2p.isOrigin = false := by
  obtain ⟨cleanAodv, cleanP2p⟩ := Node.clean_of_joins joins.joins joins.handles joins.held
  obtain ⟨keyed, temporary⟩ := joins.takes.place joins.absent joins.handles joins.held
    (.inr (.inr asks.isSome))
  have holds : m.holds dio.key = true := by
    rw [Node.holds, ExtTreeMap.contains_eq_isSome_getElem?, joins.held]
    rfl
  have handles := joins.takes.apply_eq_handleDiscovery joins.handles
  rw [Node.handleDiscovery_of_rdo joins.takes asks.isSome holds] at handles
  have held : m.dodags[key]? = some dodag := asks.keyed ▸ joins.held
  refine ⟨cleanAodv, keyed.trans asks.keyed, temporary, ?_⟩
  rw [Hop.after, handles]
  exact Node.handleP2pRdo_first interface asks held cleanP2p joins.address joins.isAddress fits

/-- A router that is not the Target has what the DIO gathered and its own address. -/
theorem Hop.JoinsP2p.asking (joins : h.JoinsP2p dio m dodag)
    (asks : AsksRoute key target vector dio) (passes : m.ipv6.isOwnAddress target = false)
    (fits : (vector ++ [h.address]).length ≤
      p2pMaxAddressVectorEntries (p2pRdoCompr target (vector ++ [h.address]) key.dodagId)) :
    ∃ p2p, (h.after dio).partIn key = some (key, mopP2pRouteDiscovery, {}, p2p) ∧
      AskingRoute target (vector ++ [h.address]) p2p := by
  obtain ⟨cleanAodv, keyed, temporary, ready, p2p, answers, after, asking, noTarget, -⟩ :=
    joins.after_eq 0 asks fits
  have silent : ready.replyAsTarget key = ready := by
    rw [Node.replyAsTarget, answers.held]
    dsimp only
    rw [noTarget, passes, Bool.false_and, Bool.false_and, if_neg Bool.false_ne_true]
  refine ⟨p2p, ?_, asking⟩
  rw [after, silent, Node.partIn, answers.held, Option.map_some, DodagMembership.part]
  exact congrArg some (Prod.ext keyed (Prod.ext temporary (Prod.ext cleanAodv rfl)))

/-- The DIO that comes out of the routers has gathered their addresses in order. -/
theorem P2pFloods.gathers {first last : DioHeader} {hops : List Hop}
    (floods : P2pFloods key first hops last) (asks : AsksRoute key target vector first)
    (isTarget : target.isAny = false)
    (room : RoomFor key target (vector ++ hops.map Hop.address)) :
    AsksRoute key target (vector ++ hops.map Hop.address) last := by
  induction floods generalizing vector with
  | out =>
    rw [List.map_nil, List.append_nil]
    exact asks
  | @hop dio said last h m speaker dodag rest joins passes kept utters _ ih =>
    rw [asks.getP2pRdo.1] at passes
    rw [List.map_cons, ← List.singleton_append, ← List.append_assoc] at room ⊢
    obtain ⟨p2p, part, asking⟩ :=
      joins.asking asks passes (room _ (List.prefix_append _ _))
    exact ih (asking.asksRoute isTarget (kept.trans part) utters) room

end Line

end Rpl
