import Rpl.AskedRoutes
import Rpl.DioSerialize
import Rpl.Lifetimes
import Rpl.StoppedDiscovery

/-!
# An RREQ along a line of routers

An RREQ without hop-by-hop routes gathers the addresses of the routers it passes.  Each of them
joins the RREQ-Instance by the DIO of the one before it, adds its address to the vector and
sends a DIO of its own, written and read through the codec.  What comes out of the last router
names all of them in order.
-/

namespace Rpl

open Std

/-! ## Hops -/

/-- A node as a discovery gets to it: how it hears the one before it, and its address in the
DODAG. -/
structure Hop where
  node : Node
  heard : Reception
  address : Ipv6Address

/-- The node after the DIO. -/
def Hop.after (h : Hop) (dio : DioHeader) : Node := h.node.apply (.receive h.heard (.dio dio))

/-- The node takes the DIO in and joins the DODAG by it, is still a member once it has selected
a parent, and has an address there by then. -/
structure Hop.Joins (h : Hop) (dio : DioHeader) (m : Node) (dodag : DodagMembership) : Prop where
  takes : h.node.Takes (.receive h.heard (.dio dio)) dio h.heard
  absent : h.node.dodags[dio.key]? = none
  joins : h.node.joinsBy dio = true
  handles : h.node.beforeDiscovery dio h.heard = some m
  held : m.dodags[dio.key]? = some dodag
  address : m.getGlobalAddressIn dodag = h.address
  isAddress : h.address.isAny = false

/-- What the DIOs of a membership say of its discovery. -/
def DodagMembership.role (dodag : DodagMembership) : DodagKey × UInt8 × AodvRreqState :=
  (dodag.key, dodag.mop, dodag.aodv)

def Node.roleIn (n : Node) (key : DodagKey) : Option (DodagKey × UInt8 × AodvRreqState) :=
  (n.dodags[key]?).map DodagMembership.role

/-- The DIO is multicast by `SendDio`, and read off the wire. -/
def Node.Utters (n : Node) (key : DodagKey) (dio : DioHeader) : Prop :=
  ∃ sent interface source said, (n.sendDio key allNodesMulticast 0).outputs = sent ++ n.outputs ∧
    Output.sent interface source allNodesMulticast (.dio said) ∈ sent ∧ said.Encodable ∧
      DioHeader.readFrom said.serialize = .ok (dio, [])

/-- The DIO that the first of the routers hears comes out of the last: each one joins by it, is
not the node that is sought, and sends one of its own while it still is what it was then in the
discovery. -/
inductive Floods (key : DodagKey) : DioHeader → List Hop → DioHeader → Prop
  | out {dio : DioHeader} : Floods key dio [] dio
  | hop {dio said last : DioHeader} {h : Hop} {m speaker : Node} {dodag : DodagMembership}
      {rest : List Hop} (joins : h.Joins dio m dodag)
      (passes : m.ipv6.isOwnAddress dio.getArt.target = false)
      (kept : speaker.roleIn key = (h.after dio).roleIn key)
      (utters : speaker.Utters key said) (floods : Floods key said rest last) :
      Floods key dio (h :: rest) last

section Hops

variable {n m : Node} {key : DodagKey} {dodag : DodagMembership} {dio : DioHeader} {h : Hop}

/-! ## What is said -/

/-- The DIO of a membership that is no temporary DAG's, as it is read off the wire. -/
theorem Node.Utters.eq_compressed (utters : n.Utters key dio)
    (held : n.dodags[key]? = some dodag) (other : dodag.discoveryOption ≠ .p2p) :
    ∃ enableLql, dio = (dodag.dioMessage enableLql []).compressed := by
  obtain ⟨sent, interface, source, said, outputs, mem, encodable, read⟩ := utters
  rw [Node.sendDio, held] at outputs
  dsimp only at outputs
  split at outputs
  · have silent : sent = [] := List.self_eq_append_left.mp outputs
    rw [silent] at mem
    cases mem
  · obtain ⟨written, emits, carry⟩ := @Node.hands_sendRplMessage n
      (.dio (dodag.dioMessage n.attributes.enableLql [])) allNodesMulticast 0
    dsimp only at outputs
    rw [emits, emit_outputs, List.append_left_inj] at outputs
    obtain ⟨_, _, same⟩ := carry _ (outputs ▸ mem)
    cases same
    rw [DioHeader.readFrom_serialize_encodable encodable] at read
    cases read
    exact ⟨_, rfl⟩

/-! ## Joining -/

/-- The membership of a discovery joined is held under its own key, and is a temporary one. -/
theorem Node.Takes.place {e : Event} {heard : Reception} (takes : n.Takes e dio heard)
    (absent : n.dodags[dio.key]? = none) (handles : n.beforeDiscovery dio heard = some m)
    (held : m.dodags[dio.key]? = some dodag)
    (discovery : dio.rreq.isSome = true ∨ dio.rrep.isSome = true ∨ dio.p2pRdo.isSome = true) :
    dodag.key = dio.key ∧ dodag.mop = mopP2pRouteDiscovery := by
  have mop : dio.mop = mopP2pRouteDiscovery := takes.discovery.2.2 discovery
  have shifts := Node.shifts_beforeDiscovery takes handles
  refine Shifts.keeps (I := fun s => ∀ stake, s.held[dio.key]? = some stake →
    stake.key = dio.key ∧ stake.mop = mopP2pRouteDiscovery) ?_ shifts ?_ dodag.stake
    (Node.held_stake held)
  · intro s after _ shift placed stake held
    cases shift.turn dio.key with
    | stays same => exact placed stake (same ▸ held)
    | unbars _ _ _ _ before still =>
      cases still.symm.trans held
      exact placed _ before
    | begins _ begins heldAfter =>
      cases heldAfter.symm.trans held
      cases begins with
      | join _ joining =>
        cases takes.unique joining
        exact ⟨rfl, mop⟩
      | root roots =>
        refine ⟨?_, (roots.answers takes).2.2.1⟩
        cases roots with
        | _ => rfl
    | rewrites before rewrites rewritten =>
      cases rewritten.symm.trans held
      have placed := placed _ before
      cases rewrites with
      | _ => exact placed
    | ends _ gone =>
      rw [gone] at held
      cases held
  · intro stake held
    rw [Node.stakes_held, absent] at held
    cases held

theorem Hop.Joins.place (joins : h.Joins dio m dodag)
    (discovery : dio.rreq.isSome = true ∨ dio.rrep.isSome = true) :
    dodag.key = dio.key ∧ dodag.mop = mopP2pRouteDiscovery :=
  joins.takes.place joins.absent joins.handles joins.held (discovery.imp_right .inl)

/-- The deadline of an instance is all that `ArmAodvExpiry` sets. -/
theorem Node.armAodvExpiry_eq (held : m.dodags[key]? = some dodag) :
    ∃ expiry, m.armAodvExpiry key =
      m.setDodag key { dodag with aodv := { dodag.aodv with expiry := expiry } } := by
  unfold Node.armAodvExpiry
  rw [held]
  dsimp only
  split
  · exact ⟨dodag.aodv.expiry, (Node.setDodag_self held).symm⟩
  · rw [Node.setDodag_of_held held]
    exact ⟨_, rfl⟩

/-- A membership put back twice is put back the second time. -/
theorem Node.setDodag_setDodag (n : Node) (key : DodagKey) (first second : DodagMembership) :
    (n.setDodag key first).setDodag key second = n.setDodag key second := by
  rw [Node.setDodag, Node.setDodag, Node.setDodag, OrderedMap.insert_insert]

/-- A member with an address adds it to the vector. -/
theorem Node.extendVector_setDodag {vector : List Ipv6Address}
    (addressed : (m.getGlobalAddressIn dodag).isAny = false)
    (room : vector.length < aodvAddressVectorMaxEntries) :
    (m.setDodag key dodag).extendVector key vector =
      (true, m.setDodag key
        { dodag with
          aodv := { dodag.aodv with
            addressVector := vector ++ [m.getGlobalAddressIn dodag] } }) := by
  have held : (m.setDodag key dodag).dodags[key]? = some dodag := ExtTreeMap.getElem?_insert_self
  have same : (m.setDodag key dodag).getGlobalAddressIn dodag = m.getGlobalAddressIn dodag := rfl
  rw [Node.extendVector, held]
  dsimp only
  rw [same, addressed, if_neg Bool.false_ne_true, if_neg (Nat.not_le.mpr room), Node.modifyAodv,
    Node.setDodag_of_held held, Node.setDodag_setDodag]

end Hops

/-! ## RREQs -/

/-- An RREQ-DIO for the one target, without hop-by-hop routes, that has gathered the vector. -/
structure Seeks (key : DodagKey) (target : Ipv6Address) (vector : List Ipv6Address)
    (symmetric : Bool) (dio : DioHeader) : Prop where
  keyed : dio.key = key
  rreq : ∃ rreq, dio.rreq = some rreq ∧ rreq.hopByHop = false ∧ rreq.addressVector = vector ∧
    rreq.symmetric = symmetric
  arts : dio.arts.map ArtOption.target = [target]

/-- The state of an RREQ-Instance for the one target. -/
structure Seeking (target : Ipv6Address) (vector : List Ipv6Address) (symmetric : Bool)
    (aodv : AodvRreqState) : Prop where
  asks : aodv.target = target
  targets : aodv.targets = [target]
  hopByHop : aodv.hopByHop = false
  gathered : aodv.addressVector = vector
  isSymmetric : aodv.symmetric = symmetric
  isRreqInstance : aodv.isRrepInstance = false
  unanswered : aodv.rrepHandled = ∅

section Rreqs

variable {n m : Node} {key : DodagKey} {dodag : DodagMembership} {dio : DioHeader} {h : Hop}
  {target : Ipv6Address} {vector : List Ipv6Address} {symmetric : Bool}

/-- A member of the RREQ-Instance sends what it has gathered. -/
theorem Seeking.seeks {aodv : AodvRreqState} (seeking : Seeking target vector symmetric aodv)
    (isTarget : target.isAny = false)
    (role : n.roleIn key = some (key, mopP2pRouteDiscovery, aodv)) (utters : n.Utters key dio) :
    Seeks key target vector symmetric dio := by
  obtain ⟨dodag, held, same⟩ := Option.map_eq_some_iff.mp role
  obtain ⟨keyed, temporary, rfl⟩ : dodag.key = key ∧ dodag.mop = mopP2pRouteDiscovery ∧
      dodag.aodv = aodv := by
    simpa only [DodagMembership.role, Prod.mk.injEq] using same
  have option : dodag.discoveryOption = .rreq := by
    have isTemporary : dodag.isTemporary = true := decide_eq_true temporary
    rw [DodagMembership.discoveryOption, isTemporary, seeking.isRreqInstance, seeking.asks,
      isTarget]
    rfl
  obtain ⟨enableLql, rfl⟩ := utters.eq_compressed held (by rw [option]; decide)
  have keyedToo := dodag.dioMessage_key enableLql []
  unfold DodagMembership.dioMessage at keyedToo ⊢
  rw [option] at keyedToo ⊢
  refine ⟨keyedToo.trans keyed, ⟨_, rfl, seeking.hopByHop, seeking.gathered,
    seeking.isSymmetric⟩, ?_⟩
  change dodag.targetArts.map ArtOption.target = [target]
  rw [DodagMembership.targetArts, seeking.targets]
  rfl

theorem Seeks.isSome (seeks : Seeks key target vector symmetric dio) :
    dio.rreq.isSome = true := by
  obtain ⟨rreq, held, -⟩ := seeks.rreq
  rw [held]
  rfl

theorem Seeks.getArt (seeks : Seeks key target vector symmetric dio) :
    dio.getArt.target = target := by
  have named := seeks.arts
  unfold DioHeader.getArt
  cases arts : dio.arts with
  | nil =>
    rw [arts] at named
    cases named
  | cons art rest =>
    rw [arts, List.map_cons, List.cons.injEq] at named
    exact named.1

/-- What a router records of the first RREQ it takes in, if it is not the target. -/
theorem Seeks.takeRreq (seeks : Seeks key target vector symmetric dio) (clean : dodag.aodv = {})
    (passes : m.ipv6.isOwnAddress target = false) :
    (m.takeRreq dodag dio).1 = false ∧
      Seeking target [] (symmetric && !m.attributes.aodvForceAsymmetric)
        (m.takeRreq dodag dio).2 ∧ (m.takeRreq dodag dio).2.isTarget = false := by
  obtain ⟨rreq, held, hopByHop, gathered, isSymmetric⟩ := seeks.rreq
  have getRreq : dio.getRreq = rreq := by rw [DioHeader.getRreq, held]; rfl
  have asks := seeks.getArt
  have unprocessed : Node.rreqProcessed dodag.aodv rreq = false := by
    rw [clean, Node.rreqProcessed, hopByHop]
    rfl
  have own : [target].any m.ipv6.isOwnAddress = false := by
    rw [List.any_cons, passes]
    rfl
  have others : [target].filter (fun target => !m.ipv6.isOwnAddress target) = [target] := by
    rw [List.filter_cons, passes]
    rfl
  have taken : m.takeRreq dodag dio = (false,
      { dodag.aodv with
        origSeqNo := rreq.origSeqNo
        rankLimit := rreq.rankLimit
        lifetimeField := rreq.lifetime
        hopByHop := false
        target := target
        isOrigin := false
        targetSeqNos := dio.arts.foldl
          (fun seqNos (art : ArtOption) => seqNos.insert art.target art.destSeqNo)
          dodag.aodv.targetSeqNos
        targets := [target]
        targetsSeeded := true
        isTarget := dodag.aodv.isTarget || false
        symmetric := symmetric && !m.attributes.aodvForceAsymmetric }) := by
    simp only [Node.takeRreq, Node.matchTargets, Node.intersectTargets, Node.withRreq, getRreq,
      unprocessed, asks, seeks.arts, own, others, hopByHop, isSymmetric, Bool.false_eq_true,
      if_false]
  rw [taken, clean]
  exact ⟨rfl, ⟨rfl, rfl, rfl, rfl, rfl, rfl, rfl⟩, rfl⟩

/-- An RREQ-DIO that is not passed over is recorded, and the node's address added to its vector;
a target answers. -/
theorem Node.handleAodvRreq_eq {heard : Reception} (held : m.dodags[dio.key]? = some dodag)
    (heeds : m.ignoresRreq dodag dio heard = false) (sourceRouted : dio.getRreq.hopByHop = false)
    (addressed : (m.getGlobalAddressIn dodag).isAny = false)
    (room : dio.getRreq.addressVector.length < aodvAddressVectorMaxEntries) :
    ∃ (joined logged : Node) (expiry : Option Time), (logged = m.unbarred dio.key ∨
        logged = (m.unbarred dio.key).log (.discoveryTargetReached dio.key)) ∧
      joined = logged.setDodag dio.key
        { dodag with
          aodv := { (m.takeRreq dodag dio).2 with
            addressVector := dio.getRreq.addressVector ++ [m.getGlobalAddressIn dodag]
            expiry := expiry } } ∧
      m.handleAodvRreq dio heard =
        if (m.takeRreq dodag dio).1 then joined.sendAodvRrep dio.key else joined := by
  have heldUnbarred : (m.unbarred dio.key).dodags[dio.key]? = some dodag := held
  have ignores : (m.unbarred dio.key).ignoresRreq = m.ignoresRreq := rfl
  have takesIn : (m.unbarred dio.key).takeRreq = m.takeRreq := rfl
  have sameAddress : (m.unbarred dio.key).getGlobalAddressIn = m.getGlobalAddressIn := rfl
  generalize isUnbarred : m.unbarred dio.key = unbarred at heldUnbarred ignores takesIn sameAddress
  obtain ⟨first, armed⟩ : ∃ expiry, (unbarred.modifyAodv dio.key fun _ =>
      (m.takeRreq dodag dio).2).armAodvExpiry dio.key = unbarred.setDodag dio.key
        { dodag with aodv := { (m.takeRreq dodag dio).2 with expiry := expiry } } := by
    rw [Node.modifyAodv, Node.setDodag_of_held heldUnbarred]
    obtain ⟨expiry, arms⟩ := @Node.armAodvExpiry_eq (unbarred.setDodag dio.key
      { dodag with aodv := (m.takeRreq dodag dio).2 }) _ _ ExtTreeMap.getElem?_insert_self
    exact ⟨expiry, by rw [arms, Node.setDodag_setDodag]⟩
  obtain ⟨logged, isLogged, logs⟩ : ∃ logged : Node, (logged = unbarred ∨
      logged = unbarred.log (.discoveryTargetReached dio.key)) ∧
      (if (!dodag.aodv.isTarget && (m.takeRreq dodag dio).2.isTarget) = true then
        (unbarred.setDodag dio.key { dodag with aodv :=
          { (m.takeRreq dodag dio).2 with expiry := first } }).log
            (.discoveryTargetReached dio.key)
      else unbarred.setDodag dio.key { dodag with aodv :=
          { (m.takeRreq dodag dio).2 with expiry := first } }) =
        logged.setDodag dio.key { dodag with aodv :=
          { (m.takeRreq dodag dio).2 with expiry := first } } := by
    split
    · exact ⟨_, .inr rfl, rfl⟩
    · exact ⟨_, .inl rfl, rfl⟩
  have loggedAddress (aodv : AodvRreqState) :
      logged.getGlobalAddressIn { dodag with aodv := aodv } = m.getGlobalAddressIn dodag := by
    rw [← sameAddress]
    rcases isLogged with rfl | rfl
    · rfl
    · rfl
  have extended := @Node.extendVector_setDodag logged dio.key { dodag with aodv :=
    { (m.takeRreq dodag dio).2 with expiry := first } } dio.getRreq.addressVector
    ((congrArg Ipv6Address.isAny (loggedAddress _)).trans addressed) room
  rw [loggedAddress] at extended
  obtain ⟨second, rearms⟩ := @Node.armAodvExpiry_eq (logged.setDodag dio.key
    { dodag with aodv := { (m.takeRreq dodag dio).2 with
      expiry := first
      addressVector := dio.getRreq.addressVector ++ [m.getGlobalAddressIn dodag] } })
      dio.key _ ExtTreeMap.getElem?_insert_self
  rw [Node.setDodag_setDodag] at rearms
  refine ⟨_, logged, second, isLogged, rfl, ?_⟩
  unfold Node.handleAodvRreq
  extract_lets key lifted
  have isLifted : lifted = unbarred := isUnbarred
  rw [isLifted, heldUnbarred]
  dsimp only
  rw [ignores, takesIn, heeds, if_neg Bool.false_ne_true, armed, logs, Node.routeRreq,
    sourceRouted, if_neg Bool.false_ne_true, extended]
  dsimp only
  rw [if_pos rfl, rearms]

theorem Seeks.getRreq (seeks : Seeks key target vector symmetric dio) :
    dio.getRreq.hopByHop = false ∧ dio.getRreq.addressVector = vector ∧
      dio.getRreq.symmetric = symmetric := by
  obtain ⟨rreq, held, asked⟩ := seeks.rreq
  rw [DioHeader.getRreq, held]
  exact asked

/-- A router that an RREQ-DIO makes a member. -/
theorem Hop.Joins.after_eq (joins : h.Joins dio m dodag)
    (seeks : Seeks key target vector symmetric dio)
    (room : vector.length < aodvAddressVectorMaxEntries) :
    dodag.aodv = {} ∧ dodag.key = key ∧ dodag.mop = mopP2pRouteDiscovery ∧
      ∃ (joined logged : Node) (expiry : Option Time), (logged = m.unbarred key ∨
          logged = (m.unbarred key).log (.discoveryTargetReached key)) ∧
        joined = logged.setDodag key
          { dodag with
            aodv := { (m.takeRreq dodag dio).2 with
              addressVector := vector ++ [h.address]
              expiry := expiry } } ∧
        h.after dio = if (m.takeRreq dodag dio).1 then joined.sendAodvRrep key else joined := by
  obtain ⟨sourceRouted, gathered, -⟩ := seeks.getRreq
  have clean := (Node.clean_of_joins joins.joins joins.handles joins.held).1
  obtain ⟨keyed, temporary⟩ := joins.place (.inl seeks.isSome)
  have holds : m.holds dio.key = true := by
    rw [Node.holds, ExtTreeMap.contains_eq_isSome_getElem?, joins.held]
    rfl
  have handles := joins.takes.apply_eq_handleDiscovery joins.handles
  rw [Node.handleDiscovery_of_rreq joins.takes seeks.isSome holds] at handles
  have adds := Node.handleAodvRreq_eq joins.held
    (Node.not_ignoresRreq joins.takes seeks.isSome clean) sourceRouted
    (by rw [joins.address]; exact joins.isAddress) (by rw [gathered]; exact room)
  rw [joins.address, gathered, seeks.keyed] at adds
  refine ⟨clean, keyed.trans seeks.keyed, temporary, ?_⟩
  rw [Hop.after, handles]
  exact adds

/-- A router that is not the target has what the RREQ gathered and its own address. -/
theorem Hop.Joins.seeking (joins : h.Joins dio m dodag)
    (seeks : Seeks key target vector symmetric dio)
    (passes : m.ipv6.isOwnAddress target = false)
    (room : vector.length < aodvAddressVectorMaxEntries) :
    ∃ aodv, (h.after dio).roleIn key = some (key, mopP2pRouteDiscovery, aodv) ∧
      Seeking target (vector ++ [h.address])
        (symmetric && !m.attributes.aodvForceAsymmetric) aodv := by
  obtain ⟨clean, keyed, temporary, joined, logged, expiry, -, isJoined, after⟩ :=
    joins.after_eq seeks room
  obtain ⟨unreached, seeking, -⟩ := seeks.takeRreq clean passes
  rw [unreached, if_neg Bool.false_ne_true] at after
  refine ⟨{ (m.takeRreq dodag dio).2 with
    addressVector := vector ++ [h.address]
    expiry := expiry }, ?_, seeking.asks, seeking.targets, seeking.hopByHop, rfl,
    seeking.isSymmetric, seeking.isRreqInstance, seeking.unanswered⟩
  rw [after, isJoined, Node.roleIn, Node.setDodag, ExtTreeMap.getElem?_insert_self,
    Option.map_some, DodagMembership.role]
  exact congrArg some (Prod.ext keyed (Prod.ext temporary rfl))

/-- The RREQ that comes out of the routers has gathered their addresses in order. -/
theorem Floods.gathers {first last : DioHeader} {hops : List Hop}
    (floods : Floods key first hops last) (seeks : Seeks key target vector symmetric first)
    (isTarget : target.isAny = false)
    (room : vector.length + hops.length ≤ aodvAddressVectorMaxEntries) :
    ∃ symmetric, Seeks key target (vector ++ hops.map Hop.address) symmetric last := by
  induction floods generalizing vector symmetric with
  | out =>
    rw [List.map_nil, List.append_nil]
    exact ⟨symmetric, seeks⟩
  | @hop dio said last h m speaker dodag rest joins passes kept utters _ ih =>
    rw [seeks.getArt] at passes
    rw [List.length_cons] at room
    obtain ⟨aodv, role, seeking⟩ := joins.seeking seeks passes (by omega)
    have onward := seeking.seeks isTarget (kept.trans role) utters
    rw [List.map_cons, ← List.singleton_append, ← List.append_assoc]
    exact ih onward (by rw [List.length_append, List.length_singleton]; omega)

end Rreqs

/-! ## The OrigNode asks -/

section Asking

variable {n created : Node} {key : DodagKey} {target : Ipv6Address}

theorem Node.dodags_createLocalDodag {instanceId mop : UInt8}
    (creates : n.createLocalDodag instanceId mop = some (key, created)) :
    ∃ dodag, created.dodags = n.dodags.insert key dodag ∧ dodag.key = key ∧ dodag.mop = mop ∧
      dodag.aodv = {} ∧ dodag.p2p = {} := by
  unfold Node.createLocalDodag at creates
  dsimp only at creates
  split at creates
  · cases creates
  · obtain ⟨formed, forms, same⟩ := Option.map_eq_some_iff.mp creates
    cases same
    unfold Node.createDodagMembership at forms
    split at forms
    · cases forms
    · dsimp only at forms
      split at forms
      · cases forms
        exact ⟨_, rfl, rfl, rfl, rfl, rfl⟩
      · cases forms
        exact ⟨_, rfl, rfl, rfl, rfl, rfl⟩

/-- A membership that is rewritten, and its deadline armed, beside the others as they are. -/
theorem Node.roleIn_rooted {dodag : DodagMembership} (held : created.dodags[key]? = some dodag)
    (f : DodagMembership → DodagMembership) :
    ∃ expiry, ((created.modifyDodag key f).armAodvExpiry key).roleIn key =
        some ((f dodag).key, (f dodag).mop, { (f dodag).aodv with expiry := expiry }) ∧
      ∀ other ≠ key, ((created.modifyDodag key f).armAodvExpiry key).dodags[other]? =
        created.dodags[other]? := by
  have rewritten : (created.modifyDodag key f) = created.setDodag key (f dodag) :=
    Node.setDodag_of_held held f
  rw [rewritten]
  obtain ⟨expiry, arms⟩ := @Node.armAodvExpiry_eq (created.setDodag key (f dodag)) key (f dodag)
    ExtTreeMap.getElem?_insert_self
  rw [Node.setDodag_setDodag] at arms
  refine ⟨expiry, ?_, fun other apart => ?_⟩
  · rw [arms, Node.roleIn, Node.setDodag, ExtTreeMap.getElem?_insert_self]
    rfl
  · rw [arms, Node.setDodag, OrderedMap.getElem?_insert_eq, if_neg apart]

/-- `DiscoverRoute` roots an RREQ-Instance for the target. -/
theorem Node.seeking_discoverRoute (asks : (n.discoverRoute target false).1 = some key) :
    ∃ aodv, (n.apply (.discoverRoute target false)).roleIn key =
        some (key, mopP2pRouteDiscovery, aodv) ∧
      Seeking target [] true aodv ∧ target.isAny = false := by
  change ∃ aodv, ((n.discoverRoute target false).2).roleIn key = _ ∧ _
  unfold Node.discoverRoute at asks ⊢
  dsimp only at asks ⊢
  split at asks
  · cases asks
  · next isTarget =>
    rw [if_neg isTarget]
    simp only [Bool.or_eq_true, not_or, Bool.not_eq_true] at isTarget
    split at asks
    · cases asks
    · next instanceId allocated =>
      split at asks
      · cases asks
      · next formed created creates =>
        cases asks
        obtain ⟨dodag, dodags, keyed, temporary, clean, -⟩ :=
          Node.dodags_createLocalDodag creates
        have noted : (created.noteAodvRouteState instanceId).dodags[key]? = some dodag := by
          rw [Node.noteAodvRouteState, dodags]
          exact ExtTreeMap.getElem?_insert_self
        obtain ⟨expiry, role, -⟩ := Node.roleIn_rooted noted fun dodag =>
          restartTrickle n.now (withAodvParameters n.attributes
            { dodag with
              aodv := { n with aodvSeqNo := sequenceIncrement n.aodvSeqNo }.originRreqState target
                false ({ n with aodvSeqNo := sequenceIncrement n.aodvSeqNo }.knownDestSeqNo target)
                dodag.aodv })
        refine ⟨_, role.trans (congrArg some (Prod.ext keyed (Prod.ext temporary rfl))), ?_,
          isTarget.1.1⟩
        have unanswered : dodag.aodv.isRrepInstance = false ∧ dodag.aodv.rrepHandled = ∅ := by
          rw [clean]
          exact ⟨rfl, rfl⟩
        exact ⟨rfl, rfl, rfl, rfl, rfl, unanswered.1, unanswered.2⟩

end Asking

end Rpl
