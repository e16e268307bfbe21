import Rpl.DaoFrame
import Rpl.LinkEstimate
import Rpl.ParentRule
import Rpl.Simulation

/-!
# The maximum link metric

MRHOF leaves out a neighbour whose link metric is above MAX_LINK_METRIC.  The metric
is an estimate over the frames heard, and every sample that goes into it has been
clamped to MAX_LINK_METRIC.  So the estimate never gets above it, at no call of
`SelectPreferredParent` in any run, and the test never leaves anybody out.
-/

namespace Rpl

open Std

/-! ## The estimate -/

/-- The ETX that a link quality indicator stands for, 255 / LQI at a scale of 128, is above
MAX_LINK_METRIC. An LQI of 0 is a link nothing gets through. -/
def ExceedsMaxLinkMetric (lqi : UInt8) : Prop :=
  mrhofMaxLinkMetric.toNat * lqi.toNat < 255 * etxFixedPoint.toNat

/-- A sample is clamped. -/
theorem linkEtxFromPacket_le (lqi : Option UInt8) : linkEtxFromPacket lqi ≤ mrhofMaxLinkMetric := by
  unfold linkEtxFromPacket
  split
  · decide
  · split
    · exact UInt16.le_refl _
    · rw [UInt16.le_iff_toNat_le, UInt16.toNat_ofNat']
      exact (Nat.mod_le ..).trans (Nat.min_le_right ..)

/-- The average of clamped samples is no larger than they are. -/
theorem updateLinkEtx_le {parent : Parent} {sample : UInt16}
    (before : parent.etx ≤ mrhofMaxLinkMetric) (clamped : sample ≤ mrhofMaxLinkMetric) :
    (parent.updateLinkEtx sample).etx ≤ mrhofMaxLinkMetric := by
  by_cases heardAgain : 1 < parent.freshness
  · rw [UInt16.le_iff_toNat_le] at before clamped ⊢
    rw [Parent.etx_updateLinkEtx heardAgain]
    rcases le_total parent.etx.toNat sample.toNat with rises | falls
    · exact (Smoothing.step_rising rises).2.trans clamped
    · exact (Smoothing.step_falling falls).2.trans before
  · unfold Parent.updateLinkEtx
    rw [if_pos (UInt8.not_lt.mp heardAgain)]
    exact clamped

/-! ## Neighbour tables -/

/-- Every link metric in the table is within MAX_LINK_METRIC. -/
def LinksBounded (parents : ExtTreeMap Ipv6Address Parent) : Prop :=
  ∀ (address : Ipv6Address) (parent : Parent), parents[address]? = some parent →
    parent.etx ≤ mrhofMaxLinkMetric

theorem LinksBounded.empty : LinksBounded ∅ := fun _ _ held => by
  rw [ExtTreeMap.getElem?_empty] at held
  cases held

theorem LinksBounded.eraseIf {parents : ExtTreeMap Ipv6Address Parent}
    (bounded : LinksBounded parents)
    (test : Ipv6Address → Parent → Bool) : LinksBounded (OrderedMap.eraseIf test parents) :=
  fun address parent held => bounded address parent (OrderedMap.getElem?_eraseIf_eq_some.mp held).1

theorem LinksBounded.erase {parents : ExtTreeMap Ipv6Address Parent}
    (bounded : LinksBounded parents)
    (sender : Ipv6Address) : LinksBounded (parents.erase sender) := by
  intro address parent held
  rw [OrderedMap.getElem?_erase_eq] at held
  split at held
  · cases held
  · exact bounded address parent held

theorem heardParent_etx_le (now : Time) (dio : DioHeader) (heard : Reception) {entry : Parent}
    (before : entry.etx ≤ mrhofMaxLinkMetric) :
    (Node.heardParent now dio heard entry).etx ≤ mrhofMaxLinkMetric := by
  have sampled (refreshed : Parent) (same : refreshed.etx = entry.etx) :
      (refreshed.updateLinkEtx (linkEtxFromPacket heard.lqi)).etx ≤ mrhofMaxLinkMetric :=
    updateLinkEtx_le (same ▸ before) (linkEtxFromPacket_le heard.lqi)
  unfold Node.heardParent
  dsimp only
  split
  · exact sampled _ rfl
  · exact sampled _ rfl

/-- A DIO taken in keeps the table bounded. -/
theorem LinksBounded.hear {parents : ExtTreeMap Ipv6Address Parent} (bounded : LinksBounded parents)
    (now : Time) (dio : DioHeader) (heard : Reception) :
    LinksBounded (Node.hear now dio heard parents) := by
  intro address parent held
  unfold Node.hear at held
  rw [OrderedMap.getElem?_insert_eq] at held
  split at held
  · cases held
    have entry :
        (parents[heard.sender]?.getD { address := anyAddress }).etx ≤ mrhofMaxLinkMetric := by
      cases before : parents[heard.sender]? with
      | none => decide
      | some parent => exact bounded heard.sender parent before
    exact heardParent_etx_le now dio heard entry
  · exact bounded address parent held

/-! ## Memberships -/

namespace Standing

/-- Every membership has a bounded table. -/
def LinksBounded (s : Standing) : Prop :=
  ∀ (key : DodagKey) (member : Member), s.held[key]? = some member →
    Rpl.LinksBounded member.place.parents

variable {s after : Standing} {key : DodagKey} {member : Member}
  {f : ExtTreeMap Ipv6Address Parent → ExtTreeMap Ipv6Address Parent}

theorem LinksBounded.put (bounded : s.LinksBounded)
    (table : Rpl.LinksBounded member.place.parents) : (s.put key member).LinksBounded := by
  intro other otherMember held
  rw [held_put] at held
  split at held
  · cases held
    exact table
  · exact bounded other otherMember held

theorem LinksBounded.leave {poison : Bool} (bounded : s.LinksBounded) :
    (s.leave key poison).LinksBounded := by
  intro other member held
  rw [held_leave] at held
  split at held
  · cases held
  · exact bounded other member held

theorem LinksBounded.withParents (bounded : s.LinksBounded)
    (keeps : ∀ parents, Rpl.LinksBounded parents → Rpl.LinksBounded (f parents)) :
    (s.withParents key f).LinksBounded := by
  cases held : s.held[key]? with
  | none => rwa [withParents_of_absent held]
  | some member =>
    rw [withParents_of_held held]
    exact bounded.put (keeps _ (bounded key member held))

/-- Settling a membership keeps the tables bounded when the change before it does. -/
theorem LinksBounded.settled (bounded : s.LinksBounded) (settled : s.Settled key f after)
    (keeps : ∀ parents, Rpl.LinksBounded parents → Rpl.LinksBounded (f parents)) :
    after.LinksBounded := by
  have table {member : Member} (held : s.held[key]? = some member) :
      Rpl.LinksBounded (s.table member f).parents :=
    (keeps _ (bounded key member held)).eraseIf _
  cases settled with
  | absent => exact bounded
  | root held => exact bounded.put (keeps _ (bounded key _ held))
  | kept held => exact bounded.put (table held)
  | lost => exact bounded.leave
  | taken held => exact bounded.put (table held)

theorem LinksBounded.select (bounded : s.LinksBounded) : (s.select key).LinksBounded := by
  have settled := s.settled key id
  rw [withParents_id] at settled
  exact bounded.settled settled fun _ => id

end Standing

namespace Node

variable {n m : Node} {key : DodagKey}

/-- What a view that goes by the tables sees. -/
def tables (n : Node) (key : DodagKey) : Option (ExtTreeMap Ipv6Address Parent) :=
  (n.dodags[key]?).map fun dodag => dodag.parents

theorem linksBounded_iff :
    n.standing.LinksBounded ↔ ∀ key parents, n.tables key = some parents →
      LinksBounded parents := by
  constructor
  · intro bounded key parents held
    obtain ⟨dodag, heldDodag, rfl⟩ := Option.map_eq_some_iff.mp held
    exact bounded key dodag.member (held_member heldDodag)
  · intro bounded key member held
    rw [standing_held] at held
    obtain ⟨dodag, heldDodag, rfl⟩ := Option.map_eq_some_iff.mp held
    exact bounded key dodag.parents (by rw [tables, heldDodag, Option.map_some])

theorem tables_setDodag {dodag other : DodagMembership} (held : n.dodags[key]? = some dodag)
    (same : other.parents = dodag.parents) : (n.setDodag key other).tables = n.tables := by
  funext at_
  unfold tables setDodag
  rw [OrderedMap.getElem?_insert_eq]
  split
  · next here =>
    rw [here, held, Option.map_some, Option.map_some, same]
  · rfl

theorem tables_aside : Aside tables where
  replies _ _ _ := rfl
  findings _ _ := rfl
  alike n key dodag other held alike := tables_setDodag held (by
    rw [show other = _ from alike])

theorem linksBounded_same (same : m.tables = n.tables) (bounded : n.standing.LinksBounded) :
    m.standing.LinksBounded := by
  rw [linksBounded_iff] at bounded ⊢
  rwa [same]

/-- Bounded tables stay bounded through every part of a step. -/
theorem linksBounded_frame (key : DodagKey) :
    DaoFrame key tables fun _ n m => n.standing.LinksBounded → m.standing.LinksBounded where
  aside := tables_aside
  same := linksBounded_same
  trans first second bounded := second (first bounded)
  mono goes _ := goes
  leave n key bounded := by
    rw [standing_leaveDodag]
    exact bounded.leave
  join n dio interface _ bounded := by
    rw [standing_joinDodag]
    intro other member held
    rw [Standing.held_join] at held
    split at held
    · cases held
      rw [(joinedMembership_fresh n dio).parents]
      exact .empty
    · exact bounded other member held
  adopt n dio dodag held bounded := by
    cases newer : sequenceNewer dio.version dodag.version with
    | true =>
      rw [standing_adoptVersion held newer]
      exact Standing.LinksBounded.put bounded (bounded dio.key dodag.member (held_member held))
    | false =>
      rwa [adoptVersion, if_neg (by rw [newer]; exact Bool.false_ne_true)]
  update n dio heard bounded := by
    rw [standing_updateParent]
    exact bounded.withParents fun _ table => table.hear n.now dio heard
  select n key bounded := by
    rw [standing_selectPreferredParent]
    exact bounded.select
  poison n key sender bounded := by
    unfold handlePoison
    split
    · exact bounded
    · dsimp only
      rw [standing_selectAndReset, standing_modifyPlace]
      have settled := n.standing.settled key fun parents => parents.erase sender
      split
      · rw [standing_sendNoPathDao]
        exact bounded.settled settled fun _ table => table.erase sender
      · exact bounded.settled settled fun _ table => table.erase sender
  stop n interface key bounded := by
    rw [stopInterfaceIn, standing_selectAndReset, standing_modifyPlace]
    exact bounded.settled (n.standing.settled key _) fun _ table => table.eraseIf _
  daoAck n ack bounded := by
    rwa [standing_handleDaoAck]
  solicits _ _ solicits := linksBounded_same (tables_aside.solicits (fun _ _ => rfl) solicits)

/-- A DODAG formed is heard by nobody yet. -/
theorem linksBounded_createDodagMembership {created : Node} {mop : UInt8}
    (creates : n.createDodagMembership key mop = some created)
    (bounded : n.standing.LinksBounded) : created.standing.LinksBounded := by
  rw [(standing_createDodagMembership creates).2]
  intro other member held
  rw [Standing.held_create] at held
  split at held
  · cases held
    exact .empty
  · exact bounded other member held

/-- The events that are not ordinary change no membership as its standing sees it. -/
theorem held_apply_of_exchange (n : Node) {e : Event} (exchange : ¬DaoFrame.Ordinary e) :
    (n.apply e).standing.held = n.standing.held := by
  cases e with
  | receive heard message =>
    cases message with
    | dao dao =>
      unfold apply recvRpl
      dsimp only
      split
      · rfl
      · rw [standing_handleDao]
    | _ => exact absurd trivial exchange
  | fire timer =>
    cases timer with
    | dao key =>
      rw [apply, fire, standing_daoEventFire, standing_modifyDodag_same]
      exact fun _ => rfl
    | daoRetry key =>
      rw [apply, fire, standing_daoRetry, standing_modifyDodag_same]
      exact fun _ => rfl
    | _ => exact absurd trivial exchange
  | tick later => rfl
  | _ => exact absurd trivial exchange

/-- Every event keeps the tables bounded. -/
theorem linksBounded_apply (n : Node) (e : Event) (bounded : n.standing.LinksBounded) :
    (n.apply e).standing.LinksBounded := by
  by_cases ordinary : DaoFrame.Ordinary e
  · cases (linksBounded_frame ⟨0, 0⟩).apply n ordinary with
    | plain goes => exact goes bounded
    | forms goes creates same =>
      exact linksBounded_same same (linksBounded_createDodagMembership creates (goes bounded))
  · unfold Standing.LinksBounded
    rw [n.held_apply_of_exchange ordinary]
    exact bounded

theorem linksBounded_of_reachable (reachable : nodeSystem.Reachable n) :
    n.standing.LinksBounded :=
  TransitionSystem.Run.invariant (I := fun n => n.standing.LinksBounded)
    (fun _ initial => Initial.members initial _)
    (fun n e bounded _ _ => linksBounded_apply n e bounded)
    reachable

/-! ## The calls of `SelectPreferredParent` -/

/-- The node at a call of `SelectPreferredParent` in the course of an event, and the DODAG the
call is for. -/
inductive Calls (n : Node) : Event → Node → DodagKey → Prop
  /-- A DIO has been taken in. -/
  | taken {heard : Reception} {dio : DioHeader} {entered : Node}
      (takes : n.takesDio dio heard = true)
      (enters : n.enterVersion dio heard.interface = some entered) :
      Calls n (.receive heard (.dio dio)) (entered.updateParent dio heard) dio.key
  /-- A DIO has been taken in and counts as consistent. -/
  | consistent {heard : Reception} {dio : DioHeader} {entered : Node}
      (takes : n.takesDio dio heard = true)
      (enters : n.enterVersion dio heard.interface = some entered) :
      Calls n (.receive heard (.dio dio))
        ((entered.updateParent dio heard).modifyDodag dio.key fun dodag =>
          { dodag with dioTrickle := dodag.dioTrickle.consistencyHit }) dio.key
  /-- The sender of a DIO with INFINITE_RANK is a neighbour no more. -/
  | poisoned {heard : Reception} {dio : DioHeader} {withdrawn : Node}
      (infinite : dio.rank = infiniteRank)
      (withdraws : withdrawn = n ∨ withdrawn = n.sendNoPathDao dio.key heard.sender) :
      Calls n (.receive heard (.dio dio))
        (withdrawn.modifyPlace dio.key fun place =>
          { place with parents := place.parents.erase heard.sender }) dio.key
  /-- The Trickle timer transmits. -/
  | trickle {key : DodagKey} :
      Calls n (.fire (.trickleTransmit key))
        (n.modifyDodag key fun dodag =>
          { dodag with dioTrickle := dodag.dioTrickle.transmitEvent }) key
  /-- An interface stops, and the neighbours heard on it are gone. -/
  | stopped {interface : Nat} {done : List DodagKey} {key : DodagKey} {rest : List DodagKey}
      (keys : n.dodags.keys = done ++ key :: rest) :
      Calls n (.stopInterface interface)
        ((n.stoppedUpTo interface done).modifyPlace key fun place =>
          { place with
            parents := OrderedMap.eraseIf (fun _ parent => parent.interface = interface)
              place.parents }) key

theorem linksBounded_modifyDodag {f : DodagMembership → DodagMembership}
    (bounded : n.standing.LinksBounded) (same : ∀ dodag, (f dodag).member = dodag.member) :
    (n.modifyDodag key f).standing.LinksBounded := by
  rwa [standing_modifyDodag_same same]

theorem linksBounded_modifyPlace {f : ExtTreeMap Ipv6Address Parent → ExtTreeMap Ipv6Address Parent}
    (bounded : n.standing.LinksBounded)
    (keeps : ∀ parents, LinksBounded parents → LinksBounded (f parents)) :
    (n.modifyPlace key fun place =>
      { place with parents := f place.parents }).standing.LinksBounded := by
  rw [standing_modifyPlace]
  exact bounded.withParents keeps

/-- The tables are bounded at every call. -/
theorem Calls.linksBounded {e : Event} (calls : n.Calls e m key)
    (bounded : n.standing.LinksBounded) : m.standing.LinksBounded := by
  have frame := linksBounded_frame key
  have heard {dio : DioHeader} {entered : Node} {reception : Reception}
      (enters : n.enterVersion dio reception.interface = some entered) :
      (entered.updateParent dio reception).standing.LinksBounded :=
    frame.update entered dio reception (frame.enterVersion enters bounded)
  cases calls with
  | taken takes enters => exact heard enters
  | consistent takes enters => exact linksBounded_modifyDodag (heard enters) fun _ => rfl
  | poisoned infinite withdraws =>
    refine linksBounded_modifyPlace ?_ fun _ table => table.erase _
    rcases withdraws with rfl | rfl
    · exact bounded
    · rwa [standing_sendNoPathDao]
  | trickle => exact linksBounded_modifyDodag bounded fun _ => rfl
  | stopped keys =>
    refine linksBounded_modifyPlace ?_ fun _ table => table.eraseIf _
    exact frame.stopInterfaces _ _ _ bounded

/-- `SelectPreferredParent` leaves the node with the neighbour for its preferred parent. -/
def Chooses (m : Node) (key : DodagKey) (neighbour : Ipv6Address) : Prop :=
  ∃ after, (m.selectPreferredParent key).2.dodags[key]? = some after ∧
    after.preferredParent = neighbour

/-- It does when the neighbour is the one chosen from the table that is left of it. -/
theorem chooses_iff {dodag : DodagMembership} {neighbour : Ipv6Address}
    (held : m.dodags[key]? = some dodag) (notRoot : dodag.isRoot = false)
    (named : DodagPlace.Named neighbour) :
    m.Chooses key neighbour ↔
      (dodag.toDodagPlace.sweep m.now fun _ => true).chooseParent.address = neighbour := by
  have standing : m.Chooses key neighbour ↔ ∃ member,
      (m.standing.select key).held[key]? = some member ∧
        member.place.preferredParent = neighbour := by
    rw [← standing_selectPreferredParent, standing_held]
    simp only [Option.map_eq_some_iff]
    constructor
    · rintro ⟨after, held, parent⟩
      exact ⟨after.member, ⟨after, held, rfl⟩, parent⟩
    · rintro ⟨_, ⟨after, held, rfl⟩, parent⟩
      exact ⟨after, held, parent⟩
  rw [standing, Standing.select, held_member held]
  have router : ¬dodag.member.place.isRoot = true := by
    rw [DodagMembership.member_place, notRoot]
    exact Bool.false_ne_true
  dsimp only
  rw [if_neg router]
  have place : m.standing.swept dodag.member = dodag.toDodagPlace.sweep m.now fun _ => true := rfl
  rw [place]
  generalize dodag.toDodagPlace.sweep m.now (fun _ => true) = place
  have putHeld (member : Member) : (m.standing.put key member).held[key]? = some member := by
    rw [Standing.held_put, if_pos rfl]
  have leads (taken : DodagPlace) :
      (∃ member, some { dodag.member with place := taken } = some member ∧
        member.place.preferredParent = neighbour) ↔ taken.preferredParent = neighbour := by
    constructor
    · rintro ⟨_, same, parent⟩
      cases same
      exact parent
    · exact fun parent => ⟨_, rfl, parent⟩
  split
  · next same =>
    rw [putHeld]
    simp only [Bool.not_eq_true', DodagPlace.selectionChanged, Bool.or_eq_false_iff,
      decide_eq_false_iff_not, not_not] at same
    rw [same.1.1]
    exact leads place
  split
  · next gone =>
    rw [Standing.held_leave, if_pos rfl]
    constructor
    · rintro ⟨_, taken, _⟩
      cases taken
    · rintro rfl
      exact absurd (gone.symm.trans named) Bool.noConfusion
  · rw [Standing.mark_held, putHeld]
    exact leads _

/-! ## A neighbour with a bad link -/

/-- A DIO of the neighbour comes in a frame whose link quality indicator stands for an ETX above
MAX_LINK_METRIC. -/
def BadFrames (neighbour : Ipv6Address) (_ : Node) (e : Event) : Prop :=
  ∀ heard dio, e = .receive heard (.dio dio) → heard.sender = neighbour →
    ∃ lqi, heard.lqi = some lqi ∧ ExceedsMaxLinkMetric lqi

/-- A call of `SelectPreferredParent`, in an MRHOF DODAG this node is not the root of and in a
history in which all frames of the neighbour are such. -/
structure BadCall (neighbour : Ipv6Address) (m : Node) (key : DodagKey) (dodag : DodagMembership) :
    Prop where
  call : ∃ n e, nodeSystem.Run (BadFrames neighbour) n ∧ n.Enabled e ∧ BadFrames neighbour n e ∧
    n.Calls e m key
  held : m.dodags[key]? = some dodag
  notRoot : dodag.isRoot = false
  mrhof : dodag.ocp = ocpMrhof

end Node

/-- The tests of a candidate but for that of its link metric. -/
def DodagPlace.eligible (place : DodagPlace) (requireFresh : Bool) (parent : Parent) : Bool :=
  (!requireFresh || parent.fresh) && place.closer parent &&
    place.rankViaParent parent ≠ infiniteRank &&
    (place.ocp ≠ ocpMrhof || parent.pathCost < mrhofMaxPathCost)

theorem DodagPlace.admitted_eq_eligible (place : DodagPlace) {parent : Parent}
    (bounded : parent.etx ≤ mrhofMaxLinkMetric) (requireFresh : Bool) :
    place.admitted requireFresh parent = place.eligible requireFresh parent := by
  rw [admitted, eligible, decide_eq_true bounded, Bool.or_true, Bool.and_true]

namespace Node

variable {m : Node} {key : DodagKey}

/-- In an MRHOF DODAG a neighbour heard over nothing but bad links is left aside exactly when it
would be without regard to its link: when it fails another test of a candidate, or somebody else
comes first. -/
theorem badNeighbour_avoided_iff {neighbour : Ipv6Address} {dodag : DodagMembership}
    (bad : BadCall neighbour m key dodag) (named : DodagPlace.Named neighbour) :
    ¬m.Chooses key neighbour ↔
      ¬(dodag.toDodagPlace.sweep m.now fun _ => true).Picked
        (dodag.toDodagPlace.sweep m.now fun _ => true).eligible neighbour := by
  obtain ⟨n, e, run, -, -, calls⟩ := bad.call
  have bounded := calls.linksBounded (linksBounded_of_reachable run.reachable) key _
    (held_member bad.held)
  rw [chooses_iff bad.held bad.notRoot named, DodagPlace.chooseParent_iff_picked named, not_iff_not]
  have swept : LinksBounded (dodag.toDodagPlace.sweep m.now fun _ => true).parents :=
    bounded.eraseIf _
  generalize dodag.toDodagPlace.sweep m.now (fun _ => true) = place at swept ⊢
  constructor
  · intro picked
    exact picked.congr fun requireFresh other parent held =>
      place.admitted_eq_eligible (swept other parent held) requireFresh
  · intro picked
    exact picked.congr fun requireFresh other parent held =>
      (place.admitted_eq_eligible (swept other parent held) requireFresh).symm

/-! ## A bad link taken -/

/-- A DIO of an MRHOF DODAG. -/
def mrhofDio : DioHeader :=
  { rank := 256
    dodagId := 0x20010db8000000000000000000000001#128
    dagConf := some { ocp := ocpMrhof } }

/-- It comes from fe80::1 in a frame with an LQI of 1, an ETX of 255. -/
def badReception : Reception :=
  { sender := 0xfe800000000000000000000000000001#128, interface := 1, lqi := some 1 }

/-- The node that has entered its sender into the neighbour table. -/
def badlyHeard : Node :=
  (((started leafIpv6).enterVersion mrhofDio 1).getD (started leafIpv6)).updateParent mrhofDio
    badReception

theorem badlyHeard_badCall : ∃ dodag,
    BadCall 0xfe800000000000000000000000000001#128 badlyHeard mrhofDio.key dodag := by
  have run : nodeSystem.Run (BadFrames 0xfe800000000000000000000000000001#128) (started leafIpv6) :=
    started_run leafIpv6
  have frame : BadFrames 0xfe800000000000000000000000000001#128 (started leafIpv6)
      (.receive badReception (.dio mrhofDio)) := by
    rintro heard dio received -
    cases received
    refine ⟨1, rfl, ?_⟩
    unfold ExceedsMaxLinkMetric
    decide
  have facts : (started leafIpv6).takesDio mrhofDio badReception = true ∧
      ((started leafIpv6).enterVersion mrhofDio 1).isSome = true ∧
      (badlyHeard.dodags[mrhofDio.key]?).any
        (fun dodag => !dodag.isRoot && dodag.ocp = ocpMrhof) = true := by
    decide +kernel
  obtain ⟨takes, enters, membership⟩ := facts
  obtain ⟨entered, enters⟩ := Option.isSome_iff_exists.mp enters
  obtain ⟨dodag, held, member⟩ := (Option.any_eq_true _ _).mp membership
  rw [Bool.and_eq_true, Bool.not_eq_true', decide_eq_true_eq] at member
  have calls : (started leafIpv6).Calls (.receive badReception (.dio mrhofDio)) badlyHeard
      mrhofDio.key := by
    unfold badlyHeard
    rw [enters]
    exact .taken takes enters
  have enabled : (started leafIpv6).Enabled (.receive badReception (.dio mrhofDio)) :=
    started_listens leafIpv6
  exact ⟨dodag, ⟨_, _, run, enabled, frame, calls⟩, held, member.1, member.2⟩

theorem badlyHeard_parent :
    badlyHeard.Chooses mrhofDio.key 0xfe800000000000000000000000000001#128 := by
  have chosen : ((badlyHeard.selectPreferredParent mrhofDio.key).2.dodags[mrhofDio.key]?).map
      (fun dodag => dodag.preferredParent) = some 0xfe800000000000000000000000000001#128 := by
    decide +kernel
  exact Option.map_eq_some_iff.mp chosen

/-- It becomes the preferred parent. -/
theorem badlyHeard_chooses :
    (∃ dodag, BadCall 0xfe800000000000000000000000000001#128 badlyHeard mrhofDio.key dodag) ∧
      badlyHeard.Chooses mrhofDio.key 0xfe800000000000000000000000000001#128 := by
  exact ⟨badlyHeard_badCall, badlyHeard_parent⟩

/-- Nothing but its link speaks against it. -/
theorem badlyHeard_picked : ∃ dodag, badlyHeard.dodags[mrhofDio.key]? = some dodag ∧
    (dodag.toDodagPlace.sweep badlyHeard.now fun _ => true).Picked
      (dodag.toDodagPlace.sweep badlyHeard.now fun _ => true).eligible
      0xfe800000000000000000000000000001#128 := by
  obtain ⟨dodag, bad⟩ := badlyHeard_badCall
  refine ⟨dodag, bad.held, by_contra fun leftAside => ?_⟩
  exact (badNeighbour_avoided_iff bad rfl).mpr leftAside badlyHeard_parent

end Node

end Rpl
