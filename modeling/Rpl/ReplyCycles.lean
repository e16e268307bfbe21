import Rpl.TargetTurns

/-!
# Reply cycles

A Target that answers starts a cycle for each route it has not answered over last: a Seq of its
own, a budget of retransmissions, and a P2P-DRO that asks for an acknowledgement.  The cycle may
wait for a collection window, and a window, a retry and an acknowledgement may come in any order.
No more P2P-DROs of one cycle go out than the budget and one.
-/

namespace Rpl

open Std

namespace Node

/-! ## Cycles and what they transmit -/

/-- The membership under the key, told from those before it, and the Seq of its reply cycle. -/
def cycle (key : DodagKey) (n : Node) : Nat × UInt8 :=
  (n.departures key, ((n.dodags[key]?).map (·.p2p.droSequence)).getD 0)

/-- How many P2P-DROs of the temporary DAG that ask for an acknowledgement the event hands down on
an interface; a P2P-DRO that is relayed is another Target's. -/
def transmits (key : DodagKey) (interface : Nat) (n : Node) (e : Event) : Nat :=
  match e with
  | .receive _ (.p2pDro _) => 0
  | e => (n.apply e).tracked key interface - n.tracked key interface

end Node

/-- A node, and how often it has transmitted the P2P-DRO of its reply cycle under a key. -/
def replyCycleSystem (key : DodagKey) (interface : Nat) :
    TransitionSystem (Node × Nat) Event where
  initial s := s.1.Initial ∧ s.2 = 0
  enabled s e := s.1.Enabled e
  next s e :=
    (s.1.apply e,
      if (s.1.apply e).cycle key = s.1.cycle key then s.2 + s.1.transmits key interface e
      else s.1.transmits key interface e)

/-- The budget of a reply cycle that has transmitted its P2P-DRO so many times. -/
structure Replying.Paced (most : UInt8) (transmitted : Nat) (replying : Replying) : Prop where
  left : replying.droRetriesLeft.toNat ≤ most.toNat
  budget : transmitted + replying.droRetriesLeft.toNat ≤ 1 + most.toNat
  silent : replying.droCollecting = true → transmitted = 0
  unarmed : replying.droCollecting = true → replying.droRetryEvent = none
  window : replying.droCollectEvent.isRunning = true → replying.droCollecting = true
  target : replying.droAckPending = true → replying.isTarget = true

/-- The same of a membership that may not be held. -/
structure Answering.Paced (most : UInt8) (transmitted : Nat) (answering : Answering) : Prop where
  absent : answering.held = none → transmitted = 0
  held : ∀ replying, answering.held = some replying → replying.Paced most transmitted

namespace Replying

variable {most : UInt8} {transmitted fewer : Nat} {replying later : Replying}

theorem Paced.mono (paced : replying.Paced most transmitted) (le : fewer ≤ transmitted) :
    replying.Paced most fewer where
  left := paced.left
  budget := Nat.le_trans (Nat.add_le_add_right le _) paced.budget
  silent collecting := Nat.le_zero.mp (paced.silent collecting ▸ le)
  unarmed := paced.unarmed
  window := paced.window
  target := paced.target

theorem Blank.paced (blank : replying.Blank) : replying.Paced most 0 where
  left := by
    rw [blank.droRetriesLeft]
    exact Nat.zero_le _
  budget := by
    rw [blank.droRetriesLeft]
    exact Nat.zero_le _
  silent _ := rfl
  unarmed _ := blank.droRetryEvent
  window running := by
    rw [blank.droCollectEvent] at running
    cases running
  target pending := by
    rw [blank.droAckPending] at pending
    cases pending

theorem Continues.paced (continues : replying.Continues later)
    (paced : replying.Paced most transmitted) : later.Paced most transmitted where
  left := continues.droRetriesLeft ▸ paced.left
  budget := continues.droRetriesLeft ▸ paced.budget
  silent collecting := paced.silent (continues.droCollecting ▸ collecting)
  unarmed collecting :=
    continues.droRetryEvent.trans (paced.unarmed (continues.droCollecting ▸ collecting))
  window running :=
    continues.droCollecting.trans (paced.window (continues.droCollectEvent ▸ running))
  target pending := continues.isTarget (paced.target (continues.droAckPending ▸ pending))

/-- A start steps Seq. -/
theorem Starts.droSequence_ne {asks : Bool} {count : Nat}
    (starts : replying.Starts most asks later count) :
    later.droSequence ≠ replying.droSequence := by
  have steps : ∀ sequence : UInt8, (sequence + 1) &&& p2pDroSeqMax ≠ sequence := by
    refine Octets.forall_octet ?_
    decide +kernel
  cases starts with
  | atOnce => exact steps _
  | waits => exact steps _
  | opens => exact steps _

theorem Starts.paced {asks : Bool} {count : Nat} (starts : replying.Starts most asks later count)
    (target : replying.isTarget = true) (paced : replying.Paced most transmitted) :
    later.Paced most count := by
  cases starts with
  | atOnce single =>
    exact ⟨Nat.le_refl _, Nat.add_le_add_right single _, fun collecting => (nomatch collecting),
      fun collecting => (nomatch collecting), fun running => (nomatch running), fun _ => target⟩
  | waits collecting =>
    exact ⟨Nat.le_refl _, Nat.add_le_add_right (Nat.zero_le 1) _, fun _ => rfl, paced.unarmed,
      paced.window, fun _ => target⟩
  | opens =>
    exact ⟨Nat.le_refl _, Nat.add_le_add_right (Nat.zero_le 1) _, fun _ => rfl, fun _ => rfl,
      fun _ => rfl, fun _ => target⟩

end Replying

namespace Node

variable {n m after : Node} {e : Event} {key : DodagKey} {interface : Nat}
  {dodag : DodagMembership} {transmitted count : Nat} {replying later : Replying}

/-- One step of the answers keeps the budget, a start by beginning a new one. -/
theorem Moves.paced (moves : n.Moves e key replying later count)
    (paced : replying.Paced n.attributes.p2pDroMaxRetransmissions transmitted) :
    later.Paced n.attributes.p2pDroMaxRetransmissions
      (if later.droSequence = replying.droSequence then transmitted + count else count) := by
  cases moves with
  | heeds heeds =>
    rw [if_pos heeds.continues.droSequence]
    exact heeds.continues.paced paced
  | @starts ready later count heeds target _ starts =>
    have steps : later.droSequence ≠ replying.droSequence :=
      heeds.continues.droSequence ▸ starts.droSequence_ne
    rw [if_neg steps]
    exact starts.paced target (heeds.continues.paced paced)
  | idles =>
    rw [if_pos rfl]
    exact ⟨paced.left, paced.budget, paced.silent, fun _ => rfl, paced.window, paced.target⟩
  | settles =>
    rw [if_pos rfl]
    exact ⟨paced.left, paced.budget, paced.silent, fun _ => rfl, paced.window,
      fun pending => (nomatch pending)⟩
  | @retries retry count armed pending left single =>
    -- a retry timer that runs tells that no window is open
    have sent : replying.droCollecting = true → False := fun collecting => by
      rw [paced.unarmed collecting] at armed
      cases armed
    have positive : replying.droRetriesLeft.toNat ≠ 0 := fun zero => left (UInt8.toNat_inj.mp zero)
    have fewer : (replying.droRetriesLeft - 1).toNat = replying.droRetriesLeft.toNat - 1 :=
      UInt8.toNat_sub_of_le _ _ (UInt8.le_iff_toNat_le.mpr (Nat.one_le_iff_ne_zero.mpr positive))
    have most := paced.left
    have budget := paced.budget
    rw [if_pos rfl]
    refine ⟨?_, ?_, fun collecting => (sent collecting).elim,
      fun collecting => (sent collecting).elim, paced.window, paced.target⟩
    · change (replying.droRetriesLeft - 1).toNat ≤ _
      omega
    · change _ + (replying.droRetriesLeft - 1).toNat ≤ _
      omega
  | @collects alternates retry count running fewer single =>
    have none_ := paced.silent (paced.window running)
    rw [if_pos rfl, none_, Nat.zero_add]
    exact ⟨paced.left, Nat.add_le_add single paced.left, fun collecting => (nomatch collecting),
      fun collecting => (nomatch collecting), fun running => (nomatch running), paced.target⟩

end Node

/-- A membership and the Seq of its reply cycle. -/
def Answering.cycle (answering : Answering) : Nat × UInt8 :=
  (answering.ended, (answering.held.map (·.droSequence)).getD 0)

theorem Node.cycle_eq (key : DodagKey) (n : Node) : n.cycle key = (n.replyState key).cycle := by
  unfold Node.cycle Answering.cycle Node.replyState
  rw [Option.map_map]
  rfl

namespace Answering

variable {most : UInt8} {transmitted : Nat} {before after : Answering}

theorem Renews.paced (renews : before.Renews after) (paced : before.Paced most transmitted) :
    after.Paced most (if after.cycle = before.cycle then transmitted else 0) := by
  rcases renews with rfl | ⟨blank, later, ends⟩
  · rwa [if_pos rfl]
  · have nothing : (if after.cycle = before.cycle then transmitted else 0) = 0 := by
      split
      · next same =>
        have sameEnded : after.ended = before.ended := congrArg Prod.fst same
        refine paced.absent (Classical.byContradiction fun held => ?_)
        exact absurd sameEnded.symm (Nat.ne_of_lt (ends held))
      · rfl
    rw [nothing]
    exact ⟨fun _ => rfl, fun replying held => (blank replying held).paced⟩

end Answering

namespace Node

variable {n m after : Node} {e : Event} {key : DodagKey} {interface : Nat}
  {dodag : DodagMembership} {transmitted count : Nat} {replying later : Replying}

/-! ### The budget over a run -/

theorem transmits_le (within_ : (n.apply e).tracked key interface ≤
    n.tracked key interface + count) : n.transmits key interface e ≤ count := by
  unfold transmits
  split
  · exact Nat.zero_le _
  · exact Nat.sub_le_iff_le_add'.mpr within_

/-- The membership that answers is the one held before, or a new one that had nothing to count. -/
theorem paced_movesOn {ended : Nat}
    (paced : (n.replyState key).Paced n.attributes.p2pDroMaxRetransmissions transmitted)
    (renews : (n.replyState key).Renews ⟨ended, some replying⟩)
    (moves : n.Moves e key replying later count)
    (answers : after.replyState key = ⟨ended, some later⟩) :
    (after.replyState key).Paced n.attributes.p2pDroMaxRetransmissions
      (if after.cycle key = n.cycle key then transmitted + count else count) := by
  have ready := (renews.paced paced).held replying rfl
  have moved := moves.paced ready
  rw [answers]
  refine ⟨fun none_ => (nomatch none_), fun held same => ?_⟩
  cases same
  refine moved.mono ?_
  rw [cycle_eq, cycle_eq, answers]
  -- what is counted before the step belongs to the membership and the Seq that there are after it
  have sameCycle (counted : 0 < transmitted) :
      (⟨ended, some later⟩ : Answering).cycle = (n.replyState key).cycle →
      (⟨ended, some replying⟩ : Answering).cycle = (n.replyState key).cycle ∧
        later.droSequence = replying.droSequence := by
    intro same
    rcases renews with isBefore | ⟨-, -, ends⟩
    · rw [isBefore]
      rw [← isBefore] at same
      exact ⟨rfl, congrArg Prod.snd same⟩
    · have sameEnded : ended = (n.replyState key).ended := congrArg Prod.fst same
      have held : (n.replyState key).held ≠ none := fun none_ =>
        absurd (paced.absent none_) (Nat.ne_of_gt counted)
      exact absurd sameEnded.symm (Nat.ne_of_lt (ends held))
  rcases Nat.eq_zero_or_pos transmitted with zero | counted
  · subst zero
    split_ifs <;> omega
  · split
    · next same =>
      obtain ⟨before, sequence⟩ := sameCycle counted same
      rw [if_pos sequence, if_pos before]
    · split
      · exact Nat.le_add_left _ _
      · exact Nat.le_refl _

theorem paced_step (interface : Nat) (enabled : n.Enabled e) (inOrder : n.stakes.InOrder)
    (paced : (n.replyState key).Paced n.attributes.p2pDroMaxRetransmissions transmitted) :
    ((n.apply e).replyState key).Paced n.attributes.p2pDroMaxRetransmissions
      (if (n.apply e).cycle key = n.cycle key then transmitted + n.transmits key interface e
        else n.transmits key interface e) := by
  rcases apply_cases key interface enabled inOrder with
    ⟨renews, silent⟩ | ⟨⟨heard, dro, rfl⟩, same⟩ |
    ⟨ended, replying, later, count, renews, moves, answers, sends⟩
  · have nothing : n.transmits key interface e = 0 :=
      Nat.le_zero.mp (transmits_le (Nat.le_of_eq silent))
    rw [nothing, cycle_eq, cycle_eq, Nat.add_zero]
    exact renews.paced paced
  · have sameCycle : (n.apply (.receive heard (.p2pDro dro))).cycle key = n.cycle key := by
      rw [cycle_eq, cycle_eq, same]
    rw [if_pos sameCycle, same]
    exact paced
  · have moved := paced_movesOn paced renews moves answers
    have within_ := transmits_le (Nat.le_of_eq sends)
    refine ⟨fun none_ => ?_, fun held isHeld => (moved.held held isHeld).mono ?_⟩
    · rw [answers] at none_
      cases none_
    · split
      · exact Nat.add_le_add_left within_ _
      · exact within_

theorem attributes_apply (enabled : n.Enabled e) : (n.apply e).attributes = n.attributes :=
  (shifts_apply n e enabled).attributes_eq

end Node

namespace ReplyCycle

open Node

variable {key : DodagKey} {interface : Nat} {s : Node × Nat}

/-- What every state of a run keeps. -/
structure Kept (key : DodagKey) (s : Node × Nat) : Prop where
  inOrder : s.1.stakes.InOrder
  paced : (s.1.replyState key).Paced s.1.attributes.p2pDroMaxRetransmissions s.2

theorem kept_next {e : Event} (interface : Nat) (kept : Kept key s) (enabled : s.1.Enabled e) :
    Kept key ((replyCycleSystem key interface).next s e) where
  inOrder := keeps_apply enabled (fun _ _ _ shift => inOrder_shift shift) kept.inOrder
  paced := by
    have same : (s.1.apply e).attributes = s.1.attributes := attributes_apply enabled
    have stepped := paced_step interface enabled kept.inOrder kept.paced
    rw [← same] at stepped
    exact stepped

theorem kept_of_reachable (reachable : (replyCycleSystem key interface).Reachable s) :
    Kept key s := by
  refine reachable.invariant (I := Kept key) ?_ fun _ _ kept enabled _ =>
    kept_next interface kept enabled
  rintro ⟨n, transmitted⟩ ⟨initial, zero⟩
  have absent : n.dodags[key]? = none := by rw [initial.dodags, ExtTreeMap.getElem?_empty]
  refine ⟨fun key stake held => ?_, fun _ => zero, fun replying held => ?_⟩
  · rw [stakes_held, initial.dodags] at held
    cases held
  · rw [replyState, absent] at held
    cases held

/-! ### After an acknowledgement -/

/-- The reply cycle is acknowledged: nothing is retransmitted any more. -/
structure Acknowledged (key : DodagKey) (before : Nat) (s : Node × Nat) : Prop extends
    Kept key s where
  idle : ∀ replying, (s.1.replyState key).held = some replying → replying.droAckPending = false
  transmitted : s.2 ≤ max 1 before

theorem acknowledged_next {before : Nat} {e : Event} (acknowledged : Acknowledged key before s)
    (enabled : s.1.Enabled e) (sameCycle : (s.1.apply e).cycle key = s.1.cycle key) :
    Acknowledged key before ((replyCycleSystem key interface).next s e) := by
  obtain ⟨n, transmitted⟩ := s
  have counts : ((replyCycleSystem key interface).next (n, transmitted) e).2 =
      transmitted + n.transmits key interface e := if_pos sameCycle
  have yet : transmitted ≤ max 1 before := acknowledged.transmitted
  have idle := acknowledged.idle
  have kept := kept_next interface acknowledged.toKept enabled
  rcases apply_cases key interface enabled acknowledged.inOrder with
    ⟨renews, silent⟩ | ⟨⟨heard, dro, rfl⟩, same⟩ |
    ⟨ended, replying, later, count, renews, moves, answers, sends⟩
  · have nothing : n.transmits key interface e = 0 :=
      Nat.le_zero.mp (transmits_le (Nat.le_of_eq silent))
    refine ⟨kept, fun replying held => ?_, by rw [counts, nothing]; exact yet⟩
    rcases renews with isBefore | ⟨blank, -, -⟩
    · exact idle replying (isBefore ▸ held)
    · exact (blank replying held).droAckPending
  · exact ⟨kept, fun replying held => idle replying (same ▸ held), by rw [counts]; exact yet⟩
  have within_ : n.transmits key interface e ≤ count := transmits_le (Nat.le_of_eq sends)
  rw [cycle_eq, cycle_eq, answers] at sameCycle
  have calm : replying.droAckPending = false := by
    rcases renews with isBefore | ⟨blank, -, -⟩
    · exact idle replying (isBefore ▸ rfl)
    · exact (blank replying rfl).droAckPending
  have sequence : later.droSequence = replying.droSequence := by
    rcases renews with isBefore | ⟨blank, -, ends⟩
    · rw [← isBefore] at sameCycle
      exact congrArg Prod.snd sameCycle
    · have sameEnded : ended = (n.replyState key).ended := congrArg Prod.fst sameCycle
      have none_ : (n.replyState key).held = none := Classical.byContradiction fun held =>
        absurd sameEnded.symm (Nat.ne_of_lt (ends held))
      have sameSequence := congrArg Prod.snd sameCycle
      unfold Answering.cycle at sameSequence
      rw [none_] at sameSequence
      exact sameSequence.trans (blank replying rfl).droSequence.symm
  have ends : later.droAckPending = false ∧ (count = 0 ∨ transmitted = 0 ∧ count ≤ 1) := by
    cases moves with
    | heeds heeds => exact ⟨heeds.continues.droAckPending.trans calm, .inl rfl⟩
    | starts heeds _ _ starts =>
      exact absurd (sequence.trans heeds.continues.droSequence.symm) starts.droSequence_ne
    | idles => exact ⟨calm, .inl rfl⟩
    | settles => exact ⟨rfl, .inl rfl⟩
    | retries armed pending => rw [calm] at pending; cases pending
    | collects running _ single =>
      refine ⟨calm, .inr ⟨?_, single⟩⟩
      rcases renews with isBefore | ⟨blank, -, -⟩
      · have paced := acknowledged.paced.held replying (isBefore ▸ rfl)
        exact paced.silent (paced.window running)
      · rw [(blank replying rfl).droCollectEvent] at running
        cases running
  refine ⟨kept, fun held isHeld => ?_, ?_⟩
  · change ((n.apply e).replyState key).held = some held at isHeld
    rw [answers] at isHeld
    cases isHeld
    exact ends.1
  · rw [counts]
    rcases ends.2 with none_ | ⟨none_, single⟩
    · omega
    · omega

theorem acknowledged_of_ack (interface : Nat) {heard : Reception} {ack : P2pDroAckHeader}
    {dodag : DodagMembership}
    (kept : Kept ⟨ack.instanceId, ack.dodagId⟩ s)
    (enabled : s.1.Enabled (.receive heard (.p2pDroAck ack)))
    (foreign : heard.sender ≠ s.1.ipv6.getLinkLocalAddress heard.interface)
    (held : s.1.dodags[(⟨ack.instanceId, ack.dodagId⟩ : DodagKey)]? = some dodag)
    (current : ack.sequence = dodag.p2p.droSequence) :
    Acknowledged ⟨ack.instanceId, ack.dodagId⟩ s.2
      ((replyCycleSystem ⟨ack.instanceId, ack.dodagId⟩ interface).next s
        (.receive heard (.p2pDroAck ack))) := by
  have handled : s.1.apply (.receive heard (.p2pDroAck ack)) = s.1.handleP2pDroAck ack :=
    if_neg foreign
  have paced := kept.paced.held _ (congrArg Answering.held (replyState_of_held held))
  have ends : (∀ replying, ((s.1.handleP2pDroAck ack).replyState
        ⟨ack.instanceId, ack.dodagId⟩).held = some replying → replying.droAckPending = false) ∧
      (s.1.handleP2pDroAck ack).tracked ⟨ack.instanceId, ack.dodagId⟩ interface =
        s.1.tracked ⟨ack.instanceId, ack.dodagId⟩ interface := by
    rcases answers_handleP2pDroAck interface ack held with ⟨same, differs⟩ | ⟨-, answers⟩
    · rw [same, replyState_of_held held]
      refine ⟨fun replying isHeld => ?_, rfl⟩
      cases isHeld
      exact Bool.eq_false_iff.mpr fun pending =>
        differs (paced.target pending) pending current
    · rw [answers.turn, answers.tracked]
      refine ⟨fun replying isHeld => ?_, rfl⟩
      cases isHeld
      rfl
  rw [← handled] at ends
  have silent := Nat.le_zero.mp (transmits_le (Nat.le_of_eq ends.2))
  refine ⟨kept_next interface kept enabled, ends.1, ?_⟩
  change (if _ then _ + transmits _ _ _ _ else transmits _ _ _ _) ≤ _
  rw [silent]
  split
  · exact Nat.le_max_right ..
  · exact Nat.zero_le _

end ReplyCycle

namespace Node

variable {n after : Node} {e : Event} {key : DodagKey} {dodag : DodagMembership}
  {replying later : Replying}

/-! ### Starts -/

/-- How far the answers of the membership that there is after an event were before it: of a new
one there was nothing. -/
def repliedBefore (key : DodagKey) (n after : Node) : Replying :=
  if after.departures key = n.departures key then (n.replyState key).held.getD {} else {}

theorem repliedBefore_of_blank {ended : Nat} (answers : after.replyState key = ⟨ended, some later⟩)
    (ends : (n.replyState key).held ≠ none → (n.replyState key).ended < ended) :
    n.repliedBefore key after = {} := by
  unfold repliedBefore
  split
  · next same =>
    have none_ : (n.replyState key).held = none := Classical.byContradiction fun held =>
      absurd ((congrArg Answering.ended answers).symm.trans same) (Nat.ne_of_gt (ends held))
    rw [none_]
    rfl
  · rfl

theorem repliedBefore_of_renews {ended : Nat} (answers : after.replyState key = ⟨ended, some later⟩)
    (renews : (n.replyState key).Renews ⟨ended, some replying⟩) :
    (n.repliedBefore key after).droSequence = replying.droSequence ∧
      (n.repliedBefore key after).lastRepliedAddressVector = replying.lastRepliedAddressVector := by
  rcases renews with isBefore | ⟨blank, -, ends⟩
  · have same : after.departures key = n.departures key :=
      (congrArg Answering.ended answers).trans (congrArg Answering.ended isBefore)
    rw [repliedBefore, if_pos same, ← isBefore]
    exact ⟨rfl, rfl⟩
  · rw [repliedBefore_of_blank answers ends, (blank replying rfl).droSequence,
      (blank replying rfl).lastReplied]
    exact ⟨rfl, rfl⟩

/-- A reply cycle starts only over an address vector that the membership has not replied with
last. -/
theorem starts_fresh (enabled : n.Enabled e) (inOrder : n.stakes.InOrder)
    (held : (n.apply e).dodags[key]? = some dodag)
    (starts : dodag.p2p.droSequence ≠ (n.repliedBefore key (n.apply e)).droSequence) :
    dodag.p2p.lastRepliedAddressVector = dodag.p2p.addressVector ∧
      dodag.p2p.addressVector ≠
        (n.repliedBefore key (n.apply e)).lastRepliedAddressVector := by
  have answers := replyState_of_held held
  have unmoved (renews : (n.replyState key).Renews ((n.apply e).replyState key)) : False := by
    rw [answers] at renews
    exact starts (repliedBefore_of_renews answers renews).1.symm
  rcases apply_cases key 0 enabled inOrder with
    ⟨renews, -⟩ | ⟨-, same⟩ | ⟨ended, replying, later, count, renews, moves, isAfter, -⟩
  · exact (unmoved renews).elim
  · exact (unmoved (.inl same)).elim
  · obtain ⟨sequence, lastReplied⟩ := repliedBefore_of_renews isAfter renews
    have isLater : dodag.p2p.replying = later :=
      Option.some.inj (congrArg Answering.held (answers.symm.trans isAfter))
    have steps : later.droSequence ≠ replying.droSequence := by
      rw [← sequence, ← isLater]
      exact starts
    change dodag.p2p.replying.lastRepliedAddressVector = dodag.p2p.replying.addressVector ∧
      dodag.p2p.replying.addressVector ≠ _
    rw [isLater, lastReplied]
    cases moves with
    | heeds heeds => exact absurd heeds.continues.droSequence steps
    | idles => exact absurd rfl steps
    | settles => exact absurd rfl steps
    | retries => exact absurd rfl steps
    | collects => exact absurd rfl steps
    | starts heeds _ fresh starts =>
      rw [heeds.continues.lastReplied] at fresh
      cases starts with
      | atOnce => exact ⟨rfl, fresh⟩
      | waits => exact ⟨rfl, fresh⟩
      | opens => exact ⟨rfl, fresh⟩

/-! ## The bound -/

/-- In every run the P2P-DRO that asks for an acknowledgement goes out at most once more than the
retransmissions allowed before another reply cycle starts, and a cycle starts only over another
address vector than the last.  An acknowledgement of the current Seq ends the retransmissions of
the cycle, and one of any other Seq does nothing. -/
theorem dro_retransmissions_bounded (key : DodagKey) (interface : Nat) :
    (∀ s, (replyCycleSystem key interface).Reachable s →
      s.2 ≤ 1 + s.1.attributes.p2pDroMaxRetransmissions.toNat) ∧
    (∀ n e dodag, nodeSystem.Reachable n → n.Enabled e →
      (n.apply e).dodags[key]? = some dodag →
      dodag.p2p.droSequence ≠ (n.repliedBefore key (n.apply e)).droSequence →
      dodag.p2p.lastRepliedAddressVector = dodag.p2p.addressVector ∧
        dodag.p2p.addressVector ≠
          (n.repliedBefore key (n.apply e)).lastRepliedAddressVector) ∧
    (∀ s heard ack dodag t, (replyCycleSystem key interface).Reachable s →
      s.1.Enabled (.receive heard (.p2pDroAck ack)) →
      heard.sender ≠ s.1.ipv6.getLinkLocalAddress heard.interface →
      key = ⟨ack.instanceId, ack.dodagId⟩ → s.1.dodags[key]? = some dodag →
      ack.sequence = dodag.p2p.droSequence →
      (replyCycleSystem key interface).Steps (fun s e => (s.1.apply e).cycle key = s.1.cycle key)
        ((replyCycleSystem key interface).next s (.receive heard (.p2pDroAck ack))) t →
      t.2 ≤ max 1 s.2) ∧
    (∀ (n : Node) heard (ack : P2pDroAckHeader) dodag, key = ⟨ack.instanceId, ack.dodagId⟩ →
      n.dodags[key]? = some dodag → ack.sequence ≠ dodag.p2p.droSequence →
      n.apply (.receive heard (.p2pDroAck ack)) = n) := by
  refine ⟨fun s reachable => ?_, fun n e dodag reachable enabled held => ?_, ?_, ?_⟩
  · have paced := (ReplyCycle.kept_of_reachable reachable).paced
    cases held : (s.1.replyState key).held with
    | none =>
      rw [paced.absent held]
      exact Nat.zero_le _
    | some replying =>
      exact Nat.le_trans (Nat.le_add_right _ _) (paced.held replying held).budget
  · exact starts_fresh enabled (inOrder_of_reachable reachable) held
  · rintro s heard ack dodag t reachable enabled foreign rfl held current steps
    have acknowledged := ReplyCycle.acknowledged_of_ack interface
      (ReplyCycle.kept_of_reachable reachable) enabled foreign held current
    exact (steps.keeps (I := ReplyCycle.Acknowledged _ s.2)
      (fun _ _ before enabled same => ReplyCycle.acknowledged_next before enabled same)
      acknowledged).transmitted
  · rintro n heard ack dodag rfl held other
    change n.recvRpl heard (.p2pDroAck ack) = n
    unfold recvRpl
    split
    · rfl
    · rcases answers_handleP2pDroAck 0 ack held with ⟨same, -⟩ | ⟨current, -⟩
      · exact same
      · exact absurd current other

/-! ## A Target that answers at once -/

/-- A node with the addresses fe80::2 and 2001:db8::9. -/
def soughtIpv6 : Ipv6L3Protocol :=
  .ofInterfaces
    [{}, { addresses :=
        [{ address := 0xfe800000000000000000000000000002#128, scope := .linkLocal },
          { address := 0x20010db8000000000000000000000009#128, scope := .global }] }]

/-- 2001:db8::1 looks for it, and wants a reply. -/
def seekingDio : DioHeader :=
  { instanceId := 0x80
    version := 0
    rank := 256
    grounded := true
    mop := mopP2pRouteDiscovery
    dodagId := 0x20010db8000000000000000000000001#128
    dagConf := some { intervalMin := 16, maxRankIncrease := 0 }
    p2pRdo := some
      { reply := true
        lifetime := 3
        maxRankOrNh := 6
        target := 0x20010db8000000000000000000000009#128 } }

/-- The Target has heard the DIO from fe80::1 and answered. -/
def hasAnswered : Node × Nat :=
  (replyCycleSystem seekingDio.key 1).next (started soughtIpv6, 0) (hears seekingDio)

/-- An acknowledgement for it. -/
def ackOf (sequence : UInt8) : P2pDroAckHeader :=
  { instanceId := seekingDio.instanceId, sequence := sequence, dodagId := seekingDio.dodagId }

/-- The Target hears it from fe80::1. -/
def acknowledges (sequence : UInt8) : Event :=
  .receive { sender := 0xfe800000000000000000000000000001#128, interface := 1 }
    (.p2pDroAck (ackOf sequence))

/-- It has waited for an acknowledgement in vain. -/
def hasWaited : Node × Nat :=
  (replyCycleSystem seekingDio.key 1).next hasAnswered (.tick (seconds 1))

/-- It has answered once more. -/
def hasRetried : Node × Nat :=
  (replyCycleSystem seekingDio.key 1).next hasWaited (.fire (.droRetry seekingDio.key))

/-- The acknowledgement has come. -/
def isAcknowledged : Node × Nat :=
  (replyCycleSystem seekingDio.key 1).next hasRetried (acknowledges 1)

theorem hasAnswered_facts :
    (hasAnswered.1.now ≤ seconds 1 ∧ hasAnswered.1.nothingBefore (seconds 1) = true ∧
      hasWaited.1.timer (.droRetry seekingDio.key) = some hasWaited.1.now) ∧
    (hasRetried.2 = 2 ∧
      (hasAnswered.1.dodags[seekingDio.key]?).any (fun dodag =>
        dodag.p2p.droSequence = 1) = true ∧
      (hasRetried.1.dodags[seekingDio.key]?).any (fun dodag =>
        dodag.p2p.droSequence = 1) = true ∧
      hasRetried.1.sockets.contains 1 = true ∧
      hasRetried.1.ipv6.getLinkLocalAddress 1 ≠ 0xfe800000000000000000000000000001#128) ∧
    isAcknowledged.1.now ≤ seconds 2 ∧ isAcknowledged.1.nothingBefore (seconds 2) = true := by
  decide +kernel

/-- The P2P-DRO has gone out, over an address vector that was new, and a second time of at most
four.  Once it is acknowledged no further one follows, though the time for it comes. -/
theorem dro_retransmissions_bounded_answered :
    ∃ answered dodag, hasAnswered.1.dodags[seekingDio.key]? = some answered ∧
      answered.p2p.lastRepliedAddressVector = answered.p2p.addressVector ∧
      hasRetried.1.dodags[seekingDio.key]? = some dodag ∧ hasRetried.2 = 2 ∧
      hasRetried.2 ≤ 1 + hasRetried.1.attributes.p2pDroMaxRetransmissions.toNat ∧
      ((replyCycleSystem seekingDio.key 1).next isAcknowledged (.tick (seconds 2))).2 ≤ 2 ∧
      hasRetried.1.apply (acknowledges 2) = hasRetried.1 := by
  obtain ⟨⟨forward, nothing, due⟩, ⟨twice, first, sequence, listens, foreign⟩, later, quiet⟩ :=
    hasAnswered_facts
  obtain ⟨answered, heldFirst, isOneFirst⟩ := (Option.any_eq_true _ _).mp first
  obtain ⟨dodag, held, isOne⟩ := (Option.any_eq_true _ _).mp sequence
  rw [decide_eq_true_eq] at isOne isOneFirst
  have initial : (replyCycleSystem seekingDio.key 1).Reachable (started soughtIpv6, 0) :=
    .start ⟨started_initial _, rfl⟩
  have reachable : (replyCycleSystem seekingDio.key 1).Reachable hasAnswered :=
    initial.step (started_listens _) trivial
  have waits : (replyCycleSystem seekingDio.key 1).enabled hasAnswered (.tick (seconds 1)) :=
    enabled_tick forward nothing
  have retries : (replyCycleSystem seekingDio.key 1).enabled hasWaited
      (.fire (.droRetry seekingDio.key)) := due
  have retried : (replyCycleSystem seekingDio.key 1).Reachable hasRetried :=
    (reachable.step waits trivial).step retries trivial
  obtain ⟨bound, fresh, ends, ignores⟩ := dro_retransmissions_bounded seekingDio.key 1
  have nothingBefore : ((started soughtIpv6).repliedBefore seekingDio.key
      hasAnswered.1).droSequence = 0 := by
    have absent : (started soughtIpv6).dodags[seekingDio.key]? = none := rfl
    unfold repliedBefore
    rw [replyState, absent]
    split
    · rfl
    · rfl
  refine ⟨answered, dodag, heldFirst, ?_, held, twice, bound _ retried, ?_, ?_⟩
  · refine (fresh _ (hears seekingDio) answered (.start (started_initial _)) (started_listens _)
      heldFirst ?_).1
    change answered.p2p.droSequence ≠ ((started soughtIpv6).repliedBefore seekingDio.key
      hasAnswered.1).droSequence
    rw [nothingBefore, isOneFirst]
    decide
  · have last := ends hasRetried
      { sender := 0xfe800000000000000000000000000001#128, interface := 1 } (ackOf 1) dodag
      ((replyCycleSystem seekingDio.key 1).next isAcknowledged (.tick (seconds 2)))
      retried (ExtTreeSet.contains_iff_mem.mp listens) (Ne.symm foreign) rfl held isOne.symm
      (.single ⟨.tick (seconds 2), enabled_tick later quiet, rfl, rfl⟩)
    rw [twice] at last
    exact last
  · refine ignores hasRetried.1 _ (ackOf 2) dodag rfl held ?_
    rw [isOne]
    decide

end Node

end Rpl
