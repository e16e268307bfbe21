import Rpl.StoppedDiscovery
import Rpl.TargetReplies

/-!
# What every event makes of the answers of a Target

An event leaves the answers under a key alone, or ends the membership and begins another, or it is
one of the few that move them on: a P2P mode DIO of the temporary DAG, the retry timer, the end of
the collection window, an acknowledgement.
-/

namespace Rpl

open Std

/-! ## How far the answers are -/

/-- How often a membership under a key has ended, and how far the one held is in its answers. -/
structure Answering where
  ended : Nat
  held : Option Replying

/-- Nothing has changed, or every membership there is now has recorded nothing yet; one that was
held before has ended. -/
def Answering.Renews (before after : Answering) : Prop :=
  after = before ∨
    (∀ replying, after.held = some replying → replying.Blank) ∧ before.ended ≤ after.ended ∧
      (before.held ≠ none → before.ended < after.ended)

namespace Answering

variable {before middle after : Answering}

theorem Renews.refl (before : Answering) : before.Renews before := .inl rfl

theorem Renews.trans (first : before.Renews middle) (second : middle.Renews after) :
    before.Renews after := by
  rcases second with rfl | ⟨blank, later, ends⟩
  · exact first
  rcases first with rfl | ⟨-, laterYet, endsYet⟩
  · exact .inr ⟨blank, later, ends⟩
  · exact .inr ⟨blank, Nat.le_trans laterYet later, fun held =>
      Nat.lt_of_lt_of_le (endsYet held) later⟩

end Answering

/-- A P2P-DRO of the temporary DAG that asks for an acknowledgement. -/
def P2pDroHeader.tracks (key : DodagKey) (dro : P2pDroHeader) : Bool :=
  dro.ackRequested && dro.key = key

namespace Node

variable {n m after : Node} {e : Event} {key other : DodagKey} {interface : Nat}
  {dodag : DodagMembership} {p2p : P2pState} {sent : List P2pDroHeader}

def replyState (key : DodagKey) (n : Node) : Answering :=
  ⟨n.departures key, (n.dodags[key]?).map (·.p2p.replying)⟩

/-- How many P2P-DROs of the temporary DAG that ask for an acknowledgement have been handed down
on the interface. -/
def tracked (key : DodagKey) (interface : Nat) (n : Node) : Nat :=
  (drosOn interface n.outputs).countP (·.tracks key)

theorem replyState_of_held (held : n.dodags[key]? = some dodag) :
    n.replyState key = ⟨n.departures key, some dodag.p2p.replying⟩ := by
  rw [replyState, held, Option.map_some]

theorem replyState_setDodag (n : Node) (other : DodagKey) (dodag : DodagMembership) :
    (n.setDodag other dodag).replyState key =
      ⟨n.departures key, if key = other then some dodag.p2p.replying
        else (n.replyState key).held⟩ := by
  have departures : (n.setDodag other dodag).departures key = n.departures key := rfl
  unfold replyState
  rw [departures, setDodag, OrderedMap.getElem?_insert_eq]
  split
  · rfl
  · rfl

/-! ### As a view of notes -/

theorem replyState_sees (key : DodagKey) : NotesView (replyState key) where
  emit _ _ _ := rfl
  findings _ _ := rfl
  unseen _ _ := rfl
  clock _ _ := rfl
  marks m milestone stays := by
    unfold replyState departures
    rw [stakes_mark m stays]
    rfl
  keeps n other dodag changed held _ same := by
    rw [replyState_setDodag]
    split
    · next keyed =>
      rw [replyState_of_held (keyed ▸ held), same]
    · rfl
  puts other dodag same := by
    have departures : Node.departures _ key = Node.departures _ key := congrArg Answering.ended same
    rw [replyState_setDodag, replyState_setDodag, departures, same]

theorem tracked_emit (n : Node) (outputs : List Output) :
    (n.emit outputs).tracked key interface =
      n.tracked key interface + (drosOn interface outputs).countP (·.tracks key) := by
  rw [tracked, emit_outputs, drosOn_append, List.countP_append, tracked, Nat.add_comm]

theorem tracked_sees (key : DodagKey) (interface : Nat) : NotesView (tracked key interface) where
  emit n outputs noDro := by
    rw [tracked_emit, drosOn_eq_nil interface noDro]
    rfl
  findings _ _ := rfl
  unseen _ _ := rfl
  clock _ _ := rfl
  marks _ _ _ := rfl
  keeps _ _ _ _ _ _ _ := rfl
  puts _ _ same := same

end Node

/-- Two views of notes side by side. -/
theorem NotesView.prod {σ τ : Type} {view : Node → σ} {other : Node → τ} (sees : NotesView view)
    (seesToo : NotesView other) : NotesView fun n => (view n, other n) where
  emit n sent noDro := Prod.ext (sees.emit n sent noDro) (seesToo.emit n sent noDro)
  findings n findings := Prod.ext (sees.findings n findings) (seesToo.findings n findings)
  unseen n solicitation := Prod.ext (sees.unseen n solicitation) (seesToo.unseen n solicitation)
  clock n later := Prod.ext (sees.clock n later) (seesToo.clock n later)
  marks n milestone stays := Prod.ext (sees.marks n milestone stays)
    (seesToo.marks n milestone stays)
  keeps n key dodag changed held notes replying :=
    Prod.ext (sees.keeps n key dodag changed held notes replying)
      (seesToo.keeps n key dodag changed held notes replying)
  puts key dodag same := Prod.ext (sees.puts key dodag (congrArg Prod.fst same))
    (seesToo.puts key dodag (congrArg Prod.snd same))

namespace Node

variable {n m after : Node} {e : Event} {key other : DodagKey} {interface : Nat}
  {dodag : DodagMembership} {p2p : P2pState} {sent : List P2pDroHeader}

/-- The answers under the key are renewed, or left alone, and no P2P-DRO that asks for an
acknowledgement has gone out. -/
def Renewed (key : DodagKey) (interface : Nat) (n after : Node) : Prop :=
  (n.replyState key).Renews (after.replyState key) ∧
    after.tracked key interface = n.tracked key interface

theorem Renewed.of_same (answering : after.replyState key = n.replyState key)
    (tracked : after.tracked key interface = n.tracked key interface) :
    n.Renewed key interface after :=
  ⟨.inl answering, tracked⟩

theorem Renewed.of_eq (same : after = n) : n.Renewed key interface after := by
  subst same
  exact .of_same rfl rfl

theorem Renewed.trans (first : n.Renewed key interface m) (second : m.Renewed key interface after) :
    n.Renewed key interface after :=
  ⟨first.1.trans second.1, second.2.trans first.2⟩

theorem replyState_setDodag_same {changed : DodagMembership} (held : n.dodags[other]? = some dodag)
    (same : changed.p2p.replying = dodag.p2p.replying) :
    (n.setDodag other changed).replyState key = n.replyState key := by
  rw [replyState_setDodag]
  split
  · next keyed =>
    rw [replyState_of_held (keyed ▸ held), same]
  · rfl

theorem replyState_modifyDodag_same {f : DodagMembership → DodagMembership}
    (same : ∀ dodag, (f dodag).p2p.replying = dodag.p2p.replying) :
    (n.modifyDodag other f).replyState key = n.replyState key := by
  cases held : n.dodags[other]? with
  | none => rw [modifyDodag_of_absent held]
  | some dodag =>
    rw [setDodag_of_held held]
    exact replyState_setDodag_same held (same dodag)

theorem replyState_eraseDodag :
    (n.eraseDodag other dodag).replyState key =
      if key = other then ⟨n.departures key + 1, none⟩ else n.replyState key := by
  unfold replyState departures
  rw [stakes_eraseDodag, dodags_eraseDodag, OrderedMap.getElem?_erase_eq]
  change (⟨(other :: n.stakes.ended).count key, _⟩ : Answering) = _
  split
  · next keyed =>
    rw [keyed, List.count_cons_self]
    rfl
  · next distinct => rw [List.count_cons_of_ne (Ne.symm distinct)]

theorem tracked_eraseDodag :
    (n.eraseDodag other dodag).tracked key interface = n.tracked key interface := by
  unfold eraseDodag
  dsimp only [mark]
  split
  · split
    · rfl
    · rfl
  · split
    · rfl
    · rfl

theorem renewedFrame (key : DodagKey) (interface : Nat) :
    NotesFrame (fun n => (n.replyState key, n.tracked key interface)) (Renewed key interface) where
  sees := (replyState_sees key).prod (tracked_sees key interface)
  same same := .of_same (congrArg Prod.fst same) (congrArg Prod.snd same)
  trans := .trans
  ends n other dodag := by
    refine ⟨?_, tracked_eraseDodag⟩
    rw [replyState_eraseDodag]
    split
    · exact .inr ⟨fun _ none_ => (by cases none_), Nat.le_succ _, fun _ => Nat.lt_succ_self _⟩
    · exact .refl _
  begins n other dodag absent unnoted := by
    refine ⟨?_, rfl⟩
    rw [replyState_setDodag]
    split
    · next keyed =>
      refine .inr ⟨fun replying begun => ?_, Nat.le_refl _, fun held => ?_⟩
      · cases begun
        exact unnoted.blank
      · rw [replyState, keyed, absent] at held
        exact absurd rfl held
    · exact .refl _
  prunes n other dodag held := .of_same (replyState_setDodag_same held rfl) rfl
  appends n other addressVector _ := .of_same (replyState_modifyDodag_same fun _ => rfl) rfl
  relays n other := .of_same (replyState_modifyDodag_same fun _ => rfl) rfl

/-! ### What the functions of a Target do under a key -/

theorem Answers.replyState (answers : n.Answers other interface dodag after p2p sent) :
    after.replyState key =
      if key = other then ⟨n.departures key, some p2p.replying⟩ else n.replyState key := by
  obtain ⟨outputs, rfl, -⟩ := answers
  rw [replyState_setDodag]
  split
  · rfl
  · rfl

theorem Answers.tracked (answers : n.Answers other interface dodag after p2p sent) :
    after.tracked key interface = n.tracked key interface + sent.countP (·.tracks key) := by
  obtain ⟨outputs, rfl, rfl⟩ := answers
  exact tracked_emit n outputs

/-- What is done under another key. -/
theorem Answers.elsewhere (answers : n.Answers other interface dodag after p2p sent)
    (apart : key ≠ other) (named : ∀ dro ∈ sent, dro.key = other) :
    n.Renewed key interface after := by
  refine .of_same ?_ ?_
  · rw [answers.replyState, if_neg apart]
  · rw [answers.tracked, List.countP_eq_zero.mpr, Nat.add_zero]
    intro dro mem tracks
    simp only [P2pDroHeader.tracks, Bool.and_eq_true, decide_eq_true_eq] at tracks
    exact apart (tracks.2.symm.trans (named dro mem))

theorem named_copyOn {dro : P2pDroHeader} (named : dro.key = other) :
    ∀ copy ∈ n.copyOn interface dro, copy.key = other := by
  intro copy mem
  unfold copyOn at mem
  split at mem
  · rw [List.mem_singleton.mp mem, named]
  · exact absurd mem List.not_mem_nil

theorem named_batch (keyed : dodag.key = other) :
    ∀ copy ∈ (n.batch other dodag).reverse.flatMap (n.copyOn interface), copy.key = other := by
  intro copy mem
  obtain ⟨dro, inBatch, isCopy⟩ := List.mem_flatMap.mp mem
  refine named_copyOn ?_ copy isCopy
  rcases List.mem_cons.mp (List.mem_reverse.mp inBatch) with rfl | further
  · exact keyed ▸ rfl
  · obtain ⟨route, -, rfl⟩ := List.mem_map.mp further
    exact keyed ▸ rfl

/-! ## Events that are none of the answers' business -/

/-- The event is no P2P mode DIO of the temporary DAG that is taken in, none of its timers of
answers, no acknowledgement for it, and no P2P-DRO. -/
structure Unconcerned (key : DodagKey) (n : Node) (e : Event) : Prop where
  rdo : ∀ dio heard m dodag, n.Takes e dio heard → n.beforeDiscovery dio heard = some m →
    dio.p2pRdo.isSome = true → m.dodags[dio.key]? = some dodag → key ≠ dio.key
  retry : e ≠ .fire (.droRetry key)
  collect : e ≠ .fire (.droCollect key)
  ack : ∀ heard ack, e = .receive heard (.p2pDroAck ack) → key ≠ ⟨ack.instanceId, ack.dodagId⟩
  dro : ∀ heard dro, e ≠ .receive heard (.p2pDro dro)

theorem keyed_of_inOrder (inOrder : n.stakes.InOrder) (held : n.dodags[key]? = some dodag) :
    dodag.key = key :=
  (inOrder key dodag.stake ((n.stakes_held key).trans (congrArg _ held))).1

theorem renewed_startReply (apart : key ≠ other) (keyed : dodag.key = other)
    (held : n.dodags[other]? = some { dodag with p2p := p2p }) :
    n.Renewed key interface (n.startReply other) := by
  rcases answers_startReply interface held with ⟨dro, named, sends⟩ | ⟨-, waits⟩ | ⟨ends, opens⟩
  · exact sends.elsewhere apart (named_copyOn (named.trans (keyed ▸ rfl)))
  · exact waits.elsewhere apart (by simp)
  · exact opens.elsewhere apart (by simp)

theorem renewed_handleP2pRdo {dio : DioHeader} {heard : Reception} (apart : key ≠ dio.key)
    (keyed : dodag.key = dio.key) (held : m.dodags[dio.key]? = some dodag) :
    m.Renewed key interface (m.handleP2pRdo dio heard) := by
  rcases answers_handleP2pRdo interface heard held with
    ⟨p2p, answers, -⟩ | ⟨ready, p2p, answers, left⟩ | ⟨ready, p2p, answers, -, -, -, -, starts⟩
  · exact answers.elsewhere apart (by simp)
  · rw [left]
    exact (answers.elsewhere apart (by simp)).trans
      ((renewedFrame key interface).leaveDodag dio.key false)
  · rw [starts]
    exact (answers.elsewhere apart (by simp)).trans
      (renewed_startReply apart keyed answers.held)

theorem unconcerned_frame (inOrder : n.stakes.InOrder) (unconcerned : Unconcerned key n e) :
    DiscoveryFrame (fun n => (n.replyState key, n.tracked key interface)) n e
      (Renewed key interface) where
  toNotesFrame := renewedFrame key interface
  takesRreq _ _ _ held _ := .of_same (replyState_setDodag_same held rfl) rfl
  takesRdo {m dio heard} takes handles rdo _ := by
    cases held : m.dodags[dio.key]? with
    | none =>
      rw [handleP2pRdo_of_absent heard held]
      exact (renewedFrame key interface).refl m
    | some dodag =>
      have inOrderThen : m.stakes.InOrder :=
        Shifts.keeps (fun _ _ _ shift => inOrder_shift shift) (shifts_beforeDiscovery takes handles)
          inOrder
      exact renewed_handleP2pRdo (unconcerned.rdo dio heard m dodag takes handles rdo held)
        (keyed_of_inOrder inOrderThen held) held
  retries other event := by
    have apart : key ≠ other := fun same => unconcerned.retry (same ▸ event)
    cases held : n.dodags[other]? with
    | none =>
      rw [fire_droRetry_of_absent held]
      exact (renewedFrame key interface).refl n
    | some dodag =>
      have keyed := keyed_of_inOrder inOrder held
      rcases answers_retry interface held with
        ⟨-, answers⟩ | answers | ⟨-, -, dro, named, answers⟩
      · exact answers.elsewhere apart (by simp)
      · exact answers.elsewhere apart (by simp)
      · exact answers.elsewhere apart (named_copyOn (named.trans (keyed ▸ rfl)))
  collects other event := by
    have apart : key ≠ other := fun same => unconcerned.collect (same ▸ event)
    cases held : n.dodags[other]? with
    | none =>
      rw [fire_droCollect_of_absent held]
      exact (renewedFrame key interface).refl n
    | some dodag =>
      rcases answers_collect interface held with ⟨_, -, answers⟩ | ⟨-, -, -, answers⟩
      · exact answers.elsewhere apart (by simp)
      · exact answers.elsewhere apart (named_batch (keyed_of_inOrder inOrder held))
  relaysDro heard dro event := absurd event (unconcerned.dro heard dro)
  acknowledged heard ack event := by
    have apart := unconcerned.ack heard ack event
    cases held : n.dodags[(⟨ack.instanceId, ack.dodagId⟩ : DodagKey)]? with
    | none =>
      rw [handleP2pDroAck_of_absent held]
      exact (renewedFrame key interface).refl n
    | some dodag =>
      rcases answers_handleP2pDroAck interface ack held with ⟨same, -⟩ | ⟨-, answers⟩
      · rw [same]
        exact (renewedFrame key interface).refl n
      · exact answers.elsewhere apart (by simp)

end Node

/-! ## Events that move the answers on -/

/-- A reply cycle starts: it goes out at once, waits for the window that is open, or opens one. -/
inductive Replying.Starts (most : UInt8) (asks : Bool) (ready : Replying) : Replying → Nat → Prop
  | atOnce {retry : Timer} {count : Nat} (single : count ≤ 1) :
      Starts most asks ready
        { ready with
          lastRepliedAddressVector := ready.addressVector
          droSequence := (ready.droSequence + 1) &&& p2pDroSeqMax
          droAckPending := asks
          droRetriesLeft := most
          droCollectEvent := none
          droCollecting := false
          droRetryEvent := retry } count
  | waits (collecting : ready.droCollecting = true) :
      Starts most asks ready
        { ready with
          lastRepliedAddressVector := ready.addressVector
          droSequence := (ready.droSequence + 1) &&& p2pDroSeqMax
          droAckPending := asks
          droRetriesLeft := most } 0
  | opens {ends : Time} :
      Starts most asks ready
        { ready with
          lastRepliedAddressVector := ready.addressVector
          droSequence := (ready.droSequence + 1) &&& p2pDroSeqMax
          droAckPending := asks
          droRetriesLeft := most
          droRetryEvent := none
          droCollecting := true
          droCollectEvent := some ends } 0

namespace Node

/-- A P2P mode DIO of the temporary DAG has been recorded and taken in on the way from one to the
other. -/
structure Heeds (n : Node) (e : Event) (key : DodagKey) (replying later : Replying) : Prop where
  continues : replying.Continues later
  routed : ∃ dio heard m dodag p2p, n.Takes e dio heard ∧ dio.p2pRdo.isSome = true ∧
    dio.key = key ∧ n.beforeDiscovery dio heard = some m ∧ m.dodags[key]? = some dodag ∧
    m.Routed dio heard dodag p2p ∧ dodag.p2p.replying = replying ∧ p2p.replying = later

/-- What an event makes of the answers of a membership that stays, and how many P2P-DROs that ask
for an acknowledgement it hands down on an interface. -/
inductive Moves (n : Node) (e : Event) (key : DodagKey) (replying : Replying) :
    Replying → Nat → Prop
  | heeds {later : Replying} (heeds : n.Heeds e key replying later) : Moves n e key replying later 0
  | starts {ready later : Replying} {count : Nat} (heeds : n.Heeds e key replying ready)
      (target : ready.isTarget = true)
      (fresh : ready.addressVector ≠ ready.lastRepliedAddressVector)
      (starts : ready.Starts n.attributes.p2pDroMaxRetransmissions
        n.attributes.p2pDroAckRequested later count) :
      Moves n e key replying later count
  | idles (idle : replying.droAckPending = false) :
      Moves n e key replying { replying with droRetryEvent := none } 0
  /-- Retransmissions are given up, or the P2P-DRO is acknowledged. -/
  | settles : Moves n e key replying
      { replying with droRetryEvent := none, droAckPending := false } 0
  | retries {retry : Timer} {count : Nat} (armed : replying.droRetryEvent.isRunning = true)
      (pending : replying.droAckPending = true) (left : replying.droRetriesLeft ≠ 0)
      (single : count ≤ 1) :
      Moves n e key replying
        { replying with droRetryEvent := retry, droRetriesLeft := replying.droRetriesLeft - 1 }
        count
  | collects {alternates : List (List Ipv6Address)} {retry : Timer} {count : Nat}
      (running : replying.droCollectEvent.isRunning = true)
      (fewer : alternates.Sublist replying.alternateRoutes) (single : count ≤ 1) :
      Moves n e key replying
        { replying with
          droCollectEvent := none
          droCollecting := false
          alternateRoutes := alternates
          droRetryEvent := retry } count

variable {n m after : Node} {e : Event} {key other : DodagKey} {interface : Nat}
  {dodag : DodagMembership} {p2p : P2pState} {sent : List P2pDroHeader}

theorem length_copyOn (n : Node) (interface : Nat) (dro : P2pDroHeader) :
    (n.copyOn interface dro).length ≤ 1 := by
  unfold copyOn
  split
  · exact Nat.le_refl 1
  · exact Nat.zero_le 1

theorem tracks_copyOn (n : Node) (interface : Nat) (dro : P2pDroHeader) :
    (n.copyOn interface dro).countP (·.tracks key) ≤ 1 :=
  Nat.le_trans List.countP_le_length (length_copyOn n interface dro)

/-- Only one P2P-DRO of a batch asks for an acknowledgement. -/
theorem tracks_batch (n : Node) (other : DodagKey) (dodag : DodagMembership) (interface : Nat) :
    ((n.batch other dodag).reverse.flatMap (n.copyOn interface)).countP (·.tracks key) ≤ 1 := by
  have rest (routes : List (List Ipv6Address)) (stop : Bool) :
      ((routes.map fun route => n.p2pDroMessage dodag other route stop false).reverse.flatMap
        (n.copyOn interface)).countP (·.tracks key) = 0 := by
    refine List.countP_eq_zero.mpr fun copy mem => ?_
    obtain ⟨dro, further, isCopy⟩ := List.mem_flatMap.mp mem
    obtain ⟨route, -, rfl⟩ := List.mem_map.mp (List.mem_reverse.mp further)
    unfold copyOn at isCopy
    split at isCopy
    · rw [List.mem_singleton.mp isCopy]
      exact Bool.false_ne_true
    · exact absurd isCopy List.not_mem_nil
  rw [batch, List.reverse_cons, List.flatMap_append, List.flatMap_singleton, List.countP_append,
    rest, Nat.zero_add]
  exact tracks_copyOn ..

/-- What the functions of a Target do to the answers under their own key. -/
theorem Answers.turn (answers : n.Answers key interface dodag after p2p sent) :
    after.replyState key = ⟨n.departures key, some p2p.replying⟩ := by
  rw [answers.replyState, if_pos rfl]

theorem replyState_leaveDodag (interface : Nat) (held : n.dodags[key]? = some dodag) :
    (n.leaveDodag key false).replyState key = ⟨n.departures key + 1, none⟩ ∧
      (n.leaveDodag key false).tracked key interface = n.tracked key interface := by
  obtain ⟨has, base, left⟩ := leaveDodag_eq held false
  have erased : (n.eraseDodag key dodag).replyState key = ⟨n.departures key + 1, none⟩ := by
    rw [replyState_eraseDodag, if_pos rfl]
  rw [left]
  exact ⟨erased, tracked_eraseDodag⟩

/-- The event moves the answers under the key on, once it has renewed them or not. -/
def MovesOn (key : DodagKey) (interface : Nat) (n : Node) (e : Event) (after : Node) : Prop :=
  ∃ ended replying later count, (n.replyState key).Renews ⟨ended, some replying⟩ ∧
    n.Moves e key replying later count ∧ after.replyState key = ⟨ended, some later⟩ ∧
    after.tracked key interface = n.tracked key interface + count

theorem movesOn_of_answers (renewed : n.Renewed key interface m)
    (held : m.dodags[key]? = some dodag)
    (answers : m.Answers key interface dodag after p2p sent)
    (moves : n.Moves e key dodag.p2p.replying p2p.replying (sent.countP (·.tracks key))) :
    n.MovesOn key interface e after := by
  refine ⟨m.departures key, _, _, _, ?_, moves, answers.turn, ?_⟩
  · rw [← replyState_of_held held]
    exact renewed.1
  · rw [answers.tracked, renewed.2]

theorem replying_tracked (n : Node) (track : Bool) (p2p : P2pState) :
    ∃ retry, (n.trackedP2pState track p2p).replying =
      { p2p.replying with droRetryEvent := retry } := by
  unfold trackedP2pState
  split
  · exact ⟨_, rfl⟩
  · exact ⟨p2p.droRetryEvent, rfl⟩

theorem movesOn_retry (enabled : n.Enabled (.fire (.droRetry key)))
    (held : n.dodags[key]? = some dodag) :
    n.MovesOn key interface (.fire (.droRetry key)) (n.fire (.droRetry key)) := by
  have armed : dodag.p2p.droRetryEvent.isRunning = true := by
    change (n.dodags[key]?).bind _ = some n.now at enabled
    rw [held] at enabled
    exact congrArg Option.isSome enabled
  have renewed := (renewedFrame key interface).refl n
  rcases answers_retry interface held with
    ⟨idle, answers⟩ | answers | ⟨pending, left, dro, -, answers⟩
  · exact movesOn_of_answers renewed held answers (.idles idle)
  · exact movesOn_of_answers renewed held answers .settles
  · refine movesOn_of_answers renewed held answers ?_
    obtain ⟨retry, same⟩ := n.replying_tracked n.attributes.p2pDroAckRequested
      { dodag.p2p with droRetryEvent := none, droRetriesLeft := dodag.p2p.droRetriesLeft - 1 }
    rw [same]
    exact .retries armed pending left (tracks_copyOn ..)

theorem movesOn_collect (enabled : n.Enabled (.fire (.droCollect key)))
    (held : n.dodags[key]? = some dodag) :
    n.MovesOn key interface (.fire (.droCollect key)) (n.fire (.droCollect key)) := by
  have running : dodag.p2p.droCollectEvent.isRunning = true := by
    change (n.dodags[key]?).bind _ = some n.now at enabled
    rw [held] at enabled
    exact congrArg Option.isSome enabled
  have renewed := (renewedFrame key interface).refl n
  rcases answers_collect interface held with ⟨alternates, fewer, answers⟩ | ⟨-, -, -, answers⟩
  · exact movesOn_of_answers renewed held answers (.collects running fewer (Nat.zero_le 1))
  · refine movesOn_of_answers renewed held answers ?_
    obtain ⟨retry, same⟩ := n.replying_tracked n.attributes.p2pDroAckRequested
      (closedP2pState dodag.p2p [])
    rw [same]
    exact .collects running (List.nil_sublist _) (tracks_batch ..)

theorem movesOn_startReply {ready : Node} (heeds : n.Heeds e key dodag.p2p.replying p2p.replying)
    (renewed : n.Renewed key interface m) (held : m.dodags[key]? = some dodag)
    (attributes : m.attributes = n.attributes)
    (answers : m.Answers key interface dodag ready p2p []) (target : p2p.isTarget = true)
    (fresh : p2p.addressVector ≠ p2p.lastRepliedAddressVector) :
    n.MovesOn key interface e (ready.startReply key) := by
  have sameAttributes : ready.attributes = n.attributes := by
    obtain ⟨outputs, rfl, -⟩ := answers
    exact attributes
  rcases answers_startReply interface answers.held with
    ⟨dro, -, sends⟩ | ⟨collecting, waits⟩ | ⟨ends, opens⟩
  · refine movesOn_of_answers renewed held (answers.silent_trans sends) ?_
    obtain ⟨retry, same⟩ := ready.replying_tracked ready.attributes.p2pDroAckRequested
      { ready.startedP2pState p2p with droCollectEvent := none, droCollecting := false }
    rw [same]
    refine .starts heeds target fresh ?_
    rw [← sameAttributes]
    exact .atOnce (tracks_copyOn ..)
  · refine movesOn_of_answers renewed held (answers.silent_trans waits)
      (.starts heeds target fresh ?_)
    rw [← sameAttributes]
    exact .waits collecting
  · refine movesOn_of_answers renewed held (answers.silent_trans opens)
      (.starts heeds target fresh ?_)
    rw [← sameAttributes]
    exact .opens

/-- A P2P mode DIO of the temporary DAG that is taken in. -/
theorem apply_rdo {dio : DioHeader} {heard : Reception} (interface : Nat)
    (takes : n.Takes e dio heard)
    (handles : n.beforeDiscovery dio heard = some m) (rdo : dio.p2pRdo.isSome = true)
    (held : m.dodags[dio.key]? = some dodag) :
    n.Renewed dio.key interface (n.apply e) ∨ n.MovesOn dio.key interface e (n.apply e) := by
  have holds : m.holds dio.key = true := by
    rw [Node.holds, ← ExtTreeMap.isSome_getElem?_eq_contains, held]
    rfl
  rw [takes.apply_eq_handleDiscovery handles, handleDiscovery_of_rdo takes rdo holds]
  have renewed : n.Renewed dio.key interface m := (renewedFrame dio.key interface).beforeDiscovery
    handles
  have heedsOf {p2p : P2pState} (continues : dodag.p2p.replying.Continues p2p.replying)
      (routed : m.Routed dio heard dodag p2p) :
      n.Heeds e dio.key dodag.p2p.replying p2p.replying :=
    ⟨continues, dio, heard, m, dodag, p2p, takes, rdo, rfl, handles, held, routed, rfl, rfl⟩
  rcases answers_handleP2pRdo interface heard held with
    ⟨p2p, answers, continues, routed⟩ | ⟨ready, p2p, answers, left⟩ |
    ⟨ready, p2p, answers, continues, routed, target, fresh, starts⟩
  · exact .inr (movesOn_of_answers renewed held answers (.heeds (heedsOf continues routed)))
  · rw [left]
    obtain ⟨gone, silent⟩ := replyState_leaveDodag interface answers.held
    refine .inl ⟨renewed.1.trans (.inr ?_), ?_⟩
    · have departures : ready.departures dio.key = m.departures dio.key :=
        congrArg Answering.ended answers.turn
      rw [gone, departures]
      exact ⟨fun _ none_ => (by cases none_), Nat.le_succ _, fun _ => Nat.lt_succ_self _⟩
    · rw [silent, answers.tracked, renewed.2]
      rfl
  · rw [starts]
    have attributes : m.attributes = n.attributes :=
      (shifts_beforeDiscovery takes handles).attributes_eq
    exact .inr (movesOn_startReply (heedsOf continues routed) renewed held attributes answers
      target fresh)

/-- Every event leaves the answers under a key alone, or renews them, or moves them on; a
P2P-DRO that comes in does not even see them. -/
theorem apply_cases (key : DodagKey) (interface : Nat) (enabled : n.Enabled e)
    (inOrder : n.stakes.InOrder) :
    n.Renewed key interface (n.apply e) ∨
      (∃ heard dro, e = .receive heard (.p2pDro dro)) ∧
        (n.apply e).replyState key = n.replyState key ∨
      n.MovesOn key interface e (n.apply e) := by
  by_cases dro : ∃ heard dro, e = .receive heard (.p2pDro dro)
  · refine .inr (.inl ⟨dro, ?_⟩)
    obtain ⟨heard, dro, rfl⟩ := dro
    change (n.recvRpl heard (.p2pDro dro)).replyState key = n.replyState key
    unfold recvRpl
    split
    · rfl
    · refine (replyState_sees key).onlooker.handleP2pDro (fun sends => ?_) dro
      obtain ⟨outputs, rfl, -⟩ := sends
      rfl
  by_cases retry : e = .fire (.droRetry key)
  · subst retry
    cases held : n.dodags[key]? with
    | none => exact .inl (.of_eq (fire_droRetry_of_absent held))
    | some dodag => exact .inr (.inr (movesOn_retry enabled held))
  by_cases collect : e = .fire (.droCollect key)
  · subst collect
    cases held : n.dodags[key]? with
    | none => exact .inl (.of_eq (fire_droCollect_of_absent held))
    | some dodag => exact .inr (.inr (movesOn_collect enabled held))
  by_cases ack : ∃ heard ack, e = .receive heard (.p2pDroAck ack) ∧
      key = ⟨ack.instanceId, ack.dodagId⟩
  · obtain ⟨heard, ack, rfl, rfl⟩ := ack
    have stays := (renewedFrame ⟨ack.instanceId, ack.dodagId⟩ interface).refl n
    change Renewed _ _ _ (n.recvRpl heard (.p2pDroAck ack)) ∨ _ ∨
      n.MovesOn _ _ _ (n.recvRpl heard (.p2pDroAck ack))
    unfold recvRpl
    split
    · exact .inl stays
    · dsimp only
      cases held : n.dodags[(⟨ack.instanceId, ack.dodagId⟩ : DodagKey)]? with
      | none => exact .inl (.of_eq (handleP2pDroAck_of_absent held))
      | some dodag =>
        rcases answers_handleP2pDroAck interface ack held with ⟨same, -⟩ | ⟨-, answers⟩
        · exact .inl (.of_eq same)
        · exact .inr (.inr (movesOn_of_answers stays held answers .settles))
  by_cases rdo : ∃ dio heard m dodag, n.Takes e dio heard ∧ n.beforeDiscovery dio heard = some m ∧
      dio.p2pRdo.isSome = true ∧ m.dodags[dio.key]? = some dodag ∧ key = dio.key
  · obtain ⟨dio, heard, m, dodag, takes, handles, rdo, held, rfl⟩ := rdo
    rcases apply_rdo interface takes handles rdo held with renewed | moves
    · exact .inl renewed
    · exact .inr (.inr moves)
  refine .inl (unconcerned_frame inOrder ⟨?_, retry, collect, ?_, ?_⟩).apply
  · exact fun dio heard m dodag takes handles isRdo held same =>
      rdo ⟨dio, heard, m, dodag, takes, handles, isRdo, held, same⟩
  · exact fun heard message event same => ack ⟨heard, message, event, same⟩
  · exact fun heard message event => dro ⟨heard, message, event⟩

end Node

end Rpl
