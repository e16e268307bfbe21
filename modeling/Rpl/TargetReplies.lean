import Rpl.DiscoveryFrame
import Rpl.P2pRelay

/-!
# The P2P-DROs of a Target

What the functions that answer as the Target of a temporary DAG do, spelt out: what becomes of
the membership, and which P2P-DROs go out on an interface.
-/

namespace Rpl

open Std

/-- The temporary DAG a P2P-DRO belongs to. -/
def P2pDroHeader.key (dro : P2pDroHeader) : DodagKey := ⟨dro.instanceId, dro.dodagId⟩

/-- The reply cycle is where it was. -/
structure Replying.Continues (replying later : Replying) : Prop where
  isTarget : replying.isTarget = true → later.isTarget = true
  lastReplied : later.lastRepliedAddressVector = replying.lastRepliedAddressVector
  droSequence : later.droSequence = replying.droSequence
  droAckPending : later.droAckPending = replying.droAckPending
  droRetriesLeft : later.droRetriesLeft = replying.droRetriesLeft
  droRetryEvent : later.droRetryEvent = replying.droRetryEvent
  droCollectEvent : later.droCollectEvent = replying.droCollectEvent
  droCollecting : later.droCollecting = replying.droCollecting

theorem Replying.Continues.trans {replying later last : Replying}
    (first : replying.Continues later) (second : later.Continues last) :
    replying.Continues last where
  isTarget target := second.isTarget (first.isTarget target)
  lastReplied := second.lastReplied.trans first.lastReplied
  droSequence := second.droSequence.trans first.droSequence
  droAckPending := second.droAckPending.trans first.droAckPending
  droRetriesLeft := second.droRetriesLeft.trans first.droRetriesLeft
  droRetryEvent := second.droRetryEvent.trans first.droRetryEvent
  droCollectEvent := second.droCollectEvent.trans first.droCollectEvent
  droCollecting := second.droCollecting.trans first.droCollecting

/-! ## P2P-DROs on an interface -/

namespace Node

/-- The P2P-DROs handed down on an interface, newest first. -/
def drosOn (interface : Nat) (outputs : List Output) : List P2pDroHeader :=
  outputs.filterMap (droOn interface)

theorem drosOn_append (interface : Nat) (first second : List Output) :
    drosOn interface (first ++ second) = drosOn interface first ++ drosOn interface second :=
  List.filterMap_append

/-- Messages that are no P2P-DROs. -/
theorem drosOn_eq_nil (interface : Nat) {sent : List Output}
    (noDro : ∀ output ∈ sent, output.p2pDro? = none) : drosOn interface sent = [] := by
  refine List.filterMap_eq_nil_iff.mpr fun output mem => ?_
  have none_ := noDro output mem
  unfold droOn
  split
  · cases none_
  · rfl

/-- The copies of a multicast, newest first. -/
def copies (n : Node) (message : RplMessage) (destination : Ipv6Address) : List Output :=
  (n.sockets.toList.map fun interface =>
    .sent interface (n.ipv6.sourceAddressSelection n.ipv6.interfaces interface destination)
      destination message).reverse

/-- The copy of a P2P-DRO that goes out on the interface. -/
def copyOn (n : Node) (interface : Nat) (dro : P2pDroHeader) : List P2pDroHeader :=
  if interface ∈ n.sockets then [dro] else []

/-- Every interface RPL runs on gets one copy. -/
theorem drosOn_copies (n : Node) (dro : P2pDroHeader) (destination : Ipv6Address)
    (interface : Nat) :
    drosOn interface (n.copies (.p2pDro dro) destination) = n.copyOn interface dro := by
  have walk (interfaces : List Nat) (distinct : interfaces.Nodup) :
      interfaces.filterMap (droOn interface ∘ fun on =>
        .sent on (n.ipv6.sourceAddressSelection n.ipv6.interfaces on destination) destination
          (.p2pDro dro)) = if interface ∈ interfaces then [dro] else [] := by
    induction interfaces with
    | nil => rfl
    | cons on rest ih =>
      rw [List.nodup_cons] at distinct
      rw [List.filterMap_cons, ih distinct.2]
      by_cases here : on = interface
      · subst here
        simp [droOn, distinct.1]
      · simp [droOn, here, Ne.symm here]
  have nodup : n.sockets.toList.Nodup :=
    ExtTreeSet.distinct_toList.imp fun {a b} differ same =>
      differ (Std.LawfulEqCmp.compare_eq_iff_eq.mpr same)
  have reversed (dros : List P2pDroHeader) (single : dros.length ≤ 1) : dros.reverse = dros := by
    cases dros with
    | nil => rfl
    | cons first rest =>
      rw [List.length_eq_zero_iff.mp (Nat.le_zero.mp (Nat.le_of_succ_le_succ single))]
      rfl
  unfold copies drosOn copyOn
  rw [List.filterMap_reverse, List.filterMap_map, walk _ nodup, reversed]
  · simp only [ExtTreeSet.mem_toList]
  · split
    · exact Nat.le_refl 1
    · exact Nat.zero_le 1

/-! ## What a reply does -/

/-- The membership's P2P-RPL state is rewritten, and P2P-DROs go out, newest first. -/
def Answers (n : Node) (key : DodagKey) (interface : Nat) (dodag : DodagMembership)
    (after : Node) (p2p : P2pState) (sent : List P2pDroHeader) : Prop :=
  ∃ outputs, after = (n.emit outputs).setDodag key { dodag with p2p := p2p } ∧
    drosOn interface outputs = sent

/-- A P2P-DRO that asks for an acknowledgement has its retry timer set. -/
def trackedP2pState (n : Node) (trackAck : Bool) (p2p : P2pState) : P2pState :=
  if trackAck then
    { p2p with droRetryEvent := some (n.now + n.attributes.p2pDroAckWaitTime) }
  else p2p

/-- A collection window has closed. -/
def closedP2pState (p2p : P2pState) (alternates : List (List Ipv6Address)) : P2pState :=
  { p2p with droCollectEvent := none, droCollecting := false, alternateRoutes := alternates }

/-- What the start of a reply cycle notes. -/
def startedP2pState (n : Node) (p2p : P2pState) : P2pState :=
  { p2p with
    lastRepliedAddressVector := p2p.addressVector
    droSequence := (p2p.droSequence + 1) &&& p2pDroSeqMax
    droAckPending := n.attributes.p2pDroAckRequested
    droRetriesLeft := n.attributes.p2pDroMaxRetransmissions }

/-- The P2P-DROs of a reply after a collection window, in the order they go out. -/
def batch (n : Node) (key : DodagKey) (dodag : DodagMembership) : List P2pDroHeader :=
  let stop := !n.hasOtherP2pTargets dodag
  n.p2pDroMessage dodag key dodag.p2p.addressVector stop n.attributes.p2pDroAckRequested ::
    (alternateReplies dodag.p2p).map fun route => n.p2pDroMessage dodag key route stop false

section Answers

variable {n m after : Node} {key : DodagKey} {interface : Nat} {dodag : DodagMembership}
  {p2p later : P2pState} {sent more : List P2pDroHeader}

theorem Answers.held (answers : n.Answers key interface dodag after p2p sent) :
    after.dodags[key]? = some { dodag with p2p := p2p } := by
  obtain ⟨outputs, rfl, -⟩ := answers
  exact ExtTreeMap.getElem?_insert_self

theorem Answers.ipv6 (answers : n.Answers key interface dodag after p2p sent) :
    after.ipv6 = n.ipv6 := by
  obtain ⟨outputs, rfl, -⟩ := answers
  rfl

theorem Answers.log_reached (answers : n.Answers key interface dodag after p2p sent)
    (reached : DodagKey) :
    n.Answers key interface dodag (after.log (.discoveryTargetReached reached)) p2p sent := by
  obtain ⟨outputs, rfl, sends⟩ := answers
  exact ⟨.discoveryTargetReached reached :: outputs, rfl, sends⟩

theorem Answers.trans (first : n.Answers key interface dodag m p2p sent)
    (second : m.Answers key interface { dodag with p2p := p2p } after later more) :
    n.Answers key interface dodag after later (more ++ sent) := by
  obtain ⟨outputs, rfl, sends⟩ := first
  obtain ⟨others, rfl, sendsMore⟩ := second
  refine ⟨others ++ outputs, ?_, ?_⟩
  · simp only [emit, setDodag, OrderedMap.insert_insert, List.append_assoc]
  · rw [drosOn_append, sends, sendsMore]

/-- What goes out after a rewriting. -/
theorem Answers.silent_trans (first : n.Answers key interface dodag m p2p [])
    (second : m.Answers key interface { dodag with p2p := p2p } after later more) :
    n.Answers key interface dodag after later more := by
  have both := first.trans second
  rwa [List.append_nil] at both

variable (interface)

theorem answers_refl (held : n.dodags[key]? = some dodag) :
    n.Answers key interface dodag n dodag.p2p [] :=
  ⟨[], (setDodag_self held).symm, rfl⟩

theorem answers_setDodag (p2p : P2pState) :
    n.Answers key interface dodag (n.setDodag key { dodag with p2p := p2p }) p2p [] :=
  ⟨[], rfl, rfl⟩

theorem answers_modifyP2p (held : n.dodags[key]? = some dodag) (f : P2pState → P2pState) :
    n.Answers key interface dodag (n.modifyP2p key f) (f dodag.p2p) [] :=
  ⟨[], setDodag_of_held held _, rfl⟩

theorem answers_sendP2pDroRoute (held : n.dodags[key]? = some dodag) (route : List Ipv6Address)
    (stop trackAck : Bool) :
    n.Answers key interface dodag (n.sendP2pDroRoute key route stop trackAck)
      (n.trackedP2pState trackAck dodag.p2p)
      (n.copyOn interface (n.p2pDroMessage dodag key route stop trackAck)) := by
  refine ⟨n.copies (.p2pDro (n.p2pDroMessage dodag key route stop trackAck)) allNodesMulticast,
    ?_, n.drosOn_copies ..⟩
  unfold sendP2pDroRoute
  rw [held]
  dsimp only
  rw [sendRplMessageMulticast_eq_emit]
  change (if trackAck then (n.emit (n.copies _ _)).modifyP2p key _ else n.emit (n.copies _ _)) = _
  generalize n.copies (.p2pDro (n.p2pDroMessage dodag key route stop trackAck))
    allNodesMulticast = sent
  have heldAfter : (n.emit sent).dodags[key]? = some dodag := held
  cases trackAck with
  | true => exact setDodag_of_held heldAfter _
  | false => exact (setDodag_self heldAfter).symm

theorem answers_sendP2pDro (held : n.dodags[key]? = some dodag) :
    n.Answers key interface dodag (n.sendP2pDro key)
      (n.trackedP2pState n.attributes.p2pDroAckRequested dodag.p2p)
      (n.copyOn interface (n.p2pDroMessage dodag key dodag.p2p.addressVector
        (!n.hasOtherP2pTargets dodag) n.attributes.p2pDroAckRequested)) := by
  unfold sendP2pDro
  rw [held]
  exact answers_sendP2pDroRoute interface held ..

/-- A retry either gives up, or spends one retransmission. -/
theorem answers_p2pDroRetry (held : n.dodags[key]? = some dodag) :
    (dodag.p2p.droAckPending = false ∧ n.p2pDroRetry key = n) ∨
    (n.Answers key interface dodag (n.p2pDroRetry key)
        { dodag.p2p with droAckPending := false } []) ∨
    dodag.p2p.droAckPending = true ∧ dodag.p2p.droRetriesLeft ≠ 0 ∧ ∃ dro,
      dro.key = ⟨dodag.instanceId, key.dodagId⟩ ∧ n.Answers key interface dodag (n.p2pDroRetry key)
      (n.trackedP2pState n.attributes.p2pDroAckRequested
        { dodag.p2p with droRetriesLeft := dodag.p2p.droRetriesLeft - 1 })
      (n.copyOn interface dro) := by
  unfold p2pDroRetry
  rw [held]
  dsimp only
  split
  · next idle => exact .inl ⟨(Bool.not_eq_true' _).mp idle, rfl⟩
  next waits =>
  have pending : dodag.p2p.droAckPending = true := by simpa using waits
  split
  · exact .inr (.inl (answers_modifyP2p interface held _))
  · next left =>
    have spent := answers_modifyP2p interface held fun p2p =>
      { p2p with droRetriesLeft := p2p.droRetriesLeft - 1 }
    exact .inr (.inr ⟨pending, left, _, rfl,
      spent.silent_trans (answers_sendP2pDro interface spent.held)⟩)

/-- The retry timer. -/
theorem answers_retry (held : n.dodags[key]? = some dodag) :
    (dodag.p2p.droAckPending = false ∧ n.Answers key interface dodag (n.fire (.droRetry key))
      { dodag.p2p with droRetryEvent := none } []) ∨
    (n.Answers key interface dodag (n.fire (.droRetry key))
      { dodag.p2p with droRetryEvent := none, droAckPending := false } []) ∨
    dodag.p2p.droAckPending = true ∧ dodag.p2p.droRetriesLeft ≠ 0 ∧ ∃ dro,
      dro.key = ⟨dodag.instanceId, key.dodagId⟩ ∧
      n.Answers key interface dodag (n.fire (.droRetry key))
        (n.trackedP2pState n.attributes.p2pDroAckRequested
          { dodag.p2p with
            droRetryEvent := none, droRetriesLeft := dodag.p2p.droRetriesLeft - 1 })
        (n.copyOn interface dro) := by
  have due := answers_modifyP2p interface held fun p2p => { p2p with droRetryEvent := none }
  rcases answers_p2pDroRetry interface due.held with
    ⟨idle, same⟩ | gaveUp | ⟨pending, left, dro, named, sends⟩
  · refine .inl ⟨idle, ?_⟩
    have fired : n.fire (.droRetry key) =
        n.modifyP2p key fun p2p => { p2p with droRetryEvent := none } := same
    rw [fired]
    exact due
  · exact .inr (.inl (due.silent_trans gaveUp))
  · exact .inr (.inr ⟨pending, left, dro, named, due.silent_trans sends⟩)

theorem answers_handleP2pDroAck (ack : P2pDroAckHeader)
    (held : n.dodags[(⟨ack.instanceId, ack.dodagId⟩ : DodagKey)]? = some dodag) :
    n.handleP2pDroAck ack = n ∧ (dodag.p2p.isTarget = true → dodag.p2p.droAckPending = true →
        ack.sequence ≠ dodag.p2p.droSequence) ∨
      ack.sequence = dodag.p2p.droSequence ∧
      n.Answers ⟨ack.instanceId, ack.dodagId⟩ interface dodag (n.handleP2pDroAck ack)
        { dodag.p2p with droRetryEvent := none, droAckPending := false } [] := by
  unfold handleP2pDroAck
  dsimp only
  rw [held]
  dsimp only
  split
  · next matches_ =>
    simp only [Bool.and_eq_true, decide_eq_true_eq] at matches_
    exact .inr ⟨matches_.2, answers_modifyP2p interface held _⟩
  · next differs =>
    refine .inl ⟨rfl, fun target pending current => differs ?_⟩
    rw [target, pending, decide_eq_true current]
    rfl

/-- A reply cycle goes out at once, waits for the window that is open, or opens one. -/
theorem answers_startReply (held : n.dodags[key]? = some dodag) :
    (∃ dro, dro.key = ⟨dodag.instanceId, key.dodagId⟩ ∧
      n.Answers key interface dodag (n.startReply key)
      (n.trackedP2pState n.attributes.p2pDroAckRequested
        { n.startedP2pState dodag.p2p with droCollectEvent := none, droCollecting := false })
      (n.copyOn interface dro)) ∨
    (dodag.p2p.droCollecting = true ∧
      n.Answers key interface dodag (n.startReply key) (n.startedP2pState dodag.p2p) []) ∨
    ∃ ends, n.Answers key interface dodag (n.startReply key)
      { n.startedP2pState dodag.p2p with
        droRetryEvent := none, droCollecting := true, droCollectEvent := some ends } [] := by
  unfold startReply
  extract_lets m
  have noted : n.Answers key interface dodag m (n.startedP2pState dodag.p2p) [] :=
    answers_modifyP2p interface held n.startedP2pState
  rw [noted.held]
  dsimp only
  split
  · have closed := noted.silent_trans (answers_modifyP2p interface noted.held fun p2p =>
      { p2p with droCollectEvent := none, droCollecting := false })
    exact .inl ⟨_, rfl, closed.silent_trans (answers_sendP2pDro interface closed.held)⟩
  split
  · next collecting => exact .inr (.inl ⟨collecting, noted⟩)
  · exact .inr (.inr ⟨_, noted.silent_trans (answers_modifyP2p interface noted.held _)⟩)

/-- P2P-DROs that ask for no acknowledgement leave the membership as it is. -/
theorem answers_untracked (held : n.dodags[key]? = some dodag) (stop : Bool)
    (routes : List (List Ipv6Address)) :
    n.Answers key interface dodag
      (routes.foldl (fun n route => n.sendP2pDroRoute key route stop false) n) dodag.p2p
      ((routes.map fun route => n.p2pDroMessage dodag key route stop false).reverse.flatMap
        (n.copyOn interface)) := by
  induction routes generalizing n with
  | nil => exact answers_refl interface held
  | cons route rest ih =>
    have first := answers_sendP2pDroRoute interface held route stop false
    have both := first.trans (ih first.held)
    obtain ⟨outputs, same, -⟩ := first
    rw [same] at both
    rw [List.foldl_cons, same, List.map_cons, List.reverse_cons, List.flatMap_append,
      List.flatMap_singleton]
    exact both

/-- A reply after a window: the tracked P2P-DRO, and one over each further route. -/
theorem answers_batch (held : n.dodags[key]? = some dodag) {stop track : Bool}
    (stops : (!n.hasOtherP2pTargets dodag) = stop)
    (tracks : n.attributes.p2pDroAckRequested = track) :
    n.Answers key interface dodag
      (((alternateReplies dodag.p2p).foldl (fun n route => n.sendP2pDroRoute key route stop false)
          (n.sendP2pDroRoute key dodag.p2p.addressVector stop track)).modifyP2p key fun p2p =>
        { p2p with alternateRoutes := [] })
      (n.trackedP2pState track { dodag.p2p with alternateRoutes := [] })
      ((n.batch key dodag).reverse.flatMap (n.copyOn interface)) := by
  have first := answers_sendP2pDroRoute interface held dodag.p2p.addressVector stop track
  have both := first.trans
    (answers_untracked interface first.held stop (alternateReplies dodag.p2p))
  obtain ⟨outputs, same, -⟩ := first
  rw [same] at both
  have whole := both.trans
    (answers_modifyP2p interface both.held fun p2p => { p2p with alternateRoutes := [] })
  rw [same, batch, stops, tracks, List.reverse_cons, List.flatMap_append, List.flatMap_singleton]
  cases track with
  | true => exact whole
  | false => exact whole

/-- The end of a window: a Target that is to answer, and has a route to answer over, hands down
its batch. -/
theorem answers_collect (held : n.dodags[key]? = some dodag) :
    (∃ alternates : List (List Ipv6Address), alternates.Sublist dodag.p2p.alternateRoutes ∧
      n.Answers key interface dodag (n.fire (.droCollect key))
        (closedP2pState dodag.p2p alternates) []) ∨
    dodag.p2p.isTarget = true ∧ dodag.p2p.reply = true ∧ dodag.p2p.addressVector ≠ [] ∧
      n.Answers key interface dodag (n.fire (.droCollect key))
        (n.trackedP2pState n.attributes.p2pDroAckRequested (closedP2pState dodag.p2p []))
        ((n.batch key dodag).reverse.flatMap (n.copyOn interface)) := by
  have closed := answers_modifyP2p interface held fun p2p => { p2p with droCollectEvent := none }
  have settled := closed.silent_trans (answers_modifyP2p interface closed.held fun p2p =>
    { p2p with droCollecting := false })
  change (∃ alternates : List (List Ipv6Address), _ ∧ n.Answers key interface dodag
    ((n.modifyP2p key fun p2p => { p2p with droCollectEvent := none }).p2pDroCollectExpire key)
    _ []) ∨ _ ∧ _ ∧ _ ∧ n.Answers key interface dodag
    ((n.modifyP2p key fun p2p => { p2p with droCollectEvent := none }).p2pDroCollectExpire key)
    _ _
  unfold p2pDroCollectExpire
  extract_lets m
  have noted : n.Answers key interface dodag m _ [] := settled
  rw [noted.held]
  dsimp only
  split
  · exact .inl ⟨[], List.nil_sublist _,
      noted.silent_trans (answers_modifyP2p interface noted.held _)⟩
  next answers =>
  split
  · exact .inl ⟨_, List.Sublist.refl _, noted⟩
  next found =>
  obtain ⟨target, replies⟩ : dodag.p2p.isTarget = true ∧ dodag.p2p.reply = true := by
    simpa using answers
  refine .inr ⟨target, replies, fun empty => found (List.isEmpty_iff.mpr empty), ?_⟩
  exact noted.silent_trans (answers_batch interface noted.held rfl rfl)

theorem answers_armP2pExpiry (held : n.dodags[key]? = some dodag) :
    ∃ expiry, n.Answers key interface dodag (n.armP2pExpiry key)
      { dodag.p2p with expiry := expiry } [] := by
  unfold armP2pExpiry
  rw [held]
  dsimp only
  split
  · exact ⟨dodag.p2p.expiry, answers_refl interface held⟩
  · exact ⟨_, [], setDodag_of_held held _, rfl⟩

end Answers

/-! ## What a P2P mode DIO does -/

/-- The alternate routes once a route has been recorded among them. -/
def withAlternate (p2p : P2pState) (asked : UInt8) (route : List Ipv6Address) :
    List (List Ipv6Address) :=
  if route = p2p.addressVector || p2p.alternateRoutes.contains route then p2p.alternateRoutes
  else if asked.toNat ≤ p2p.alternateRoutes.length then displaceLongest p2p.alternateRoutes route
  else p2p.alternateRoutes ++ [route]

/-- The alternate routes once a copy of a P2P mode DIO has been recorded. -/
def alternatesWith (n : Node) (dodag : DodagMembership) (rdo : P2pRdoOption)
    (interface : Nat) : List (List Ipv6Address) :=
  match n.p2pRouteThrough dodag rdo interface with
  | none => dodag.p2p.alternateRoutes
  | some route =>
    if dodag.p2p.isTarget && 0 < askedRoutes rdo then
      withAlternate dodag.p2p (askedRoutes rdo) route
    else dodag.p2p.alternateRoutes

/-- Recording a copy touches the candidates and the alternates. -/
theorem recordP2pRoutes_spec (n : Node) (dodag : DodagMembership) (rdo : P2pRdoOption)
    (heard : Reception) : ∃ candidates rank, n.recordP2pRoutes dodag rdo heard =
      { dodag with
        p2p := { dodag.p2p with
          candidateRoutes := candidates
          candidateRank := rank
          alternateRoutes := n.alternatesWith dodag rdo heard.interface } } := by
  have added (p2p : P2pState) (rank : UInt16) (candidate : P2pCandidate) : ∃ candidates best,
      addCandidate p2p rank candidate =
        { p2p with candidateRoutes := candidates, candidateRank := best } := by
    unfold addCandidate
    dsimp only
    split
    · split
      · exact ⟨_, _, rfl⟩
      · exact ⟨_, _, rfl⟩
    · split
      · exact ⟨_, _, rfl⟩
      · exact ⟨_, _, rfl⟩
  have candidate : ∃ candidates rank, n.recordP2pCandidateRoute dodag rdo heard =
      { dodag with
        p2p := { dodag.p2p with candidateRoutes := candidates, candidateRank := rank } } := by
    unfold recordP2pCandidateRoute
    split
    · exact ⟨_, _, rfl⟩
    · dsimp only
      split
      · exact ⟨_, _, rfl⟩
      split
      · exact ⟨_, _, rfl⟩
      split
      · exact ⟨_, _, rfl⟩
      · next route _ =>
        obtain ⟨candidates, best, same⟩ := added dodag.pruneP2pCandidateRoutes.p2p
          (dodag.rankViaParent _) ⟨heard.sender, route⟩
        rw [same]
        exact ⟨_, _, rfl⟩
  obtain ⟨candidates, rank, same⟩ := candidate
  have through (p2p : P2pState) : n.p2pRouteThrough { dodag with p2p := p2p } rdo
      heard.interface = n.p2pRouteThrough dodag rdo heard.interface := rfl
  refine ⟨candidates, rank, ?_⟩
  unfold recordP2pRoutes alternatesWith recordP2pAlternateRoute
  rw [same]
  dsimp only
  rw [through]
  cases n.p2pRouteThrough dodag rdo heard.interface with
  | none => exact ite_self _
  | some route =>
    dsimp only
    split
    · unfold withAlternate
      split
      · rfl
      · rfl
    · rfl

/-- What a P2P mode DIO leaves of the routes held: nothing is recorded at the Origin; a copy that
is passed over, or comes in where this node has no address, is recorded; any other one gives the
address vector. -/
inductive Routed (n : Node) (dio : DioHeader) (heard : Reception) (dodag : DodagMembership)
    (p2p : P2pState) : Prop
  | origin (same : p2p = dodag.p2p)
  | records
      (passed : n.ignoresP2pRdo dodag heard.sender = true ∨
        (n.getGlobalAddressOnInterface dodag heard.interface).isAny = true)
      (addressVector : p2p.addressVector = dodag.p2p.addressVector)
      (alternateRoutes :
        p2p.alternateRoutes = n.alternatesWith dodag dio.getP2pRdo heard.interface)
  | takes (attends : n.ignoresP2pRdo dodag heard.sender = false)
      (addressed : (n.getGlobalAddressOnInterface dodag heard.interface).isAny = false)
      (addressVector : p2p.addressVector =
        dio.getP2pRdo.addressVector ++ [n.getGlobalAddressOnInterface dodag heard.interface])
      (fits : p2p.addressVector.length ≤ p2pMaxAddressVectorEntries
        (p2pRdoCompr dio.getP2pRdo.target p2p.addressVector dio.key.dodagId))
      (alternateRoutes : p2p.alternateRoutes =
        (n.alternatesWith dodag dio.getP2pRdo heard.interface).filter (· ≠ p2p.addressVector))

/-- What follows the taking of a P2P mode DIO: nothing more where this node has no address; else
the address vector, if it fits, and the reply of a Target. -/
theorem answers_afterRdo {n : Node} {key : DodagKey} {dodag : DodagMembership} (interface : Nat)
    (held : n.dodags[key]? = some dodag) (rdo : P2pRdoOption) (on : Nat) {after : Node}
    (follows : after =
      if (n.takeP2pVector key rdo on).1 then
        ((n.takeP2pVector key rdo on).2.armP2pExpiry key).replyAsTarget key
      else (n.takeP2pVector key rdo on).2) :
    ((n.getGlobalAddressOnInterface dodag on).isAny = true ∧ after = n) ∨
    after = n.leaveDodag key false ∨
    ((n.getGlobalAddressOnInterface dodag on).isAny = false ∧ ∃ p2p,
      dodag.p2p.replying.Continues p2p.replying ∧
      p2p.addressVector = rdo.addressVector ++ [n.getGlobalAddressOnInterface dodag on] ∧
      p2p.addressVector.length ≤ p2pMaxAddressVectorEntries
        (p2pRdoCompr rdo.target p2p.addressVector key.dodagId) ∧
      p2p.alternateRoutes = dodag.p2p.alternateRoutes.filter (· ≠ p2p.addressVector) ∧
      (n.Answers key interface dodag after p2p [] ∨
        ∃ ready, n.Answers key interface dodag ready p2p [] ∧ p2p.isTarget = true ∧
          p2p.addressVector ≠ p2p.lastRepliedAddressVector ∧ after = ready.startReply key)) := by
  unfold takeP2pVector at follows
  rw [held] at follows
  dsimp only at follows
  split at follows
  · next any => exact .inl ⟨any, follows⟩
  next addressed =>
  split at follows
  · exact .inr (.inl follows)
  next fits =>
  refine .inr (.inr ⟨Bool.eq_false_iff.mpr addressed, ?_⟩)
  have first := answers_modifyP2p interface held fun p2p => { p2p with
    addressVector := rdo.addressVector ++ [n.getGlobalAddressOnInterface dodag on]
    alternateRoutes := p2p.alternateRoutes.filter
      (· ≠ rdo.addressVector ++ [n.getGlobalAddressOnInterface dodag on]) }
  obtain ⟨expiry, arms⟩ := answers_armP2pExpiry interface first.held
  have armed := first.trans arms
  refine ⟨{ dodag.p2p with
    addressVector := rdo.addressVector ++ [n.getGlobalAddressOnInterface dodag on]
    alternateRoutes := dodag.p2p.alternateRoutes.filter
      (· ≠ rdo.addressVector ++ [n.getGlobalAddressOnInterface dodag on])
    expiry := expiry }, ⟨id, rfl, rfl, rfl, rfl, rfl, rfl, rfl⟩, rfl, Nat.le_of_not_lt fits, rfl,
    ?_⟩
  rw [if_pos rfl] at follows
  unfold replyAsTarget at follows
  rw [armed.held] at follows
  dsimp only at follows
  split at follows
  · next answers =>
    simp only [Bool.and_eq_true, decide_eq_true_eq] at answers
    exact .inr ⟨_, armed, answers.1.1, answers.2, follows⟩
  · rw [follows]
    exact .inl armed

/-- A P2P mode DIO is recorded and taken in, takes the node out of the temporary DAG, or starts
a reply cycle. -/
theorem answers_handleP2pRdo {n : Node} {dio : DioHeader}
    {dodag : DodagMembership} (interface : Nat) (heard : Reception)
    (held : n.dodags[dio.key]? = some dodag) :
    (∃ p2p, n.Answers dio.key interface dodag (n.handleP2pRdo dio heard) p2p [] ∧
      dodag.p2p.replying.Continues p2p.replying ∧ n.Routed dio heard dodag p2p) ∨
    (∃ ready p2p, n.Answers dio.key interface dodag ready p2p [] ∧
      n.handleP2pRdo dio heard = ready.leaveDodag dio.key false) ∨
    ∃ ready p2p, n.Answers dio.key interface dodag ready p2p [] ∧
      dodag.p2p.replying.Continues p2p.replying ∧ n.Routed dio heard dodag p2p ∧
      p2p.isTarget = true ∧ p2p.addressVector ≠ p2p.lastRepliedAddressVector ∧
      n.handleP2pRdo dio heard = ready.startReply dio.key := by
  unfold handleP2pRdo
  extract_lets key rdo
  rw [held]
  dsimp only
  split
  · exact .inl ⟨_, answers_refl interface held, ⟨id, rfl, rfl, rfl, rfl, rfl, rfl, rfl⟩,
      .origin rfl⟩
  obtain ⟨p2p, recorded, continues, sameVector, alternates, ignores⟩ : ∃ p2p,
      n.recordP2pRoutes dodag rdo heard = { dodag with p2p := p2p } ∧
      dodag.p2p.replying.Continues p2p.replying ∧
      p2p.addressVector = dodag.p2p.addressVector ∧
      p2p.alternateRoutes = n.alternatesWith dodag rdo heard.interface ∧
      n.ignoresP2pRdo { dodag with p2p := p2p } heard.sender =
        n.ignoresP2pRdo dodag heard.sender := by
    obtain ⟨candidates, rank, same⟩ := n.recordP2pRoutes_spec dodag rdo heard
    exact ⟨_, same, ⟨id, rfl, rfl, rfl, rfl, rfl, rfl, rfl⟩, rfl, rfl, rfl⟩
  rw [recorded]
  have first : n.Answers key interface dodag (n.setDodag key { dodag with p2p := p2p }) p2p [] :=
    answers_setDodag interface p2p
  generalize noteds : n.setDodag key { dodag with p2p := p2p } = noted at first ⊢
  have ignoresToo : noted.ignoresP2pRdo { dodag with p2p := p2p } heard.sender =
      n.ignoresP2pRdo dodag heard.sender := by
    rw [← ignores, ← noteds]
    rfl
  split
  · next ignored =>
    exact .inl ⟨p2p, first, continues, .records (.inl (ignoresToo.symm.trans ignored)) sameVector
      alternates⟩
  next attends =>
  rw [ignoresToo, Bool.not_eq_true] at attends
  dsimp only
  have told := first.trans (answers_modifyP2p interface first.held fun _ =>
    noted.withP2pRdo dio p2p)
  obtain ⟨expiry, arms⟩ := answers_armP2pExpiry interface told.held
  have armed := told.trans arms
  have taken : p2p.replying.Continues
      ({ noted.withP2pRdo dio p2p with expiry := expiry } : P2pState).replying :=
    ⟨fun target => Bool.or_eq_true_iff.mpr (.inl target), rfl, rfl, rfl, rfl, rfl, rfl, rfl⟩
  have concludes (told after : Node) (isTold : n.Answers key interface dodag told
      { noted.withP2pRdo dio p2p with expiry := expiry } [])
      (follows : after =
        if (told.takeP2pVector key rdo heard.interface).1 then
          ((told.takeP2pVector key rdo heard.interface).2.armP2pExpiry key).replyAsTarget key
        else (told.takeP2pVector key rdo heard.interface).2) :
      (∃ p2p, n.Answers key interface dodag after p2p [] ∧
        dodag.p2p.replying.Continues p2p.replying ∧ n.Routed dio heard dodag p2p) ∨
      (∃ ready p2p, n.Answers key interface dodag ready p2p [] ∧
        after = ready.leaveDodag key false) ∨
      ∃ ready p2p, n.Answers key interface dodag ready p2p [] ∧
        dodag.p2p.replying.Continues p2p.replying ∧ n.Routed dio heard dodag p2p ∧
        p2p.isTarget = true ∧ p2p.addressVector ≠ p2p.lastRepliedAddressVector ∧
        after = ready.startReply key := by
    have own (p2p : P2pState) : told.getGlobalAddressOnInterface { dodag with p2p := p2p }
        heard.interface = n.getGlobalAddressOnInterface dodag heard.interface := by
      unfold getGlobalAddressOnInterface
      rw [isTold.ipv6]
    rcases answers_afterRdo interface isTold.held rdo heard.interface follows with
      ⟨any, rfl⟩ | left | ⟨addressed, last, goesOn, vector, fits, others, ends⟩
    · rw [own] at any
      exact .inl ⟨_, isTold, continues.trans taken, .records (.inr any) sameVector alternates⟩
    · exact .inr (.inl ⟨told, _, isTold, left⟩)
    · rw [own] at addressed vector
      have goesOnFrom := (continues.trans taken).trans goesOn
      have routed : n.Routed dio heard dodag last := by
        refine .takes attends addressed vector fits ?_
        rw [others, ← alternates]
        rfl
      rcases ends with answers | ⟨ready, answers, target, fresh, starts⟩
      · exact .inl ⟨last, isTold.silent_trans answers, goesOnFrom, routed⟩
      · exact .inr (.inr ⟨ready, last, isTold.silent_trans answers, goesOnFrom, routed, target,
          fresh, starts⟩)
  split
  · exact concludes _ _ (armed.log_reached key) rfl
  · exact concludes _ _ armed rfl

/-! ## Where no membership is held -/

theorem fire_droRetry_of_absent {n : Node} {key : DodagKey} (absent : n.dodags[key]? = none) :
    n.fire (.droRetry key) = n := by
  change (n.modifyP2p key _).p2pDroRetry key = n
  rw [modifyP2p, modifyDodag_of_absent absent, p2pDroRetry, absent]

theorem fire_droCollect_of_absent {n : Node} {key : DodagKey} (absent : n.dodags[key]? = none) :
    n.fire (.droCollect key) = n := by
  change (n.modifyP2p key _).p2pDroCollectExpire key = n
  unfold modifyP2p
  rw [modifyDodag_of_absent absent, p2pDroCollectExpire, modifyP2p, modifyDodag_of_absent absent]
  dsimp only
  rw [absent]

theorem handleP2pRdo_of_absent {n : Node} {dio : DioHeader} (heard : Reception)
    (absent : n.dodags[dio.key]? = none) : n.handleP2pRdo dio heard = n := by
  unfold handleP2pRdo
  dsimp only
  rw [absent]

theorem handleP2pDroAck_of_absent {n : Node} {ack : P2pDroAckHeader}
    (absent : n.dodags[(⟨ack.instanceId, ack.dodagId⟩ : DodagKey)]? = none) :
    n.handleP2pDroAck ack = n := by
  unfold handleP2pDroAck
  dsimp only
  rw [absent]

end Node

end Rpl
