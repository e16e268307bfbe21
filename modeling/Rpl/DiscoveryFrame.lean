import Rpl.Offhand
import Rpl.Turns

/-!
# What every step comes down to for the notes of a discovery

A relation between the node before and after that sees no more of it than a view of the notes
and of the answers of a Target, and that holds of the few functions that end, begin and note
something, holds of every step.
-/

namespace Rpl

open Std

/-! ## Views of notes -/

/-- The view sees no message but P2P-DROs, no finding and no clock, and of the memberships held
nothing but what they have noted and how far they are in their answers. -/
structure NotesView {σ : Type} (view : Node → σ) : Prop where
  emit : ∀ n sent, (∀ output ∈ sent, Output.p2pDro? output = none) → view (n.emit sent) = view n
  findings : ∀ (n : Node) (findings : Node.Findings), view (n.withFindings findings) = view n
  unseen : ∀ (n : Node) (solicitation : Node.Solicitation),
    view (n.withSolicitation solicitation) = view n
  clock : ∀ (n : Node) (later : Time), view { n with now := later } = view n
  marks : ∀ (n : Node) (milestone : Milestone), milestone.ended? = none →
    view (n.mark milestone) = view n
  keeps : ∀ (n : Node) (key : DodagKey) (dodag other : DodagMembership),
    n.dodags[key]? = some dodag → other.notes = dodag.notes →
      other.p2p.replying = dodag.p2p.replying → view (n.setDodag key other) = view n
  puts : ∀ {n other : Node} (key : DodagKey) (dodag : DodagMembership), view other = view n →
    view (other.setDodag key dodag) = view (n.setDodag key dodag)

/-- Nothing has been recorded for an answer yet. -/
structure Replying.Blank (replying : Replying) : Prop where
  isTarget : replying.isTarget = false
  addressVector : replying.addressVector = []
  alternateRoutes : replying.alternateRoutes = []
  lastReplied : replying.lastRepliedAddressVector = []
  droCollectEvent : replying.droCollectEvent = none
  droCollecting : replying.droCollecting = false
  droSequence : replying.droSequence = 0
  droAckPending : replying.droAckPending = false
  droRetriesLeft : replying.droRetriesLeft = 0
  droRetryEvent : replying.droRetryEvent = none

/-- No candidate and no alternate route has been recorded. -/
structure Notes.Routeless (notes : Notes) : Prop where
  candidateRoutes : notes.candidateRoutes = []
  candidateRank : notes.candidateRank = infiniteRank
  alternateRoutes : notes.alternateRoutes = []

/-- The membership of a discovery that has noted nothing of routes yet. -/
structure DodagMembership.Unnoted (dodag : DodagMembership) : Prop where
  routeless : dodag.notes.Routeless
  blank : dodag.p2p.replying.Blank

theorem Node.unnoted_joinedMembership (m : Node) (dio : DioHeader) :
    (m.joinedMembership dio).Unnoted := by
  unfold Node.joinedMembership Node.withParameters
  dsimp only
  split
  · exact ⟨⟨rfl, rfl, rfl⟩, ⟨rfl, rfl, rfl, rfl, rfl, rfl, rfl, rfl, rfl, rfl⟩⟩
  · split
    · exact ⟨⟨rfl, rfl, rfl⟩, ⟨rfl, rfl, rfl, rfl, rfl, rfl, rfl, rfl, rfl, rfl⟩⟩
    · exact ⟨⟨rfl, rfl, rfl⟩, ⟨rfl, rfl, rfl, rfl, rfl, rfl, rfl, rfl, rfl, rfl⟩⟩

namespace NotesView

variable {σ : Type} {view : Node → σ} {n : Node} {key : DodagKey} (sees : NotesView view)

include sees

theorem onlooker : Onlooker view where
  emit n sent _ noDro := sees.emit n sent noDro
  findings := sees.findings
  attended n key dodag other held _ := sees.keeps n key dodag other held

theorem quiet : Quiet view where
  emit n sent _ noDro := sees.emit n sent noDro
  drawJitter n := sees.findings n { n.findings with jitter := (n.jitter.getValue 0 (seconds 1)).2 }
  dao n key dodag other held same := by
    have notes (d : DodagMembership) : d.notes = d.withoutDao.notes := rfl
    have p2p (d : DodagMembership) : d.p2p = d.withoutDao.p2p := rfl
    refine sees.keeps n key dodag other held ?_ ?_
    · rw [notes other, same, ← notes]
    · rw [p2p other, same, ← p2p]

theorem modifyDodag {f : DodagMembership → DodagMembership}
    (notes : ∀ dodag, (f dodag).notes = dodag.notes)
    (replying : ∀ dodag, (f dodag).p2p.replying = dodag.p2p.replying) :
    view (n.modifyDodag key f) = view n := by
  cases held : n.dodags[key]? with
  | none => rw [Node.modifyDodag_of_absent held]
  | some dodag =>
    rw [Node.setDodag_of_held held]
    exact sees.keeps n key dodag _ held (notes dodag) (replying dodag)

theorem modifyPlace {f : DodagPlace → DodagPlace} : view (n.modifyPlace key f) = view n :=
  sees.modifyDodag (fun _ => rfl) fun _ => rfl

theorem sweepParents : view (n.sweepParents key) = view n := by
  unfold Node.sweepParents
  split
  · rfl
  · dsimp only
    rw [sees.modifyPlace]
    split
    · rw [sees.quiet.sendNoPathDao, sees.modifyPlace]
    · rfl

theorem takeParent (dodag : DodagMembership) (best : Candidate) :
    view (n.takeParent key dodag best) = view n := by
  have taken : view ((n.modifyPlace key fun _ => dodag.adoptParent best).mark
      (.ranked key (dodag.adoptParent best).rank)) = view n := by
    rw [sees.marks _ _ rfl, sees.modifyPlace]
  unfold Node.takeParent
  dsimp only
  split
  · rw [sees.quiet.switchParent, taken]
  · exact taken

theorem scheduleSolicitation : view n.scheduleSolicitation = view n := by
  unfold Node.scheduleSolicitation
  split
  · rfl
  · exact (sees.unseen n.drawJitter.2
      { n.drawJitter.2.solicitation with disRefreshPending := true, disTimer := _ }).trans
      (sees.quiet.drawJitter n)

theorem updateParent (dio : DioHeader) (heard : Reception) :
    view (n.updateParent dio heard) = view n := by
  unfold Node.updateParent
  split
  · rfl
  · next dodag held =>
    dsimp only
    split
    · rw [sees.quiet.scheduleDaoRefresh]
      exact sees.keeps n dio.key dodag _ held rfl rfl
    · exact sees.keeps n dio.key dodag _ held rfl rfl

theorem adoptVersion (dio : DioHeader) (dodag : DodagMembership) :
    view (n.adoptVersion dio dodag) = view n := by
  unfold Node.adoptVersion
  split
  · rw [sees.marks _ _ rfl, sees.modifyPlace]
  · rfl

theorem autoconfigure (dio : DioHeader) (interface : Nat) :
    view (n.autoconfigure dio interface) = view n := by
  unfold Node.autoconfigure
  split
  · rfl
  · split
    · exact sees.findings n { n.findings with ipv6 := _ }
    · rfl

end NotesView

/-! ## Frames -/

/-- The relation, between a node before and after, goes through the functions that end, begin and
note something, and holds wherever the view is the same. -/
structure NotesFrame {σ : Type} (view : Node → σ) (R : Node → Node → Prop) : Prop where
  sees : NotesView view
  same : ∀ {m after : Node}, view after = view m → R m after
  trans : ∀ {m middle after : Node}, R m middle → R middle after → R m after
  ends : ∀ (m : Node) (key : DodagKey) (dodag : DodagMembership), R m (m.eraseDodag key dodag)
  begins : ∀ (m : Node) (key : DodagKey) (dodag : DodagMembership), m.dodags[key]? = none →
    dodag.Unnoted → R m (m.setDodag key dodag)
  prunes : ∀ (m : Node) (key : DodagKey) (dodag : DodagMembership), m.dodags[key]? = some dodag →
    R m (m.setDodag key dodag.pruneP2pCandidateRoutes)
  appends : ∀ (m : Node) (key : DodagKey) (addressVector : List Ipv6Address), addressVector ≠ [] →
    R m (m.modifyAodv key fun aodv => { aodv with addressVector := addressVector })
  relays : ∀ (m : Node) (key : DodagKey),
    R m (m.modifyAodv key fun aodv => { aodv with targets := aodv.targets.erase aodv.target })

/-- In the course of the event `e`, which happens to the node `n`, the relation goes through the
taking of RREQs and the answers of a Target as well. -/
structure DiscoveryFrame {σ : Type} (view : Node → σ) (n : Node) (e : Event)
    (R : Node → Node → Prop) : Prop extends NotesFrame view R where
  takesRreq : ∀ {m : Node} {dio : DioHeader} {heard : Reception} {dodag : DodagMembership},
    n.Takes e dio heard → n.beforeDiscovery dio heard = some m → dio.rreq.isSome = true →
      m.dodags[dio.key]? = some dodag → m.ignoresRreq dodag dio heard = false →
      R m (m.setDodag dio.key { dodag with aodv := (m.takeRreq dodag dio).2 })
  takesRdo : ∀ {m : Node} {dio : DioHeader} {heard : Reception}, n.Takes e dio heard →
    n.beforeDiscovery dio heard = some m → dio.p2pRdo.isSome = true → R n m →
      R m (m.handleP2pRdo dio heard)
  retries : ∀ key, e = .fire (.droRetry key) → R n (n.fire (.droRetry key))
  collects : ∀ key, e = .fire (.droCollect key) → R n (n.fire (.droCollect key))
  relaysDro : ∀ heard dro, e = .receive heard (.p2pDro dro) → R n (n.handleP2pDro dro)
  acknowledged : ∀ heard ack, e = .receive heard (.p2pDroAck ack) → R n (n.handleP2pDroAck ack)

namespace NotesFrame

variable {σ : Type} {view : Node → σ} {R : Node → Node → Prop} {m after created : Node}
  {key : DodagKey} (frame : NotesFrame view R)

include frame

theorem refl (m : Node) : R m m := frame.same rfl

/-- What the view does not see may follow. -/
theorem then_ {middle : Node} (before : R m middle) (same : view after = view middle) :
    R m after :=
  frame.trans before (frame.same same)

/-- What the view does not see may come first. -/
theorem after_ {before : Node} (same : view before = view m) (goesOn : R before after) :
    R m after :=
  frame.trans (frame.same same) goesOn

theorem foldl {α : Type} {f : Node → α → Node} (step : ∀ m a, R m (f m a)) (items : List α)
    (m : Node) : R m (items.foldl f m) := by
  induction items generalizing m with
  | nil => exact frame.refl m
  | cons item rest ih => exact frame.trans (step m item) (ih _)

/-! ### DIOs -/

theorem drawP2pRoute {dodag : DodagMembership} (held : m.dodags[key]? = some dodag) :
    R m (m.drawP2pRoute key dodag).2 := by
  have pruned := frame.prunes m key dodag held
  unfold Node.drawP2pRoute
  dsimp only
  split
  · exact pruned
  · exact frame.trans pruned (frame.same (frame.sees.findings _
      { (m.setDodag key dodag.pruneP2pCandidateRoutes).findings with p2pRouteSelector := _ }))

theorem sendDio (key : DodagKey) (destination : Ipv6Address) (interface : Nat) :
    R m (m.sendDio key destination interface) := by
  unfold Node.sendDio
  split
  · exact frame.refl m
  · next dodag held =>
    split
    · exact frame.refl m
    · dsimp only
      split
      · exact frame.trans (frame.drawP2pRoute held)
          (frame.same (frame.sees.onlooker.hands (Node.hands_sendRplMessage interface) rfl rfl))
      · exact frame.same (frame.sees.onlooker.hands (Node.hands_sendRplMessage interface) rfl rfl)

theorem answerDis (sender : Ipv6Address) (interface : Nat) (toMulticast : Bool) (m : Node)
    (key : DodagKey) : R m (Node.answerDis sender interface toMulticast m key) := by
  unfold Node.answerDis
  split
  · exact frame.refl m
  · split
    · exact frame.refl m
    · split
      · exact frame.same (frame.sees.onlooker.resetTrickle key)
      · exact frame.sendDio key sender interface

theorem handleDis (sender : Ipv6Address) (interface : Nat) (toMulticast : Bool) :
    R m (m.handleDis sender interface toMulticast) :=
  frame.foldl (frame.answerDis sender interface toMulticast) _ m

/-! ### Leaving and selecting a parent -/

theorem leaveDodag (key : DodagKey) (poison : Bool) : R m (m.leaveDodag key poison) := by
  cases held : m.dodags[key]? with
  | none =>
    have stays : m.leaveDodag key poison = m := by rw [Node.leaveDodag, held]
    exact frame.same (congrArg view stays)
  | some dodag =>
    obtain ⟨has, base, left⟩ := Node.leaveDodag_eq held poison
    have poisoned : R m (if poison then m.poisonDodag key else m) := by
      split
      · exact frame.after_ frame.sees.modifyPlace (frame.sendDio key allNodesMulticast 0)
      · exact frame.refl m
    rw [left]
    refine frame.trans poisoned (frame.trans (frame.ends _ key dodag) (frame.same ?_))
    exact frame.sees.unseen _
      { (((if poison then m.poisonDodag key else m).eraseDodag key dodag).solicitation) with
        hasBaseDodag := has, baseDodagKey := base }

theorem selectPreferredParent (key : DodagKey) : R m (m.selectPreferredParent key).2 := by
  unfold Node.selectPreferredParent
  split
  · exact frame.refl m
  · next dodag held =>
    split
    · exact frame.refl m
    · have swept : R m (m.sweepParents key) := frame.same frame.sees.sweepParents
      dsimp only
      split
      · exact swept
      · next after _ =>
        split
        · exact swept
        split
        · rw [Node.loseLastParent]
          refine frame.then_ (frame.trans swept (frame.after_ ?_ (frame.leaveDodag key true)))
            frame.sees.scheduleSolicitation
          exact frame.sees.quiet.withdrawThrough key after.preferredParent
        · exact frame.then_ swept (frame.sees.takeParent ..)

theorem selectAndReset (key : DodagKey) : R m (m.selectAndReset key) := by
  unfold Node.selectAndReset
  dsimp only
  split
  · exact frame.then_ (frame.selectPreferredParent key) (frame.sees.onlooker.resetTrickle key)
  · exact frame.selectPreferredParent key

theorem stopInterfaceIn (interface : Nat) (m : Node) (key : DodagKey) :
    R m (Node.stopInterfaceIn interface m key) :=
  frame.after_ frame.sees.modifyPlace (frame.selectAndReset key)

theorem stopInterface (interface : Nat) : R m (m.stopInterface interface) := by
  unfold Node.stopInterface
  split
  · exact frame.after_ (frame.sees.findings m { m.findings with sockets := _ })
      (frame.foldl (frame.stopInterfaceIn interface) _ _)
  · exact frame.refl m

theorem trickleTransmit (key : DodagKey) : R m (m.trickleTransmit key) := by
  have counted : view (m.modifyDodag key fun dodag =>
      { dodag with dioTrickle := dodag.dioTrickle.transmitEvent }) = view m :=
    frame.sees.modifyDodag (fun _ => rfl) fun _ => rfl
  unfold Node.trickleTransmit
  split
  · exact frame.refl m
  · dsimp only
    split
    · exact frame.after_ counted (frame.trans (frame.selectPreferredParent key)
        (frame.sendDio key allNodesMulticast 0))
    · exact frame.same counted

/-! ### Joining and rooting -/

theorem joinDodag (dio : DioHeader) (interface : Nat) (absent : m.dodags[dio.key]? = none) :
    R m (m.joinDodag dio interface) := by
  refine frame.then_ (frame.begins m dio.key _ absent (m.unnoted_joinedMembership dio)) ?_
  unfold Node.joinDodag
  extract_lets _ temporary joined marked located based
  have basedSame : view based = view located := by
    unfold based
    split
    · exact frame.sees.unseen located { located.solicitation with
        hasBaseDodag := true, baseDodagKey := _ }
    · rfl
  have markedSame : view marked = view (m.setDodag dio.key (m.joinedMembership dio)) :=
    frame.sees.marks _ _ rfl
  refine Eq.trans ?_ (basedSame.trans ((frame.sees.autoconfigure dio interface).trans markedSame))
  split
  · rfl
  · exact frame.sees.unseen based { based.solicitation with
      disTimer := none, disRefreshPending := false }

theorem enterVersion {dio : DioHeader} {interface : Nat}
    (enters : m.enterVersion dio interface = some created) : R m created := by
  unfold Node.enterVersion at enters
  split at enters
  · next absent =>
    split at enters
    · cases enters
    · cases enters
      exact frame.joinDodag dio interface absent
  · next dodag held =>
    split at enters
    · cases enters
      exact frame.refl _
    split at enters
    · cases enters
      exact frame.same (frame.sees.adoptVersion dio dodag)
    split at enters
    · cases enters
      refine frame.trans (frame.leaveDodag dio.key false) (frame.joinDodag dio interface ?_)
      have gone : (m.leaveDodag dio.key false).stakes.held[dio.key]? = none := by
        rw [Node.stakes_leaveDodag held, Stakes.leave_held, if_pos rfl]
      exact Option.map_eq_none_iff.mp ((Node.stakes_held _ dio.key).symm.trans gone)
    · cases enters

theorem handlePoison (key : DodagKey) (sender : Ipv6Address) : R m (m.handlePoison key sender) := by
  unfold Node.handlePoison
  split
  · exact frame.refl m
  · next dodag held =>
    have withdrawn : view (if sender = dodag.preferredParent then m.sendNoPathDao key sender
        else m) = view m := by
      split
      · exact frame.sees.quiet.sendNoPathDao ..
      · rfl
    exact frame.after_ (frame.sees.modifyPlace.trans withdrawn) (frame.selectAndReset key)

theorem selectAfterDio (dio : DioHeader) (sender : Ipv6Address) :
    R m (m.selectAfterDio dio sender) := by
  have counted (m : Node) : view (m.modifyDodag dio.key fun dodag =>
      { dodag with dioTrickle := dodag.dioTrickle.consistencyHit }) = view m :=
    frame.sees.modifyDodag (fun _ => rfl) fun _ => rfl
  unfold Node.selectAfterDio
  split
  · unfold Node.selectTemporary
    split
    · exact frame.refl m
    · dsimp only
      split
      · exact frame.selectPreferredParent dio.key
      · split
        · exact frame.then_ (frame.selectPreferredParent dio.key)
            (frame.sees.onlooker.resetTrickle dio.key)
        split
        · exact frame.then_ (frame.selectPreferredParent dio.key) (counted _)
        · exact frame.selectPreferredParent dio.key
  · unfold Node.selectOrdinary
    split
    · exact frame.refl m
    · dsimp only
      split
      · exact frame.selectAndReset dio.key
      · exact frame.after_ (counted m) (frame.selectAndReset dio.key)

/-- A DODAG that is rooted, and configured further, begins. -/
theorem createDodagMembership {mop : UInt8} {f : DodagMembership → DodagMembership}
    (creates : m.createDodagMembership key mop = some created)
    (dodags : after.dodags = created.dodags) (same : view after = view created)
    (unnoted : (f (m.rootMembership key mop)).Unnoted) : R m (after.modifyDodag key f) := by
  unfold Node.createDodagMembership at creates
  split at creates
  · cases creates
  · next absent =>
    have rooted : created.dodags = m.dodags.insert key (m.rootMembership key mop) ∧
        view created = view (m.setDodag key (m.rootMembership key mop)) := by
      dsimp only at creates
      split at creates
      · cases creates
        exact ⟨rfl, frame.sees.unseen _
          { (m.setDodag key (m.rootMembership key mop)).solicitation with
            hasBaseDodag := true, baseDodagKey := key }⟩
      · cases creates
        exact ⟨rfl, rfl⟩
    have held : after.dodags[key]? = some (m.rootMembership key mop) := by
      rw [dodags, rooted.1, ExtTreeMap.getElem?_insert_self]
    have twice : (m.setDodag key (m.rootMembership key mop)).setDodag key
        (f (m.rootMembership key mop)) = m.setDodag key (f (m.rootMembership key mop)) := by
      simp only [Node.setDodag, OrderedMap.insert_insert]
    rw [Node.setDodag_of_held held]
    refine frame.then_ (frame.begins m key _ (by simpa using absent) unnoted) ?_
    rw [← twice]
    exact frame.sees.puts key _ (same.trans rooted.2)

theorem createLocalDodag {instanceId mop : UInt8} {formed : DodagKey}
    {f : DodagMembership → DodagMembership}
    (creates : m.createLocalDodag instanceId mop = some (formed, created))
    (dodags : after.dodags = created.dodags) (same : view after = view created)
    (unnoted : ∀ root : DodagMembership, root.Unnoted → (f root).Unnoted) :
    R m (after.modifyDodag formed f) := by
  unfold Node.createLocalDodag at creates
  dsimp only at creates
  split at creates
  · cases creates
  · obtain ⟨rooted, creates, isRooted⟩ := Option.map_eq_some_iff.mp creates
    cases isRooted
    exact frame.createDodagMembership creates dodags same
      (unnoted _ ⟨⟨rfl, rfl, rfl⟩, ⟨rfl, rfl, rfl, rfl, rfl, rfl, rfl, rfl, rfl, rfl⟩⟩)

/-! ### AODV-RPL -/

theorem discoverRoute (target : Ipv6Address) (hopByHop : Bool) :
    R m (m.discoverRoute target hopByHop).2 := by
  have advanced : view { m with aodvSeqNo := sequenceIncrement m.aodvSeqNo } = view m :=
    frame.sees.findings m { m.findings with aodvSeqNo := _ }
  unfold Node.discoverRoute
  dsimp only
  split
  · exact frame.refl m
  split
  · exact frame.refl m
  · split
    · exact frame.same advanced
    · next formed created creates =>
      dsimp only
      refine frame.after_ advanced (frame.then_ ?_ (frame.sees.onlooker.armAodvExpiry formed))
      exact frame.createLocalDodag creates rfl
        (frame.sees.findings created { created.findings with aodvRouteStateUntil := _ })
        fun _ unnoted => ⟨⟨unnoted.1.1, unnoted.1.2, unnoted.1.3⟩, unnoted.2⟩

theorem extendVector (key : DodagKey) (addressVector : List Ipv6Address) :
    R m (m.extendVector key addressVector).2 := by
  unfold Node.extendVector
  split
  · exact frame.refl m
  · dsimp only
    split
    · exact frame.refl m
    split
    · exact frame.leaveDodag key false
    · exact frame.appends m key _ (List.append_ne_nil_of_right_ne_nil _ nofun)

theorem relayAodvRreqOnCachedRoute (key : DodagKey) (dio : DioHeader)
    (cachedNextHop : Ipv6Address) : R m (m.relayAodvRreqOnCachedRoute key dio cachedNextHop) := by
  unfold Node.relayAodvRreqOnCachedRoute
  split
  · exact frame.refl m
  · split
    · exact frame.refl m
    · have remembered : view (m.modifyAodv key fun aodv =>
          { aodv with unicastRreqRelayed := aodv.unicastRreqRelayed.insert aodv.target }) =
            view m := frame.sees.modifyDodag (fun _ => rfl) fun _ => rfl
      dsimp only
      split
      · exact frame.same remembered
      · exact frame.after_ ((frame.sees.onlooker.sendAodvTo ..).trans remembered)
          (frame.relays _ key)

theorem answerFromCache (key : DodagKey) (dio : DioHeader) (sender : Ipv6Address) :
    R m (m.answerFromCache key dio sender) := by
  unfold Node.answerFromCache
  split
  · exact frame.refl m
  · split
    · exact frame.refl m
    · next dodag _ _ cached _ =>
      have noted : view (if m.attributes.aodvGratuitousRrepOnce then
          m.modifyAodv key fun aodv =>
            { aodv with gratuitousRrepSent := aodv.gratuitousRrepSent.insert aodv.target }
          else m) = view m := by
        split
        · exact frame.sees.modifyDodag (fun _ => rfl) fun _ => rfl
        · rfl
      exact frame.after_ ((frame.sees.onlooker.sendAodvGratuitousRrep ..).trans noted)
        (frame.relayAodvRreqOnCachedRoute key dio cached.nextHop)

theorem routeRreq (key : DodagKey) (dio : DioHeader) (sender : Ipv6Address) :
    R m (m.routeRreq key dio sender).2 := by
  unfold Node.routeRreq
  split
  · split
    · exact frame.refl m
    · next stored stores =>
      exact frame.after_ (frame.sees.onlooker.storeUpwardRoute stores)
        (frame.answerFromCache key dio sender)
  · exact frame.extendVector key dio.getRreq.addressVector

theorem startAodvRrepInstance (rreqDodag : DodagMembership) (rreqKey : DodagKey) :
    R m (m.startAodvRrepInstance rreqDodag rreqKey) := by
  unfold Node.startAodvRrepInstance
  dsimp only
  split
  · exact frame.refl m
  split
  · exact frame.refl m
  · split
    · exact frame.refl m
    · next creates =>
      refine frame.then_ ?_ (frame.sees.onlooker.armAodvExpiry _)
      exact frame.createLocalDodag creates rfl frame.sees.onlooker.advanceAodvSeqNoForRrep
        fun _ unnoted => ⟨⟨unnoted.1.1, unnoted.1.2, unnoted.1.3⟩, unnoted.2⟩

theorem sendAodvRrep (key : DodagKey) : R m (m.sendAodvRrep key) := by
  unfold Node.sendAodvRrep
  split
  · exact frame.refl m
  · split
    · exact frame.startAodvRrepInstance ..
    · dsimp only
      split
      · exact frame.refl m
      split
      · exact frame.same frame.sees.onlooker.advanceAodvSeqNoForRrep
      · exact frame.same ((frame.sees.onlooker.sendAodvTo ..).trans
          frame.sees.onlooker.advanceAodvSeqNoForRrep)

/-- What follows the taking of an RREQ. -/
theorem afterRreq (key : DodagKey) (dio : DioHeader) (sender : Ipv6Address) (reached : Bool) :
    R m
      (if (m.routeRreq key dio sender).1 then
        if reached then ((m.routeRreq key dio sender).2.armAodvExpiry key).sendAodvRrep key
        else (m.routeRreq key dio sender).2.armAodvExpiry key
      else (m.routeRreq key dio sender).2) := by
  have routed : R m (m.routeRreq key dio sender).2 := frame.routeRreq key dio sender
  split
  · have armed := frame.then_ routed (frame.sees.onlooker.armAodvExpiry key)
    split
    · exact frame.trans armed (frame.sendAodvRrep key)
    · exact armed
  · exact routed

theorem handleAodvRrepInstance (dio : DioHeader) (sender : Ipv6Address) :
    R m (m.handleAodvRrepInstance dio sender) := by
  unfold Node.handleAodvRrepInstance
  extract_lets key rrep unbarred
  have same : view unbarred = view m :=
    frame.sees.findings m { m.findings with aodvRejoinBlocked := _ }
  clear_value unbarred
  refine frame.after_ same ?_
  split
  · exact frame.refl unbarred
  · next dodag held =>
    split
    · exact frame.refl unbarred
    · have taken : view ((unbarred.modifyAodv key fun _ =>
          unbarred.withRrep dio dodag.aodv).armAodvExpiry key) = view unbarred := by
        rw [frame.sees.onlooker.armAodvExpiry, Node.modifyAodv, Node.setDodag_of_held held]
        exact frame.sees.keeps unbarred key dodag _ held rfl rfl
      dsimp only
      refine frame.after_ taken ?_
      generalize (unbarred.modifyAodv key fun _ =>
        unbarred.withRrep dio dodag.aodv).armAodvExpiry key = armed
      split
      · have stores : view (armed.storeHopByHopRoute
            ⟨(unbarred.withRrep dio dodag.aodv).pairedInstanceId,
              (unbarred.withRrep dio dodag.aodv).origNode⟩
            key.dodagId dodag.preferredParent armed.attributes.routeLifetime
            (some (unbarred.withRrep dio dodag.aodv).origSeqNo) false).2 = view armed :=
          frame.sees.onlooker.storeHopByHopRoute ..
        split
        · exact frame.refl armed
        · next stored accepted =>
          rw [accepted] at stores
          exact frame.same ((frame.sees.onlooker.armAodvExpiry key).trans stores)
      · have extended : R armed (armed.extendVector key rrep.addressVector).2 :=
          frame.extendVector key rrep.addressVector
        split
        · exact extended
        · have rearmed := frame.then_ extended (frame.sees.onlooker.armAodvExpiry key)
          split
          · exact frame.then_ rearmed (frame.sees.onlooker.completeAsymmetricRoute key)
          · exact rearmed

/-! ### P2P-RPL -/

theorem discoverP2pRoute (target : Ipv6Address) (hopByHop : Bool) :
    R m (m.discoverP2pRoute target hopByHop).2 := by
  unfold Node.discoverP2pRoute
  dsimp only
  split
  · exact frame.refl m
  split
  · exact frame.refl m
  · next localId _ =>
    have noted : view (m.noteP2pUse target localId) = view m :=
      frame.sees.findings m { m.findings with p2pInstanceUse := _ }
    split
    · exact frame.same noted
    · next creates =>
      dsimp only
      refine frame.after_ noted (frame.then_ ?_ (frame.sees.onlooker.armP2pExpiry _))
      exact frame.createLocalDodag creates rfl rfl fun _ unnoted =>
        ⟨⟨unnoted.1.1, unnoted.1.2, unnoted.1.3⟩,
          ⟨rfl, rfl, unnoted.2.3, unnoted.2.4, unnoted.2.5, unnoted.2.6, unnoted.2.7,
            unnoted.2.8, unnoted.2.9, unnoted.2.10⟩⟩

theorem p2pInstanceExpired (key : DodagKey) : R m (m.p2pInstanceExpired key) := by
  unfold Node.p2pInstanceExpired
  split
  · exact frame.refl m
  · exact frame.after_ (frame.sees.findings m { m.findings with p2pStopMemory := _ })
      (frame.leaveDodag key false)

theorem beforeDiscovery {dio : DioHeader} {heard : Reception}
    (handles : m.beforeDiscovery dio heard = some after) : R m after := by
  obtain ⟨entered, enters, rfl⟩ := Option.map_eq_some_iff.mp handles
  exact frame.trans (frame.enterVersion enters)
    (frame.after_ (frame.sees.updateParent dio heard) (frame.selectAfterDio dio heard.sender))

end NotesFrame

namespace DiscoveryFrame

variable {σ : Type} {view : Node → σ} {n : Node} {e : Event} {R : Node → Node → Prop}
  {m after created : Node} {key : DodagKey} (frame : DiscoveryFrame view n e R)

include frame

theorem handleAodvRreq {dio : DioHeader} {heard : Reception} (takes : n.Takes e dio heard)
    (handles : n.beforeDiscovery dio heard = some m) (rreq : dio.rreq.isSome = true) :
    R m (m.handleAodvRreq dio heard) := by
  unfold Node.handleAodvRreq
  extract_lets key unbarred
  have same : view unbarred = view m :=
    frame.sees.findings m { m.findings with aodvRejoinBlocked := _ }
  have dodags : unbarred.dodags = m.dodags := rfl
  -- the bar that is lifted matters neither to the guard nor to what is taken
  have ignores : unbarred.ignoresRreq = m.ignoresRreq := rfl
  have takesIn : unbarred.takeRreq = m.takeRreq := rfl
  rw [ignores, takesIn, dodags]
  split
  · exact frame.same same
  · next dodag held =>
    split
    · exact frame.same same
    · next attends =>
      have taken : R m ((unbarred.modifyAodv key fun _ => (m.takeRreq dodag dio).2).armAodvExpiry
          key) := by
        refine frame.then_ (frame.takesRreq takes handles rreq held
          (Bool.eq_false_of_not_eq_true attends)) ?_
        rw [frame.sees.onlooker.armAodvExpiry, Node.modifyAodv,
          Node.setDodag_of_held (dodags ▸ held)]
        exact frame.sees.puts key _ same
      clear_value unbarred
      dsimp only
      refine frame.trans taken ?_
      generalize (unbarred.modifyAodv key fun _ => (m.takeRreq dodag dio).2).armAodvExpiry key =
        armed
      split
      · refine frame.after_ (frame.sees.onlooker.log_reached key) ?_
        exact frame.afterRreq key dio heard.sender (m.takeRreq dodag dio).1
      · exact frame.afterRreq key dio heard.sender (m.takeRreq dodag dio).1

theorem handleDiscovery {dio : DioHeader} {heard : Reception} (takes : n.Takes e dio heard)
    (handles : n.beforeDiscovery dio heard = some m) : R m (m.handleDiscovery dio heard) := by
  unfold Node.handleDiscovery
  cases rreq : dio.rreq.isSome with
  | true =>
    -- an RREQ is the only discovery option of its DIO
    obtain ⟨noRrep, noRdo⟩ := takes.discovery.1 rreq
    simp only [noRrep, noRdo, Bool.true_and, Bool.false_and, Bool.false_eq_true, if_false]
    split
    · exact frame.handleAodvRreq takes handles rreq
    · exact frame.refl m
  | false =>
    cases rrep : dio.rrep.isSome with
    | true =>
      have noRdo := (takes.discovery.2.1 rrep).2
      simp only [noRdo, Bool.true_and, Bool.false_and, Bool.false_eq_true, if_false]
      split
      · exact frame.handleAodvRrepInstance dio heard.sender
      · exact frame.refl m
    | false =>
      simp only [Bool.false_and, Bool.false_eq_true, if_false]
      split
      · next rdo =>
        exact frame.takesRdo takes handles (Bool.and_eq_true_iff.mp rdo).1
          (frame.beforeDiscovery handles)
      · exact frame.refl m

theorem handleDio {dio : DioHeader} {heard : Reception} (event : e = .receive heard (.dio dio))
    (foreign : heard.sender ≠ n.ipv6.getLinkLocalAddress heard.interface) :
    R n (n.handleDio dio heard) := by
  unfold Node.handleDio
  split
  · exact frame.refl n
  · next kept =>
    split
    · exact frame.same (frame.sees.onlooker.handleAodvRrep ..)
    next multicast =>
    split
    · exact frame.refl n
    next accepts =>
    split
    · exact frame.handlePoison dio.key heard.sender
    next finite =>
    split
    · exact frame.refl n
    · next entered enters =>
      have takes : n.Takes e dio heard := by
        refine ⟨event, ?_⟩
        simp only [Node.takesDio, Bool.and_eq_true, Bool.not_eq_true', decide_eq_true_eq]
        exact ⟨⟨⟨⟨foreign, Bool.eq_false_iff.mpr kept⟩, Bool.eq_false_iff.mpr multicast⟩,
          Bool.eq_false_iff.mpr accepts⟩, finite⟩
      have handles : n.beforeDiscovery dio heard =
          some ((entered.updateParent dio heard).selectAfterDio dio heard.sender) := by
        rw [Node.beforeDiscovery, enters, Option.map_some]
      exact frame.trans (frame.beforeDiscovery handles) (frame.handleDiscovery takes handles)

theorem fire {timer : TimerName} (event : e = .fire timer) : R n (n.fire timer) := by
  cases timer with
  | dis => exact frame.same (frame.sees.onlooker.solicits frame.sees.unseen .dis)
  | firstSolicitation =>
    exact frame.same (frame.sees.onlooker.solicits frame.sees.unseen .firstSolicitation)
  | trickleTransmit key => exact frame.trickleTransmit key
  | trickleInterval key => exact frame.same frame.sees.onlooker.trickleInterval
  | dao key =>
    exact frame.same ((frame.sees.quiet.daoEventFire key).trans
      (frame.sees.modifyDodag (fun _ => rfl) fun _ => rfl))
  | daoRetry key =>
    exact frame.same ((frame.sees.quiet.daoRetry key).trans
      (frame.sees.modifyDodag (fun _ => rfl) fun _ => rfl))
  | globalRepair key =>
    exact frame.same (frame.sees.onlooker.globalRepairFire.trans
      (frame.sees.modifyDodag (fun _ => rfl) fun _ => rfl))
  | aodvExpiry key =>
    have unarmed : view (n.modifyAodv key fun aodv => { aodv with expiry := none }) = view n :=
      frame.sees.modifyDodag (fun _ => rfl) fun _ => rfl
    exact frame.after_ unarmed (frame.leaveDodag key false)
  | p2pExpiry key =>
    have unarmed : view (n.modifyP2p key fun p2p => { p2p with expiry := none }) = view n :=
      frame.sees.modifyDodag (fun _ => rfl) fun _ => rfl
    exact frame.after_ unarmed (frame.p2pInstanceExpired key)
  | droRetry key => exact frame.retries key event
  | droCollect key => exact frame.collects key event

theorem handleDadSuccess (address : Ipv6Address) : R n (n.handleDadSuccess address) := by
  unfold Node.handleDadSuccess
  split
  · exact frame.refl n
  split
  · split
    · exact frame.refl n
    · dsimp only
      split
      · exact frame.refl n
      · next creates =>
        exact frame.createDodagMembership creates rfl rfl
          ⟨⟨rfl, rfl, rfl⟩, ⟨rfl, rfl, rfl, rfl, rfl, rfl, rfl, rfl, rfl, rfl⟩⟩
  · exact frame.refl n

/-- The relation holds over the whole event. -/
theorem apply : R n (n.apply e) := by
  cases e with
  | receive heard message =>
    change R n (n.recvRpl heard message)
    unfold Node.recvRpl
    split
    · exact frame.refl n
    · next foreign =>
      cases message with
      | dis => exact frame.handleDis heard.sender heard.interface heard.toMulticast
      | dio dio => exact frame.handleDio rfl foreign
      | dao dao => exact frame.same (frame.sees.quiet.handleDao ..)
      | daoAck ack => exact frame.same (frame.sees.quiet.handleDaoAck ack)
      | p2pDro dro => exact frame.relaysDro heard dro rfl
      | p2pDroAck ack => exact frame.acknowledged heard ack rfl
  | fire timer => exact frame.fire rfl
  | tick later => exact frame.same (frame.sees.clock n later)
  | discoverRoute target hopByHop => exact frame.discoverRoute target hopByHop
  | discoverP2pRoute target hopByHop => exact frame.discoverP2pRoute target hopByHop
  | createLocalDodag instanceId mop =>
    change R n (((n.createLocalDodag instanceId mop).map Prod.snd).getD n)
    cases creates : n.createLocalDodag instanceId mop with
    | none => exact frame.refl n
    | some formed =>
      have rooted : R n (formed.2.modifyDodag formed.1 id) :=
        frame.createLocalDodag creates rfl rfl fun _ unnoted => unnoted
      exact frame.then_ rooted (frame.sees.modifyDodag (fun _ => rfl) fun _ => rfl).symm
  | setAsRoot => exact frame.same (frame.sees.onlooker.solicits frame.sees.unseen .setAsRoot)
  | dadSuccess address => exact frame.handleDadSuccess address
  | startInterface interface =>
    change R n (n.startInterface interface)
    unfold Node.startInterface
    split
    · exact frame.refl n
    · exact frame.same (frame.sees.findings n { n.findings with sockets := _ })
  | stopInterface interface => exact frame.stopInterface interface
  | readdress interfaces => exact frame.same (frame.sees.findings n { n.findings with ipv6 := _ })
  | routeOutput destination oif => exact frame.same (frame.sees.onlooker.afterRouteOutput ..)
  | notifyRankInconsistency instanceId =>
    exact frame.same (frame.sees.onlooker.notifyRankInconsistency instanceId)
  | notifyForwardingError instanceId destination =>
    exact frame.same (frame.sees.onlooker.notifyForwardingError instanceId destination)

end DiscoveryFrame

end Rpl
