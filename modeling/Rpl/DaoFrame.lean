import Rpl.Aside
import Rpl.Moves
import Rpl.Edit

/-!
# What every step comes down to for the DAO exchange

A relation between the node before and after that sees no more of it than a view aside, and
that holds of the few functions that join, leave, select and take in DAOs, holds of every
step but the ones a DAO timer causes.
-/

namespace Rpl

open Std

/-- A membership left is held no more. -/
theorem Node.absent_leaveDodag (n : Node) {key : DodagKey} :
    (n.leaveDodag key false).dodags[key]? = none := by
  have gone : (n.leaveDodag key false).standing.held[key]? = none := by
    rw [Node.standing_leaveDodag, Standing.held_leave, if_pos rfl]
  rw [Node.standing_held] at gone
  exact Option.map_eq_none_iff.mp gone

/-- The node in the loop of `StopInterface`, which has gone through some memberships. -/
def Node.stoppedUpTo (n : Node) (interface : Nat) (keys : List DodagKey) : Node :=
  keys.foldl (Node.stopInterfaceIn interface) { n with sockets := n.sockets.erase interface }

/-- One round of parent selection counts for the DODAG it is in. -/
def rounds (own key : DodagKey) : ℕ := if key = own then 1 else 0

theorem rounds_self (own : DodagKey) : rounds own own = 1 := if_pos rfl

theorem rounds_le (own key : DodagKey) : rounds own key ≤ 1 := by
  unfold rounds
  split
  · exact le_rfl
  · exact Nat.zero_le 1

/-- The relation, which counts rounds of parent selection in one DODAG, goes through the functions
that a DAO exchange depends on, and holds wherever the view is the same. -/
structure DaoFrame {σ : Type} (own : DodagKey) (view : Node → σ) (R : ℕ → Node → Node → Prop) :
    Prop where
  aside : Aside view
  same : ∀ {n m : Node}, view m = view n → R 0 n m
  trans : ∀ {i j : ℕ} {n m after : Node}, R i n m → R j m after → R (i + j) n after
  mono : ∀ {i j : ℕ} {n m : Node}, R i n m → i ≤ j → R j n m
  leave : ∀ (n : Node) (key : DodagKey), R 0 n (n.leaveDodag key false)
  join : ∀ (n : Node) (dio : DioHeader) (interface : Nat), n.dodags[dio.key]? = none →
    R 0 n (n.joinDodag dio interface)
  adopt : ∀ (n : Node) (dio : DioHeader) {dodag : DodagMembership},
    n.dodags[dio.key]? = some dodag → R 0 n (n.adoptVersion dio dodag)
  update : ∀ (n : Node) (dio : DioHeader) (heard : Reception), R 0 n (n.updateParent dio heard)
  select : ∀ (n : Node) (key : DodagKey), R (rounds own key) n (n.selectPreferredParent key).2
  poison : ∀ (n : Node) (key : DodagKey) (sender : Ipv6Address),
    R (rounds own key) n (n.handlePoison key sender)
  stop : ∀ (n : Node) (interface : Nat) (key : DodagKey),
    R (rounds own key) n (Node.stopInterfaceIn interface n key)
  daoAck : ∀ (n : Node) (ack : DaoAckHeader), R 0 n (n.handleDaoAck ack)
  solicits : ∀ (n : Node) {e : Event}, e.Solicits → R 0 n (n.apply e)

/-- The relation holds up to where a DODAG is formed, if one is, and nothing but that follows. -/
inductive Ends {σ : Type} (view : Node → σ) (R : Node → Node → Prop) (n after : Node) : Prop
  | plain (goes : R n after)
  | forms {m created : Node} {key : DodagKey} {mop : UInt8} (goes : R n m)
      (creates : m.createDodagMembership key mop = some created)
      (same : view after = view created)

namespace DaoFrame

variable {σ : Type} {own : DodagKey} {view : Node → σ} {R : ℕ → Node → Node → Prop}
  {n m after : Node} {key : DodagKey} {c : ℕ} (frame : DaoFrame own view R)

include frame

theorem refl (n : Node) : R 0 n n := frame.same rfl

/-- What the view does not see may follow. -/
theorem then_ (before : R c n m) (same : view after = view m) : R c n after :=
  frame.trans before (frame.same same)

/-- What the view does not see may come first. -/
theorem after_ {before : Node} (same : view before = view n) (goesOn : R c before m) :
    R c n m := by
  have goes := frame.trans (frame.same same) goesOn
  rwa [Nat.zero_add] at goes

theorem ends_refl (n : Node) : Ends view (R 0) n n := .plain (frame.refl n)

theorem ends_then (before : Ends view (R c) n m) (same : view after = view m) :
    Ends view (R c) n after := by
  cases before with
  | plain goes => exact .plain (frame.then_ goes same)
  | forms goes creates formed => exact .forms goes creates (same.trans formed)

theorem ends_after {i j : ℕ} (before : R i n m) (goesOn : Ends view (R j) m after) :
    Ends view (R (i + j)) n after := by
  cases goesOn with
  | plain goes => exact .plain (frame.trans before goes)
  | forms goes creates formed => exact .forms (frame.trans before goes) creates formed

theorem ends_same (same : view m = view n) (goesOn : Ends view (R c) m after) :
    Ends view (R c) n after := by
  have goes := frame.ends_after (frame.same same) goesOn
  rwa [Nat.zero_add] at goes

theorem ends_mono {d : ℕ} (ends : Ends view (R c) n m) (le : c ≤ d) : Ends view (R d) n m := by
  cases ends with
  | plain goes => exact .plain (frame.mono goes le)
  | forms goes creates formed => exact .forms (frame.mono goes le) creates formed

/-! ## Discoveries -/

theorem createLocalDodag {instanceId mop : UInt8} {formed : DodagKey} {created : Node}
    (creates : n.createLocalDodag instanceId mop = some (formed, created)) :
    Ends view (R 0) n created := by
  unfold Node.createLocalDodag at creates
  dsimp only at creates
  split at creates
  · cases creates
  · obtain ⟨other, creates, same⟩ := Option.map_eq_some_iff.mp creates
    cases same
    exact .forms (frame.refl n) creates rfl

theorem discoverRoute (n : Node) (target : Ipv6Address) (hopByHop : Bool) :
    Ends view (R 0) n (n.discoverRoute target hopByHop).2 := by
  unfold Node.discoverRoute
  dsimp only
  split
  · exact frame.ends_refl n
  split
  · exact frame.ends_refl n
  · split
    · exact .plain (frame.same (frame.aside.findings n { n.findings with aodvSeqNo := _ }))
    · next formed created creates =>
      have advanced : view { n with aodvSeqNo := sequenceIncrement n.aodvSeqNo } = view n :=
        frame.aside.findings n { n.findings with aodvSeqNo := _ }
      refine frame.ends_then (frame.ends_same advanced (frame.createLocalDodag creates)) ?_
      dsimp only
      rw [frame.aside.armAodvExpiry, frame.aside.modifyDodag]
      · exact frame.aside.findings created { created.findings with aodvRouteStateUntil := _ }
      · exact fun _ => rfl

theorem discoverP2pRoute (n : Node) (target : Ipv6Address) (hopByHop : Bool) :
    Ends view (R 0) n (n.discoverP2pRoute target hopByHop).2 := by
  unfold Node.discoverP2pRoute
  dsimp only
  split
  · exact frame.ends_refl n
  split
  · exact frame.ends_refl n
  · next localId _ =>
    have noted : view (n.noteP2pUse target localId) = view n :=
      frame.aside.findings n { n.findings with p2pInstanceUse := _ }
    split
    · exact .plain (frame.same noted)
    · next formed created creates =>
      refine frame.ends_then (frame.ends_same noted (frame.createLocalDodag creates)) ?_
      dsimp only
      rw [frame.aside.armP2pExpiry]
      exact frame.aside.modifyDodag fun _ => rfl

theorem extendVector (n : Node) (key : DodagKey) (addressVector : List Ipv6Address) :
    R 0 n (n.extendVector key addressVector).2 := by
  unfold Node.extendVector
  split
  · exact frame.refl n
  · dsimp only
    split
    · exact frame.refl n
    split
    · exact frame.leave n key
    · dsimp only
      exact frame.same frame.aside.modifyAodv

theorem routeRreq (n : Node) (key : DodagKey) (dio : DioHeader) (sender : Ipv6Address) :
    R 0 n (n.routeRreq key dio sender).2 := by
  unfold Node.routeRreq
  split
  · split
    · exact frame.refl n
    · next stores =>
      refine frame.same ?_
      rw [frame.aside.answerFromCache, frame.aside.storeUpwardRoute stores]
  · exact frame.extendVector ..

theorem startAodvRrepInstance (n : Node) (rreqDodag : DodagMembership) (rreqKey : DodagKey) :
    Ends view (R 0) n (n.startAodvRrepInstance rreqDodag rreqKey) := by
  unfold Node.startAodvRrepInstance
  dsimp only
  split
  · exact frame.ends_refl n
  split
  · exact frame.ends_refl n
  · split
    · exact frame.ends_refl n
    · next creates =>
      refine frame.ends_then (frame.createLocalDodag creates) ?_
      rw [frame.aside.armAodvExpiry, frame.aside.modifyDodag]
      · exact frame.aside.advanceAodvSeqNoForRrep
      · exact fun _ => rfl

theorem sendAodvRrep (n : Node) (key : DodagKey) : Ends view (R 0) n (n.sendAodvRrep key) := by
  unfold Node.sendAodvRrep
  split
  · exact frame.ends_refl n
  · split
    · exact frame.startAodvRrepInstance ..
    · dsimp only
      split
      · exact frame.ends_refl n
      split
      · exact .plain (frame.same frame.aside.advanceAodvSeqNoForRrep)
      · refine .plain (frame.same ?_)
        exact (frame.aside.sendAodvTo ..).trans frame.aside.advanceAodvSeqNoForRrep

/-- What follows the taking of an RREQ. -/
theorem afterRreq (n : Node) (key : DodagKey) (dio : DioHeader) (sender : Ipv6Address)
    (reached : Bool) :
    Ends view (R 0) n
      (if (n.routeRreq key dio sender).1 then
        if reached then ((n.routeRreq key dio sender).2.armAodvExpiry key).sendAodvRrep key
        else (n.routeRreq key dio sender).2.armAodvExpiry key
      else (n.routeRreq key dio sender).2) := by
  have routed := frame.routeRreq n key dio sender
  split
  · have armed := frame.then_ routed (frame.aside.armAodvExpiry key)
    split
    · exact frame.ends_after armed (frame.sendAodvRrep _ key)
    · exact .plain armed
  · exact .plain routed

theorem handleAodvRreq (n : Node) (dio : DioHeader) (heard : Reception) :
    Ends view (R 0) n (n.handleAodvRreq dio heard) := by
  unfold Node.handleAodvRreq
  extract_lets key m
  have unbarred : view m = view n :=
    frame.aside.findings n { n.findings with aodvRejoinBlocked := _ }
  clear_value m
  refine frame.ends_same unbarred ?_
  split
  · exact frame.ends_refl m
  · next dodag held =>
    split
    · exact frame.ends_refl m
    · have taken : view ((m.modifyAodv key fun _ => (m.takeRreq dodag dio).2).armAodvExpiry key) =
          view m := by
        rw [frame.aside.armAodvExpiry, frame.aside.modifyAodv]
      dsimp only
      refine frame.ends_same taken ?_
      generalize (m.modifyAodv key fun _ => (m.takeRreq dodag dio).2).armAodvExpiry key = armed
      split
      · refine frame.ends_same (frame.aside.log_reached key) ?_
        exact frame.afterRreq (armed.log (.discoveryTargetReached key)) key dio heard.sender
          (m.takeRreq dodag dio).1
      · exact frame.afterRreq armed key dio heard.sender (m.takeRreq dodag dio).1

theorem handleAodvRrepInstance (n : Node) (dio : DioHeader) (sender : Ipv6Address) :
    R 0 n (n.handleAodvRrepInstance dio sender) := by
  unfold Node.handleAodvRrepInstance
  extract_lets key rrep m
  have unbarred : view m = view n :=
    frame.aside.findings n { n.findings with aodvRejoinBlocked := _ }
  clear_value m
  refine frame.after_ unbarred ?_
  split
  · exact frame.refl m
  · next dodag held =>
    split
    · exact frame.refl m
    · have taken : view ((m.modifyAodv key fun _ => m.withRrep dio dodag.aodv).armAodvExpiry key) =
          view m := by
        rw [frame.aside.armAodvExpiry, frame.aside.modifyAodv]
      dsimp only
      generalize (m.modifyAodv key fun _ => m.withRrep dio dodag.aodv).armAodvExpiry key = armed
        at taken ⊢
      refine frame.after_ taken ?_
      split
      · have stores : view (armed.storeHopByHopRoute
            ⟨(m.withRrep dio dodag.aodv).pairedInstanceId, (m.withRrep dio dodag.aodv).origNode⟩
            key.dodagId dodag.preferredParent armed.attributes.routeLifetime
            (some (m.withRrep dio dodag.aodv).origSeqNo) false).2 = view armed :=
          frame.aside.storeHopByHopRoute ..
        split
        · exact frame.refl armed
        · next stored accepted =>
          rw [accepted] at stores
          exact frame.same ((frame.aside.armAodvExpiry key).trans stores)
      · have extended := frame.extendVector armed key rrep.addressVector
        split
        · exact extended
        · have rearmed := frame.then_ extended (frame.aside.armAodvExpiry key)
          split
          · exact frame.then_ rearmed (frame.aside.completeAsymmetricRoute key)
          · exact rearmed

theorem takeP2pVector (n : Node) (key : DodagKey) (rdo : P2pRdoOption) (interface : Nat) :
    R 0 n (n.takeP2pVector key rdo interface).2 := by
  unfold Node.takeP2pVector
  split
  · exact frame.refl n
  · dsimp only
    split
    · exact frame.refl n
    split
    · exact frame.leave n key
    · dsimp only
      exact frame.same frame.aside.modifyP2p

/-- What follows the taking of a P2P mode DIO. -/
theorem afterP2pRdo (n : Node) (key : DodagKey) (rdo : P2pRdoOption) (interface : Nat) :
    R 0 n
      (if (n.takeP2pVector key rdo interface).1 then
        ((n.takeP2pVector key rdo interface).2.armP2pExpiry key).replyAsTarget key
      else (n.takeP2pVector key rdo interface).2) := by
  have taken := frame.takeP2pVector n key rdo interface
  split
  · exact frame.then_ taken
      ((frame.aside.replyAsTarget key).trans (frame.aside.armP2pExpiry key))
  · exact taken

theorem handleP2pRdo (n : Node) (dio : DioHeader) (heard : Reception) :
    R 0 n (n.handleP2pRdo dio heard) := by
  unfold Node.handleP2pRdo
  extract_lets key rdo
  split
  · exact frame.refl n
  · next dodag held =>
    split
    · exact frame.refl n
    · have recorded : view (n.setDodag key (n.recordP2pRoutes dodag rdo heard)) = view n :=
        frame.aside.alike n key dodag _ held (n.recordP2pRoutes_alike dodag rdo heard)
      dsimp only
      generalize n.recordP2pRoutes dodag rdo heard = recordedDodag at recorded ⊢
      generalize n.setDodag key recordedDodag = m at recorded ⊢
      refine frame.after_ recorded ?_
      split
      · exact frame.refl m
      · have taken : view ((m.modifyP2p key fun _ =>
            m.withP2pRdo dio recordedDodag.p2p).armP2pExpiry key) = view m := by
          rw [frame.aside.armP2pExpiry, frame.aside.modifyP2p]
        refine frame.after_ taken ?_
        generalize (m.modifyP2p key fun _ =>
          m.withP2pRdo dio recordedDodag.p2p).armP2pExpiry key = armed
        split
        · refine frame.after_ (frame.aside.log_reached key) ?_
          exact frame.afterP2pRdo (armed.log (.discoveryTargetReached key)) key rdo
            heard.interface
        · exact frame.afterP2pRdo armed key rdo heard.interface

theorem handleDiscovery (n : Node) {dio : DioHeader} (heard : Reception)
    (fits : Node.discoveryOptionsFit dio = true) :
    Ends view (R 0) n (n.handleDiscovery dio heard) := by
  unfold Node.handleDiscovery
  cases rreq : dio.rreq.isSome with
  | true =>
    -- an RREQ is the only discovery option of its DIO
    obtain ⟨noRrep, noRdo⟩ := (Node.discoveryOptionsFit_alone fits).1 rreq
    simp only [noRrep, noRdo, Bool.true_and, Bool.false_and, Bool.false_eq_true, if_false]
    split
    · exact frame.handleAodvRreq ..
    · exact frame.ends_refl n
  | false =>
    refine .plain ?_
    simp only [Bool.false_and, Bool.false_eq_true, if_false]
    have rrep : R 0 n (if dio.rrep.isSome && n.holds dio.key then
        n.handleAodvRrepInstance dio heard.sender else n) := by
      split
      · exact frame.handleAodvRrepInstance ..
      · exact frame.refl n
    generalize (if dio.rrep.isSome && n.holds dio.key then
      n.handleAodvRrepInstance dio heard.sender else n) = m at rrep ⊢
    split
    · exact frame.trans rrep (frame.handleP2pRdo ..)
    · exact rrep

/-! ## A DIO -/

theorem selectAndReset (n : Node) (key : DodagKey) :
    R (rounds own key) n (n.selectAndReset key) := by
  unfold Node.selectAndReset
  dsimp only
  split
  · exact frame.then_ (frame.select n key) (frame.aside.resetTrickle _)
  · exact frame.select n key

theorem selectAfterDio (n : Node) (dio : DioHeader) (sender : Ipv6Address) :
    R (rounds own dio.key) n (n.selectAfterDio dio sender) := by
  have counted (m : Node) : view (m.modifyDodag dio.key fun dodag =>
      { dodag with dioTrickle := dodag.dioTrickle.consistencyHit }) = view m :=
    frame.aside.modifyDodag fun _ => rfl
  have idle : R (rounds own dio.key) n n := frame.mono (frame.refl n) (Nat.zero_le _)
  unfold Node.selectAfterDio
  split
  · unfold Node.selectTemporary
    split
    · exact idle
    · dsimp only
      split
      · exact frame.select n dio.key
      · split
        · exact frame.then_ (frame.select n dio.key) (frame.aside.resetTrickle _)
        split
        · exact frame.then_ (frame.select n dio.key) (counted _)
        · exact frame.select n dio.key
  · unfold Node.selectOrdinary
    split
    · exact idle
    · dsimp only
      split
      · exact frame.selectAndReset ..
      · exact frame.after_ (counted n) (frame.selectAndReset ..)

theorem enterVersion {dio : DioHeader} {interface : Nat}
    (enters : n.enterVersion dio interface = some m) : R 0 n m := by
  unfold Node.enterVersion at enters
  split at enters
  · next absent =>
    split at enters
    · cases enters
    · cases enters
      exact frame.join n dio interface absent
  · next dodag held =>
    split at enters
    · cases enters
      exact frame.refl n
    split at enters
    · cases enters
      exact frame.adopt n dio held
    split at enters
    · cases enters
      exact frame.trans (frame.leave n dio.key) (frame.join _ dio interface n.absent_leaveDodag)
    · cases enters

theorem handleDio (n : Node) (dio : DioHeader) (heard : Reception) :
    Ends view (R (rounds own dio.key)) n (n.handleDio dio heard) := by
  have idle {m : Node} (same : view m = view n) : Ends view (R (rounds own dio.key)) n m :=
    .plain (frame.mono (frame.same same) (Nat.zero_le _))
  unfold Node.handleDio
  split
  · exact idle rfl
  · next kept =>
    have fits : Node.discoveryOptionsFit dio = true := by
      simpa [Node.dropsDio] using (Bool.or_eq_false_iff.mp (Bool.eq_false_of_not_eq_true kept)).2
    split
    · exact idle (frame.aside.handleAodvRrep ..)
    split
    · exact idle rfl
    split
    · exact .plain (frame.poison ..)
    split
    · exact idle rfl
    · next entered enters =>
      have taken := frame.trans (frame.enterVersion enters) (frame.update entered dio heard)
      have selected := frame.trans taken (frame.selectAfterDio _ dio heard.sender)
      have ends := frame.ends_after selected (frame.handleDiscovery _ heard fits)
      exact frame.ends_mono ends (by omega)

/-! ## Every step -/

/-- The timer starts no DAO. -/
def Spares : TimerName → Prop
  | .dao _ => False
  | .daoRetry _ => False
  | _ => True

/-- How often parent selection is gone through in the DODAG, at most, when the event happens. -/
def roundsIn (own : DodagKey) : Event → ℕ
  | .receive _ (.dio dio) => rounds own dio.key
  | .fire (.trickleTransmit key) => rounds own key
  | .stopInterface _ => 1
  | _ => 0

omit frame in
theorem roundsIn_le (own : DodagKey) (e : Event) : roundsIn own e ≤ 1 := by
  unfold roundsIn
  split
  · exact rounds_le own _
  · exact rounds_le own _
  · exact le_rfl
  · exact Nat.zero_le 1

/-- The event is no DAO, neither a DAO timer nor time passing. -/
def Ordinary : Event → Prop
  | .receive _ (.dao _) => False
  | .fire timer => Spares timer
  | .tick _ => False
  | _ => True

theorem recvRpl (n : Node) (heard : Reception) {message : RplMessage}
    (other : message.isDao = false) :
    Ends view (R (roundsIn own (.receive heard message))) n (n.recvRpl heard message) := by
  unfold Node.recvRpl
  split
  · exact .plain (frame.mono (frame.refl n) (Nat.zero_le _))
  · cases message with
    | dis => exact .plain (frame.same (frame.aside.handleDis ..))
    | dio dio => exact frame.handleDio n dio heard
    | dao dao => cases other
    | daoAck ack => exact .plain (frame.daoAck n ack)
    | p2pDro dro => exact .plain (frame.same (frame.aside.handleP2pDro dro))
    | p2pDroAck ack => exact .plain (frame.same (frame.aside.handleP2pDroAck ack))

theorem trickleTransmit (n : Node) (key : DodagKey) :
    R (rounds own key) n (n.trickleTransmit key) := by
  unfold Node.trickleTransmit
  split
  · exact frame.mono (frame.refl n) (Nat.zero_le _)
  · have counted : view (n.modifyDodag key fun dodag =>
        { dodag with dioTrickle := dodag.dioTrickle.transmitEvent }) = view n :=
      frame.aside.modifyDodag fun _ => rfl
    dsimp only
    split
    · exact frame.then_ (frame.after_ counted (frame.select _ key)) (frame.aside.sendDio ..)
    · exact frame.mono (frame.same counted) (Nat.zero_le _)

theorem p2pInstanceExpired (n : Node) (key : DodagKey) : R 0 n (n.p2pInstanceExpired key) := by
  unfold Node.p2pInstanceExpired
  split
  · exact frame.refl n
  · dsimp only
    refine frame.after_ ?_ (frame.leave _ key)
    exact frame.aside.findings n { n.findings with p2pStopMemory := _ }

theorem fire (n : Node) {timer : TimerName} (spares : Spares timer) :
    R (roundsIn own (.fire timer)) n (n.fire timer) := by
  cases timer with
  | dis => exact frame.solicits n .dis
  | firstSolicitation => exact frame.solicits n .firstSolicitation
  | trickleTransmit key => exact frame.trickleTransmit n key
  | trickleInterval key => exact frame.same frame.aside.trickleInterval
  | dao key => exact absurd spares id
  | daoRetry key => exact absurd spares id
  | globalRepair key =>
    refine frame.same (frame.aside.globalRepairFire.trans ?_)
    exact frame.aside.modifyDodag fun _ => rfl
  | aodvExpiry key => exact frame.after_ frame.aside.modifyAodv (frame.leave _ key)
  | p2pExpiry key => exact frame.after_ frame.aside.modifyP2p (frame.p2pInstanceExpired _ key)
  | droRetry key => exact frame.same (frame.aside.p2pDroRetry.trans frame.aside.modifyP2p)
  | droCollect key =>
    exact frame.same (frame.aside.p2pDroCollectExpire.trans frame.aside.modifyP2p)

/-- The memberships of an interface that stops go through one round each. -/
theorem stopInterfaces (interface : Nat) (keys : List DodagKey) (n : Node) :
    R (keys.count own) n (keys.foldl (Node.stopInterfaceIn interface) n) := by
  induction keys generalizing n with
  | nil => exact frame.refl n
  | cons key rest ih =>
    have goes :=
      frame.trans (frame.stop n interface key) (ih (Node.stopInterfaceIn interface n key))
    rw [List.count_cons, Nat.add_comm]
    refine frame.mono goes (Nat.le_of_eq ?_)
    simp only [rounds, beq_iff_eq]

theorem stopInterface (n : Node) (interface : Nat) : R 1 n (n.stopInterface interface) := by
  unfold Node.stopInterface
  split
  · dsimp only
    refine frame.mono (frame.after_ ?_ (frame.stopInterfaces interface _ _)) ?_
    · exact frame.aside.findings n { n.findings with sockets := _ }
    · exact List.nodup_iff_count_le_one.mp ExtTreeMap.nodup_keys own
  · exact frame.mono (frame.refl n) (Nat.zero_le 1)

theorem handleDadSuccess (n : Node) (address : Ipv6Address) :
    Ends view (R 0) n (n.handleDadSuccess address) := by
  unfold Node.handleDadSuccess
  split
  · exact frame.ends_refl n
  split
  · split
    · exact frame.ends_refl n
    · dsimp only
      split
      · exact frame.ends_refl n
      · next created creates =>
        refine .forms (frame.refl n) creates ?_
        exact frame.aside.modifyDodag fun _ => rfl
  · exact frame.ends_refl n

/-- Every ordinary event goes through as many rounds at most, and may form a DODAG at its end. -/
theorem apply_rounds (n : Node) {e : Event} (ordinary : Ordinary e) :
    Ends view (R (roundsIn own e)) n (n.apply e) := by
  have same {m : Node} (same : view m = view n) : Ends view (R 0) n m := .plain (frame.same same)
  cases e with
  | receive heard message =>
    refine frame.recvRpl n heard ?_
    cases message with
    | dao dao => exact absurd ordinary id
    | _ => rfl
  | fire timer => exact .plain (frame.fire n ordinary)
  | tick later => exact absurd ordinary id
  | discoverRoute target hopByHop => exact frame.discoverRoute n target hopByHop
  | discoverP2pRoute target hopByHop => exact frame.discoverP2pRoute n target hopByHop
  | createLocalDodag instanceId mop =>
    change Ends view (R 0) n (((n.createLocalDodag instanceId mop).map Prod.snd).getD n)
    cases creates : n.createLocalDodag instanceId mop with
    | none => exact same rfl
    | some created => exact frame.createLocalDodag creates
  | setAsRoot => exact .plain (frame.solicits n .setAsRoot)
  | dadSuccess address => exact frame.handleDadSuccess n address
  | startInterface interface =>
    change Ends view (R 0) n (n.startInterface interface)
    unfold Node.startInterface
    split
    · exact same rfl
    · exact same (frame.aside.findings n { n.findings with sockets := _ })
  | stopInterface interface => exact .plain (frame.stopInterface n interface)
  | readdress interfaces => exact same (frame.aside.findings n { n.findings with ipv6 := _ })
  | routeOutput destination oif => exact same (frame.aside.afterRouteOutput ..)
  | notifyRankInconsistency instanceId =>
    exact same (frame.aside.notifyRankInconsistency instanceId)
  | notifyForwardingError instanceId destination =>
    exact same (frame.aside.notifyForwardingError instanceId destination)

/-- Every ordinary event goes through one round at most. -/
theorem apply (n : Node) {e : Event} (ordinary : Ordinary e) : Ends view (R 1) n (n.apply e) :=
  frame.ends_mono (frame.apply_rounds n ordinary) (roundsIn_le own e)

end DaoFrame

end Rpl
