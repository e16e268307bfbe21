import Rpl.DaoFrame
import Rpl.Departures
import Rpl.PathSequenceRun

/-!
# Which DAO-ACK ends the wait for it

A DAO of the node's own asks for an acknowledgement under a new DAO Sequence, and the
acknowledgement ends the wait when it carries the sequence the membership is at.  A DAO
relayed for a descendant takes no sequence of its own.  A No-Path DAO does: when one goes
out through a parent given up, the acknowledgement on its way is not recognised any more.
-/

namespace Rpl

open Std

/-! ## The wait for a DAO-ACK -/

/-- What the wait for a DAO-ACK consists of. -/
structure DaoWait where
  sequence : UInt8
  pending : Bool
  retry : Timer
  deriving DecidableEq

def DodagMembership.daoWait (dodag : DodagMembership) : DaoWait :=
  ⟨dodag.daoSequence, dodag.daoAckPending, dodag.daoRetryEvent⟩

/-- The membership waits for the DAO-ACK of the sequence, or does not wait at all. -/
structure DaoWait.Awaits (sequence : UInt8) (wait : DaoWait) : Prop where
  waits : wait.pending = true → wait.sequence = sequence
  idle : wait.pending = false → wait.retry = none

namespace DodagPlace

/-- `SelectPreferredParent` withdraws through the preferred parent: it is stale, or still a
neighbour and not the one that is settled on. -/
def forsakes (place : DodagPlace) (now : Time) : Bool :=
  let kept := place.sweep now fun _ => true
  place.preferredEntry.any (place.stale now) ||
    (!place.preferredParent.isAny && kept.parents.contains place.preferredParent &&
      kept.chooseParent.address ≠ place.preferredParent)

end DodagPlace

namespace Node

/-- The DAO Sequence under which the node asks for an acknowledgement of a DAO in the DODAG, when
it does in the event: `SendDao` past its guards, or `DaoRetry` with a retry left. -/
def asksUnder (n : Node) (key : DodagKey) : Event → Option UInt8
  | .fire (.dao other) =>
    (n.dodags[key]?).bind fun dodag =>
      if other ≠ key || dodag.isRoot || dodag.preferredParent.isAny || dodag.isTemporary ||
          !n.canAdvertise dodag dodag.preferredParent then none
      else some (sequenceIncrement dodag.daoSequence)
  | .fire (.daoRetry other) =>
    (n.dodags[key]?).bind fun dodag =>
      if other ≠ key || !dodag.daoAckPending || dodag.daoRetriesLeft = 0 then none
      else some dodag.daoSequence
  | _ => none

/-! ## Withdrawals while the node waits -/

/-- The membership waits for a DAO-ACK, and `SendNoPathDao` would send a No-Path DAO through the
parent. -/
def waitsAndAdvertises (n : Node) (dodag : DodagMembership) (parent : Ipv6Address) : Bool :=
  dodag.daoAckPending && !dodag.isTemporary && n.canAdvertise dodag parent

/-- `SelectPreferredParent` withdraws a membership that waits for a DAO-ACK, and goes on with
it. -/
def MovesAway (n : Node) (key : DodagKey) : Prop :=
  ∃ dodag, n.dodags[key]? = some dodag ∧ dodag.isRoot = false ∧
    n.waitsAndAdvertises dodag dodag.preferredParent = true ∧ dodag.forsakes n.now = true ∧
    dodag.losesLast n.now = false

/-- In the event a No-Path DAO goes out for a membership that waits for a DAO-ACK and goes on. -/
inductive Withdraws (n : Node) (key : DodagKey) : Event → Prop
  /-- A DIO makes the parent selection give up the preferred parent. -/
  | chosen {heard : Reception} {dio : DioHeader} {entered : Node}
      (takes : n.takesDio dio heard = true)
      (enters : n.enterVersion dio heard.interface = some entered) (keyed : dio.key = key)
      (away : (entered.updateParent dio heard).MovesAway key) :
      Withdraws n key (.receive heard (.dio dio))
  /-- The preferred parent withdraws, or the selection after a neighbour's withdrawal gives it
  up. -/
  | poisoned {heard : Reception} {dio : DioHeader} {dodag : DodagMembership}
      (takes : n.takesPoison dio heard = true) (keyed : dio.key = key)
      (held : n.dodags[key]? = some dodag)
      (waits : n.waitsAndAdvertises dodag dodag.preferredParent = true)
      (away : heard.sender = dodag.preferredParent ∨
        (withoutNeighbour heard.sender dodag.toDodagPlace).forsakes n.now = true)
      (stays : (withoutNeighbour heard.sender dodag.toDodagPlace).losesLast n.now = false) :
      Withdraws n key (.receive heard (.dio dio))
  /-- The Trickle timer transmits. -/
  | trickled {dodag : DodagMembership} (held : n.dodags[key]? = some dodag)
      (transmits : dodag.dioTrickle.transmits = true) (away : n.MovesAway key) :
      Withdraws n key (.fire (.trickleTransmit key))
  /-- An interface stops. -/
  | stopped {interface : Nat} {done rest : List DodagKey} (runs : interface ∈ n.sockets)
      (keys : n.dodags.keys = done ++ key :: rest)
      (away : ((n.stoppedUpTo interface done).modifyPlace key
        (withoutInterface interface)).MovesAway key) :
      Withdraws n key (.stopInterface interface)

/-! ## What leaves the wait alone -/

/-- The wait for a DAO-ACK in the DODAG, when the node is in it. -/
def daoWait (key : DodagKey) (n : Node) : Option DaoWait :=
  (n.dodags[key]?).map DodagMembership.daoWait

/-- The membership, if there is one, waits for the DAO-ACK of the sequence or does not wait. -/
def Awaits (key : DodagKey) (sequence : UInt8) (n : Node) : Prop :=
  ∀ wait, n.daoWait key = some wait → wait.Awaits sequence

variable {n m after : Node} {key other : DodagKey} {dodag changed : DodagMembership}
  {sequence : UInt8}

theorem awaits_of_wait (same : m.daoWait key = n.daoWait key) (awaits : n.Awaits key sequence) :
    m.Awaits key sequence := by
  rwa [Awaits, same]

theorem awaits_of_absent (absent : n.dodags[key]? = none) : n.Awaits key sequence := by
  intro wait held
  rw [daoWait, absent] at held
  cases held

theorem daoWait_setDodag (held : n.dodags[other]? = some dodag)
    (same : other = key → changed.daoWait = dodag.daoWait) :
    (n.setDodag other changed).daoWait key = n.daoWait key := by
  unfold daoWait setDodag
  rw [OrderedMap.getElem?_insert_eq]
  split
  · next keyed =>
    subst keyed
    rw [held, Option.map_some, Option.map_some, same rfl]
  · rfl

theorem daoWait_modifyDodag {f : DodagMembership → DodagMembership}
    (same : ∀ dodag, other = key → (f dodag).daoWait = dodag.daoWait) :
    (n.modifyDodag other f).daoWait key = n.daoWait key := by
  cases held : n.dodags[other]? with
  | none => rw [modifyDodag_of_absent held]
  | some dodag =>
    rw [setDodag_of_held held]
    exact daoWait_setDodag held (same dodag)

theorem daoWait_modifyPlace {f : DodagPlace → DodagPlace} :
    (n.modifyPlace other f).daoWait key = n.daoWait key :=
  daoWait_modifyDodag fun _ _ => rfl

theorem daoWait_aside (key : DodagKey) : Aside (daoWait key) where
  replies _ _ _ := rfl
  findings _ _ := rfl
  alike n other dodag changed held alike := by
    refine daoWait_setDodag held fun _ => ?_
    rw [alike]
    rfl

theorem daoWait_emits (emits : ∃ sent, after = n.emit sent) :
    after.daoWait key = n.daoWait key := by
  obtain ⟨sent, rfl⟩ := emits
  rfl

theorem daoWait_scheduleSolicitation : n.scheduleSolicitation.daoWait key = n.daoWait key := by
  unfold scheduleSolicitation
  split
  · rfl
  · rfl

theorem daoWait_scheduleDaoRefresh : (n.scheduleDaoRefresh other).daoWait key = n.daoWait key := by
  unfold scheduleDaoRefresh
  split
  · rfl
  · split
    · rfl
    · exact daoWait_modifyDodag fun _ _ => rfl

theorem daoWait_poisonDodag : (n.poisonDodag other).daoWait key = n.daoWait key := by
  unfold poisonDodag
  rw [(daoWait_aside key).sendDio, daoWait_modifyPlace]

theorem awaits_eraseDodag (awaits : n.Awaits key sequence) :
    (n.eraseDodag other dodag).Awaits key sequence := by
  intro wait held
  unfold daoWait at held
  rw [dodags_eraseDodag, OrderedMap.getElem?_erase_eq] at held
  split at held
  · cases held
  · exact awaits wait held

theorem awaits_leaveDodag (poison : Bool) (awaits : n.Awaits key sequence) :
    (n.leaveDodag other poison).Awaits key sequence := by
  cases held : n.dodags[other]? with
  | none =>
    rw [leaveDodag, held]
    exact awaits
  | some dodag =>
    obtain ⟨_, _, left⟩ := leaveDodag_eq held poison
    rw [left]
    have erased (before : Node) (still : before.Awaits key sequence) :
        (before.eraseDodag other dodag).Awaits key sequence := awaits_eraseDodag still
    refine erased _ ?_
    split
    · exact awaits_of_wait daoWait_poisonDodag awaits
    · exact awaits

/-- A membership that is made does not wait. -/
theorem awaits_made (idle : dodag.daoAckPending = false) (still : dodag.daoRetryEvent = none)
    (awaits : n.Awaits key sequence) : (n.setDodag other dodag).Awaits key sequence := by
  intro wait held
  unfold daoWait setDodag at held
  rw [OrderedMap.getElem?_insert_eq] at held
  split at held
  · obtain rfl := Option.some.inj held
    exact ⟨fun pending => absurd (idle.symm.trans pending) Bool.false_ne_true, fun _ => still⟩
  · exact awaits wait held

theorem daoWait_joinedMembership (dio : DioHeader) :
    (n.joinedMembership dio).daoWait = ⟨0, false, none⟩ := by
  unfold joinedMembership withParameters
  dsimp only
  split
  · rfl
  · split
    · rfl
    · rfl

theorem awaits_joinDodag (dio : DioHeader) (interface : Nat) (awaits : n.Awaits key sequence) :
    (n.joinDodag dio interface).Awaits key sequence := by
  have fresh := n.daoWait_joinedMembership dio
  have made : (n.setDodag dio.key (n.joinedMembership dio)).Awaits key sequence :=
    awaits_made (congrArg DaoWait.pending fresh) (congrArg DaoWait.retry fresh) awaits
  refine awaits_of_wait ?_ made
  unfold joinDodag
  extract_lets _ temporary joined marked autoconfigured based
  have autoconfiguredSame : autoconfigured.daoWait key = marked.daoWait key := by
    unfold autoconfigured autoconfigure
    split
    · rfl
    · split
      · rfl
      · rfl
  have basedSame : based.daoWait key = autoconfigured.daoWait key := by
    unfold based
    split
    · rfl
    · rfl
  refine Eq.trans ?_ (basedSame.trans autoconfiguredSame)
  split
  · rfl
  · rfl

theorem awaits_createDodagMembership {mop : UInt8} {created : Node}
    (creates : n.createDodagMembership other mop = some created)
    (awaits : n.Awaits key sequence) : created.Awaits key sequence := by
  unfold createDodagMembership at creates
  split at creates
  · cases creates
  · have made : (n.setDodag other (n.rootMembership other mop)).Awaits key sequence :=
      awaits_made rfl rfl awaits
    dsimp only at creates
    split at creates
    · cases creates
      exact made
    · cases creates
      exact made

/-! ## No-Path DAOs that do no harm -/

/-- A No-Path DAO through the parent would not go out for a membership that waits. -/
def Spares (n : Node) (key : DodagKey) (parent : Ipv6Address) : Prop :=
  ∀ dodag, n.dodags[key]? = some dodag → n.waitsAndAdvertises dodag parent = false

theorem awaits_sendNoPathDao {parent : Ipv6Address}
    (spares : other = key → n.Spares key parent) (awaits : n.Awaits key sequence) :
    (n.sendNoPathDao other parent).Awaits key sequence := by
  unfold sendNoPathDao
  split
  · exact awaits
  · next dodag held =>
    split
    · exact awaits
    · next goes =>
      dsimp only
      by_cases keyed : other = key
      · subst keyed
        -- the membership does not wait, and what it is idle in stays as it was
        have idle : dodag.daoAckPending = false := by
          have spared := spares rfl dodag held
          simp only [Bool.or_eq_true, Bool.not_eq_true', not_or, Bool.not_eq_true,
            Bool.not_eq_false] at goes
          simpa only [waitsAndAdvertises, goes.1, goes.2, Bool.not_false, Bool.and_true] using
            spared
        refine awaits_of_wait (daoWait_emits (sendDaoTo_emits ..)) ?_
        refine awaits_made idle ?_ awaits
        refine (awaits dodag.daoWait ?_).idle idle
        rw [daoWait, held]
        rfl
      · refine awaits_of_wait ?_ awaits
        rw [daoWait_emits (sendDaoTo_emits ..)]
        exact daoWait_setDodag held fun here => absurd here keyed

theorem awaits_withdrawThrough {parent : Ipv6Address}
    (spares : other = key → parent.isAny = false →
      (∀ dodag, n.dodags[key]? = some dodag → dodag.parents.contains parent = true) →
      n.Spares key parent)
    (awaits : n.Awaits key sequence) : (n.withdrawThrough other parent).Awaits key sequence := by
  unfold withdrawThrough
  split
  · exact awaits
  · next dodag held =>
    split
    · next withdraws =>
      rw [Bool.and_eq_true, Bool.not_eq_true'] at withdraws
      refine awaits_sendNoPathDao (fun keyed => spares keyed withdraws.1 fun member same => ?_)
        awaits
      subst keyed
      obtain rfl := Option.some.inj (held.symm.trans same)
      exact withdraws.2
    · exact awaits

/-- The node is where another one is, and holds the membership in the place, as it was as far as a
withdrawal goes. -/
structure Rests (n : Node) (key : DodagKey) (dodag : DodagMembership) (place : DodagPlace)
    (m : Node) : Prop where
  now : m.now = n.now
  ipv6 : m.ipv6 = n.ipv6
  held : ∃ member, m.dodags[key]? = some member ∧ member.toDodagPlace = place ∧
    member.daoAckPending = dodag.daoAckPending ∧ member.prefixInfo = dodag.prefixInfo

theorem Rests.spares {place : DodagPlace} {parent : Ipv6Address}
    (rests : Rests n key dodag place m) (mop : place.mop = dodag.mop)
    (dodagId : place.dodagId = dodag.dodagId)
    (spares : n.waitsAndAdvertises dodag parent = false) : m.Spares key parent := by
  intro member held
  obtain ⟨member, heldToo, placed, pending, prefixInfo⟩ := rests.held
  obtain rfl := Option.some.inj (heldToo.symm.trans held)
  have same : m.waitsAndAdvertises member parent = n.waitsAndAdvertises dodag parent := by
    unfold waitsAndAdvertises canAdvertise getGlobalAddressIn getGlobalAddress
      DodagMembership.globalAddressOf DodagPlace.isTemporary DodagPlace.storing
    rw [placed, mop, dodagId, pending, prefixInfo, rests.ipv6]
  rw [same, spares]

theorem Rests.modifyPlace {place : DodagPlace} (f : DodagPlace → DodagPlace)
    (rests : Rests n key dodag place m) : Rests n key dodag (f place) (m.modifyPlace key f) := by
  obtain ⟨member, held, rfl, pending, prefixInfo⟩ := rests.held
  refine ⟨rests.now, rests.ipv6, { member with toDodagPlace := f member.toDodagPlace }, ?_, rfl,
    pending, prefixInfo⟩
  unfold Node.modifyPlace modifyDodag
  rw [OrderedMap.getElem?_modify_eq, if_pos rfl, held]
  rfl

theorem Rests.emits {place : DodagPlace} (emits : ∃ sent, after = m.emit sent)
    (rests : Rests n key dodag place m) : Rests n key dodag place after := by
  obtain ⟨sent, rfl⟩ := emits
  exact ⟨rests.now, rests.ipv6, rests.held⟩

theorem Rests.sendNoPathDao {place : DodagPlace} (parent : Ipv6Address)
    (rests : Rests n key dodag place m) :
    Rests n key dodag place (m.sendNoPathDao key parent) := by
  obtain ⟨member, held, placed, pending, prefixInfo⟩ := rests.held
  unfold Node.sendNoPathDao
  rw [held]
  dsimp only
  split
  · exact rests
  · refine Rests.emits (sendDaoTo_emits ..) ⟨rests.now, rests.ipv6, ?_⟩
    exact ⟨_, ExtTreeMap.getElem?_insert_self, placed, pending, prefixInfo⟩

/-- The node after the sweep. -/
theorem rests_sweepParents (held : n.dodags[key]? = some dodag) :
    Rests n key dodag (dodag.toDodagPlace.sweep n.now fun _ => true) (n.sweepParents key) := by
  have here : Rests n key dodag dodag.toDodagPlace n := ⟨rfl, rfl, dodag, held, rfl, rfl, rfl⟩
  unfold sweepParents
  rw [held]
  dsimp only
  split
  · have partly := (here.modifyPlace fun place =>
      place.sweep n.now (· < dodag.preferredParent)).sendNoPathDao dodag.preferredParent
    have whole := partly.modifyPlace fun place => place.sweep n.now fun _ => true
    rwa [sweep_all_of_part] at whole
  · exact here.modifyPlace fun place => place.sweep n.now fun _ => true

/-! ## Parent selection -/

theorem awaits_sweepParents (awaits : n.Awaits key sequence)
    (spares : ∀ dodag, n.dodags[other]? = some dodag → other = key →
      dodag.preferredEntry.any (dodag.stale n.now) = true →
      n.waitsAndAdvertises dodag dodag.preferredParent = false) :
    (n.sweepParents other).Awaits key sequence := by
  unfold sweepParents
  split
  · exact awaits
  · next dodag held =>
    dsimp only
    refine awaits_of_wait daoWait_modifyPlace ?_
    split
    · next stale =>
      refine awaits_sendNoPathDao (fun keyed => ?_) (awaits_of_wait daoWait_modifyPlace awaits)
      have here : Rests n other dodag dodag.toDodagPlace n := ⟨rfl, rfl, dodag, held, rfl, rfl, rfl⟩
      subst keyed
      exact (here.modifyPlace _).spares rfl rfl (spares dodag held rfl stale)
    · exact awaits

theorem awaits_switchParent {old : Ipv6Address}
    (spares : other = key → old.isAny = false →
      (∀ dodag, n.dodags[key]? = some dodag → dodag.parents.contains old = true) →
      n.Spares key old)
    (awaits : n.Awaits key sequence) : (n.switchParent other old).Awaits key sequence := by
  refine awaits_of_wait daoWait_scheduleDaoRefresh ?_
  exact awaits_of_wait (daoWait_modifyDodag fun _ _ => rfl) (awaits_withdrawThrough spares awaits)

theorem awaits_takeParent {best : Candidate} (held : n.dodags[other]? = some dodag)
    (spares : other = key → best.address ≠ dodag.preferredParent →
      dodag.preferredParent.isAny = false → dodag.parents.contains dodag.preferredParent = true →
      n.waitsAndAdvertises dodag dodag.preferredParent = false)
    (awaits : n.Awaits key sequence) : (n.takeParent other dodag best).Awaits key sequence := by
  have here : Rests n other dodag dodag.toDodagPlace n := ⟨rfl, rfl, dodag, held, rfl, rfl, rfl⟩
  have adopted := here.modifyPlace fun _ => dodag.adoptParent best
  have taken : (n.modifyPlace other fun _ => dodag.adoptParent best).Awaits key sequence :=
    awaits_of_wait daoWait_modifyPlace awaits
  unfold takeParent
  dsimp only
  generalize (n.modifyPlace other fun _ => dodag.adoptParent best) = m at adopted taken ⊢
  have marked : Rests n other dodag (dodag.adoptParent best)
      (m.mark (.ranked other (dodag.adoptParent best).rank)) :=
    ⟨adopted.now, adopted.ipv6, adopted.held⟩
  have markedAwaits : (m.mark (.ranked other (dodag.adoptParent best).rank)).Awaits key sequence :=
    awaits_of_wait rfl taken
  split
  · next moves =>
    refine awaits_switchParent (fun keyed named neighbour => ?_) markedAwaits
    subst keyed
    obtain ⟨member, heldMember, placed, -⟩ := marked.held
    have contained := neighbour member heldMember
    rw [placed] at contained
    exact marked.spares rfl rfl (spares rfl moves.1 named contained)
  · exact markedAwaits

/-- Where no parent is left, the membership ends. -/
theorem absent_of_losesLast (held : n.dodags[key]? = some dodag) (router : dodag.isRoot = false)
    (loses : dodag.losesLast n.now = true) :
    (n.selectPreferredParent key).2.dodags[key]? = none := by
  have gone : (n.selectPreferredParent key).2.standing.held[key]? = none := by
    rw [standing_selectPreferredParent, Standing.select, held_member held]
    have notRoot : ¬dodag.member.place.isRoot = true := by
      rw [DodagMembership.member_place, router]
      exact Bool.false_ne_true
    have swept : n.standing.swept dodag.member = dodag.toDodagPlace.sweep n.now fun _ => true := rfl
    obtain ⟨none, changed⟩ := (Bool.and_eq_true _ _).mp loses
    dsimp only
    rw [if_neg notRoot, swept, if_neg (by rw [changed]; exact Bool.false_ne_true), if_pos none,
      Standing.held_leave, if_pos rfl]
  rw [standing_held] at gone
  exact Option.map_eq_none_iff.mp gone

/-- The selection leaves the wait alone when it moves a membership that waits away from no
parent. -/
theorem awaits_selectPreferredParent (keeps : other = key → ¬n.MovesAway key)
    (awaits : n.Awaits key sequence) :
    (n.selectPreferredParent other).2.Awaits key sequence := by
  cases held : n.dodags[other]? with
  | none =>
    unfold selectPreferredParent
    rw [held]
    exact awaits
  | some dodag =>
    cases root : dodag.isRoot with
    | true =>
      unfold selectPreferredParent
      rw [held]
      dsimp only
      rw [if_pos root]
      exact awaits
    | false =>
      by_cases loses : other = key ∧ dodag.losesLast n.now = true
      · obtain ⟨rfl, loses⟩ := loses
        exact awaits_of_absent (absent_of_losesLast held root loses)
      · -- a withdrawal of this membership would be one through a parent it moves away from
        have spares (keyed : other = key) (forsakes : dodag.forsakes n.now = true) :
            n.waitsAndAdvertises dodag dodag.preferredParent = false := by
          subst keyed
          have stays : dodag.losesLast n.now = false :=
            Bool.eq_false_of_not_eq_true fun lost => loses ⟨rfl, lost⟩
          exact Bool.eq_false_of_not_eq_true fun waits =>
            keeps rfl ⟨dodag, held, root, waits, forsakes, stays⟩
        have swept : (n.sweepParents other).Awaits key sequence := by
          refine awaits_sweepParents awaits fun member same keyed stale => ?_
          obtain rfl := Option.some.inj (held.symm.trans same)
          exact spares keyed (by rw [DodagPlace.forsakes, stale]; rfl)
        have rests := rests_sweepParents held
        unfold selectPreferredParent
        rw [held]
        dsimp only
        rw [if_neg (by rw [root]; exact Bool.false_ne_true)]
        obtain ⟨member, heldMember, placed, pending, prefixInfo⟩ := rests.held
        rw [heldMember]
        dsimp only
        rw [placed]
        generalize placeIs : dodag.toDodagPlace.sweep n.now (fun _ => true) = place at *
        split
        · exact swept
        split
        · next changed none =>
          have distinct : other ≠ key := fun keyed => loses ⟨keyed, by
            rw [DodagPlace.losesLast, placeIs, none]
            simpa using changed⟩
          refine awaits_of_wait daoWait_scheduleSolicitation (awaits_leaveDodag true ?_)
          exact awaits_withdrawThrough (fun keyed => absurd keyed distinct) swept
        · refine awaits_takeParent heldMember (fun keyed moves named neighbour => ?_) swept
          have forsakes : dodag.forsakes n.now = true := by
            have same : place.preferredParent = dodag.preferredParent := by rw [← placeIs]; rfl
            rw [placed] at moves named neighbour
            rw [DodagPlace.forsakes, placeIs, ← same, named, neighbour, decide_eq_true moves]
            exact Bool.or_true _
          rw [placed]
          subst keyed
          have spared : (n.sweepParents other).Spares other dodag.preferredParent :=
            rests.spares (by rw [← placeIs]; rfl) (by rw [← placeIs]; rfl) (spares rfl forsakes)
          have same : place.preferredParent = dodag.preferredParent := by rw [← placeIs]; rfl
          rw [same]
          exact spared member heldMember

theorem awaits_selectAndReset (keeps : other = key → ¬n.MovesAway key)
    (awaits : n.Awaits key sequence) : (n.selectAndReset other).Awaits key sequence := by
  have selected := awaits_selectPreferredParent keeps awaits
  unfold selectAndReset
  dsimp only
  split
  · exact awaits_of_wait ((daoWait_aside key).resetTrickle other) selected
  · exact selected

theorem awaits_selectAndReset_of_absent
    (gone : (n.selectPreferredParent key).2.dodags[key]? = none) :
    (n.selectAndReset key).Awaits key sequence := by
  unfold selectAndReset
  dsimp only
  split
  · exact awaits_of_wait ((daoWait_aside key).resetTrickle key) (awaits_of_absent gone)
  · exact awaits_of_absent gone

/-- The selection at a node that rests where another one was moves away from the parent that
one had. -/
theorem Rests.movesAway {place : DodagPlace} (rests : Rests n key dodag place m)
    (mop : place.mop = dodag.mop) (dodagId : place.dodagId = dodag.dodagId)
    (parent : place.preferredParent = dodag.preferredParent) (away : m.MovesAway key) :
    n.waitsAndAdvertises dodag dodag.preferredParent = true ∧ place.forsakes n.now = true ∧
      place.losesLast n.now = false := by
  obtain ⟨member, held, -, waits, forsakes, stays⟩ := away
  obtain ⟨other, heldOther, placed, -⟩ := rests.held
  obtain rfl := Option.some.inj (heldOther.symm.trans held)
  rw [placed, rests.now] at forsakes stays
  refine ⟨Bool.of_not_eq_false fun spares => ?_, forsakes, stays⟩
  have spared := rests.spares mop dodagId spares other held
  rw [placed, parent] at waits
  exact absurd (spared.symm.trans waits) Bool.false_ne_true

theorem awaits_handlePoison {sender : Ipv6Address} (held : n.dodags[key]? = some dodag)
    (router : dodag.isRoot = false)
    (keeps : n.waitsAndAdvertises dodag dodag.preferredParent = true →
      (sender = dodag.preferredParent ∨
        (withoutNeighbour sender dodag.toDodagPlace).forsakes n.now = true) →
      (withoutNeighbour sender dodag.toDodagPlace).losesLast n.now = true)
    (awaits : n.Awaits key sequence) : (n.handlePoison key sender).Awaits key sequence := by
  have here : Rests n key dodag dodag.toDodagPlace n := ⟨rfl, rfl, dodag, held, rfl, rfl, rfl⟩
  have withdrawn : Rests n key dodag dodag.toDodagPlace
      (if sender = dodag.preferredParent then n.sendNoPathDao key sender else n) := by
    split
    · exact here.sendNoPathDao sender
    · exact here
  have erased := withdrawn.modifyPlace (withoutNeighbour sender)
  unfold handlePoison
  rw [held]
  dsimp only
  change (((if sender = dodag.preferredParent then n.sendNoPathDao key sender
    else n).modifyPlace key
    (withoutNeighbour sender)).selectAndReset key).Awaits key sequence
  by_cases loses : (withoutNeighbour sender dodag.toDodagPlace).losesLast n.now = true
  · obtain ⟨member, heldMember, placed, -⟩ := erased.held
    exact awaits_selectAndReset_of_absent (absent_of_losesLast heldMember
      (by rw [placed]; exact router) (by rw [placed, erased.now]; exact loses))
  · have spares (gives : sender = dodag.preferredParent ∨
        (withoutNeighbour sender dodag.toDodagPlace).forsakes n.now = true) :
        n.waitsAndAdvertises dodag dodag.preferredParent = false :=
      Bool.eq_false_of_not_eq_true fun waits => loses (keeps waits gives)
    refine awaits_selectAndReset (fun _ away => ?_) (awaits_of_wait daoWait_modifyPlace ?_)
    · obtain ⟨waits, forsakes, -⟩ := erased.movesAway rfl rfl rfl away
      exact absurd ((spares (.inr forsakes)).symm.trans waits) Bool.false_ne_true
    · split
      · next parent =>
        refine awaits_sendNoPathDao (fun _ => ?_) awaits
        exact here.spares rfl rfl (by rw [parent]; exact spares (.inl parent))
      · exact awaits

/-! ## Steps in which the membership is not withdrawn -/

/-- Where the DODAG goes through no round of parent selection, the wait stays what it is. -/
def Settles (key : DodagKey) (rounds : ℕ) (n m : Node) : Prop :=
  rounds = 0 → ∀ sequence, n.Awaits key sequence → m.Awaits key sequence

theorem settles_frame (key : DodagKey) : DaoFrame key (daoWait key) (Settles key) where
  aside := daoWait_aside key
  same same _ _ := awaits_of_wait same
  trans first second none sequence awaits :=
    second (Nat.eq_zero_of_add_eq_zero_left none) sequence
      (first (Nat.eq_zero_of_add_eq_zero_right none) sequence awaits)
  mono settles le none := settles (Nat.eq_zero_of_le_zero (none ▸ le))
  leave _ _ _ _ := awaits_leaveDodag false
  join _ dio interface _ _ _ := awaits_joinDodag dio interface
  adopt n dio dodag _ _ _ := by
    have marked (m : Node) (milestone : Milestone) :
        (m.mark milestone).daoWait key = m.daoWait key := rfl
    unfold adoptVersion
    split
    · exact awaits_of_wait ((marked _ _).trans daoWait_modifyPlace)
    · exact id
  update n dio heard _ _ awaits := by
    unfold updateParent
    split
    · exact awaits
    · next dodag held =>
      dsimp only
      split
      · refine awaits_of_wait daoWait_scheduleDaoRefresh ?_
        exact awaits_of_wait (daoWait_setDodag held fun _ => rfl) awaits
      · exact awaits_of_wait (daoWait_setDodag held fun _ => rfl) awaits
  select _ other none _ :=
    awaits_selectPreferredParent fun keyed => absurd none (by rw [keyed, rounds_self]; decide)
  poison n other sender none _ awaits := by
    have distinct : other ≠ key := fun keyed => by
      rw [keyed, rounds_self] at none
      exact absurd none Nat.one_ne_zero
    unfold handlePoison
    split
    · exact awaits
    · dsimp only
      refine awaits_selectAndReset (fun keyed => absurd keyed distinct) ?_
      refine awaits_of_wait daoWait_modifyPlace ?_
      split
      · exact awaits_sendNoPathDao (fun keyed => absurd keyed distinct) awaits
      · exact awaits
  stop n interface other none _ awaits := by
    have distinct : other ≠ key := fun keyed => by
      rw [keyed, rounds_self] at none
      exact absurd none Nat.one_ne_zero
    exact awaits_selectAndReset (fun keyed => absurd keyed distinct)
      (awaits_of_wait daoWait_modifyPlace awaits)
  daoAck n ack _ _ awaits := by
    unfold handleDaoAck
    dsimp only
    split
    · exact awaits
    · next dodag held =>
      split
      · rw [setDodag_of_held held]
        exact awaits_made rfl rfl awaits
      · exact awaits
  solicits _ _ solicits _ _ :=
    awaits_of_wait ((daoWait_aside key).solicits (fun _ _ => rfl) solicits)

theorem awaits_of_ends (ends : Ends (daoWait key) (Settles key 0) n m)
    (awaits : n.Awaits key sequence) : m.Awaits key sequence := by
  cases ends with
  | plain goes => exact goes rfl sequence awaits
  | forms goes creates same =>
    exact awaits_of_wait same (awaits_createDodagMembership creates (goes rfl sequence awaits))

/-- What the wait and the withdrawals do not depend on does not make a membership move away. -/
theorem movesAway_of_modifyDodag {f : DodagMembership → DodagMembership}
    (away : (n.modifyDodag key f).MovesAway key)
    (same : ∀ dodag, (f dodag).toDodagPlace = dodag.toDodagPlace ∧
      (f dodag).daoAckPending = dodag.daoAckPending ∧ (f dodag).prefixInfo = dodag.prefixInfo) :
    n.MovesAway key := by
  cases held : n.dodags[key]? with
  | none => rwa [modifyDodag_of_absent held] at away
  | some dodag =>
    have heldAfter : (n.modifyDodag key f).dodags[key]? = some (f dodag) := by
      unfold modifyDodag
      rw [OrderedMap.getElem?_modify_eq, if_pos rfl, held]
      rfl
    have rests : Rests n key dodag dodag.toDodagPlace (n.modifyDodag key f) :=
      ⟨rfl, rfl, f dodag, heldAfter, same dodag⟩
    obtain ⟨waits, forsakes, stays⟩ := rests.movesAway rfl rfl rfl away
    obtain ⟨member, heldMember, router, -⟩ := away
    obtain rfl := Option.some.inj (heldAfter.symm.trans heldMember)
    rw [(same dodag).1] at router
    exact ⟨dodag, held, router, waits, forsakes, stays⟩

theorem awaits_selectAfterDio {dio : DioHeader} {sender : Ipv6Address}
    (keeps : ¬n.MovesAway dio.key) (awaits : n.Awaits key sequence) :
    (n.selectAfterDio dio sender).Awaits key sequence := by
  have counted (m : Node) : (m.modifyDodag dio.key fun dodag =>
      { dodag with dioTrickle := dodag.dioTrickle.consistencyHit }).daoWait key =
        m.daoWait key := daoWait_modifyDodag fun _ _ => rfl
  have keepsKeyed (keyed : dio.key = key) : ¬n.MovesAway key := keyed ▸ keeps
  unfold selectAfterDio
  split
  · have selected := awaits_selectPreferredParent keepsKeyed awaits
    unfold selectTemporary
    split
    · exact awaits
    · dsimp only
      split
      · exact selected
      · split
        · exact awaits_of_wait ((daoWait_aside key).resetTrickle _) selected
        split
        · exact awaits_of_wait (counted _) selected
        · exact selected
  · unfold selectOrdinary
    split
    · exact awaits
    · dsimp only
      split
      · exact awaits_selectAndReset keepsKeyed awaits
      · refine awaits_selectAndReset (fun keyed away => keeps ?_)
          (awaits_of_wait (counted n) awaits)
        rw [← keyed] at away
        exact movesAway_of_modifyDodag away fun _ => ⟨rfl, rfl, rfl⟩

theorem awaits_handleDio {dio : DioHeader} {heard : Reception} (keyed : dio.key = key)
    (foreign : heard.sender ≠ n.ipv6.getLinkLocalAddress heard.interface)
    (stays : ¬n.Withdraws key (.receive heard (.dio dio))) (awaits : n.Awaits key sequence) :
    (n.handleDio dio heard).Awaits key sequence := by
  have frame := settles_frame key
  unfold handleDio
  split
  · exact awaits
  · next kept =>
    rw [Bool.not_eq_true] at kept
    split
    · exact awaits_of_wait ((daoWait_aside key).handleAodvRrep ..) awaits
    next multicast =>
    split
    · exact awaits
    next accepts =>
    rw [Bool.not_eq_true] at multicast accepts
    split
    · next infinite =>
      cases held : n.dodags[dio.key]? with
      | none =>
        unfold handlePoison
        rw [held]
        exact awaits
      | some dodag =>
        have router : dodag.isRoot = false := by
          simp only [dropsDio, held, Option.any_some, Bool.or_eq_false_iff] at kept
          exact kept.1.1.1.2
        have takes : n.takesPoison dio heard = true := by
          simp only [takesPoison, kept, accepts, multicast, infinite, decide_true, ne_eq, foreign,
            not_false_eq_true, Bool.not_false, Bool.and_self]
        subst keyed
        refine awaits_handlePoison held router (fun waits gives => ?_) awaits
        exact Bool.of_not_eq_false fun goesOn =>
          stays (.poisoned takes rfl held waits gives goesOn)
    next finite =>
    split
    · exact awaits
    · next entered enters =>
      have takes : n.takesDio dio heard = true := by
        simp only [takesDio, kept, accepts, multicast, finite, decide_true, ne_eq, foreign,
          not_false_eq_true, Bool.not_false, Bool.and_self]
      have fits : discoveryOptionsFit dio = true := by
        simpa [dropsDio] using (Bool.or_eq_false_iff.mp kept).2
      have taken := frame.update entered dio heard rfl sequence
        (frame.enterVersion enters rfl sequence awaits)
      have selected : ((entered.updateParent dio heard).selectAfterDio dio heard.sender).Awaits key
          sequence :=
        awaits_selectAfterDio
          (fun away => stays (.chosen takes enters keyed (keyed ▸ away))) taken
      exact awaits_of_ends (frame.handleDiscovery _ heard fits) selected

theorem awaits_trickleTransmit (stays : ¬n.Withdraws key (.fire (.trickleTransmit key)))
    (awaits : n.Awaits key sequence) : (n.trickleTransmit key).Awaits key sequence := by
  unfold trickleTransmit
  split
  · exact awaits
  · next dodag held =>
    have counted : (n.modifyDodag key fun dodag =>
        { dodag with dioTrickle := dodag.dioTrickle.transmitEvent }).Awaits key sequence :=
      awaits_of_wait (daoWait_modifyDodag fun _ _ => rfl) awaits
    dsimp only
    split
    · next transmits =>
      refine awaits_of_wait ((daoWait_aside key).sendDio ..) ?_
      refine awaits_selectPreferredParent (fun _ away => stays (.trickled held transmits ?_))
        counted
      exact movesAway_of_modifyDodag away fun _ => ⟨rfl, rfl, rfl⟩
    · exact counted

theorem awaits_stopInterface {interface : Nat} (stays : ¬n.Withdraws key (.stopInterface interface))
    (awaits : n.Awaits key sequence) : (n.stopInterface interface).Awaits key sequence := by
  have frame := settles_frame key
  unfold stopInterface
  split
  · next runs =>
    have detached : ({ n with sockets := n.sockets.erase interface } : Node).Awaits key sequence :=
      awaits_of_wait ((daoWait_aside key).findings n { n.findings with sockets := _ }) awaits
    have nodup : n.dodags.keys.Nodup := ExtTreeMap.nodup_keys
    dsimp only
    by_cases mem : key ∈ n.dodags.keys
    · obtain ⟨done, rest, keys⟩ := List.append_of_mem mem
      rw [keys] at nodup ⊢
      obtain ⟨-, restNodup, apart⟩ := List.nodup_append.mp nodup
      have before : done.count key = 0 :=
        List.count_eq_zero.mpr fun inDone => apart key inDone key List.mem_cons_self rfl
      have behind : rest.count key = 0 := List.count_eq_zero.mpr (List.nodup_cons.mp restNodup).1
      have upTo : (n.stoppedUpTo interface done).Awaits key sequence :=
        frame.stopInterfaces interface done _ before sequence detached
      rw [List.foldl_append, List.foldl_cons]
      refine frame.stopInterfaces interface rest _ behind sequence ?_
      refine awaits_selectAndReset (fun _ away => stays (.stopped runs keys away)) ?_
      exact awaits_of_wait daoWait_modifyPlace upTo
    · exact frame.stopInterfaces interface _ _ (List.count_eq_zero.mpr mem) sequence detached
  · exact awaits

/-! ## The DAO timers -/

theorem daoWait_modifyDodag_self (f : DodagMembership → DodagMembership) :
    (n.modifyDodag key f).daoWait key = (n.dodags[key]?).map fun dodag => (f dodag).daoWait := by
  unfold daoWait modifyDodag
  rw [OrderedMap.getElem?_modify_eq, if_pos rfl, Option.map_map]
  rfl

/-- A timer of the membership, cleared as it fires, has no part in what the event asks for. -/
theorem asksUnder_modifyDodag {f : DodagMembership → DodagMembership} (e : Event)
    (same : ∀ dodag, (f dodag).toDodagPlace = dodag.toDodagPlace ∧
      (f dodag).prefixInfo = dodag.prefixInfo ∧ (f dodag).daoSequence = dodag.daoSequence ∧
      (f dodag).daoAckPending = dodag.daoAckPending ∧
      (f dodag).daoRetriesLeft = dodag.daoRetriesLeft) :
    (n.modifyDodag key f).asksUnder key e = n.asksUnder key e := by
  cases held : n.dodags[key]? with
  | none => rw [modifyDodag_of_absent held]
  | some dodag =>
    have heldAfter : (n.modifyDodag key f).dodags[key]? = some (f dodag) := by
      unfold modifyDodag
      rw [OrderedMap.getElem?_modify_eq, if_pos rfl, held]
      rfl
    obtain ⟨place, prefixInfo, sequence, pending, left⟩ := same dodag
    unfold asksUnder
    split
    · rw [held, heldAfter]
      unfold canAdvertise getGlobalAddressIn getGlobalAddress DodagMembership.globalAddressOf
      simp only [Option.bind_some, place, prefixInfo, sequence]
      rfl
    · rw [held, heldAfter]
      simp only [Option.bind_some, pending, left, sequence]
    · rfl

/-- `SendDao` waits for the acknowledgement of the DAO it sends. -/
theorem awaits_sendDao (asks : n.asksUnder key (.fire (.dao key)) = some sequence) :
    (n.sendDao key).Awaits key sequence := by
  obtain ⟨dodag, held, asks⟩ := Option.bind_eq_some_iff.mp asks
  simp only [ne_eq, not_true_eq_false, decide_false, Bool.false_or] at asks
  split at asks
  · cases asks
  · next goes =>
    cases asks
    unfold sendDao
    rw [held]
    dsimp only
    rw [if_neg goes]
    intro wait waiting
    rw [daoWait_modifyDodag_self] at waiting
    obtain ⟨member, heldMember, rfl⟩ := Option.map_eq_some_iff.mp waiting
    refine ⟨fun _ => ?_, fun idle => absurd idle Bool.noConfusion⟩
    obtain ⟨sent, emits⟩ := sendDaoTo_emits (n.setDodag key _) _ _ _
    unfold sendDaoMessage at heldMember
    rw [emits, emit_dodags, setDodag, ExtTreeMap.getElem?_insert_self] at heldMember
    cases heldMember
    split
    · rfl
    · rfl

/-- `DaoRetry` waits for the acknowledgement of the DAO it sends again. -/
theorem awaits_retry (asks : n.asksUnder key (.fire (.daoRetry key)) = some sequence) :
    (n.daoRetry key).Awaits key sequence := by
  obtain ⟨dodag, held, asks⟩ := Option.bind_eq_some_iff.mp asks
  simp only [ne_eq, not_true_eq_false, decide_false, Bool.false_or] at asks
  split at asks
  · cases asks
  · next goes =>
    cases asks
    rw [Bool.or_eq_true, not_or, decide_eq_true_iff] at goes
    unfold daoRetry
    rw [held]
    dsimp only
    rw [if_neg goes.1, if_neg goes.2]
    intro wait waiting
    rw [daoWait_modifyDodag_self] at waiting
    obtain ⟨member, heldMember, rfl⟩ := Option.map_eq_some_iff.mp waiting
    refine ⟨fun _ => ?_, fun idle => ?_⟩
    all_goals
      obtain ⟨sent, emits⟩ := sendDaoTo_emits (n.setDodag key _) _ _ _
      unfold sendDaoMessage at heldMember
      rw [emits, emit_dodags, setDodag, ExtTreeMap.getElem?_insert_self] at heldMember
      cases heldMember
    · rfl
    · exact absurd (congrArg Bool.not idle) goes.1

theorem sendDao_of_quiet (quiet : n.asksUnder key (.fire (.dao key)) = none) :
    n.sendDao key = n := by
  unfold sendDao
  cases held : n.dodags[key]? with
  | none => rfl
  | some dodag =>
    dsimp only
    refine if_pos (Bool.of_not_eq_false fun goes => ?_)
    rw [asksUnder, held, Option.bind_some] at quiet
    simp only [ne_eq, not_true_eq_false, decide_false, Bool.false_or, goes, Bool.false_eq_true,
      if_false] at quiet
    cases quiet

theorem daoWait_sendDao (distinct : other ≠ key) :
    (n.sendDao other).daoWait key = n.daoWait key := by
  unfold sendDao
  split
  · rfl
  · next dodag held =>
    split
    · rfl
    · dsimp only
      refine (daoWait_modifyDodag fun _ keyed => absurd keyed distinct).trans ?_
      refine (daoWait_emits (sendDaoTo_emits ..)).trans ?_
      exact daoWait_setDodag held fun keyed => absurd keyed distinct

theorem asksUnder_other (distinct : other ≠ key) :
    n.asksUnder key (.fire (.dao other)) = none ∧
      n.asksUnder key (.fire (.daoRetry other)) = none := by
  unfold asksUnder
  simp only [ne_eq, distinct, not_false_eq_true, decide_true, Bool.true_or, if_true]
  cases n.dodags[key]? with
  | none => exact ⟨rfl, rfl⟩
  | some dodag => exact ⟨rfl, rfl⟩

theorem daoWait_daoTimerExpire (quiet : n.asksUnder key (.fire (.dao other)) = none) :
    (n.daoTimerExpire other).daoWait key = n.daoWait key := by
  have sent : (n.sendDao other).daoWait key = n.daoWait key := by
    by_cases keyed : other = key
    · subst keyed
      rw [sendDao_of_quiet quiet]
    · exact daoWait_sendDao keyed
  unfold daoTimerExpire
  rw [daoWait_modifyDodag, sent]
  exact fun _ _ => rfl

theorem awaits_fire_dao (quiet : n.asksUnder key (.fire (.dao other)) = none)
    (awaits : n.Awaits key sequence) : (n.fire (.dao other)).Awaits key sequence := by
  refine awaits_of_wait (Eq.trans (b := (n.modifyDodag other fun dodag =>
    { dodag with daoEvent := none }).daoWait key) ?_ (daoWait_modifyDodag fun _ _ => rfl)) awaits
  have quietToo : (n.modifyDodag other fun dodag => { dodag with daoEvent := none }).asksUnder key
      (.fire (.dao other)) = none := by
    by_cases keyed : other = key
    · subst keyed
      refine (asksUnder_modifyDodag _ ?_).trans quiet
      exact fun _ => ⟨rfl, rfl, rfl, rfl, rfl⟩
    · exact (asksUnder_other keyed).1
  change ((n.modifyDodag other fun dodag => { dodag with daoEvent := none }).daoEventFire
    other).daoWait key = _
  generalize (n.modifyDodag other fun dodag => { dodag with daoEvent := none }) = m at quietToo ⊢
  unfold daoEventFire
  split
  · rfl
  · split
    · exact daoWait_modifyDodag fun _ _ => rfl
    · exact daoWait_daoTimerExpire quietToo

theorem awaits_daoRetry (quiet : n.asksUnder key (.fire (.daoRetry other)) = none)
    (cleared : ∀ dodag, n.dodags[other]? = some dodag → dodag.daoRetryEvent = none)
    (awaits : n.Awaits key sequence) : (n.daoRetry other).Awaits key sequence := by
  unfold daoRetry
  split
  · exact awaits
  · next dodag held =>
    split
    · exact awaits
    · next pending =>
      split
      · rw [setDodag_of_held held]
        exact awaits_made rfl (cleared dodag held) awaits
      · next left =>
        by_cases keyed : other = key
        · subst keyed
          simp only [asksUnder, held, Option.bind_some, ne_eq, not_true_eq_false, decide_false,
            pending, left, Bool.or_self, Bool.false_eq_true, if_false] at quiet
          cases quiet
        · refine awaits_of_wait ?_ awaits
          dsimp only
          rw [daoWait_modifyDodag fun _ here => absurd here keyed, sendDaoMessage,
            daoWait_emits (sendDaoTo_emits ..)]
          exact daoWait_setDodag held fun here => absurd here keyed

theorem awaits_fire_daoRetry (quiet : n.asksUnder key (.fire (.daoRetry other)) = none)
    (awaits : n.Awaits key sequence) : (n.fire (.daoRetry other)).Awaits key sequence := by
  change ((n.modifyDodag other fun dodag => { dodag with daoRetryEvent := none }).daoRetry
    other).Awaits key sequence
  cases held : n.dodags[other]? with
  | none =>
    rw [modifyDodag_of_absent held]
    refine awaits_daoRetry quiet (fun dodag same => ?_) awaits
    rw [held] at same
    cases same
  | some dodag =>
    refine awaits_daoRetry ?_ (fun member same => ?_) ?_
    · by_cases keyed : other = key
      · subst keyed
        refine (asksUnder_modifyDodag _ ?_).trans quiet
        exact fun _ => ⟨rfl, rfl, rfl, rfl, rfl⟩
      · exact (asksUnder_other keyed).2
    · unfold modifyDodag at same
      rw [OrderedMap.getElem?_modify_eq, if_pos rfl, held] at same
      cases same
      rfl
    · by_cases keyed : other = key
      · subst keyed
        intro wait waiting
        rw [daoWait_modifyDodag_self, held] at waiting
        cases waiting
        exact ⟨(awaits dodag.daoWait (by rw [daoWait, held]; rfl)).waits, fun _ => rfl⟩
      · exact awaits_of_wait (daoWait_modifyDodag fun _ here => absurd here keyed) awaits

theorem daoWait_handleDao (dao : DaoHeader) (sender : Ipv6Address) (interface : Nat) :
    (n.handleDao dao sender interface).daoWait key = n.daoWait key := by
  unfold handleDao
  split
  · rfl
  · next other dodag found =>
    split
    · rfl
    · dsimp only
      generalize handled : dodag.handleTargets _ dao.entries = progress
      rw [daoWait_emits (acknowledgeDao_emits ..), daoWait_emits (relayDao_emits ..)]
      refine daoWait_setDodag (daoMembership_held found).1 fun _ => ?_
      rw [← handled, dodag.handleTargets_onlyTables]
      rfl

/-- An event that asks for no acknowledgement in the DODAG, and in which its membership is not
withdrawn while it waits, leaves the wait what it is. -/
theorem awaits_apply {e : Event} (quiet : n.asksUnder key e = none) (stays : ¬n.Withdraws key e)
    (awaits : n.Awaits key sequence) : (n.apply e).Awaits key sequence := by
  have ordinary (kind : DaoFrame.Ordinary e) (none : DaoFrame.roundsIn key e = 0) :
      (n.apply e).Awaits key sequence :=
    awaits_of_ends (none ▸ (settles_frame key).apply_rounds n kind) awaits
  cases e with
  | tick later => exact awaits_of_wait rfl awaits
  | receive heard message =>
    change (n.recvRpl heard message).Awaits key sequence
    cases message with
    | dao dao =>
      unfold recvRpl
      split
      · exact awaits
      · exact awaits_of_wait (daoWait_handleDao ..) awaits
    | dio dio =>
      by_cases keyed : dio.key = key
      · unfold recvRpl
        split
        · exact awaits
        · next foreign => exact awaits_handleDio keyed foreign stays awaits
      · exact ordinary trivial (if_neg keyed)
    | _ => exact ordinary trivial rfl
  | fire timer =>
    cases timer with
    | dao other => exact awaits_fire_dao quiet awaits
    | daoRetry other => exact awaits_fire_daoRetry quiet awaits
    | trickleTransmit other =>
      by_cases keyed : other = key
      · subst keyed
        exact awaits_trickleTransmit stays awaits
      · exact ordinary trivial (if_neg keyed)
    | _ => exact ordinary trivial rfl
  | stopInterface interface => exact awaits_stopInterface stays awaits
  | _ => exact ordinary trivial rfl

/-- The node waits for the acknowledgement of the DAO it asks for. -/
theorem awaits_of_asks {e : Event} (asks : n.asksUnder key e = some sequence) :
    (n.apply e).Awaits key sequence := by
  cases e with
  | fire timer =>
    cases timer with
    | dao other =>
      by_cases keyed : other = key
      · subst keyed
        have asksToo : (n.modifyDodag other fun dodag =>
            { dodag with daoEvent := none }).asksUnder other (.fire (.dao other)) =
              some sequence := by
          refine (asksUnder_modifyDodag _ ?_).trans asks
          exact fun _ => ⟨rfl, rfl, rfl, rfl, rfl⟩
        change ((n.modifyDodag other fun dodag => { dodag with daoEvent := none }).daoEventFire
          other).Awaits other sequence
        generalize (n.modifyDodag other fun dodag =>
          { dodag with daoEvent := none }) = m at asksToo ⊢
        unfold daoEventFire
        cases held : m.dodags[other]? with
        | none =>
          rw [asksUnder, held] at asksToo
          cases asksToo
        | some dodag =>
          dsimp only
          split
          · next root =>
            rw [asksUnder, held] at asksToo
            simp only [Option.bind_some, root, Bool.or_true, Bool.true_or, if_true] at asksToo
            cases asksToo
          · exact awaits_of_wait (daoWait_modifyDodag fun _ _ => rfl) (awaits_sendDao asksToo)
      · exact absurd ((asksUnder_other keyed).1.symm.trans asks) nofun
    | daoRetry other =>
      by_cases keyed : other = key
      · subst keyed
        change ((n.modifyDodag other fun dodag => { dodag with daoRetryEvent := none }).daoRetry
          other).Awaits other sequence
        refine awaits_retry (.trans (asksUnder_modifyDodag _ ?_) asks)
        exact fun _ => ⟨rfl, rfl, rfl, rfl, rfl⟩
      · exact absurd ((asksUnder_other keyed).2.symm.trans asks) nofun
    | _ => cases asks
  | _ => cases asks

/-- The DAO-ACK the membership waits for ends the wait. -/
theorem idle_handleDaoAck {ack : DaoAckHeader}
    (named : (⟨ack.instanceId, ack.dodagId⟩ : DodagKey) = key) (answers : ack.sequence = sequence)
    (accepted : ack.status = 0) (awaits : n.Awaits key sequence)
    (held : (n.handleDaoAck ack).dodags[key]? = some dodag) :
    dodag.daoAckPending = false ∧ dodag.daoRetryEvent = none := by
  unfold handleDaoAck at held
  rw [named] at held
  dsimp only at held
  cases heldBefore : n.dodags[key]? with
  | none =>
    rw [heldBefore] at held
    exact absurd (heldBefore.symm.trans held) nofun
  | some before =>
    have waits := awaits before.daoWait (by rw [daoWait, heldBefore]; rfl)
    rw [heldBefore] at held
    dsimp only at held
    split at held
    · unfold modifyDodag at held
      rw [OrderedMap.getElem?_modify_eq, if_pos rfl, heldBefore] at held
      cases held
      exact ⟨rfl, rfl⟩
    · next passed =>
      obtain rfl := Option.some.inj (heldBefore.symm.trans held)
      have idle : before.daoAckPending = false := Bool.eq_false_of_not_eq_true fun pending =>
        passed ⟨answers.trans (waits.waits pending).symm, accepted⟩
      exact ⟨idle, waits.idle idle⟩

/-- From when the node asks for the acknowledgement of a DAO, and as long as it asks for no other
in the DODAG and no No-Path DAO goes out for the membership while it waits, the DAO-ACK of that
DAO ends the wait and its timer, whatever else the node has received, sent and relayed. -/
theorem daoAck_endsWait {e : Event} (asks : n.asksUnder key e = some sequence)
    (steps : nodeSystem.Steps (fun s f => s.asksUnder key f = none ∧ ¬s.Withdraws key f)
      (n.apply e) m)
    {ack : DaoAckHeader} (named : (⟨ack.instanceId, ack.dodagId⟩ : DodagKey) = key)
    (answers : ack.sequence = sequence) (accepted : ack.status = 0) {heard : Reception}
    (foreign : heard.sender ≠ m.ipv6.getLinkLocalAddress heard.interface)
    (held : (m.apply (.receive heard (.daoAck ack))).dodags[key]? = some dodag) :
    dodag.daoAckPending = false ∧ dodag.daoRetryEvent = none := by
  have awaits : m.Awaits key sequence :=
    steps.keeps (I := Awaits key sequence)
      (fun s f before _ condition => awaits_apply condition.1 condition.2 before)
      (awaits_of_asks asks)
  change (m.recvRpl heard (.daoAck ack)).dodags[key]? = some dodag at held
  have handled : m.recvRpl heard (.daoAck ack) = m.handleDaoAck ack := if_neg foreign
  rw [handled] at held
  exact idle_handleDaoAck named answers accepted awaits held

/-! ## A parent given up with the acknowledgement on its way -/

open Ledger (routerIpv6 fartherDio nearerDio)

/-- A router that has joined through the farther neighbour. -/
def fartherJoined : Node := (started routerIpv6).apply (hears fartherDio)

/-- It has sent its first DAO. -/
def firstAsked : Node := fartherJoined.apply (.fire (.dao fartherDio.key))

/-- The DIO of the nearer neighbour. -/
def hearsNearer : Event :=
  .receive { sender := 0xfe800000000000000000000000000003#128, interface := 1 } (.dio nearerDio)

/-- The answer to the first DAO. -/
def firstAck : DaoAckHeader := { sequence := 1, dodagId := fartherDio.dodagId }

/-- It comes from the farther neighbour. -/
def firstAckFrom : Reception :=
  { sender := 0xfe800000000000000000000000000001#128, interface := 1 }

theorem fartherJoined_facts :
    (1 ∈ fartherJoined.sockets ∧
      fartherJoined.timer (.dao fartherDio.key) = some fartherJoined.now ∧
      fartherJoined.asksUnder fartherDio.key (.fire (.dao fartherDio.key)) = some 1) ∧
    (1 ∈ firstAsked.sockets ∧
      firstAckFrom.sender ≠ firstAsked.ipv6.getLinkLocalAddress firstAckFrom.interface ∧
      ((firstAsked.apply (.receive firstAckFrom (.daoAck firstAck))).dodags[fartherDio.key]?).map
        DodagMembership.daoWait = some ⟨1, false, none⟩) ∧
    1 ∈ (firstAsked.apply hearsNearer).sockets ∧
      (((firstAsked.apply hearsNearer).apply
        (.receive firstAckFrom (.daoAck firstAck))).dodags[fartherDio.key]?).map
        DodagMembership.daoWait = some ⟨2, true, some (seconds 5)⟩ := by
  decide +kernel

/-- With the acknowledgement of its DAO on the way, the router hears of the nearer neighbour and
withdraws through the farther one.  The acknowledgement does not end the wait. -/
theorem firstAck_unmatched :
    nodeSystem.Reachable fartherJoined ∧
      fartherJoined.Enabled (.fire (.dao fartherDio.key)) ∧
      fartherJoined.asksUnder fartherDio.key (.fire (.dao fartherDio.key)) = some 1 ∧
      nodeSystem.Steps (fun s f => s.asksUnder fartherDio.key f = none)
        (fartherJoined.apply (.fire (.dao fartherDio.key))) (firstAsked.apply hearsNearer) ∧
      (firstAsked.apply hearsNearer).Enabled (.receive firstAckFrom (.daoAck firstAck)) ∧
      firstAck.sequence = 1 ∧ firstAck.status = 0 ∧
      ∃ dodag, ((firstAsked.apply hearsNearer).apply
          (.receive firstAckFrom (.daoAck firstAck))).dodags[fartherDio.key]? = some dodag ∧
        dodag.daoAckPending = true ∧ dodag.daoRetryEvent = some (seconds 5) := by
  obtain ⟨⟨-, due, asks⟩, ⟨listens, -⟩, stillListens, waits⟩ := fartherJoined_facts
  obtain ⟨dodag, held, wait⟩ := Option.map_eq_some_iff.mp waits
  refine ⟨run_hears (started_run _) (started_listens _) trivial, due, asks,
    .single ⟨hearsNearer, listens, rfl, rfl⟩, stillListens, rfl, rfl, dodag, held, ?_⟩
  exact ⟨congrArg DaoWait.pending wait, congrArg DaoWait.retry wait⟩

/-- A router below advertises itself, 2001:db8::5. -/
def hearsBelow : Event :=
  .receive { sender := 0xfe800000000000000000000000000005#128, interface := 1 }
    (.dao
      { dodagId := fartherDio.dodagId
        sequence := 9
        ackRequested := true
        target := 0x20010db8000000000000000000000005#128
        pathSequence := 240
        pathLifetime := 30 })

/-- The router has relayed the DAO and acknowledged it. -/
def firstRelayed : Node := firstAsked.apply hearsBelow

theorem firstRelayed_facts :
    firstRelayed.outputs.length = firstAsked.outputs.length + 2 ∧
      firstAckFrom.sender ≠ firstRelayed.ipv6.getLinkLocalAddress firstAckFrom.interface ∧
      (firstRelayed.dodags[fartherDio.key]?).map DodagMembership.daoAckPending = some true ∧
      ((firstRelayed.apply (.receive firstAckFrom (.daoAck firstAck))).dodags[
        fartherDio.key]?).isSome = true := by
  decide +kernel

/-- With a DAO relayed and acknowledged in between, the acknowledgement ends the wait. -/
theorem firstAck_matched :
    firstRelayed.outputs.length = firstAsked.outputs.length + 2 ∧
      (firstRelayed.dodags[fartherDio.key]?).map DodagMembership.daoAckPending = some true ∧
      ∃ dodag, (firstRelayed.apply (.receive firstAckFrom (.daoAck firstAck))).dodags[
          fartherDio.key]? = some dodag ∧
        dodag.daoAckPending = false ∧ dodag.daoRetryEvent = none := by
  obtain ⟨⟨-, -, asks⟩, ⟨listens, -⟩, -⟩ := fartherJoined_facts
  obtain ⟨sent, foreign, waits, holds⟩ := firstRelayed_facts
  obtain ⟨dodag, held⟩ := Option.isSome_iff_exists.mp holds
  have relays : nodeSystem.Steps (fun s f => s.asksUnder fartherDio.key f = none ∧
      ¬s.Withdraws fartherDio.key f) firstAsked firstRelayed :=
    .single ⟨hearsBelow, listens, ⟨rfl, nofun⟩, rfl⟩
  exact ⟨sent, waits, dodag, held, daoAck_endsWait asks relays rfl rfl rfl foreign held⟩

end Node

end Rpl
