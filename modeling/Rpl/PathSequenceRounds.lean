import Rpl.PathSequence
import Rpl.DaoFrame
import Rpl.ParentChoice
import Rpl.Moves
import Rpl.Edit

/-!
# The Path Sequence in a round of parent selection

A node withdraws through a parent it loses or gives up.  Wherever it does, it either ends the
membership, or switches to another parent and lets the Path Sequence step on once more, or had
no parent to advertise itself through in the first place.
-/

namespace Rpl

open Std

namespace Node

variable {n m after : Node} {own key : DodagKey} {address : Ipv6Address}
  {dodag changed : DodagMembership}

/-! ## The parts of parent selection -/

/-- What a function that works in one DODAG does to the account: it withdraws through it if the
account is of that DODAG, and leaves it alone otherwise. -/
structure Acts (own : DodagKey) (address : Ipv6Address) (key : DodagKey) (limit : ℕ)
    (n m : Node) : Prop where
  withdraws : (n.account own address).Withdraws (limit * rounds own key) (m.account own address)
  apart : key ≠ own → (m.account own address).seat = (n.account own address).seat

variable {limit more : ℕ}

theorem Acts.same (same : m.account own address = n.account own address) :
    Acts own address key 0 n m := by
  refine ⟨?_, fun _ => by rw [same]⟩
  rw [Nat.zero_mul]
  exact .same same

theorem Acts.mono (acts : Acts own address key limit n m) (le : limit ≤ more) :
    Acts own address key more n m :=
  ⟨acts.withdraws.mono (Nat.mul_le_mul_right _ le), acts.apart⟩

theorem Acts.trans (first : Acts own address key limit n m)
    (second : Acts own address key more m after) :
    Acts own address key (limit + more) n after := by
  refine ⟨?_, fun other => (second.apart other).trans (first.apart other)⟩
  rw [Nat.add_mul]
  exact first.withdraws.trans second.withdraws

/-- A No-Path DAO goes out behind a step of the Path Sequence. -/
theorem acts_withdrawal {dao : DaoHeader} (held : n.dodags[key]? = some dodag)
    (lasting : dodag.isTemporary = false) (sameKey : changed.key = dodag.key)
    (seat : changed.seat =
      { dodag.seat with pathSequence := sequenceIncrement dodag.pathSequence })
    (named : (⟨dao.instanceId, dao.dodagId⟩ : DodagKey) = dodag.key) (noPath : dao.isNoPath = true)
    (carries : dao.pathSequence = sequenceIncrement dodag.pathSequence) (viaParent : Ipv6Address) :
    Acts own address key 1 n ((n.setDodag key changed).sendDaoTo changed viaParent dao) := by
  obtain ⟨destination, hands⟩ := hands_sendDaoTo (n := n.setDodag key changed) changed viaParent dao
  obtain ⟨copies, unsent, sends⟩ := account_hands own address hands
  refine ⟨fun sound => ?_, fun other => ?_⟩
  · by_cases here : key = own
    · subst here
      have step := Account.withdraws_stepped copies (account_seat held) lasting noPath
        carries sound
      rw [rounds_self, sends]
      have set := account_setDodag_own address held sameKey
      rw [set, seat]
      exact step
    · -- the DAO names the other DODAG
      have other : dao.advertises own address = false := by
        refine not_advertises ?_
        rw [named, sound.keyed key dodag held]
        exact here
      have same : ((n.setDodag key changed).sendDaoTo changed viaParent dao).account own address =
          n.account own address := by
        rw [sends, unsent other, List.replicate_zero, List.append_nil]
        exact account_setDodag_other held sameKey here
      exact (Account.Withdraws.same same).mono (Nat.zero_le _) sound
  · rw [sends]
    change ((n.setDodag key changed).account own address).seat = _
    rw [account_setDodag_other held sameKey other]

theorem acts_sendNoPathDao (viaParent : Ipv6Address) :
    Acts own address key 1 n (n.sendNoPathDao key viaParent) := by
  have idle : Acts own address key 1 n n := (Acts.same rfl).mono (Nat.zero_le 1)
  unfold sendNoPathDao
  split
  · exact idle
  · next dodag held =>
    split
    · exact idle
    · next sends =>
      have lasting : dodag.isTemporary = false := by
        rw [Bool.not_eq_true, Bool.or_eq_false_iff] at sends
        exact sends.1
      refine acts_withdrawal held lasting ?_ ?_ ?_ ?_ ?_ viaParent
      · rfl
      · rfl
      · rfl
      · rfl
      · rfl

/-- Nothing is withdrawn through a temporary DODAG. -/
theorem sendNoPathDao_of_temporary (viaParent : Ipv6Address) (held : n.dodags[key]? = some dodag)
    (temporary : dodag.isTemporary = true) : n.sendNoPathDao key viaParent = n := by
  unfold sendNoPathDao
  rw [held]
  dsimp only
  rw [temporary, Bool.true_or, if_pos rfl]

theorem acts_withdrawThrough (parent : Ipv6Address) :
    Acts own address key 1 n (n.withdrawThrough key parent) := by
  have idle : Acts own address key 1 n n := (Acts.same rfl).mono (Nat.zero_le 1)
  unfold withdrawThrough
  split
  · exact idle
  · split
    · exact acts_sendNoPathDao parent
    · exact idle

theorem account_modifyPlace {f : DodagPlace → DodagPlace}
    (same : ∀ place, (f place).key = place.key)
    (seat : ∀ dodag : DodagMembership,
      DodagMembership.seat { dodag with toDodagPlace := f dodag.toDodagPlace } = dodag.seat) :
    (n.modifyPlace key f).account own address = n.account own address :=
  account_modifyDodag (fun dodag => same dodag.toDodagPlace) seat

theorem account_scheduleDaoRefresh :
    (n.scheduleDaoRefresh key).account own address = n.account own address := by
  unfold scheduleDaoRefresh
  split
  · rfl
  · split
    · rfl
    · dsimp only
      rw [account_modifyDodag]
      · exact (account_aside own address).drawJitter
      · exact fun _ => rfl
      · exact fun _ => rfl

theorem account_scheduleSolicitation :
    n.scheduleSolicitation.account own address = n.account own address := by
  unfold scheduleSolicitation
  split
  · rfl
  · rfl

theorem account_poisonDodag : (n.poisonDodag key).account own address = n.account own address := by
  unfold poisonDodag
  rw [(account_aside own address).sendDio, account_modifyPlace]
  · exact fun _ => rfl
  · exact fun _ => rfl

/-- The sweep leaves the membership with the swept place. -/
theorem held_sweepParents (held : n.dodags[key]? = some dodag) :
    ∃ swept, (n.sweepParents key).dodags[key]? = some swept ∧
      swept.toDodagPlace = dodag.sweep n.now fun _ => true := by
  have sweptHeld : ((n.sweepParents key).dodags[key]?).map DodagMembership.member =
      some { dodag.member with place := n.standing.swept dodag.member } := by
    rw [← standing_held, standing_sweepParents held, Standing.put_held,
      ExtTreeMap.getElem?_insert_self]
  obtain ⟨swept, heldAfter, member⟩ := Option.map_eq_some_iff.mp sweptHeld
  exact ⟨swept, heldAfter, congrArg Member.place member⟩

theorem account_sweep_place {reached : Ipv6Address → Bool} {now : Time} :
    (n.modifyPlace key fun place => place.sweep now reached).account own address =
      n.account own address :=
  account_modifyPlace (fun _ => rfl) fun _ => rfl

theorem acts_sweepParents : Acts own address key 1 n (n.sweepParents key) := by
  unfold sweepParents
  split
  · exact (Acts.same rfl).mono (Nat.zero_le 1)
  · dsimp only
    split
    · exact ((Acts.same account_sweep_place).trans (acts_sendNoPathDao _)).trans
        (.same account_sweep_place)
    · exact (Acts.same account_sweep_place).mono (Nat.zero_le 1)

/-- A sweep that does not reach the preferred parent sends nothing. -/
theorem account_sweepParents (held : n.dodags[key]? = some dodag)
    (heard : dodag.preferredEntry.any (dodag.stale n.now) = false) :
    (n.sweepParents key).account own address = n.account own address := by
  unfold sweepParents
  rw [held]
  dsimp only
  rw [heard, if_neg Bool.false_ne_true]
  exact account_sweep_place

/-- A preferred parent the sweep withdraws through is none of the neighbours that are left, and
the DODAG is not temporary. -/
theorem swept_preferred (withdraws : dodag.preferredEntry.any (dodag.stale n.now) = true) :
    (dodag.sweep n.now fun _ => true).preferredEntry = none ∧ dodag.isTemporary = false := by
  obtain ⟨entry, preferred, stale⟩ := (Option.any_eq_true _ _).mp withdraws
  constructor
  · unfold DodagPlace.preferredEntry DodagPlace.sweep at *
    rw [OrderedMap.getElem?_eraseIf, preferred, Option.filter_some]
    simp only [stale, Bool.and_self, Bool.not_true, Bool.false_eq_true, if_false]
  · unfold DodagPlace.stale at stale
    rw [Bool.and_eq_true, Bool.not_eq_true'] at stale
    exact stale.1

theorem acts_eraseDodag (held : (n.account key address).seat = some dodag.seat) :
    Acts own address key 0 n (n.eraseDodag key dodag) := by
  have keyed (keys : n.UnderOwnKeys) : (n.eraseDodag key dodag).UnderOwnKeys := by
    intro other member heldOther
    rw [dodags_eraseDodag, OrderedMap.getElem?_erase_eq] at heldOther
    split at heldOther
    · cases heldOther
    · exact keys other member heldOther
  have sent : (n.eraseDodag key dodag).ownDaos own address = n.ownDaos own address := by
    unfold eraseDodag
    dsimp only [mark]
    split <;> split <;> rfl
  have pathLifetime : (n.eraseDodag key dodag).attributes = n.attributes := by
    unfold eraseDodag
    dsimp only [mark]
    split <;> split <;> rfl
  have retained : (n.eraseDodag key dodag).retainedPathSequence =
      if dodag.isTemporary then n.retainedPathSequence
      else n.retainedPathSequence.insert key dodag.pathSequence := by
    unfold eraseDodag
    dsimp only [mark]
    split <;> split <;> rfl
  have seat : (n.eraseDodag key dodag).dodags[own]? =
      if own = key then none else n.dodags[own]? := by
    rw [dodags_eraseDodag, OrderedMap.getElem?_erase_eq]
  by_cases here : key = own
  · subst here
    refine ⟨?_, fun other => absurd rfl other⟩
    rw [Nat.zero_mul]
    rw [if_pos rfl] at seat
    have gone : ((n.eraseDodag key dodag).account key address).seat = none := by
      unfold account
      rw [seat]
      rfl
    refine Account.withdraws_reseat (congrArg Attributes.pathLifetime pathLifetime) sent
      fun sound => ⟨⟨keyed sound.keyed, ?_, ?_, ?_⟩, ?_⟩
    · rw [gone]
      exact nofun
    · rw [gone]
      exact nofun
    · rw [gone]
      exact nofun
    · rw [Account.sequence_of_seat held, Account.sequence, gone]
      change ((n.eraseDodag key dodag).retainedPathSequence[key]?).getD 0 = dodag.pathSequence
      rw [retained]
      split
      · next temporary => exact (sound.kept _ held temporary).symm
      · rw [ExtTreeMap.getElem?_insert_self]
        rfl
  · rw [if_neg (Ne.symm here)] at seat
    have seatSame : ((n.eraseDodag key dodag).account own address).seat =
        (n.account own address).seat := by
      unfold account
      rw [seat]
    have retainedSame : ((n.eraseDodag key dodag).account own address).retained =
        (n.account own address).retained := by
      change ((n.eraseDodag key dodag).retainedPathSequence[own]?).getD 0 =
        (n.retainedPathSequence[own]?).getD 0
      rw [retained]
      split
      · rfl
      · rw [OrderedMap.getElem?_insert_eq, if_neg (Ne.symm here)]
    refine ⟨?_, fun _ => seatSame⟩
    rw [Nat.zero_mul]
    refine Account.withdraws_reseat (congrArg Attributes.pathLifetime pathLifetime) sent
      fun sound => ⟨⟨keyed sound.keyed, ?_, ?_, ?_⟩, ?_⟩
    · rw [seatSame]
      exact sound.member
    · rw [seatSame]
      exact sound.idle
    · rw [seatSame, retainedSame]
      exact sound.kept
    · unfold Account.sequence
      rw [seatSame, retainedSame]

theorem acts_leaveDodag (poison : Bool) : Acts own address key 0 n (n.leaveDodag key poison) := by
  cases held : n.dodags[key]? with
  | none =>
    rw [leaveDodag, held]
    exact .same rfl
  | some dodag =>
    obtain ⟨_, _, left⟩ := leaveDodag_eq held poison
    have erased : Acts own address key 0 n
        ((if poison then n.poisonDodag key else n).eraseDodag key dodag) := by
      split
      · have poisoned : (n.poisonDodag key).account key address = n.account key address :=
          account_poisonDodag
        refine (Acts.same account_poisonDodag).trans (acts_eraseDodag ?_)
        rw [poisoned, account_seat held]
      · exact acts_eraseDodag (account_seat held)
    rw [left]
    refine erased.trans (.same ?_)
    rfl

/-! ## A round of parent selection -/

theorem silent_of_left (gone : n.dodags[own]? = none) : (n.account own address).Silent := by
  refine .inr fun seat held => ?_
  unfold account at held
  rw [gone] at held
  cases held

theorem silent_of_parentless (held : n.dodags[own]? = some dodag)
    (parentless : dodag.preferredParent.isAny = true ∨ dodag.isTemporary = true) :
    (n.account own address).Silent := by
  refine .inr fun seat heldSeat => ?_
  rw [account_seat held] at heldSeat
  obtain rfl := Option.some.inj heldSeat
  exact parentless

/-- The membership as it is once a parent has been taken. -/
def adopting (dodag : DodagMembership) (best : Candidate) : DodagMembership :=
  { dodag with toDodagPlace := dodag.adoptParent best }

theorem account_taken {best : Candidate} (held : n.dodags[own]? = some dodag) :
    ((n.modifyPlace own fun _ => dodag.adoptParent best).mark
      (.ranked own (dodag.adoptParent best).rank)).account own address =
        { n.account own address with seat := some (adopting dodag best).seat } := by
  change (n.modifyPlace own fun _ => dodag.adoptParent best).account own address = _
  unfold modifyPlace
  rw [setDodag_of_held held]
  exact account_setDodag_own address held rfl

/-- A parent is taken: nothing is sent. -/
theorem withdraws_taken {best : Candidate} (held : n.dodags[own]? = some dodag)
    (parent : best.address.isAny = false) :
    (n.account own address).Withdraws 0
      { n.account own address with seat := some (adopting dodag best).seat } := by
  refine Account.withdraws_reseat rfl rfl fun sound => ⟨⟨sound.keyed, ?_, ?_, ?_⟩, ?_⟩
  · intro seat same
    obtain rfl := Option.some.inj same
    exact sound.member dodag.seat (account_seat held)
  · intro seat same parentless
    obtain rfl := Option.some.inj same
    rcases parentless with none | temporary
    · exact absurd (parent.symm.trans none) Bool.false_ne_true
    · exact sound.idle dodag.seat (account_seat held) (.inr temporary)
  · intro seat same
    obtain rfl := Option.some.inj same
    exact sound.kept dodag.seat (account_seat held)
  · rw [Account.sequence_of_seat (account_seat held)]
    rfl

/-- The parent switched to, the Path Sequence steps on behind the withdrawal. -/
theorem settles_switchParent (address : Ipv6Address) (kept : Prop)
    (held : n.dodags[own]? = some dodag) (lasting : dodag.isTemporary = false)
    (old : Ipv6Address) :
    (n.account own address).Settles 2 kept ((n.switchParent own old).account own address) := by
  unfold switchParent
  rw [account_scheduleDaoRefresh]
  have withdrawn : (n.account own address).Withdraws (1 * rounds own own)
      ((n.withdrawThrough own old).account own address) := (acts_withdrawThrough old).withdraws
  rw [rounds_self] at withdrawn
  -- the membership is still held, and no other than before but for its Path Sequence
  have place : ((n.withdrawThrough own old).dodags[own]?).map DodagMembership.member =
      some dodag.member := by
    rw [← standing_held, standing_withdrawThrough, standing_held, held]
    rfl
  obtain ⟨after, heldAfter, member⟩ := Option.map_eq_some_iff.mp place
  have lastingAfter : after.isTemporary = false := by
    have same : after.toDodagPlace = dodag.toDodagPlace := congrArg Member.place member
    rw [same]
    exact lasting
  rw [setDodag_of_held heldAfter, account_setDodag_own address heldAfter]
  · exact withdrawn.settles_stepped (account_seat heldAfter) lastingAfter
  · rfl

/-- The parent is one of the neighbours, or the DODAG is temporary. -/
def KeepsParent (dodag : DodagPlace) : Prop :=
  dodag.isTemporary = true ∨ dodag.preferredEntry ≠ none

/-- What is chosen, where it is a neighbour at all, is in the table. -/
theorem chosen_held {place : DodagPlace} (found : place.chooseParent.address.isAny = false) :
    place.parents[place.chooseParent.address]? ≠ none := by
  obtain ⟨entry, held, -⟩ := DodagPlace.chooseParent_stands found
  rw [held]
  exact Option.some_ne_none entry

/-- The table that is left after the sweep is part of the one before. -/
theorem keepsParent_of_sweep {place : DodagPlace} {now : Time}
    (keeps : KeepsParent (place.sweep now fun _ => true)) : KeepsParent place := by
  rcases keeps with temporary | entry
  · exact .inl temporary
  · refine .inr fun none => entry ?_
    unfold DodagPlace.preferredEntry DodagPlace.sweep at *
    rw [OrderedMap.getElem?_eraseIf, none]
    rfl

/-- A parent is taken after the sweep: the sweep has sent nothing, or the parent before is out of
the table, and then another one is taken. -/
theorem settles_takeParent {swept : DodagMembership} {best : Candidate}
    (held : m.dodags[own]? = some swept) (parent : best.address.isAny = false)
    (chosen : swept.parents[best.address]? ≠ none)
    (withdraws : (n.account own address).Withdraws 1 (m.account own address))
    (quiet : m.account own address = n.account own address ∨
      swept.preferredEntry = none ∧ swept.isTemporary = false) :
    (n.account own address).Settles 3 (KeepsParent swept.toDodagPlace)
      ((m.takeParent own swept best).account own address) := by
  have taken : (m.account own address).Withdraws 0
      { m.account own address with seat := some (adopting swept best).seat } :=
    withdraws_taken held parent
  unfold takeParent
  dsimp only
  split
  · next switches =>
    have heldTaken : ((m.modifyPlace own fun _ => swept.adoptParent best).mark
        (.ranked own (swept.adoptParent best).rank)).dodags[own]? = some (adopting swept best) := by
      unfold modifyPlace
      rw [setDodag_of_held held]
      exact ExtTreeMap.getElem?_insert_self
    have settles := settles_switchParent address False heldTaken
      (Bool.eq_false_of_not_eq_true switches.2) swept.preferredParent
    rw [account_taken held] at settles
    exact (withdraws.trans taken).then_settles settles id
  · next keeps =>
    rw [account_taken held]
    have sameParent : swept.isTemporary = false → best.address = swept.preferredParent := by
      intro lasting
      by_contra another
      exact keeps ⟨another, by rw [lasting]; exact Bool.false_ne_true⟩
    have entry (lasting : swept.isTemporary = false) : swept.preferredEntry ≠ none := by
      unfold DodagPlace.preferredEntry
      rw [← sameParent lasting]
      exact chosen
    rcases quiet with same | ⟨none, lasting⟩
    · rw [same] at taken ⊢
      refine taken.settles_kept (fun silent => ?_) ?_
      · refine silent.imp_right fun parentless seat heldSeat => ?_
        obtain rfl := Option.some.inj heldSeat
        have seat : (m.account own address).seat = some swept.seat := account_seat held
        rw [same] at seat
        cases temporary : swept.isTemporary with
        | true => exact .inr temporary
        | false =>
          rcases parentless _ seat with none | temporary'
          · rw [sameParent temporary] at parent
            exact absurd (parent.symm.trans none) Bool.false_ne_true
          · exact .inr temporary'
      · cases temporary : swept.isTemporary with
        | true => exact .inl temporary
        | false => exact .inr (entry temporary)
    · exact absurd none (entry lasting)

theorem settles_select (held : n.dodags[own]? = some dodag) :
    (n.account own address).Settles 3 (KeepsParent dodag.toDodagPlace)
      ((n.selectPreferredParent own).2.account own address) := by
  have withdrawn : (n.account own address).Withdraws (1 * rounds own own)
      ((n.sweepParents own).account own address) := acts_sweepParents.withdraws
  rw [rounds_self] at withdrawn
  obtain ⟨swept, heldSwept, place⟩ := held_sweepParents held
  -- the sweep sends nothing unless it takes the preferred parent out of the table
  have quiet : (n.sweepParents own).account own address = n.account own address ∨
      swept.preferredEntry = none ∧ swept.isTemporary = false := by
    cases stale : dodag.preferredEntry.any (dodag.stale n.now) with
    | false => exact .inl (account_sweepParents held stale)
    | true =>
      rw [place]
      exact .inr (swept_preferred stale)
  have keepsBefore : KeepsParent swept.toDodagPlace → KeepsParent dodag.toDodagPlace := by
    rw [place]
    exact keepsParent_of_sweep
  unfold selectPreferredParent
  rw [held]
  dsimp only
  split
  · next root =>
    -- the membership is not a root's
    intro sound
    have member : dodag.isRoot = false := sound.member dodag.seat (account_seat held)
    exact absurd (root.symm.trans member) (by decide)
  · rw [heldSwept]
    dsimp only
    split
    · next unchanged =>
      have sameParent : swept.chooseParent.address = swept.preferredParent := by
        simp only [DodagPlace.selectionChanged, Bool.not_or, Bool.and_eq_true,
          Bool.not_eq_true', decide_eq_false_iff_not, not_not] at unchanged
        exact unchanged.1.1
      cases parent : swept.preferredParent.isAny with
      | true =>
        exact (withdrawn.mono (Nat.le_add_left 1 2)).settles_silent
          (silent_of_parentless heldSwept (.inl parent))
      | false =>
        have entry : swept.preferredEntry ≠ none := by
          unfold DodagPlace.preferredEntry
          rw [← sameParent] at parent ⊢
          exact chosen_held parent
        rcases quiet with same | ⟨none, -⟩
        · rw [same]
          exact (Account.Withdraws.same rfl).settles_kept id (keepsBefore (.inr entry))
        · exact absurd none entry
    split
    · next parentless =>
      have left : ((n.sweepParents own).loseLastParent own swept).dodags[own]? = none := by
        have gone : ((n.sweepParents own).loseLastParent own swept).standing.held[own]? = none := by
          rw [standing_loseLastParent, Standing.held_leave, if_pos rfl]
        rw [standing_held] at gone
        exact Option.map_eq_none_iff.mp gone
      have acts : Acts own address own (1 + 1 + 0 + 0) n
          ((n.sweepParents own).loseLastParent own swept) :=
        ((acts_sweepParents.trans (acts_withdrawThrough _)).trans (acts_leaveDodag true)).trans
          (.same account_scheduleSolicitation)
      have withdraws := acts.withdraws
      rw [rounds_self] at withdraws
      exact (withdraws.mono (Nat.le_succ 2)).settles_silent (silent_of_left left)
    · next parent =>
      have chosen := Bool.eq_false_of_not_eq_true parent
      exact (settles_takeParent heldSwept chosen (chosen_held chosen) withdrawn quiet).imp
        keepsBefore

/-! ## Other rounds -/

/-- The part of the account of one DODAG that a round in another one leaves alone. -/
theorem follows_of_acts (acts : Acts own address key limit n m) (other : key ≠ own) :
    (n.account own address).Follows 0 (m.account own address) := by
  have withdraws := acts.withdraws
  rw [rounds, if_neg other, Nat.mul_zero] at withdraws
  exact withdraws.follows_apart (acts.apart other)

theorem account_modifyDodag_other {f : DodagMembership → DodagMembership}
    (same : ∀ dodag, (f dodag).key = dodag.key) (other : key ≠ own) :
    (n.modifyDodag key f).account own address = n.account own address := by
  cases held : n.dodags[key]? with
  | none => rw [modifyDodag_of_absent held]
  | some dodag =>
    rw [setDodag_of_held held]
    exact account_setDodag_other held (same dodag) other

theorem acts_switchParent (old : Ipv6Address) (other : key ≠ own) :
    Acts own address key 1 n (n.switchParent key old) := by
  refine (acts_withdrawThrough old).trans (.same ?_)
  unfold switchParent
  rw [account_scheduleDaoRefresh]
  exact account_modifyDodag_other (fun _ => rfl) other

theorem acts_takeParent {best : Candidate} (held : n.dodags[key]? = some dodag)
    (other : key ≠ own) : Acts own address key 1 n (n.takeParent key dodag best) := by
  have taken : Acts own address key 0 n ((n.modifyPlace key fun _ => dodag.adoptParent best).mark
      (.ranked key (dodag.adoptParent best).rank)) := by
    refine .same ?_
    change (n.modifyPlace key fun _ => dodag.adoptParent best).account own address = _
    unfold modifyPlace
    rw [setDodag_of_held held]
    exact account_setDodag_other held rfl other
  unfold takeParent
  dsimp only
  split
  · exact taken.trans (acts_switchParent _ other)
  · exact taken.mono (Nat.zero_le 1)

theorem acts_select (other : key ≠ own) :
    Acts own address key 2 n (n.selectPreferredParent key).2 := by
  have idle : Acts own address key 2 n n := (Acts.same rfl).mono (Nat.zero_le 2)
  unfold selectPreferredParent
  split
  · exact idle
  split
  · exact idle
  · have swept : Acts own address key 2 n (n.sweepParents key) :=
      acts_sweepParents.mono (Nat.le_succ 1)
    dsimp only
    split
    · exact swept
    · next dodag held =>
      split
      · exact swept
      split
      · exact ((acts_sweepParents.trans (acts_withdrawThrough _)).trans
          (acts_leaveDodag true)).trans
          (.same account_scheduleSolicitation)
      · exact acts_sweepParents.trans (acts_takeParent held other)

theorem account_selectAndReset :
    (n.selectAndReset key).account own address =
      (n.selectPreferredParent key).2.account own address := by
  unfold selectAndReset
  dsimp only
  split
  · exact (account_aside own address).resetTrickle key
  · rfl

theorem acts_reselect {f : DodagPlace → DodagPlace} (same : ∀ place, (f place).key = place.key)
    (seat : ∀ dodag : DodagMembership,
      DodagMembership.seat { dodag with toDodagPlace := f dodag.toDodagPlace } = dodag.seat)
    (other : key ≠ own) : Acts own address key 2 n ((n.modifyPlace key f).selectAndReset key) :=
  ((Acts.same (account_modifyPlace same seat)).trans (acts_select other)).trans
    (.same account_selectAndReset)

theorem follows_select :
    (n.account own address).Follows (rounds own key)
      ((n.selectPreferredParent key).2.account own address) := by
  by_cases here : key = own
  · subst here
    rw [rounds_self]
    cases held : n.dodags[key]? with
    | none =>
      have idle : (n.selectPreferredParent key).2 = n := by
        unfold selectPreferredParent
        rw [held]
      rw [idle]
      exact (Account.Follows.same rfl).mono (Nat.zero_le 1)
    | some dodag => exact (settles_select held).follows (by decide)
  · exact (follows_of_acts (acts_select here) here).mono (Nat.zero_le _)

/-- A round of parent selection after the table has been rewritten. -/
theorem settles_reselect {f : DodagPlace → DodagPlace} (held : n.dodags[own]? = some dodag)
    (key : (f dodag.toDodagPlace).key = dodag.key)
    (seat : DodagMembership.seat { dodag with toDodagPlace := f dodag.toDodagPlace } =
      dodag.seat) :
    (n.account own address).Settles 3 (KeepsParent (f dodag.toDodagPlace))
      (((n.modifyPlace own f).selectAndReset own).account own address) := by
  have rewritten : (n.modifyPlace own f).account own address = n.account own address := by
    unfold modifyPlace
    rw [setDodag_of_held held]
    exact account_setDodag held key seat
  have heldNow : (n.modifyPlace own f).dodags[own]? =
      some { dodag with toDodagPlace := f dodag.toDodagPlace } := by
    unfold modifyPlace
    rw [setDodag_of_held held]
    exact ExtTreeMap.getElem?_insert_self
  rw [account_selectAndReset, ← rewritten]
  exact settles_select heldNow

theorem follows_handlePoison (sender : Ipv6Address) :
    (n.account own address).Follows (rounds own key)
      ((n.handlePoison key sender).account own address) := by
  by_cases here : key = own
  · subst here
    rw [rounds_self]
    unfold handlePoison
    cases held : n.dodags[key]? with
    | none => exact (Account.Follows.same rfl).mono (Nat.zero_le 1)
    | some dodag =>
      dsimp only
      split
      · next preferred =>
        have withdrawn : (n.account key address).Withdraws (1 * rounds key key)
            ((n.sendNoPathDao key sender).account key address) :=
          (acts_sendNoPathDao sender).withdraws
        rw [rounds_self] at withdrawn
        cases temporary : dodag.isTemporary with
        | true =>
          rw [sendNoPathDao_of_temporary sender held temporary]
          exact (settles_reselect held rfl rfl).follows (by decide)
        | false =>
          -- the membership after the withdrawal is in the same place
          have place : ((n.sendNoPathDao key sender).dodags[key]?).map DodagMembership.member =
              some dodag.member := by
            rw [← standing_held, standing_sendNoPathDao, standing_held, held]
            rfl
          obtain ⟨after, heldAfter, member⟩ := Option.map_eq_some_iff.mp place
          have same : after.toDodagPlace = dodag.toDodagPlace := congrArg Member.place member
          have settles : (n.account key address).Settles 4 True
              ((((n.sendNoPathDao key sender).modifyPlace key fun place =>
                { place with parents := place.parents.erase sender }).selectAndReset key).account
                  key address) := by
            refine withdrawn.then_settles (settles_reselect heldAfter rfl rfl) ?_
            rw [same]
            rintro (isTemporary | entry)
            · exact absurd (temporary.symm.trans isTemporary) Bool.false_ne_true
            · refine entry ?_
              change (dodag.parents.erase sender)[dodag.preferredParent]? = none
              rw [preferred]
              exact ExtTreeMap.getElem?_erase_self
          exact settles.follows (by decide)
      · exact (settles_reselect held rfl rfl).follows (by decide)
  · have acts : Acts own address key (1 + 2) n (n.handlePoison key sender) := by
      unfold handlePoison
      split
      · exact (Acts.same rfl).mono (Nat.zero_le _)
      · dsimp only
        split
        · refine (acts_sendNoPathDao sender).trans (acts_reselect ?_ ?_ here)
          · exact fun _ => rfl
          · exact fun _ => rfl
        · refine (acts_reselect ?_ ?_ here).mono (Nat.le_succ 2)
          · exact fun _ => rfl
          · exact fun _ => rfl
    exact (follows_of_acts acts here).mono (Nat.zero_le _)

theorem follows_stopInterfaceIn (interface : Nat) :
    (n.account own address).Follows (rounds own key)
      ((stopInterfaceIn interface n key).account own address) := by
  unfold stopInterfaceIn
  by_cases here : key = own
  · subst here
    rw [rounds_self]
    cases held : n.dodags[key]? with
    | none =>
      have idle : (n.modifyPlace key fun place => { place with
          parents := OrderedMap.eraseIf (fun _ parent => parent.interface = interface)
              place.parents }).selectAndReset key = n := by
        unfold modifyPlace selectAndReset selectPreferredParent
        rw [modifyDodag_of_absent held, held]
        rfl
      rw [idle]
      exact (Account.Follows.same rfl).mono (Nat.zero_le 1)
    | some dodag => exact (settles_reselect held rfl rfl).follows (by decide)
  · have acts : Acts own address key 2 n ((n.modifyPlace key fun place => { place with
        parents := OrderedMap.eraseIf (fun _ parent => parent.interface = interface)
          place.parents }).selectAndReset key) := by
      refine acts_reselect ?_ ?_ here
      · exact fun _ => rfl
      · exact fun _ => rfl
    exact (follows_of_acts acts here).mono (Nat.zero_le _)

end Node

end Rpl
