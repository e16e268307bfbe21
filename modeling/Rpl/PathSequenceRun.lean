import Rpl.PathSequenceRounds
import Rpl.Lib.LastWins
import Rpl.Lib.Octets

/-!
# The Path Sequence over whole runs

Every event keeps to the rules of the Path Sequence: joining, leaving and moving to another
Version included, and the DAO timers, which are the only ones to advertise.  Along a run the
ledger reads off the Path Sequence how many steps it makes.
-/

namespace Rpl

open Std

namespace Node

variable {n m after : Node} {own key : DodagKey} {address : Ipv6Address}
  {dodag changed : DodagMembership} {limit : ℕ}

/-! ## Coming and going -/

theorem follows_leaveDodag :
    (n.account own address).Follows 0 ((n.leaveDodag key false).account own address) := by
  by_cases here : key = own
  · subst here
    have acts : Acts key address key 0 n (n.leaveDodag key false) := acts_leaveDodag false
    have withdraws := acts.withdraws
    rw [Nat.zero_mul] at withdraws
    exact withdraws.follows fun _ => silent_of_left n.absent_leaveDodag
  · exact follows_of_acts (acts_leaveDodag false) here

theorem underOwnKeys_setDodag (keys : n.UnderOwnKeys) (same : changed.key = key) :
    (n.setDodag key changed).UnderOwnKeys := by
  intro other member held
  change (n.dodags.insert key changed)[other]? = some member at held
  rw [OrderedMap.getElem?_insert_eq] at held
  split at held
  · next here =>
    obtain rfl := Option.some.inj held
    rw [same, here]
  · exact keys other member held

/-- A membership without a parent is made, with the Path Sequence that was retained. -/
theorem follows_made (absent : n.dodags[key]? = none) (keyed : changed.key = key)
    (fresh : changed.preferredParent.isAny = true) (idle : changed.daoAckPending = false)
    (kept : key = own → changed.isRoot = false ∧
      changed.pathSequence = n.retainedPathSequence[key]?.getD 0) :
    (n.account own address).Follows 0 ((n.setDodag key changed).account own address) := by
  by_cases here : key = own
  · subst here
    obtain ⟨member, sequence⟩ := kept rfl
    have seat : ((n.setDodag key changed).account key address).seat = some changed.seat := by
      unfold account setDodag
      rw [ExtTreeMap.getElem?_insert_self]
      rfl
    have seatBefore : (n.account key address).seat = none := by
      unfold account
      rw [absent]
      rfl
    have withdraws : (n.account key address).Withdraws 0
        ((n.setDodag key changed).account key address) := by
      refine Account.withdraws_reseat rfl rfl fun sound =>
        ⟨⟨underOwnKeys_setDodag sound.keyed keyed, ?_, ?_, ?_⟩, ?_⟩
      · intro other held
        obtain rfl := Option.some.inj (seat.symm.trans held)
        exact member
      · intro other held _
        obtain rfl := Option.some.inj (seat.symm.trans held)
        exact idle
      · intro other held _
        obtain rfl := Option.some.inj (seat.symm.trans held)
        exact sequence
      · rw [Account.sequence_of_seat seat, Account.sequence, seatBefore]
        exact sequence
    exact withdraws.follows fun _ =>
      silent_of_parentless ExtTreeMap.getElem?_insert_self (.inl fresh)
  · have seat : ((n.setDodag key changed).account own address).seat =
        (n.account own address).seat := by
      unfold account setDodag
      dsimp only
      rw [OrderedMap.getElem?_insert_eq, if_neg (Ne.symm here)]
    have withdraws : (n.account own address).Withdraws 0
        ((n.setDodag key changed).account own address) := by
      refine Account.withdraws_reseat rfl rfl fun sound =>
        ⟨⟨underOwnKeys_setDodag sound.keyed keyed, ?_, ?_, ?_⟩, ?_⟩
      · rw [seat]
        exact sound.member
      · rw [seat]
        exact sound.idle
      · rw [seat]
        exact sound.kept
      · unfold Account.sequence
        rw [seat]
        rfl
    exact withdraws.follows_apart seat

/-- What a DIO's parameters leave of the new membership. -/
theorem joinedMembership_seat (n : Node) (dio : DioHeader) :
    (n.joinedMembership dio).seat = (n.newMembership dio).seat ∧
      (n.joinedMembership dio).key = dio.key := by
  unfold joinedMembership withParameters
  dsimp only
  split
  · exact ⟨rfl, rfl⟩
  · split
    · exact ⟨rfl, rfl⟩
    · exact ⟨rfl, rfl⟩

theorem follows_joinDodag {dio : DioHeader} (interface : Nat)
    (absent : n.dodags[dio.key]? = none) :
    (n.account own address).Follows 0 ((n.joinDodag dio interface).account own address) := by
  obtain ⟨seat, keyed⟩ := n.joinedMembership_seat dio
  have made : (n.account own address).Follows 0
      ((n.setDodag dio.key (n.joinedMembership dio)).account own address) := by
    refine follows_made absent keyed ?_ ?_ fun _ => ⟨?_, ?_⟩
    · change (n.joinedMembership dio).seat.preferredParent.isAny = true
      rw [seat]
      rfl
    · change (n.joinedMembership dio).seat.daoAckPending = false
      rw [seat]
      rfl
    · change (n.joinedMembership dio).seat.isRoot = false
      rw [seat]
      rfl
    · change (n.joinedMembership dio).seat.pathSequence = _
      rw [seat]
      rfl
  have same : (n.joinDodag dio interface).account own address =
      (n.setDodag dio.key (n.joinedMembership dio)).account own address := by
    unfold joinDodag
    extract_lets _ temporary joined marked autoconfigured based
    have autoconfiguredSame : autoconfigured.account own address = marked.account own address := by
      unfold autoconfigured autoconfigure
      split
      · rfl
      · split
        · rfl
        · rfl
    have basedSame : based.account own address = autoconfigured.account own address := by
      unfold based
      split
      · rfl
      · rfl
    refine Eq.trans ?_ (basedSame.trans autoconfiguredSame)
    split
    · rfl
    · rfl
  rw [same]
  exact made

theorem account_mark (milestone : Milestone) :
    (n.mark milestone).account own address = n.account own address := rfl

theorem account_adoptVersion (dio : DioHeader) :
    (n.adoptVersion dio dodag).account own address = n.account own address := by
  unfold adoptVersion
  split
  · rw [account_mark, account_modifyPlace]
    · exact fun _ => rfl
    · exact fun _ => rfl
  · rfl

theorem account_updateParent (dio : DioHeader) (heard : Reception) :
    (n.updateParent dio heard).account own address = n.account own address := by
  unfold updateParent
  split
  · rfl
  · next dodag held =>
    dsimp only
    split
    · rw [account_scheduleDaoRefresh]
      exact account_setDodag held rfl rfl
    · exact account_setDodag held rfl rfl

/-! ## Acknowledgements -/

/-- A DAO is acknowledged, or given up. -/
theorem follows_settled {f : DodagMembership → DodagMembership}
    (same : ∀ dodag, (f dodag).key = dodag.key)
    (seat : ∀ dodag, (f dodag).seat = { dodag.seat with daoAckPending := false }) :
    (n.account own address).Follows 0 ((n.modifyDodag key f).account own address) := by
  cases held : n.dodags[key]? with
  | none =>
    rw [modifyDodag_of_absent held]
    exact .same rfl
  | some dodag =>
    rw [setDodag_of_held held]
    by_cases here : key = own
    · subst here
      rw [account_setDodag_own address held (same dodag), seat]
      have withdraws : (n.account key address).Withdraws 0
          { n.account key address with
            seat := some { dodag.seat with daoAckPending := false } } := by
        refine Account.withdraws_reseat rfl rfl fun sound => ⟨⟨sound.keyed, ?_, ?_, ?_⟩, ?_⟩
        · intro other heldSeat
          obtain rfl := Option.some.inj heldSeat
          exact sound.member dodag.seat (account_seat held)
        · intro other heldSeat _
          obtain rfl := Option.some.inj heldSeat
          rfl
        · intro other heldSeat
          obtain rfl := Option.some.inj heldSeat
          exact sound.kept dodag.seat (account_seat held)
        · rw [Account.sequence_of_seat (account_seat held)]
          rfl
      refine withdraws.follows fun silent => silent.imp_right fun parentless other heldSeat => ?_
      obtain rfl := Option.some.inj heldSeat
      exact parentless dodag.seat (account_seat held)
    · rw [account_setDodag_other held (same dodag) here]
      exact .same rfl

theorem follows_handleDaoAck (ack : DaoAckHeader) :
    (n.account own address).Follows 0 ((n.handleDaoAck ack).account own address) := by
  unfold handleDaoAck
  dsimp only
  split
  · exact .same rfl
  · split
    · refine follows_settled ?_ ?_
      · exact fun _ => rfl
      · exact fun _ => rfl
    · exact .same rfl

/-- The rules are kept through every part of a step but DAOs and the DAO timers. -/
theorem follows_frame (own : DodagKey) (address : Ipv6Address) :
    DaoFrame own (account own address) fun rounds n m =>
      (n.account own address).Follows rounds (m.account own address) where
  aside := account_aside own address
  same := .same
  trans := .trans
  mono := .mono
  leave _ _ := follows_leaveDodag
  join _ _ interface absent := follows_joinDodag interface absent
  adopt _ dio _ _ := .same (account_adoptVersion dio)
  update _ dio heard := .same (account_updateParent dio heard)
  select _ _ := follows_select
  poison _ _ sender := follows_handlePoison sender
  stop _ interface _ := follows_stopInterfaceIn interface
  daoAck _ ack := follows_handleDaoAck ack
  solicits _ _ solicits := .same ((account_aside own address).solicits (fun _ _ => rfl) solicits)

/-! ## Advertising -/

/-- A DAO that advertises the node goes out through a membership with a parent. -/
theorem follows_advertisement {dao : DaoHeader} (held : n.dodags[key]? = some dodag)
    (parent : key = own → dodag.preferredParent.isAny = false ∧ dodag.isTemporary = false)
    (sameKey : changed.key = dodag.key)
    (named : (⟨dao.instanceId, dao.dodagId⟩ : DodagKey) = dodag.key)
    (carries : dao.pathSequence = dodag.pathSequence)
    (lifetime : dao.pathLifetime = n.attributes.pathLifetime) {viaParent : Ipv6Address}
    {f : DodagMembership → DodagMembership} (same : (f changed).key = changed.key)
    (pending : (f changed).seat = { dodag.seat with daoAckPending := true }) :
    (n.account own address).Follows 0
      ((((n.setDodag key changed).sendDaoTo changed viaParent dao).modifyDodag key f).account
        own address) := by
  obtain ⟨destination, hands⟩ := hands_sendDaoTo (n := n.setDodag key changed) changed viaParent dao
  have heldNow : ((n.setDodag key changed).sendDaoTo changed viaParent dao).dodags[key]? =
      some changed := by
    obtain ⟨sent, sends, -⟩ := hands
    rw [sends]
    exact ExtTreeMap.getElem?_insert_self
  obtain ⟨copies, unsent, sends⟩ := account_hands own address hands
  rw [setDodag_of_held heldNow]
  by_cases here : key = own
  · subst here
    obtain ⟨hasParent, lasting⟩ := parent rfl
    rw [account_setDodag_own address heldNow same, sends,
      account_setDodag_own address held sameKey, pending]
    exact Account.follows_advertised copies (account_seat held) hasParent lasting carries lifetime
  · intro sound
    have other : dao.advertises own address = false :=
      not_advertises (named ▸ (sound.keyed key dodag held).symm ▸ here)
    have stays : (((n.setDodag key changed).sendDaoTo changed viaParent dao).setDodag key
        (f changed)).account own address = n.account own address := by
      rw [account_setDodag_other heldNow same here, sends, unsent other,
        List.replicate_zero, List.append_nil]
      exact account_setDodag_other held sameKey here
    exact Account.Follows.same stays sound

theorem follows_sendDao :
    (n.account own address).Follows 0 ((n.sendDao key).account own address) := by
  unfold sendDao
  split
  · exact .same rfl
  · next dodag held =>
    split
    · exact .same rfl
    · next sends =>
      simp only [Bool.or_eq_true, not_or, Bool.not_eq_true] at sends
      dsimp only
      unfold sendDaoMessage
      refine follows_advertisement held (fun _ => ⟨sends.1.1.2, sends.1.2⟩) ?_ ?_ ?_ ?_ ?_ ?_
      · split <;> rfl
      · split <;> rfl
      · split <;> rfl
      · rfl
      · split <;> rfl
      · split <;> rfl

/-- A retry sends what the membership has to say now; without a parent there is nothing to
repeat. -/
theorem follows_daoRetry :
    (n.account own address).Follows 0 ((n.daoRetry key).account own address) := by
  unfold daoRetry
  split
  · exact .same rfl
  · next dodag held =>
    split
    · exact .same rfl
    · next pending =>
      rw [Bool.not_eq_true', Bool.not_eq_false] at pending
      split
      · refine follows_settled ?_ ?_
        · exact fun _ => rfl
        · exact fun _ => rfl
      · dsimp only
        unfold sendDaoMessage
        intro sound
        refine follows_advertisement held (fun here => ?_) ?_ ?_ ?_ ?_ ?_ ?_ sound
        · subst here
          have idle := sound.idle dodag.seat (account_seat held)
          constructor
          · refine Bool.eq_false_of_not_eq_true fun parentless => ?_
            exact absurd (pending.symm.trans (idle (.inl parentless))) (by decide)
          · refine Bool.eq_false_of_not_eq_true fun temporary => ?_
            exact absurd (pending.symm.trans (idle (.inr temporary))) (by decide)
        · rfl
        · rfl
        · rfl
        · rfl
        · rfl
        · change _ = { dodag.seat with daoAckPending := true }
          rw [← pending]
          rfl

theorem follows_daoEventFire :
    (n.account own address).Follows 0 ((n.daoEventFire key).account own address) := by
  unfold daoEventFire
  split
  · exact .same rfl
  · split
    · refine .same (account_modifyDodag ?_ ?_)
      · exact fun _ => rfl
      · exact fun _ => rfl
    · have rearmed : ((n.daoTimerExpire key).account own address) =
          (n.sendDao key).account own address := by
        refine account_modifyDodag ?_ ?_
        · exact fun _ => rfl
        · exact fun _ => rfl
      rw [rearmed]
      exact follows_sendDao

/-! ## DAOs of others -/

/-- What a Storing router relays is never for an address of its own. -/
theorem target_of_relayed {context : DaoContext} {entries : List AdditionalTarget}
    {entry : AdditionalTarget}
    (relayed : entry ∈ DodagMembership.relayedEntries (dodag.handleTargets context entries)) :
    entry.target ≠ context.ownAddress := by
  have collected : ∀ entry ∈ (dodag.handleTargets context entries).toPropagate,
      entry.target ≠ context.ownAddress := by
    unfold DodagMembership.handleTargets
    refine List.foldlRecOn
      (motive := fun progress => ∀ entry ∈ progress.toPropagate,
        entry.target ≠ context.ownAddress)
      entries (DodagMembership.handleOneTarget context) ?_ ?_
    · exact fun _ mem => absurd mem List.not_mem_nil
    · intro progress before taken _
      unfold DodagMembership.handleOneTarget
      dsimp only
      split
      · exact before
      · next accepted =>
        have foreign : taken.target ≠ context.ownAddress := by
          simp only [DodagPlace.rejectsTarget, Bool.or_eq_true, decide_eq_true_eq, not_or]
            at accepted
          exact accepted.2
        split
        · dsimp only
          split
          · intro entry mem
            rcases List.mem_append.mp mem with early | last
            · exact before entry early
            · rw [List.mem_singleton.mp last]
              exact foreign
          · exact before
        · exact before
  have mem : entry ∈ (dodag.handleTargets context entries).toPropagate :=
    List.mem_reverse.mp (List.mem_of_find?_eq_some (LastWins.mem_dedup.mp relayed))
  exact collected entry mem

/-- The node's address in the DODAG, as long as it is a member. -/
def HasAddress (n : Node) (key : DodagKey) (address : Ipv6Address) : Prop :=
  ∀ dodag, n.dodags[key]? = some dodag → n.getGlobalAddressIn dodag = address

theorem follows_handleDao (has : n.HasAddress own address) (dao : DaoHeader)
    (sender : Ipv6Address) (interface : Nat) :
    (n.account own address).Follows 0 ((n.handleDao dao sender interface).account own address) := by
  unfold handleDao
  split
  · exact .same rfl
  · next key dodag found =>
    split
    · exact .same rfl
    · intro sound
      have held := (daoMembership_held found).1
      dsimp only
      generalize handled : dodag.handleTargets (n.daoContext dodag dao sender interface)
        dao.entries = progress
      have tables : progress.dodag.key = dodag.key ∧ progress.dodag.seat = dodag.seat := by
        rw [← handled, dodag.handleTargets_onlyTables]
        exact ⟨rfl, rfl⟩
      have stored : (n.setDodag key progress.dodag).account own address = n.account own address :=
        account_setDodag held tables.1 tables.2
      have relayed : ((n.setDodag key progress.dodag).relayDao progress.dodag
          (DodagMembership.relayedEntries progress)).account own address =
            (n.setDodag key progress.dodag).account own address := by
        unfold relayDao
        split
        · rfl
        · next primary rest relays =>
          obtain ⟨destination, hands⟩ := hands_sendDaoTo (n := n.setDodag key progress.dodag)
            progress.dodag progress.dodag.preferredParent
            (progress.dodag.daoMessage primary.target progress.dodag.daoSequence
              primary.pathSequence primary.pathLifetime false rest)
          obtain ⟨copies, unsent, sends⟩ := account_hands own address hands
          have foreign : (progress.dodag.daoMessage primary.target progress.dodag.daoSequence
              primary.pathSequence primary.pathLifetime false rest).advertises own address =
                false := by
            by_cases here : key = own
            · subst here
              have mem : primary ∈ DodagMembership.relayedEntries (dodag.handleTargets
                  (n.daoContext dodag dao sender interface) dao.entries) := by
                rw [handled, relays]
                exact List.mem_cons_self
              have apart : primary.target ≠ address := has dodag held ▸ target_of_relayed mem
              unfold DaoHeader.advertises DodagMembership.daoMessage
              simp only [apart, decide_false, Bool.and_false]
            · refine not_advertises ?_
              change progress.dodag.key ≠ own
              rw [tables.1, sound.keyed key dodag held]
              exact here
          unfold sendDaoMessage
          rw [sends, unsent foreign, List.replicate_zero, List.append_nil]
          rfl
      have acknowledged (m : Node) : (m.acknowledgeDao progress.dodag dao sender
          interface).account own address = m.account own address := by
        unfold acknowledgeDao
        split
        · dsimp only
          split
          · exact (account_aside own address).hands (hands_sendRplMessageOn _) rfl rfl
          · exact (account_aside own address).hands hands_sendRplMessageUnicast rfl rfl
        · rfl
      exact Account.Follows.same (((acknowledged _).trans relayed).trans stored) sound

/-! ## Every event -/

/-- The node is no root of the DODAG, and has the address in it while it is a member. -/
structure MemberAt (n : Node) (key : DodagKey) (address : Ipv6Address) : Prop where
  has : n.HasAddress key address
  member : ∀ dodag, n.dodags[key]? = some dodag → dodag.isRoot = false

/-- A DODAG that is formed is another one. -/
theorem follows_of_ends {rounds : ℕ} (member : m.MemberAt own address)
    (ends : Ends (account own address) (fun n m =>
      (n.account own address).Follows rounds (m.account own address)) n m) :
    (n.account own address).Follows rounds (m.account own address) := by
  cases ends with
  | plain goes => exact goes
  | @forms middle created key mop goes creates same =>
    unfold createDodagMembership at creates
    split at creates
    · cases creates
    · next absent =>
      have formed : created.account own address =
          (middle.setDodag key (middle.rootMembership key mop)).account own address := by
        dsimp only at creates
        split at creates
        · cases creates
          rfl
        · cases creates
          rfl
      rw [same, formed]
      refine goes.trans (follows_made ?_ ?_ ?_ ?_ fun here => ?_)
      · simpa using absent
      · rfl
      · rfl
      · rfl
      · -- the node would be the root
        subst here
        have root : (m.account key address).seat = some (middle.rootMembership key mop).seat := by
          rw [same, formed]
          unfold account setDodag
          rw [ExtTreeMap.getElem?_insert_self]
          rfl
        obtain ⟨dodag, held, seat⟩ := Option.map_eq_some_iff.mp root
        have isRoot : dodag.isRoot = true := congrArg Seat.isRoot seat
        exact absurd (isRoot.symm.trans (member.member dodag held)) (by decide)

/-- Every event keeps to the rules of the Path Sequence. -/
theorem follows_apply {e : Event} (before : n.MemberAt own address)
    (after : (n.apply e).MemberAt own address) :
    (n.account own address).Follows 1 ((n.apply e).account own address) := by
  have ordinary (kind : DaoFrame.Ordinary e) :=
    follows_of_ends after ((follows_frame own address).apply n kind)
  have idle {m : Node} (follows : (n.account own address).Follows 0 (m.account own address)) :
      (n.account own address).Follows 1 (m.account own address) := follows.mono (Nat.zero_le 1)
  cases e with
  | receive heard message =>
    cases message with
    | dao dao =>
      refine idle ?_
      change (n.account own address).Follows 0
        ((n.recvRpl heard (.dao dao)).account own address)
      unfold recvRpl
      split
      · exact .same rfl
      · exact follows_handleDao before.has dao heard.sender heard.interface
    | _ => exact ordinary trivial
  | tick later => exact idle (.same rfl)
  | fire timer =>
    cases timer with
    | dao key =>
      refine idle (Account.Follows.trans (.same ?_) follows_daoEventFire)
      refine account_modifyDodag ?_ ?_
      · exact fun _ => rfl
      · exact fun _ => rfl
    | daoRetry key =>
      refine idle (Account.Follows.trans (.same ?_) follows_daoRetry)
      refine account_modifyDodag ?_ ?_
      · exact fun _ => rfl
      · exact fun _ => rfl
    | _ => exact ordinary trivial
  | _ => exact ordinary trivial

end Node

/-! ## The ledger of a run -/

/-- The node with the journal of its own DAOs since it started. -/
structure Ledger where
  node : Node
  journal : Journal DaoHeader := {}

/-- The journal of one event: the DAOs it adds to what has been sent, each with the increments
that lead to the Path Sequence it carries. -/
def Node.eventJournal (n m : Node) (key : DodagKey) (address : Ipv6Address) :
    Journal DaoHeader :=
  Journal.ofValues sequenceIncrement 256 DaoHeader.pathSequence (n.pathSequenceFor key)
    ((m.ownDaos key address).drop (n.ownDaos key address).length) (m.pathSequenceFor key)

/-- The node, with the ledger of the address in the DODAG kept along the run. -/
def ledgerSystem (key : DodagKey) (address : Ipv6Address) : TransitionSystem Ledger Event where
  initial ledger := ledger.node.Initial ∧ ledger.node.outputs = [] ∧ ledger.journal = {}
  enabled ledger e := ledger.node.Enabled e
  next ledger e :=
    { node := ledger.node.apply e
      journal :=
        ledger.journal.append (ledger.node.eventJournal (ledger.node.apply e) key address) }

namespace Ledger

variable {own : DodagKey} {address : Ipv6Address} {ledger : Ledger}

/-- Few increments are read off as they are: no earlier value is the last one, which is newer. -/
theorem stepsBetween_iterate (start : UInt8) {steps : ℕ} (few : steps ≤ Account.stepsInRound) :
    Journal.stepsBetween sequenceIncrement 256 start (sequenceIncrement^[steps] start) = steps := by
  have few : steps ≤ 4 := few
  refine Journal.stepsBetween_eq (by omega) rfl fun k less same => ?_
  have newer := sequenceCompare_iterate (sequenceIncrement^[k] start) (Nat.sub_pos_of_lt less)
    ((Nat.sub_le steps k).trans (few.trans (by decide)))
  rw [← Function.iterate_add_apply, Nat.sub_add_cancel less.le, ← same, sequenceCompare_self]
    at newer
  cases newer

/-- The ledger of a run that has kept to the rules since a start from nothing. -/
structure Kept (own : DodagKey) (address : Ipv6Address) (ledger : Ledger) (start : Account) :
    Prop where
  nothing : start.sent = []
  zero : start.sequence = 0
  member : ledger.node.MemberAt own address
  logs : start.Logs ledger.journal (ledger.node.account own address)
  spaced : ledger.journal.Spaced (fun dao => dao.isNoPath = true) (fun dao => dao.isNoPath = false)
    start.Silent (ledger.node.account own address).Silent

theorem kept_initial (initial : (ledgerSystem own address).initial ledger) :
    Kept own address ledger (ledger.node.account own address) := by
  obtain ⟨starts, outputs, journal⟩ := initial
  have absent (key : DodagKey) : ledger.node.dodags[key]? = none := by
    rw [starts.dodags]
    rfl
  have seat : (ledger.node.account own address).seat = none := by
    unfold Node.account
    rw [absent own]
    rfl
  have sound : (ledger.node.account own address).Sound := by
    refine ⟨fun key dodag held => ?_, ?_, ?_, ?_⟩
    · rw [absent key] at held
      cases held
    · rw [seat]
      exact nofun
    · rw [seat]
      exact nofun
    · rw [seat]
      exact nofun
  refine ⟨?_, ?_, ⟨fun dodag held => ?_, fun dodag held => ?_⟩, ?_, ?_⟩
  · unfold Node.account Node.ownDaos
    rw [outputs]
    rfl
  · rw [Account.sequence, seat]
    unfold Node.account
    rw [starts.retainedPathSequence]
    rfl
  · rw [absent own] at held
    cases held
  · rw [absent own] at held
    cases held
  · rw [journal]
    exact sound.logs_self
  · rw [journal]
    exact .none id

/-- The journal of an event is the one by which it keeps to the rules. -/
theorem eventJournal_eq {n m : Node} {journal : Journal DaoHeader}
    (logs : (n.account own address).Logs journal (m.account own address))
    (few : journal.total ≤ Account.stepsInRound) :
    n.eventJournal m own address = journal := by
  have sent : (m.ownDaos own address).drop (n.ownDaos own address).length =
      journal.posts.map Prod.snd := by
    have sent : m.ownDaos own address = n.ownDaos own address ++ journal.posts.map Prod.snd :=
      logs.sent
    rw [sent, List.drop_left]
  have counts := logs.counts
  rw [Node.sequence_account, Node.sequence_account] at counts
  unfold Node.eventJournal
  rw [sent]
  refine (Journal.eq_ofValues (fun steps within => ?_) counts).symm
  exact stepsBetween_iterate _ (within.trans few)

theorem kept_next {start : Account} {e : Event} (kept : Kept own address ledger start)
    (after : (ledger.node.apply e).MemberAt own address) :
    Kept own address ((ledgerSystem own address).next ledger e) start := by
  obtain ⟨journal, logs, spaced, within⟩ :=
    Node.follows_apply kept.member after kept.logs.sound
  have same := eventJournal_eq logs within
  refine ⟨kept.nothing, kept.zero, after, ?_, ?_⟩
  · change start.Logs (ledger.journal.append (ledger.node.eventJournal _ own address)) _
    rw [same]
    exact kept.logs.append logs
  · change (ledger.journal.append (ledger.node.eventJournal _ own address)).Spaced _ _ _ _
    rw [same]
    exact kept.spaced.append kept.logs.counts.within spaced

theorem kept_of_run
    (run : (ledgerSystem own address).Run
      (fun ledger e => (ledger.node.apply e).MemberAt own address) ledger) :
    ∃ start, Kept own address ledger start :=
  run.invariant (I := fun ledger => ∃ start, Kept own address ledger start)
    (fun _ initial => ⟨_, kept_initial initial⟩)
    fun _ _ ⟨start, kept⟩ _ after => ⟨start, kept_next kept after⟩

/-- Over a run of a node that is not the root and keeps its address in the DODAG, the journal
lists the DAOs it sends for the address in order; from one to the next the Path Sequence is
incremented as often as the journal counts; and an advertisement behind a No-Path DAO, with no
other between and at most 16 increments, has a greater Path Sequence. -/
theorem pathSequence_over_runs
    (run : (ledgerSystem own address).Run
      (fun ledger e => (ledger.node.apply e).MemberAt own address) ledger) :
    ledger.journal.posts.map Prod.snd = ledger.node.ownDaos own address ∧
      (ledger.journal.posts.IsChain fun earlier later => earlier.1 ≤ later.1 ∧
        later.2.pathSequence = sequenceIncrement^[later.1 - earlier.1] earlier.2.pathSequence) ∧
      ∀ before noPath between advertisement after,
        ledger.journal.posts = before ++ noPath :: (between ++ advertisement :: after) →
        noPath.2.isNoPath = true → (∀ post ∈ between, post.2.isNoPath = false) →
        advertisement.2.isNoPath = false → advertisement.1 - noPath.1 ≤ 16 →
        sequenceCompare advertisement.2.pathSequence noPath.2.pathSequence = .greater := by
  obtain ⟨start, kept⟩ := kept_of_run run
  refine ⟨?_, kept.logs.counts.isChain, ?_⟩
  · have sent := kept.logs.sent
    rw [kept.nothing, List.nil_append] at sent
    exact sent.symm
  · intro before noPath between advertisement after split closes _ opens window
    have counts := kept.logs.counts
    have late : advertisement ∈ between ++ advertisement :: after :=
      List.mem_append_right _ List.mem_cons_self
    have apart := kept.spaced.apart
    rw [split] at apart
    have stepped := List.rel_of_pairwise_cons (List.pairwise_append.mp apart).2.1 late closes opens
    have early : noPath ∈ ledger.journal.posts := by
      rw [split]
      exact List.mem_append_right _ List.mem_cons_self
    have later : advertisement ∈ ledger.journal.posts := by
      rw [split]
      exact List.mem_append_right _ (List.mem_cons_of_mem _ late)
    rw [counts.carries _ early, counts.carries _ later]
    have steps : advertisement.1 = (advertisement.1 - noPath.1) + noPath.1 := by omega
    rw [steps, Function.iterate_add_apply]
    exact sequenceCompare_iterate _ (by omega) window

/-! ## A router that changes its parent -/

/-- fe80::2 and 2001:db8::2 on interface 1. -/
def routerIpv6 : Ipv6L3Protocol :=
  .ofInterfaces
    [{}, { addresses :=
      [{ address := 0xfe800000000000000000000000000002#128, scope := .linkLocal },
        { address := 0x20010db8000000000000000000000002#128, scope := .global }] }]

def routerAddress : Ipv6Address := 0x20010db8000000000000000000000002#128

/-- A DIO of the Storing DODAG of 2001:db8::1 from a neighbour at rank 256. -/
def fartherDio : DioHeader :=
  { rank := 256, dodagId := 0x20010db8000000000000000000000001#128, mop := mopStoringNoMulticast }

/-- One from another neighbour, nearer the root. -/
def nearerDio : DioHeader := { fartherDio with rank := 128 }

/-- The router joins through the first neighbour and advertises itself, hears the second, switches
to it, and advertises itself again. -/
def parentChange : List Event :=
  [.receive { sender := 0xfe800000000000000000000000000001#128, interface := 1 } (.dio fartherDio),
    .fire (.dao fartherDio.key),
    .receive { sender := 0xfe800000000000000000000000000003#128, interface := 1 } (.dio nearerDio),
    .fire (.dao fartherDio.key)]

/-- The ledger after the first of these events. -/
def changing (events : ℕ) : Ledger :=
  (parentChange.take events).foldl (ledgerSystem fartherDio.key routerAddress).next
    { node := Node.started routerIpv6 }

theorem memberAt_of_all {n : Node}
    (all : (n.dodags[own]?).all (fun dodag =>
      !dodag.isRoot && n.getGlobalAddressIn dodag = address) = true) :
    n.MemberAt own address := by
  have each (dodag : DodagMembership) (held : n.dodags[own]? = some dodag) :
      dodag.isRoot = false ∧ n.getGlobalAddressIn dodag = address := by
    rw [held, Option.all_some, Bool.and_eq_true, Bool.not_eq_true', decide_eq_true_eq] at all
    exact all
  exact ⟨fun dodag held => (each dodag held).2, fun dodag held => (each dodag held).1⟩

theorem changing_run :
    (ledgerSystem fartherDio.key routerAddress).Run
      (fun ledger e => (ledger.node.apply e).MemberAt fartherDio.key routerAddress)
      (changing 4) := by
  have started : (ledgerSystem fartherDio.key routerAddress).Run
      (fun ledger e => (ledger.node.apply e).MemberAt fartherDio.key routerAddress)
      (changing 0) :=
    .start ⟨Node.started_initial routerIpv6, rfl, rfl⟩
  have joined := started.step (e := parentChange[0]) (by
    change 1 ∈ (changing 0).node.sockets
    decide +kernel) (memberAt_of_all (by decide +kernel))
  have advertised := joined.step (e := parentChange[1]) (by
    change (changing 1).node.timer (.dao fartherDio.key) = some (changing 1).node.now
    decide +kernel) (memberAt_of_all (by decide +kernel))
  have switched := advertised.step (e := parentChange[2]) (by
    change 1 ∈ (changing 2).node.sockets
    decide +kernel) (memberAt_of_all (by decide +kernel))
  exact switched.step (e := parentChange[3]) (by
    change (changing 3).node.timer (.dao fartherDio.key) = some (changing 3).node.now
    decide +kernel) (memberAt_of_all (by decide +kernel))

/-- The advertisement through the new parent supersedes the withdrawal through the old one. -/
theorem changing_greater :
    ∃ first noPath advertisement, (changing 4).journal.posts = [first, noPath, advertisement] ∧
      noPath.2.isNoPath = true ∧ advertisement.2.isNoPath = false ∧
      (changing 4).journal.posts.map Prod.snd =
        (changing 4).node.ownDaos fartherDio.key routerAddress ∧
      sequenceCompare advertisement.2.pathSequence noPath.2.pathSequence = .greater := by
  have shape : (changing 4).journal.posts.map (fun post => (post.1, post.2.isNoPath)) =
      [(1, false), (2, true), (3, false)] := by
    decide +kernel
  obtain ⟨first, rest, posts, -, more⟩ := List.map_eq_cons_iff.mp shape
  obtain ⟨noPath, rest, rfl, closes, more⟩ := List.map_eq_cons_iff.mp more
  obtain ⟨advertisement, rest, rfl, opens, more⟩ := List.map_eq_cons_iff.mp more
  obtain rfl := List.map_eq_nil_iff.mp more
  obtain ⟨withdrawn, closes⟩ := Prod.mk.inj closes
  obtain ⟨steps, opens⟩ := Prod.mk.inj opens
  obtain ⟨listed, -, greater⟩ := pathSequence_over_runs changing_run
  refine ⟨first, noPath, advertisement, posts, closes, opens, listed, ?_⟩
  refine greater [first] noPath [] advertisement [] posts closes nofun opens ?_
  rw [steps, withdrawn]
  decide

end Ledger

end Rpl
