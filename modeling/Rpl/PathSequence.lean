import Rpl.Aside
import Rpl.Lib.Journal

/-!
# What a node's own DAOs say of its Path Sequence

The Path Sequence lives in the membership, goes with it into what is retained, and comes back
with the next membership of the same DODAG.  It only steps on; every DAO the node sends for its
own address carries the value it has then; and after a No-Path DAO it has stepped on before the
node advertises itself again.
-/

namespace Rpl

open Std

/-! ## The account of one address in one DODAG -/

/-- What a membership contributes to the account. -/
structure Seat where
  pathSequence : UInt8
  preferredParent : Ipv6Address
  isRoot : Bool
  temporary : Bool
  daoAckPending : Bool

def DodagMembership.seat (dodag : DodagMembership) : Seat where
  pathSequence := dodag.pathSequence
  preferredParent := dodag.preferredParent
  isRoot := dodag.isRoot
  temporary := dodag.isTemporary
  daoAckPending := dodag.daoAckPending

/-- The DAO is of the DODAG and for the address. -/
def DaoHeader.advertises (dao : DaoHeader) (key : DodagKey) (address : Ipv6Address) : Bool :=
  dao.instanceId = key.instanceId && dao.dodagId = key.dodagId && dao.target = address

/-- The node's account: the DAOs it has sent for the address in the DODAG, oldest first, its
membership, and the Path Sequence retained of the last one. -/
structure Account where
  pathLifetime : UInt8
  sent : List DaoHeader
  seat : Option Seat
  retained : UInt8
  keyed : Prop

/-- The DAO withdraws. -/
def DaoHeader.isNoPath (dao : DaoHeader) : Bool := dao.pathLifetime = 0

namespace Account

/-- The Path Sequence, held or retained. -/
def sequence (account : Account) : UInt8 :=
  match account.seat with
  | some seat => seat.pathSequence
  | none => account.retained

/-- What holds of the account of a node that is not the root: without a parent it has no DAO to
repeat, and a temporary DODAG leaves the Path Sequence as it was retained. -/
structure Sound (account : Account) : Prop where
  keyed : account.keyed
  member : ∀ seat, account.seat = some seat → seat.isRoot = false
  idle : ∀ seat, account.seat = some seat →
    seat.preferredParent.isAny = true ∨ seat.temporary = true → seat.daoAckPending = false
  kept : ∀ seat, account.seat = some seat → seat.temporary = true →
    seat.pathSequence = account.retained

/-- The node has no advertisement to send: there is no parent, or every DAO it sends is a
No-Path one. -/
def Silent (account : Account) : Prop :=
  account.pathLifetime = 0 ∨ ∀ seat, account.seat = some seat →
    seat.preferredParent.isAny = true ∨ seat.temporary = true

/-- The journal of the Path Sequence from one account to another. -/
structure Logs (before : Account) (journal : Journal DaoHeader) (after : Account) : Prop where
  pathLifetime : after.pathLifetime = before.pathLifetime
  sent : after.sent = before.sent ++ journal.posts.map Prod.snd
  counts : journal.Counts sequenceIncrement DaoHeader.pathSequence before.sequence after.sequence
  sound : after.Sound

/-- On the way from one account to the other the Path Sequence makes a limited number of steps,
and nothing but No-Path DAOs is sent, after the first of them. -/
def Withdraws (before : Account) (limit : ℕ) (after : Account) : Prop :=
  before.Sound → ∃ journal, before.Logs journal after ∧
    (∀ post ∈ journal.posts, post.2.isNoPath = true ∧ 0 < post.1) ∧ journal.total ≤ limit

variable {before middle after : Account} {seat : Seat} {limit more : ℕ}

theorem Logs.append {first second : Journal DaoHeader} (logs : before.Logs first middle)
    (goesOn : middle.Logs second after) : before.Logs (first.append second) after := by
  refine ⟨goesOn.pathLifetime.trans logs.pathLifetime, ?_, logs.counts.append goesOn.counts,
    goesOn.sound⟩
  rw [goesOn.sent, logs.sent, Journal.posts_append_snd, List.append_assoc]

theorem Sound.logs_self (sound : before.Sound) : before.Logs {} before :=
  ⟨rfl, (List.append_nil _).symm, .none, sound⟩

theorem Withdraws.same (same : after = before) : before.Withdraws 0 after := by
  subst same
  exact fun sound => ⟨{}, sound.logs_self, nofun, le_rfl⟩

theorem Withdraws.mono (withdraws : before.Withdraws limit after) (le : limit ≤ more) :
    before.Withdraws more after := fun sound =>
  have ⟨journal, logs, noPath, within⟩ := withdraws sound
  ⟨journal, logs, noPath, within.trans le⟩

theorem Withdraws.trans (first : before.Withdraws limit middle)
    (second : middle.Withdraws more after) : before.Withdraws (limit + more) after := by
  intro sound
  obtain ⟨journal, logs, noPath, within⟩ := first sound
  obtain ⟨goesOn, logsOn, noPathOn, withinOn⟩ := second logs.sound
  refine ⟨journal.append goesOn, logs.append logsOn, fun post mem => ?_,
    Nat.add_le_add within withinOn⟩
  rcases Journal.mem_append mem with early | ⟨later, late, rfl⟩
  · exact noPath post early
  · exact ⟨(noPathOn later late).1, Nat.add_pos_right _ (noPathOn later late).2⟩

/-- Nothing is sent and the Path Sequence stays, in whatever becomes of the membership. -/
theorem withdraws_reseat (pathLifetime : after.pathLifetime = before.pathLifetime)
    (sent : after.sent = before.sent)
    (sound : before.Sound → after.Sound ∧ after.sequence = before.sequence) :
    before.Withdraws 0 after := by
  intro soundBefore
  obtain ⟨soundAfter, sequence⟩ := sound soundBefore
  refine ⟨{}, ⟨pathLifetime, ?_, ?_, soundAfter⟩, nofun, le_rfl⟩
  · rw [sent]
    exact (List.append_nil _).symm
  · rw [sequence]
    exact .none

/-- The Path Sequence of a membership that is not temporary steps on. -/
def stepped (account : Account) (seat : Seat) : Account :=
  { account with seat := some { seat with pathSequence := sequenceIncrement seat.pathSequence } }

theorem sequence_of_seat (held : before.seat = some seat) :
    before.sequence = seat.pathSequence := by
  unfold Account.sequence
  rw [held]

theorem Sound.stepped (sound : before.Sound) (held : before.seat = some seat)
    (lasting : seat.temporary = false) : (before.stepped seat).Sound := by
  refine ⟨sound.keyed, fun other same => ?_, fun other same => ?_, fun other same => ?_⟩
  · obtain rfl := Option.some.inj same
    exact sound.member seat held
  · obtain rfl := Option.some.inj same
    exact sound.idle seat held
  · obtain rfl := Option.some.inj same
    exact fun temporary => absurd (lasting.symm.trans temporary) Bool.false_ne_true

theorem logs_stepped (sound : before.Sound) (held : before.seat = some seat)
    (lasting : seat.temporary = false) : before.Logs ⟨[], 1⟩ (before.stepped seat) := by
  refine ⟨rfl, (List.append_nil _).symm, ⟨nofun, .nil, nofun, ?_⟩, sound.stepped held lasting⟩
  rw [sequence_of_seat held]
  rfl

/-- Some copies of a No-Path DAO that carries the Path Sequence are sent behind its step. -/
theorem withdraws_stepped (copies : ℕ) {dao : DaoHeader} (held : before.seat = some seat)
    (lasting : seat.temporary = false) (noPath : dao.isNoPath = true)
    (carries : dao.pathSequence = sequenceIncrement seat.pathSequence) :
    before.Withdraws 1
      { before.stepped seat with sent := before.sent ++ List.replicate copies dao } := by
  intro sound
  have stepped := logs_stepped sound held lasting
  refine ⟨⟨List.replicate copies (1, dao), 1⟩,
    ⟨rfl, ?_, ⟨?_, ?_, ?_, stepped.counts.stop⟩, ?_⟩, ?_, le_rfl⟩
  · rw [List.map_replicate]
  · intro post mem
    rw [List.eq_of_mem_replicate mem]
  · exact List.pairwise_replicate.mpr (.inr le_rfl)
  · intro post mem
    rw [List.eq_of_mem_replicate mem, sequence_of_seat held]
    exact carries
  · exact ⟨stepped.sound.keyed, stepped.sound.member, stepped.sound.idle, stepped.sound.kept⟩
  · intro post mem
    rw [List.eq_of_mem_replicate mem]
    exact ⟨noPath, Nat.one_pos⟩

/-! ### A round of parent selection -/

/-- How a round of parent selection leaves the account: without an advertisement to send, or with
a Path Sequence that has stepped on since the last No-Path DAO, or, where the parent is kept,
with nothing sent. -/
def Settles (before : Account) (limit : ℕ) (kept : Prop) (after : Account) : Prop :=
  before.Sound → ∃ journal, before.Logs journal after ∧
    (∀ post ∈ journal.posts, post.2.isNoPath = true ∧ 0 < post.1) ∧ journal.total ≤ limit ∧
      (after.Silent ∨ (0 < journal.total ∧ ∀ post ∈ journal.posts, post.1 < journal.total) ∨
        (journal.total = 0 ∧ (before.Silent → after.Silent) ∧ kept))

variable {kept other : Prop}

theorem Withdraws.settles_silent (withdraws : before.Withdraws limit after)
    (silent : after.Silent) : before.Settles limit kept after := fun sound =>
  have ⟨journal, logs, noPath, within⟩ := withdraws sound
  ⟨journal, logs, noPath, within, .inl silent⟩

theorem Withdraws.settles_stepped (withdraws : before.Withdraws limit middle)
    (held : middle.seat = some seat) (lasting : seat.temporary = false) :
    before.Settles (limit + 1) kept (middle.stepped seat) := by
  intro sound
  obtain ⟨journal, logs, noPath, within⟩ := withdraws sound
  refine ⟨journal.append ⟨[], 1⟩, logs.append (logs_stepped logs.sound held lasting),
    fun post mem => ?_, Nat.add_le_add_right within 1, .inr (.inl ⟨Nat.succ_pos _, ?_⟩)⟩
  · rw [Journal.append, List.map_nil, List.append_nil] at mem
    exact noPath post mem
  · intro post mem
    rw [Journal.append, List.map_nil, List.append_nil] at mem
    exact Nat.lt_succ_of_le (logs.counts.within post mem)

theorem Withdraws.settles_kept (withdraws : before.Withdraws 0 after)
    (silent : before.Silent → after.Silent) (keeps : kept) :
    before.Settles limit kept after := fun sound =>
  have ⟨journal, logs, noPath, within⟩ := withdraws sound
  ⟨journal, logs, noPath, within.trans (Nat.zero_le limit),
    .inr (.inr ⟨Nat.le_zero.mp within, silent, keeps⟩)⟩

theorem Settles.imp (settles : before.Settles limit kept after) (weaker : kept → other) :
    before.Settles limit other after := fun sound =>
  have ⟨journal, logs, noPath, within, settled⟩ := settles sound
  ⟨journal, logs, noPath, within,
    settled.imp_right (Or.imp_right fun ⟨still, stays, keeps⟩ => ⟨still, stays, weaker keeps⟩)⟩

/-- A withdrawal before a round in which the parent is not kept. -/
theorem Withdraws.then_settles (withdraws : before.Withdraws limit middle)
    (settles : middle.Settles more kept after) (notKept : ¬kept) :
    before.Settles (limit + more) other after := by
  intro sound
  obtain ⟨journal, logs, noPath, within⟩ := withdraws sound
  obtain ⟨goesOn, logsOn, noPathOn, withinOn, settled⟩ := settles logs.sound
  refine ⟨journal.append goesOn, logs.append logsOn, fun post mem => ?_,
    Nat.add_le_add within withinOn, ?_⟩
  · rcases Journal.mem_append mem with early | ⟨later, late, rfl⟩
    · exact noPath post early
    · exact ⟨(noPathOn later late).1, Nat.add_pos_right _ (noPathOn later late).2⟩
  · rcases settled with silent | ⟨positive, behind⟩ | ⟨-, -, keeps⟩
    · exact .inl silent
    · refine .inr (.inl ⟨Nat.add_pos_right _ positive, fun post mem => ?_⟩)
      change post.1 < journal.total + goesOn.total
      rcases Journal.mem_append mem with early | ⟨later, late, rfl⟩
      · have bound := logs.counts.within post early
        omega
      · have bound := behind later late
        dsimp only
        omega
    · exact absurd keeps notKept

/-! ### Following the rules -/

/-- The most steps the Path Sequence makes in one round. -/
def stepsInRound : ℕ := 4

/-- From one account to the other the node keeps to the rules of its Path Sequence: the journal
there is spaced, and it has so many steps for each round at most. -/
def Follows (before : Account) (rounds : ℕ) (after : Account) : Prop :=
  before.Sound → ∃ journal, before.Logs journal after ∧
    journal.Spaced (fun dao => dao.isNoPath = true) (fun dao => dao.isNoPath = false) before.Silent
      after.Silent ∧ journal.total ≤ stepsInRound * rounds

theorem Follows.trans {first second : ℕ} (follows : before.Follows first middle)
    (goesOn : middle.Follows second after) : before.Follows (first + second) after := by
  intro sound
  obtain ⟨journal, logs, spaced, within⟩ := follows sound
  obtain ⟨later, logsOn, spacedOn, withinOn⟩ := goesOn logs.sound
  refine ⟨journal.append later, logs.append logsOn, spaced.append logs.counts.within spacedOn, ?_⟩
  rw [Nat.mul_add]
  exact Nat.add_le_add within withinOn

theorem Follows.mono {first second : ℕ} (follows : before.Follows first after)
    (le : first ≤ second) : before.Follows second after := fun sound =>
  have ⟨journal, logs, spaced, within⟩ := follows sound
  ⟨journal, logs, spaced, within.trans (Nat.mul_le_mul_left _ le)⟩

theorem Settles.follows {rounds : ℕ} (settles : before.Settles limit kept after)
    (within : limit ≤ stepsInRound * rounds) : before.Follows rounds after := by
  intro sound
  obtain ⟨journal, logs, noPath, total, settled⟩ := settles sound
  have closed : ∀ post ∈ journal.posts, ¬post.2.isNoPath = false := fun post mem opens =>
    Bool.false_ne_true (opens.symm.trans (noPath post mem).1)
  refine ⟨journal, logs, ⟨?_, ?_, fun post mem _ last => ?_, fun silent none => ?_⟩,
    total.trans within⟩
  · exact logs.counts.ordered.imp_of_mem fun _ mem _ _ opens => absurd opens (closed _ mem)
  · exact fun _ post mem opens => absurd opens (closed post mem)
  · rcases settled with silent | ⟨-, behind⟩ | ⟨none, -, -⟩
    · exact silent
    · exact absurd last (Nat.ne_of_lt (behind post mem))
    · have positive := (noPath post mem).2
      omega
  · rcases settled with now | ⟨positive, -⟩ | ⟨-, stays, -⟩
    · exact now
    · exact absurd none positive.ne'
    · exact stays silent

/-- A stretch without a step of the Path Sequence. -/
theorem Withdraws.follows (withdraws : before.Withdraws 0 after)
    (silent : before.Silent → after.Silent) : before.Follows 0 after :=
  (withdraws.settles_kept silent trivial : before.Settles 0 True after).follows (Nat.zero_le _)

/-- A stretch without a step of the Path Sequence in which the membership stays. -/
theorem Withdraws.follows_apart (withdraws : before.Withdraws 0 after)
    (seat : after.seat = before.seat) : before.Follows 0 after := by
  intro sound
  obtain ⟨journal, logs, -, -⟩ := withdraws sound
  refine withdraws.follows (fun silent => ?_) sound
  unfold Silent at *
  rw [logs.pathLifetime, seat]
  exact silent

/-- Some copies of an advertisement that carries the Path Sequence as it is are sent by a
membership with a parent. -/
theorem follows_advertised (copies : ℕ) {dao : DaoHeader} (held : before.seat = some seat)
    (parent : seat.preferredParent.isAny = false) (lasting : seat.temporary = false)
    (carries : dao.pathSequence = seat.pathSequence)
    (lifetime : dao.pathLifetime = before.pathLifetime) :
    before.Follows 0
      { before with
        seat := some { seat with daoAckPending := true }
        sent := before.sent ++ List.replicate copies dao } := by
  intro sound
  -- a node that is silent all the same sends No-Path DAOs only
  have mute (silent : before.Silent) : before.pathLifetime = 0 := by
    rcases silent with mute | parentless
    · exact mute
    · rcases parentless seat held with none | temporary
      · exact absurd (parent.symm.trans none) Bool.false_ne_true
      · exact absurd (lasting.symm.trans temporary) Bool.false_ne_true
  have kind : dao.isNoPath = decide (before.pathLifetime = 0) := by
    rw [DaoHeader.isNoPath, lifetime]
  refine ⟨⟨List.replicate copies (0, dao), 0⟩, ⟨rfl, ?_, ⟨?_, ?_, ?_, ?_⟩, ?_⟩, ⟨?_, ?_, ?_, ?_⟩,
    Nat.zero_le _⟩
  · rw [List.map_replicate]
  · intro post mem
    rw [List.eq_of_mem_replicate mem]
  · exact List.pairwise_replicate.mpr (.inr le_rfl)
  · intro post mem
    rw [List.eq_of_mem_replicate mem, sequence_of_seat held]
    exact carries
  · rw [sequence_of_seat held]
    rfl
  · refine ⟨sound.keyed, fun other same => ?_, fun other same => ?_, fun other same => ?_⟩
    · obtain rfl := Option.some.inj same
      exact sound.member seat held
    · obtain rfl := Option.some.inj same
      rintro (none | temporary)
      · exact absurd (parent.symm.trans none) Bool.false_ne_true
      · exact absurd (lasting.symm.trans temporary) Bool.false_ne_true
    · obtain rfl := Option.some.inj same
      exact sound.kept seat held
  · exact List.pairwise_replicate.mpr (.inr fun closes opens =>
      absurd (opens.symm.trans closes) Bool.false_ne_true)
  · intro silent post mem opens
    rw [List.eq_of_mem_replicate mem, kind, mute silent] at opens
    exact absurd opens (by decide)
  · intro post mem closes _
    rw [List.eq_of_mem_replicate mem, kind, decide_eq_true_eq] at closes
    exact .inl closes
  · exact fun silent _ => .inl (mute silent)

theorem Follows.same (same : after = before) : before.Follows 0 after :=
  (Withdraws.same same).follows (same ▸ id)

end Account

namespace Node

/-- The DAO of an output, when it is of the DODAG and for the address. -/
def ownDao? (key : DodagKey) (address : Ipv6Address) (output : Output) : Option DaoHeader :=
  output.dao?.filter fun dao => dao.advertises key address

/-- The DAOs of the DODAG the node has sent for the address, oldest first. -/
def ownDaos (n : Node) (key : DodagKey) (address : Ipv6Address) : List DaoHeader :=
  (n.outputs.filterMap (ownDao? key address)).reverse

/-- Every membership is held under its own key. -/
def UnderOwnKeys (n : Node) : Prop :=
  ∀ (key : DodagKey) (dodag : DodagMembership), n.dodags[key]? = some dodag → dodag.key = key

def account (key : DodagKey) (address : Ipv6Address) (n : Node) : Account where
  pathLifetime := n.attributes.pathLifetime
  sent := n.ownDaos key address
  seat := (n.dodags[key]?).map DodagMembership.seat
  retained := n.retainedPathSequence[key]?.getD 0
  keyed := n.UnderOwnKeys

/-- The Path Sequence the node has for the DODAG, held or retained. -/
def pathSequenceFor (n : Node) (key : DodagKey) : UInt8 :=
  match n.dodags[key]? with
  | some dodag => dodag.pathSequence
  | none => n.retainedPathSequence[key]?.getD 0

variable {n m after : Node} {own key : DodagKey} {address : Ipv6Address}
  {dodag changed : DodagMembership}

theorem sequence_account : (n.account own address).sequence = n.pathSequenceFor own := by
  unfold Account.sequence account pathSequenceFor
  cases n.dodags[own]? with
  | none => rfl
  | some dodag => rfl

/-! ## What the account does not see -/

theorem keyed_setDodag (held : n.dodags[key]? = some dodag) (same : changed.key = dodag.key) :
    (n.setDodag key changed).UnderOwnKeys = n.UnderOwnKeys := by
  refine propext ⟨fun keyed other member heldOther => ?_, fun keyed other member heldOther => ?_⟩
  · by_cases here : other = key
    · subst here
      obtain rfl := Option.some.inj (held.symm.trans heldOther)
      rw [← same]
      exact keyed other changed ExtTreeMap.getElem?_insert_self
    · refine keyed other member ?_
      change (n.dodags.insert key changed)[other]? = some member
      rw [OrderedMap.getElem?_insert_eq, if_neg here, heldOther]
  · change (n.dodags.insert key changed)[other]? = some member at heldOther
    rw [OrderedMap.getElem?_insert_eq] at heldOther
    split at heldOther
    · next here =>
      obtain rfl := Option.some.inj heldOther
      rw [same, here]
      exact keyed key dodag held
    · exact keyed other member heldOther

/-- The membership of another DODAG is not in the account. -/
theorem account_setDodag_other (held : n.dodags[key]? = some dodag) (same : changed.key = dodag.key)
    (other : key ≠ own) :
    (n.setDodag key changed).account own address = n.account own address := by
  have keyed := keyed_setDodag held same
  have seat : (n.setDodag key changed).dodags[own]? = n.dodags[own]? := by
    change (n.dodags.insert key changed)[own]? = n.dodags[own]?
    rw [OrderedMap.getElem?_insert_eq, if_neg (Ne.symm other)]
  unfold account at keyed ⊢
  rw [seat]
  exact congrArg (Account.mk _ _ _ _) keyed

theorem account_setDodag_own (address : Ipv6Address) (held : n.dodags[own]? = some dodag)
    (same : changed.key = dodag.key) :
    (n.setDodag own changed).account own address =
      { n.account own address with seat := some changed.seat } := by
  have keyed := keyed_setDodag held same
  have seat : (n.setDodag own changed).dodags[own]? = some changed :=
    ExtTreeMap.getElem?_insert_self
  unfold account at keyed ⊢
  rw [seat]
  exact congrArg (Account.mk _ _ _ _) keyed

theorem account_seat (held : n.dodags[own]? = some dodag) :
    (n.account own address).seat = some dodag.seat := by
  unfold account
  rw [held]
  rfl

theorem account_setDodag (held : n.dodags[key]? = some dodag) (same : changed.key = dodag.key)
    (seat : changed.seat = dodag.seat) :
    (n.setDodag key changed).account own address = n.account own address := by
  by_cases other : key = own
  · subst other
    rw [account_setDodag_own address held same, seat, ← account_seat held]
  · exact account_setDodag_other held same other

theorem account_modifyDodag {f : DodagMembership → DodagMembership}
    (same : ∀ dodag, (f dodag).key = dodag.key) (seat : ∀ dodag, (f dodag).seat = dodag.seat) :
    (n.modifyDodag key f).account own address = n.account own address := by
  cases held : n.dodags[key]? with
  | none => rw [modifyDodag_of_absent held]
  | some dodag =>
    rw [setDodag_of_held held]
    exact account_setDodag held (same dodag) (seat dodag)

theorem ownDaos_emit (sent : List Output) :
    (n.emit sent).ownDaos own address =
      n.ownDaos own address ++ (sent.filterMap (ownDao? own address)).reverse := by
  unfold ownDaos emit
  rw [List.filterMap_append, List.reverse_append]

theorem account_emit (sent : List Output) :
    (n.emit sent).account own address =
      { n.account own address with
        sent := n.ownDaos own address ++ (sent.filterMap (ownDao? own address)).reverse } := by
  unfold account
  rw [ownDaos_emit]
  rfl

theorem account_aside (own : DodagKey) (address : Ipv6Address) : Aside (account own address) where
  replies n sent none := by
    have unseen : sent.filterMap (ownDao? own address) = [] := by
      refine List.filterMap_eq_nil_iff.mpr fun output mem => ?_
      unfold ownDao?
      rw [none output mem]
      rfl
    rw [account_emit, unseen]
    exact congrArg (Account.mk _ · _ _ _) (List.append_nil _)
  findings _ _ := rfl
  alike n other dodag changed held alike := by
    refine account_setDodag held ?_ ?_
    · rw [alike]
      rfl
    · rw [alike]
      rfl

/-- Copies of a DAO are added to what has been sent when the DAO is of the DODAG and for the
address. -/
theorem account_hands (own : DodagKey) (address : Ipv6Address) {dao : DaoHeader}
    {destination : Ipv6Address}
    (hands : n.Hands (.dao dao) destination after) :
    ∃ copies, (dao.advertises own address = false → copies = 0) ∧
      after.account own address =
        { n.account own address with
          sent := n.ownDaos own address ++ List.replicate copies dao } := by
  obtain ⟨sent, rfl, carry⟩ := hands
  refine ⟨((sent.filterMap (ownDao? own address)).reverse).length, fun other => ?_, ?_⟩
  · rw [List.length_reverse, List.length_eq_zero_iff, List.filterMap_eq_nil_iff]
    intro output mem
    obtain ⟨interface, source, rfl⟩ := carry output mem
    unfold ownDao? Output.dao?
    rw [Option.filter_some, other]
    rfl
  · rw [account_emit]
    refine congrArg (fun more => Account.mk _ (n.ownDaos own address ++ more) _ _ _) ?_
    refine List.eq_replicate_iff.mpr ⟨rfl, fun other mem => ?_⟩
    obtain ⟨output, mem, owned⟩ := List.mem_filterMap.mp (List.mem_reverse.mp mem)
    obtain ⟨interface, source, rfl⟩ := carry output mem
    exact (Option.some.inj (Option.filter_eq_some_iff.mp owned).1).symm

/-- A DAO that names its DODAG is no DAO of another. -/
theorem not_advertises {dao : DaoHeader}
    (foreign : (⟨dao.instanceId, dao.dodagId⟩ : DodagKey) ≠ own) :
    dao.advertises own address = false := by
  rw [Ne, DodagKey.mk.injEq, not_and] at foreign
  unfold DaoHeader.advertises
  by_cases instanceId : dao.instanceId = own.instanceId
  · simp only [foreign instanceId, decide_false, Bool.and_false, Bool.false_and]
  · simp only [instanceId, decide_false, Bool.false_and]

end Node

end Rpl
