import Rpl.AodvCodec
import Rpl.IdAllocation
import Rpl.RejoinBar
import Rpl.StoppedDiscovery

/-!
# The RREQ-Instance an RREP-Instance answers

A TargNode roots the RREP-Instance under an RPLInstanceID of its own, and the DIOs that flood
it carry the difference, Delta, and the OrigNode.  Every router on the way takes them out of
the DIO it hears and works them out again for the ones it sends.  Delta has six bits: where
the allocator ends with an ID that no Delta reaches, nobody gets back to the RREQ-Instance.
-/

namespace Rpl

open Std

/-! ## What a DIO leads back to -/

/-- The RPLInstanceID less Delta is that of the RREQ-Instance, and the ART names its OrigNode. -/
structure DioHeader.PairedWith (dio : DioHeader) (rreqKey : DodagKey) : Prop where
  instanceId : dio.instanceId - dio.getRrep.delta = rreqKey.instanceId
  origNode : dio.getArt.target = rreqKey.dodagId

/-- An RREP-Instance is that of the RREQ-Instance. -/
def AodvStake.PairedWith (aodv : AodvStake) (rreqKey : DodagKey) : Prop :=
  aodv.isRrepInstance = true →
    aodv.pairedInstanceId = rreqKey.instanceId ∧ aodv.origNode = rreqKey.dodagId

/-- A Delta of six bits and the OrigNode get across. -/
theorem DioHeader.PairedWith.carried {dio : DioHeader} {rreqKey : DodagKey} {rrep : RrepOption}
    (paired : dio.PairedWith rreqKey) (option : dio.rrep = some rrep)
    (reach : rrep.delta ≤ aodvDeltaMax) (fits : dio.VectorsFit) :
    dio.carried.PairedWith rreqKey := by
  have delta : dio.carried.getRrep.delta = dio.getRrep.delta := by
    rw [DioHeader.carried_eq fits, getRrep, getRrep, option]
    exact RrepOption.carried_delta reach
  have target : dio.carried.getArt.target = dio.getArt.target := by
    rw [DioHeader.carried_eq fits, getArt, getArt, List.head?_map]
    cases dio.arts.head? with
    | none => rfl
    | some art => rfl
  have instanceId : dio.carried.instanceId = dio.instanceId := by
    rw [DioHeader.carried_eq fits]
  exact ⟨by rw [instanceId, delta, paired.instanceId], by rw [target, paired.origNode]⟩

/-- A membership of the RREP-Instance sends DIOs that lead back to the RREQ-Instance. -/
theorem DodagMembership.pairedWith_dioMessage {dodag : DodagMembership} {rreqKey : DodagKey}
    {enableLql : Bool} {route : List Ipv6Address} (paired : dodag.stake.aodv.PairedWith rreqKey)
    (rrep : (dodag.dioMessage enableLql route).rrep.isSome = true) :
    (dodag.dioMessage enableLql route).PairedWith rreqKey ∧
      (dodag.dioMessage enableLql route).getRrep.delta = dodag.instanceId - rreqKey.instanceId ∧
      (dodag.dioMessage enableLql route).rreq = none := by
  unfold dioMessage at rrep ⊢
  cases option : dodag.discoveryOption with
  | none =>
    rw [option] at rrep
    cases rrep
  | rreq =>
    rw [option] at rrep
    cases rrep
  | p2p =>
    rw [option] at rrep
    cases rrep
  | rrep =>
    have isRrepInstance : dodag.aodv.isRrepInstance = true := by
      unfold discoveryOption at option
      split at option
      · cases option
      · split at option
        · next is => exact is
        · split at option
          · cases option
          · split at option
            · cases option
            · cases option
    obtain ⟨pairedInstanceId, origNode⟩ := paired isRrepInstance
    have delta : dodag.rrepOption.delta = dodag.instanceId - rreqKey.instanceId :=
      congrArg (dodag.instanceId - ·) pairedInstanceId
    refine ⟨⟨?_, origNode⟩, delta, rfl⟩
    change dodag.instanceId - dodag.rrepOption.delta = rreqKey.instanceId
    rw [delta, sub_sub_cancel]

/-! ## The ID of the answer -/

namespace Node

variable {n m : Node} {e : Event} {s after : Stakes} {key rreqKey : DodagKey}
  {rreqDodag : DodagMembership} {dio asked : DioHeader} {heard : Reception}

/-- The allocator has an ID within the reach of Delta to give: one outside every bar, or one
whose first bar ends before the largest time. Otherwise it ends with 0. -/
def DeltaReaches (n : Node) (rreqDodag : DodagMembership) (rreqKey : DodagKey) : Prop :=
  (∃ id ∈ n.spare (.startAodvRrepInstance rreqDodag rreqKey),
    n.firstEnd (.startAodvRrepInstance rreqDodag rreqKey) id < timeMax) ∨
    0 - rreqKey.instanceId ≤ aodvDeltaMax

/-- The walk ends with a spare ID where the first bar of one ends before the largest time, and
with 0 where none does. -/
theorem spare_of_allocated {call : Allocation} {id : UInt8} (ends : n.allocated call = some id) :
    (id ∈ n.spare call ∧ n.firstEnd call id < timeMax) ∨
      id = 0 ∧ ∀ other ∈ n.spare call, timeMax ≤ n.firstEnd call other := by
  by_cases free : ∃ other ∈ n.spare call, ¬n.Barred call other
  · obtain ⟨other, spare, unbarred⟩ := free
    obtain ⟨taken, takenSpare, takenFree, takes⟩ := allocated_of_free spare unbarred
    cases takes.symm.trans ends
    have noBar : n.firstBar call id = none := by
      rw [← Option.not_isSome_iff_eq_none, firstBar_isSome]
      exact takenFree
    exact .inl ⟨takenSpare, by rw [firstEnd, noBar]; decide⟩
  push Not at free
  cases least : (n.spare call).argmin (n.firstEnd call) with
  | none =>
    rw [allocated_of_full (List.argmin_eq_none.mp least)] at ends
    cases ends
  | some first =>
    rw [allocated_of_barred free least] at ends
    split at ends
    · next early =>
      cases ends
      exact .inl ⟨List.argmin_mem least, early⟩
    · next late =>
      cases ends
      exact .inr ⟨rfl, fun other spare =>
        Int.le_trans (Int.not_lt.mp late) (List.le_of_mem_argmin spare least)⟩

/-- An ID that pairs with the RREQ-Instance's lies a Delta above it, and is the ID of the DODAG
rooted under it. -/
theorem reach_of_pairable {id rreqInstanceId : UInt8}
    (pairable : id ∈ pairableInstanceIds rreqInstanceId) :
    id - rreqInstanceId ≤ aodvDeltaMax ∧ clearDFlag id = id := by
  rw [pairableInstanceIds, List.mem_filter, List.mem_map, decide_eq_true_eq] at pairable
  obtain ⟨⟨delta, inRange, rfl⟩, dClear⟩ := pairable
  have small : delta < 64 := List.mem_range.mp inRange
  constructor
  · rw [add_sub_cancel_left, UInt8.le_iff_toNat_le, UInt8.toNat_ofNat']
    change delta % 256 ≤ 63
    omega
  · have clear : ∀ id : UInt8, id &&& localInstanceDFlag = 0 → clearDFlag id = id :=
      Octets.forall_octet (by decide +kernel)
    exact clear _ dClear

/-- A Delta reaches the ID given exactly when there is one within reach to give. -/
theorem delta_reaches_allocated {id : UInt8}
    (allocates : n.allocateRrepInstanceId rreqKey.instanceId (n.getGlobalAddressIn rreqDodag)
      n.getGlobalAddress = some id) :
    clearDFlag id - rreqKey.instanceId ≤ aodvDeltaMax ↔ n.DeltaReaches rreqDodag rreqKey := by
  have ends : n.allocated (.startAodvRrepInstance rreqDodag rreqKey) = some id := allocates
  rcases spare_of_allocated ends with ⟨spare, early⟩ | ⟨rfl, barred⟩
  · obtain ⟨reach, clear⟩ := reach_of_pairable (List.mem_filter.mp spare).1
    rw [clear]
    exact iff_of_true reach (.inl ⟨id, spare, early⟩)
  · constructor
    · exact .inr
    · rintro (⟨other, spare, early⟩ | zero)
      · exact absurd early (Int.not_lt.mpr (barred other spare))
      · exact zero

/-- Where an RREP-Instance is rooted, a Delta reaches its ID exactly when the allocator has one
within reach to give. -/
theorem delta_reaches_iff (absent : n.dodags[key]? = none)
    (rooted : ((n.startAodvRrepInstance rreqDodag rreqKey).dodags[key]?).isSome = true) :
    key.instanceId - rreqKey.instanceId ≤ aodvDeltaMax ↔ n.DeltaReaches rreqDodag rreqKey := by
  rcases n.startAodvRrepInstance_cases rreqDodag rreqKey with
    nothing | ⟨-, -, id, expiry, allocates, -, stakes⟩
  · rw [nothing, absent] at rooted
    cases rooted
  · have held := congrArg (fun s : Stakes => s.held[key]?) stakes
    rw [Stakes.put_held] at held
    split at held
    · next isKey =>
      rw [isKey]
      exact delta_reaches_allocated allocates
    · rw [stakes_held, stakes_held, absent, Option.map_none, Option.map_eq_none_iff] at held
      rw [held] at rooted
      cases rooted

/-! ## The answer -/

/-- A node takes the RREQ-DIO in, and answers it by rooting the RREP-Instance of the key. -/
structure RootsAnswer (n : Node) (heard : Reception) (asked : DioHeader) (key : DodagKey) :
    Prop where
  reachable : nodeSystem.Reachable n
  enabled : n.Enabled (.receive heard (.dio asked))
  takes : n.takesDio asked heard = true
  rreq : asked.rreq.isSome = true
  absent : n.dodags[key]? = none
  rooted : ((n.apply (.receive heard (.dio asked))).dodags[key]?).any
    (fun dodag => dodag.isRoot && dodag.aodv.isRrepInstance) = true

/-- What an event rewrites in a membership leaves it to the same RREQ-Instance. -/
theorem pairedWith_of_rewrites {late : Bool} {stake other : Stake}
    (rewrites : n.Rewrites e late s key stake other)
    (follows : ∀ dio heard, n.Takes e dio heard → dio.rrep.isSome = true → dio.key = key →
      dio.PairedWith rreqKey) :
    other.isRoot = stake.isRoot ∧
      (stake.aodv.PairedWith rreqKey → other.aodv.PairedWith rreqKey) := by
  cases rewrites with
  | rest => exact ⟨rfl, id⟩
  | rreq => exact ⟨rfl, id⟩
  | rrep early takes rrep keyed =>
    have paired := follows _ _ takes rrep keyed
    exact ⟨rfl, fun _ _ => ⟨paired.instanceId, paired.origNode⟩⟩
  | armAodv => exact ⟨rfl, id⟩
  | rdo => exact ⟨rfl, id⟩
  | armP2p => exact ⟨rfl, id⟩
  | stop => exact ⟨rfl, id⟩

/-- A membership that begins is no RREP-Instance yet, or is the answer to the RREQ taken in. -/
theorem pairedWith_of_begins {late : Bool} {stake : Stake} (begins : n.Begins e late s key stake) :
    (∀ rreqKey, stake.aodv.PairedWith rreqKey) ∨
      stake.isRoot = true ∧ ∃ dio heard, n.Takes e dio heard ∧ stake.aodv.PairedWith dio.key := by
  cases begins with
  | join => exact .inl fun _ isRrepInstance => absurd isRrepInstance Bool.false_ne_true
  | root roots =>
    cases roots with
    | ordinary => exact .inl fun _ isRrepInstance => absurd isRrepInstance Bool.false_ne_true
    | rreq => exact .inl fun _ isRrepInstance => absurd isRrepInstance Bool.false_ne_true
    | p2p => exact .inl fun _ isRrepInstance => absurd isRrepInstance Bool.false_ne_true
    | rrep _ takes => exact .inr ⟨rfl, _, _, takes, fun _ => ⟨rfl, rfl⟩⟩

/-- The TargNode has the RREP-Instance of the RREQ-Instance asked about. -/
theorem RootsAnswer.pairedWith (answers : n.RootsAnswer heard asked key) :
    ∀ stake, (n.apply (.receive heard (.dio asked))).stakes.held[key]? = some stake →
      stake.aodv.PairedWith asked.key := by
  have takes : n.Takes (.receive heard (.dio asked)) asked heard := ⟨rfl, answers.takes⟩
  have noRrep : asked.rrep.isSome = false := (takes.discovery.1 answers.rreq).1
  refine keeps_apply (I := fun s => ∀ stake, s.held[key]? = some stake →
    stake.aodv.PairedWith asked.key) answers.enabled ?_ ?_
  · intro s after _ shift paired stake held
    cases shift.turn key with
    | stays same => exact paired stake (same ▸ held)
    | unbars _ _ _ _ before still =>
      cases still.symm.trans held
      exact paired _ before
    | begins _ begins heldAfter =>
      cases heldAfter.symm.trans held
      rcases pairedWith_of_begins begins with any | ⟨-, dio, other, takesOther, leads⟩
      · exact any asked.key
      · cases takes.unique takesOther
        exact leads
    | rewrites before rewrites rewritten =>
      cases rewritten.symm.trans held
      refine (pairedWith_of_rewrites rewrites fun dio other takesOther rrep _ => ?_).2
        (paired _ before)
      cases takes.unique takesOther
      rw [noRrep] at rrep
      cases rrep
    | ends _ gone =>
      rw [gone] at held
      cases held
  · intro stake held
    rw [stakes_held, answers.absent] at held
    cases held

/-! ## The flood -/

/-- The node multicasts the DIO in the course of the event. -/
def Multicasts (n : Node) (e : Event) (said : DioHeader) : Prop :=
  ∃ since, (n.apply e).stakes.dios = since ++ n.stakes.dios ∧ (allNodesMulticast, said) ∈ since

/-- The node has recorded what the DIO says in its membership under the key. -/
def Records (n : Node) (key : DodagKey) (dio : DioHeader) : Prop :=
  ∃ dodag, n.dodags[key]? = some dodag ∧ dodag.aodv.isRrepInstance = true ∧
    dodag.aodv.pairedInstanceId = dio.instanceId - dio.getRrep.delta ∧
    dodag.aodv.origNode = dio.getArt.target

mutual

/-- The routers whose membership under the key is one of the flood that `origin` has started. -/
inductive InFlood (origin : Node) (key : DodagKey) : Node → Prop
  | root : InFlood origin key origin
  /-- A router that has recorded what a DIO of the flood says, whatever it was before. -/
  | records {n : Node} {heard : Reception} {dio : DioHeader}
      (reachable : nodeSystem.Reachable n) (enabled : n.Enabled (.receive heard (.dio dio)))
      (floods : FloodDio origin key dio)
      (records : (n.apply (.receive heard (.dio dio))).Records key dio) :
      InFlood origin key (n.apply (.receive heard (.dio dio)))
  /-- Any step after that, while the membership lasts and the RREP-DIOs taken in are the flood's. -/
  | goesOn {n : Node} {e : Event} (inFlood : InFlood origin key n) (enabled : n.Enabled e)
      (follows : ∀ dio heard, n.Takes e dio heard → dio.rrep.isSome = true → dio.key = key →
        FloodDio origin key dio)
      (lasts : (n.apply e).departures key = n.departures key) : InFlood origin key (n.apply e)

/-- The RREP-DIOs of the flood, as they are read off the wire. `SetRrep` asserts that the address
vector has room. -/
inductive FloodDio (origin : Node) (key : DodagKey) : DioHeader → Prop
  | said {n : Node} {e : Event} {said : DioHeader} (inFlood : InFlood origin key n)
      (enabled : n.Enabled e)
      (follows : ∀ dio heard, n.Takes e dio heard → dio.rrep.isSome = true → dio.key = key →
        FloodDio origin key dio)
      (sends : n.Multicasts e said) (keyed : said.key = key) (rrep : said.rrep.isSome = true)
      (room : said.getRrep.addressVector.length ≤ aodvAddressVectorMaxEntries) :
      FloodDio origin key said.carried

end

/-- A multicast RREP-DIO of the key leads back to the RREQ-Instance, by the Delta between the
two. -/
def LeadsBack (key rreqKey : DodagKey) (said : Ipv6Address × DioHeader) : Prop :=
  said.1 = allNodesMulticast → said.2.key = key → said.2.rrep.isSome = true →
    said.2.PairedWith rreqKey ∧ said.2.getRrep.delta = key.instanceId - rreqKey.instanceId ∧
      said.2.rreq = none

/-- How the membership under the key stands in the course of an event. A membership that begins
after it has ended is that of another answer at most, and that is the last thing an event does. -/
structure Following (n : Node) (e : Event) (key rreqKey : DodagKey) (s : Stakes) : Prop where
  left : s.held[key]? = none → n.departures key < s.ended.count key
  paired : ∀ stake, s.held[key]? = some stake → stake.aodv.PairedWith rreqKey ∨
    stake.isRoot = true ∧ n.departures key < s.ended.count key ∧
      ∃ dio heard, n.Takes e dio heard
  said : ∃ since, s.dios = since ++ n.stakes.dios ∧ ∀ said ∈ since, LeadsBack key rreqKey said

theorem following_self {stake : Stake} (held : n.stakes.held[key]? = some stake)
    (paired : stake.aodv.PairedWith rreqKey) : Following n e key rreqKey n.stakes where
  left absent := by
    rw [held] at absent
    cases absent
  paired other heldOther := by
    cases held.symm.trans heldOther
    exact .inl paired
  said := ⟨[], rfl, fun _ mem => absurd mem List.not_mem_nil⟩

/-- A membership that is not one the event itself has rooted says what the flood says. -/
theorem Following.speaks {dodag : DodagMembership} {sent : List (Ipv6Address × DioHeader)}
    (following : Following n e key rreqKey s) (inOrder : s.InOrder) {other : DodagKey}
    (held : s.held[other]? = some dodag.stake) (speaks : dodag.Speaks sent)
    (old : ∀ dio heard, n.Takes e dio heard → dodag.isRoot = false) :
    ∀ said ∈ sent, LeadsBack key rreqKey said := by
  intro said mem _ keyed rrep
  obtain ⟨-, enableLql, route, isMessage⟩ := speaks said mem
  rw [isMessage] at keyed rrep ⊢
  rw [DodagMembership.dioMessage_key] at keyed
  have isOther : dodag.key = other := (inOrder other _ held).1
  rw [← isOther, keyed] at held
  have paired : dodag.stake.aodv.PairedWith rreqKey := by
    rcases following.paired _ held with paired | ⟨root, -, dio, heard, takes⟩
    · exact paired
    · exact absurd root (Bool.eq_false_iff.mp (old dio heard takes))
  rw [← keyed]
  exact dodag.pairedWith_dioMessage paired rrep

/-- What is multicast in the course of the event leads back. -/
theorem Following.said_shift {late : Bool} (following : Following n e key rreqKey s)
    (shift : Shift n e late s after) (inOrder : s.InOrder) :
    ∃ since, after.dios = since ++ n.stakes.dios ∧ ∀ said ∈ since, LeadsBack key rreqKey said := by
  obtain ⟨since, dios, earlier⟩ := following.said
  have further {sent : List (Ipv6Address × DioHeader)} (more : after.dios = sent ++ s.dios)
      (said : ∀ said ∈ sent, LeadsBack key rreqKey said) :
      ∃ since, after.dios = since ++ n.stakes.dios ∧
        ∀ said ∈ since, LeadsBack key rreqKey said := by
    refine ⟨sent ++ since, by rw [more, dios, List.append_assoc], fun message mem => ?_⟩
    rcases List.mem_append.mp mem with last | before
    · exact said message last
    · exact earlier message before
  cases shift with
  | speak held occasion speaks =>
    refine further rfl (following.speaks inOrder held speaks fun dio heard takes => ?_)
    rcases occasion with fired | ⟨-, asker, asked⟩
    · cases takes.event.symm.trans fired
    · cases takes.event.symm.trans asked
  | lose held notRoot speaks =>
    exact further rfl (following.speaks inOrder held speaks fun _ _ _ => notRoot)
  | whisper event aside =>
    refine further rfl fun message mem multicast => ?_
    have unicast := (aside message mem).1
    rw [multicast] at unicast
    cases unicast
  | _ => exact ⟨since, dios, earlier⟩

theorem following_shift {late : Bool} (shift : Shift n e late s after) (inOrder : s.InOrder)
    (count : n.departures key ≤ s.ended.count key)
    (follows : ∀ dio heard, n.Takes e dio heard → dio.rrep.isSome = true → dio.key = key →
      dio.PairedWith rreqKey)
    (following : Following n e key rreqKey s) : Following n e key rreqKey after := by
  have grows : s.ended.count key ≤ after.ended.count key :=
    shift.ended_suffix.sublist.count_le key
  have later {stake : Stake} (paired : stake.aodv.PairedWith rreqKey ∨
      stake.isRoot = true ∧ n.departures key < s.ended.count key ∧
        ∃ dio heard, n.Takes e dio heard) :
      stake.aodv.PairedWith rreqKey ∨ stake.isRoot = true ∧
        n.departures key < after.ended.count key ∧ ∃ dio heard, n.Takes e dio heard :=
    paired.imp_right fun answer => ⟨answer.1, Nat.lt_of_lt_of_le answer.2.1 grows, answer.2.2⟩
  have said := following.said_shift shift inOrder
  cases shift.turn key with
  | stays same =>
    exact ⟨fun absent => Nat.lt_of_lt_of_le (following.left (same ▸ absent)) grows,
      fun stake held => later (following.paired stake (same ▸ held)), said⟩
  | unbars _ _ _ _ held still =>
    refine ⟨fun absent => ?_, fun stake heldAfter => ?_, said⟩
    · rw [still] at absent
      cases absent
    · cases still.symm.trans heldAfter
      exact later (following.paired _ held)
  | begins absent begins held =>
    refine ⟨fun gone => ?_, fun stake heldAfter => ?_, said⟩
    · rw [held] at gone
      cases gone
    · cases held.symm.trans heldAfter
      rcases pairedWith_of_begins begins with any | ⟨root, dio, heard, takes, -⟩
      · exact .inl (any rreqKey)
      · exact .inr ⟨root, Nat.lt_of_lt_of_le (following.left absent) grows, dio, heard, takes⟩
  | rewrites held rewrites rewritten =>
    refine ⟨fun gone => ?_, fun stake heldAfter => ?_, said⟩
    · rw [rewritten] at gone
      cases gone
    · cases rewritten.symm.trans heldAfter
      obtain ⟨sameRoot, paired⟩ := pairedWith_of_rewrites rewrites follows
      rcases later (following.paired _ held) with before | answer
      · exact .inl (paired before)
      · exact .inr ⟨sameRoot.trans answer.1, answer.2⟩
  | ends held gone _ ended =>
    refine ⟨fun _ => ?_, fun stake heldAfter => ?_, said⟩
    · rw [ended, List.count_cons_self]
      exact Nat.lt_succ_of_le count
    · rw [gone] at heldAfter
      cases heldAfter

/-- An event of a router of the flood in which it follows the flood. -/
theorem following_apply {stake : Stake} (enabled : n.Enabled e) (inOrder : n.stakes.InOrder)
    (held : n.stakes.held[key]? = some stake) (paired : stake.aodv.PairedWith rreqKey)
    (follows : ∀ dio heard, n.Takes e dio heard → dio.rrep.isSome = true → dio.key = key →
      dio.PairedWith rreqKey) :
    (n.apply e).stakes.InOrder ∧ Following n e key rreqKey (n.apply e).stakes := by
  refine keeps_apply (I := fun s => s.InOrder ∧ Following n e key rreqKey s) enabled ?_
    ⟨inOrder, following_self held paired⟩
  rintro s after before shift ⟨ordered, following⟩
  exact ⟨inOrder_shift shift ordered, following_shift shift ordered
    (before.ended_suffix.sublist.count_le key) follows following⟩

/-! ## Every router of the flood -/

/-- A router in the DODAG of the key, that takes it for the RREP-Instance of the RREQ-Instance
where it takes it for one. -/
structure Paired (n : Node) (key rreqKey : DodagKey) : Prop where
  inOrder : n.stakes.InOrder
  held : ∃ stake, n.stakes.held[key]? = some stake ∧ stake.aodv.PairedWith rreqKey

theorem RootsAnswer.paired (answers : n.RootsAnswer heard asked key) :
    (n.apply (.receive heard (.dio asked))).Paired key asked.key := by
  obtain ⟨dodag, held, -⟩ := (Option.any_eq_true _ _).mp answers.rooted
  exact ⟨inOrder_of_reachable (run_apply answers.reachable answers.enabled trivial), dodag.stake,
    held_stake held, answers.pairedWith _ (held_stake held)⟩

theorem Records.paired (records : n.Records key dio) (inOrder : n.stakes.InOrder)
    (leads : dio.PairedWith rreqKey) : n.Paired key rreqKey := by
  obtain ⟨dodag, held, -, pairedInstanceId, origNode⟩ := records
  exact ⟨inOrder, dodag.stake, held_stake held, fun _ =>
    ⟨pairedInstanceId.trans leads.instanceId, origNode.trans leads.origNode⟩⟩

/-- A router of the flood stays one while its membership lasts. -/
theorem Paired.goesOn (paired : n.Paired key rreqKey) (enabled : n.Enabled e)
    (follows : ∀ dio heard, n.Takes e dio heard → dio.rrep.isSome = true → dio.key = key →
      dio.PairedWith rreqKey)
    (lasts : (n.apply e).departures key = n.departures key) : (n.apply e).Paired key rreqKey := by
  obtain ⟨stake, held, leads⟩ := paired.held
  obtain ⟨inOrder, following⟩ := following_apply enabled paired.inOrder held leads follows
  have same : (n.apply e).stakes.ended.count key = n.departures key := lasts
  cases after : (n.apply e).stakes.held[key]? with
  | none => exact absurd (following.left after) (Nat.not_lt.mpr same.le)
  | some other =>
    rcases following.paired other after with still | ⟨-, ended, -⟩
    · exact ⟨inOrder, other, after, still⟩
    · exact absurd ended (Nat.not_lt.mpr same.le)

/-- What it multicasts, as it is read off the wire, leads back to the RREQ-Instance. -/
theorem Paired.said {said : DioHeader} (paired : n.Paired key rreqKey) (enabled : n.Enabled e)
    (reach : key.instanceId - rreqKey.instanceId ≤ aodvDeltaMax)
    (follows : ∀ dio heard, n.Takes e dio heard → dio.rrep.isSome = true → dio.key = key →
      dio.PairedWith rreqKey)
    (sends : n.Multicasts e said) (keyed : said.key = key) (rrep : said.rrep.isSome = true)
    (room : said.getRrep.addressVector.length ≤ aodvAddressVectorMaxEntries) :
    said.carried.PairedWith rreqKey := by
  obtain ⟨stake, held, leads⟩ := paired.held
  obtain ⟨since, dios, back⟩ :=
    (following_apply enabled paired.inOrder held leads follows).2.said
  obtain ⟨sent, diosSent, mem⟩ := sends
  have same : sent = since := List.append_cancel_right (diosSent.symm.trans dios)
  obtain ⟨leadsBack, delta, noRreq⟩ := back _ (same ▸ mem) rfl keyed rrep
  obtain ⟨option, isOption⟩ := Option.isSome_iff_exists.mp rrep
  rw [DioHeader.getRrep, isOption, Option.getD_some] at delta room
  refine leadsBack.carried isOption (delta ▸ reach) ⟨fun rreq has => ?_, fun other has => ?_⟩
  · rw [noRreq] at has
    cases has
  · cases isOption.symm.trans has
    exact vectorFits_of_le room

/-- Every RREP-DIO of the flood that answers an RREQ-Instance leads back to it. -/
theorem pairedWith_of_floodDio (answers : n.RootsAnswer heard asked key)
    (reach : key.instanceId - asked.instanceId ≤ aodvDeltaMax)
    (floods : FloodDio (n.apply (.receive heard (.dio asked))) key dio) :
    dio.PairedWith asked.key := by
  refine @FloodDio.rec (n.apply (.receive heard (.dio asked))) key
    (fun router _ => router.Paired key asked.key) (fun dio _ => dio.PairedWith asked.key)
    ?root ?records ?goesOn ?said dio floods
  case root => exact answers.paired
  case records =>
    intro router heard dio reachable enabled _ records leads
    exact records.paired (inOrder_of_reachable (run_apply reachable enabled trivial)) leads
  case goesOn =>
    intro router e _ enabled _ lasts paired follows
    exact paired.goesOn enabled follows lasts
  case said =>
    intro router e said _ enabled _ sends keyed rrep room paired follows
    exact paired.said enabled reach follows sends keyed rrep room

/-- Whoever hears an RREP-DIO of the flood works out the RPLInstanceID of the RREQ-Instance and
the address of its OrigNode. -/
theorem withRrep_of_floodDio (answers : n.RootsAnswer heard asked key)
    (reach : key.instanceId - asked.instanceId ≤ aodvDeltaMax)
    (floods : FloodDio (n.apply (.receive heard (.dio asked))) key dio) (receiver : Node)
    (aodv : AodvRreqState) :
    (receiver.withRrep dio aodv).pairedInstanceId = asked.instanceId ∧
      (receiver.withRrep dio aodv).origNode = asked.dodagId := by
  have leads := pairedWith_of_floodDio answers reach floods
  exact ⟨leads.instanceId, leads.origNode⟩

/-! ## An answer one above the RREQ-Instance -/

/-- An RREQ for 2001:db8::2 under the ID below the Local ones. -/
def soughtBelow : DioHeader :=
  { soughtBy 0x20010db8000000000000000000000001#128 with
    instanceId := 0x7F
    rreq := some { symmetric := false } }

/-- The TargNode has to pass over the IDs with the D flag set, up to 0x80. -/
def aboveKey : DodagKey := ⟨0x80, 0x20010db8000000000000000000000002#128⟩

def answersBelow : Node := patient.apply (hears soughtBelow)

def beforeFlood : Node := answersBelow.apply (.tick (seconds 30))

/-- The RREP-DIO its Trickle timer multicasts. -/
def aboveDio : DioHeader :=
  { instanceId := 0x80
    rank := 128
    mop := mopP2pRouteDiscovery
    grounded := true
    dodagId := 0x20010db8000000000000000000000002#128
    dagConf := some
      { intervalDoublings := 4
        intervalMin := 15
        redundancy := 1
        maxRankIncrease := 1024
        minHopRankIncrease := 128
        ocp := 0
        defaultLifetime := 30
        lifetimeUnit := 60 }
    rrep := some { delta := 1 }
    arts := [{ destSeqNo := 1, target := 0x20010db8000000000000000000000001#128 }] }

theorem aboveFlood_facts :
    (patient.takesDio soughtBelow
        { sender := 0xfe800000000000000000000000000001#128, interface := 1 } = true ∧
      patient.dodags[aboveKey]?.isNone = true ∧
      (answersBelow.dodags[aboveKey]?).any
        (fun dodag => dodag.isRoot && dodag.aodv.isRrepInstance) = true) ∧
    (answersBelow.now ≤ seconds 30 ∧ answersBelow.nothingBefore (seconds 30) = true ∧
      beforeFlood.departures aboveKey = answersBelow.departures aboveKey) ∧
    beforeFlood.timer (.trickleTransmit aboveKey) = some beforeFlood.now ∧
      beforeFlood.stakes.dios = [] ∧
      (beforeFlood.apply (.fire (.trickleTransmit aboveKey))).stakes.dios =
        [(allNodesMulticast, aboveDio)] := by
  decide +kernel

theorem answersBelow_roots :
    patient.RootsAnswer { sender := 0xfe800000000000000000000000000001#128, interface := 1 }
      soughtBelow aboveKey where
  reachable := .start patient_initial
  enabled := started_listens targetIpv6
  takes := aboveFlood_facts.1.1
  rreq := rfl
  absent := Option.isNone_iff_eq_none.mp aboveFlood_facts.1.2.1
  rooted := aboveFlood_facts.1.2.2

theorem aboveDio_floods : FloodDio answersBelow aboveKey aboveDio.carried := by
  obtain ⟨-, ⟨forward, nothing, lasts⟩, due, silent, sent⟩ := aboveFlood_facts
  have waits : InFlood answersBelow aboveKey beforeFlood := by
    refine .goesOn .root (enabled_tick forward nothing) (fun dio heard takes => ?_) lasts
    cases takes.event
  have fires : beforeFlood.Enabled (.fire (.trickleTransmit aboveKey)) := due
  refine .said waits fires (fun dio heard takes => ?_) ⟨[(allNodesMulticast, aboveDio)], ?_, ?_⟩
    rfl rfl (Nat.zero_le _)
  · cases takes.event
  · rw [sent, silent]
    rfl
  · exact List.mem_singleton_self _

/-- A router with the addresses fe80::5 and 2001:db8::5. -/
def betweenIpv6 : Ipv6L3Protocol :=
  .ofInterfaces
    [{}, { addresses :=
        [{ address := 0xfe800000000000000000000000000005#128, scope := .linkLocal },
          { address := 0x20010db8000000000000000000000005#128, scope := .global }] }]

/-- It hears the RREP-DIO from the TargNode. -/
def hearsAbove : Event :=
  .receive { sender := 0xfe800000000000000000000000000002#128, interface := 1 }
    (.dio aboveDio.carried)

def relaysAbove : Node := (started betweenIpv6).apply hearsAbove

def beforeRelay : Node := relaysAbove.apply (.tick (milliSeconds 16384))

/-- The RREP-DIO as it relays it. -/
def relayedAboveDio : DioHeader :=
  { aboveDio with
    rank := 256
    rrep := some
      { delta := 1, addressVector := [0x20010db8000000000000000000000005#128] } }

theorem relayedAbove_facts :
    (relaysAbove.dodags[aboveKey]?).any (fun dodag =>
      dodag.aodv.isRrepInstance && dodag.aodv.pairedInstanceId = 0x7F &&
        dodag.aodv.origNode = 0x20010db8000000000000000000000001#128) = true ∧
    (relaysAbove.now ≤ milliSeconds 16384 ∧
      relaysAbove.nothingBefore (milliSeconds 16384) = true ∧
      beforeRelay.departures aboveKey = relaysAbove.departures aboveKey) ∧
    beforeRelay.timer (.trickleTransmit aboveKey) = some beforeRelay.now ∧
      beforeRelay.stakes.dios = [] ∧
      (beforeRelay.apply (.fire (.trickleTransmit aboveKey))).stakes.dios =
        [(allNodesMulticast, relayedAboveDio)] := by
  decide +kernel

/-- The relayed RREP-DIO is of the flood. -/
theorem relayedAboveDio_floods : FloodDio answersBelow aboveKey relayedAboveDio.carried := by
  obtain ⟨recorded, ⟨forward, nothing, lasts⟩, due, silent, sent⟩ := relayedAbove_facts
  have joins : InFlood answersBelow aboveKey relaysAbove := by
    refine .records (.start (started_initial betweenIpv6)) (started_listens betweenIpv6)
      aboveDio_floods ?_
    obtain ⟨dodag, held, agree⟩ := (Option.any_eq_true _ _).mp recorded
    simp only [Bool.and_eq_true, decide_eq_true_eq] at agree
    exact ⟨dodag, held, agree.1.1, agree.1.2, agree.2⟩
  have waits : InFlood answersBelow aboveKey beforeRelay := by
    refine .goesOn joins (enabled_tick forward nothing) (fun dio heard takes => ?_) lasts
    cases takes.event
  have fires : beforeRelay.Enabled (.fire (.trickleTransmit aboveKey)) := due
  refine .said waits fires (fun dio heard takes => ?_) ⟨[(allNodesMulticast, relayedAboveDio)],
    ?_, ?_⟩ rfl rfl (by decide)
  · cases takes.event
  · rw [sent, silent]
    rfl
  · exact List.mem_singleton_self _

/-- Who hears it relayed gets back to 0x7F and the OrigNode. -/
theorem aboveDio_leadsBack :
    ((started leafIpv6).withRrep relayedAboveDio.carried {}).pairedInstanceId = 0x7F ∧
      ((started leafIpv6).withRrep relayedAboveDio.carried {}).origNode =
        0x20010db8000000000000000000000001#128 :=
  withRrep_of_floodDio answersBelow_roots (by decide) relayedAboveDio_floods (started leafIpv6) {}

/-! ## An answer out of reach -/

/-- The node, with the only ID that pairs with 0xBF barred up to the largest time. -/
def barredForever : Node :=
  { patient with aodvRejoinBlocked := ExtTreeMap.empty.insert answerKey timeMax }

/-- The membership in the RREQ-Instance that it answers. -/
def soughtMembership : DodagMembership :=
  patient.joinedMembership (soughtBy 0x20010db8000000000000000000000001#128)

/-- The RREP-Instance is rooted under 0, and no Delta leads from there to 0xBF. -/
theorem barredForever_out_of_reach :
    ¬barredForever.DeltaReaches soughtMembership
      (soughtBy 0x20010db8000000000000000000000001#128).key := by
  have roots : barredForever.dodags[(⟨0, answerKey.dodagId⟩ : DodagKey)]?.isNone = true ∧
      ((barredForever.startAodvRrepInstance soughtMembership
        (soughtBy 0x20010db8000000000000000000000001#128).key).dodags[
          (⟨0, answerKey.dodagId⟩ : DodagKey)]?).isSome = true := by
    decide +kernel
  exact fun reaches => absurd
    ((delta_reaches_iff (Option.isNone_iff_eq_none.mp roots.1) roots.2).mpr reaches) (by decide)

end Node

end Rpl
