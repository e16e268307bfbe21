import Rpl.Step
import Rpl.Lib.FirstLeast
import Rpl.Lib.Octets

/-!
# Which RPLInstanceID a discovery gets

`DiscoverRoute`, `DiscoverP2pRoute` and `StartAodvRrepInstance` each walk the Local
RPLInstanceIDs they can use, and look at the bars on reusing one in an order of their
own.  The first ID outside every bar is taken.  When there is none, the walk goes by
the end of the first bar it found on each ID, and this is not the time at which an ID
under two bars is free again.
-/

namespace Rpl

open Std

/-- A call that needs a Local RPLInstanceID. -/
inductive Allocation
  | discoverRoute (target : Ipv6Address) (hopByHop : Bool)
  | discoverP2pRoute (target : Ipv6Address) (hopByHop : Bool)
  | startAodvRrepInstance (rreqDodag : DodagMembership) (rreqKey : DodagKey)

/-- A Local RPLInstanceID with the D flag clear. -/
def IsLocalId (instanceId : UInt8) : Prop :=
  instanceId &&& localInstanceFlag ≠ 0 ∧ instanceId &&& localInstanceDFlag = 0

instance (instanceId : UInt8) : Decidable (IsLocalId instanceId) :=
  inferInstanceAs (Decidable (_ ∧ _))

namespace Allocation

/-- The IDs a call can use: every Local one with the D flag clear, and of these, to answer an
RREQ, the ones a Delta reaches. -/
def Usable : Allocation → UInt8 → Prop
  | .startAodvRrepInstance _ rreqKey, instanceId =>
    IsLocalId instanceId ∧
      ∃ delta : UInt8, delta ≤ aodvDeltaMax ∧ instanceId = rreqKey.instanceId + delta
  | _, instanceId => IsLocalId instanceId

/-- The IDs in the order the call walks them. -/
def walk : Allocation → List UInt8
  | .startAodvRrepInstance _ rreqKey => Node.pairableInstanceIds rreqKey.instanceId
  | _ => localInstanceIds

end Allocation

namespace Node

variable {n : Node} {call : Allocation} {instanceId other : UInt8}

/-! ## Use and bars -/

/-- The node is a member under the ID at an address of its own that the call goes by. -/
def inUse (n : Node) : Allocation → UInt8 → Bool
  | .startAodvRrepInstance rreqDodag _, candidate =>
    n.isJoinedTo candidate (n.getGlobalAddressIn rreqDodag) ||
      n.isJoinedTo candidate n.getGlobalAddress
  | _, candidate => n.isJoinedTo candidate n.getGlobalAddress

/-- The ends of the bars on a reuse of the ID, past ones among them. What is not recorded
counts as ended at time 0 where the source says so. -/
def barEnds (n : Node) : Allocation → UInt8 → List Time
  | .discoverRoute _ _, id =>
    (n.aodvRejoinBlocked[(⟨id, n.getGlobalAddress⟩ : DodagKey)]?).toList ++
      (n.p2pInstanceUse[id]?).toList.map fun used =>
        used.started + n.p2pMembershipBar + n.attributes.routeLifetime
  | .discoverP2pRoute target _, id =>
    (n.aodvRejoinBlocked[(⟨id, n.getGlobalAddress⟩ : DodagKey)]?).getD 0 ::
      ((n.aodvRouteStateUntil[id]?).toList ++
        (n.p2pInstanceUse[id]?).toList.flatMap fun used =>
          (used.started + n.p2pMembershipBar) ::
            (used.targetStarted[target]?).toList.map
              (· + (n.attributes.routeLifetime + n.p2pMembershipBar)))
  | .startAodvRrepInstance rreqDodag _, id =>
    (n.aodvRejoinBlocked[(⟨id, n.getGlobalAddress⟩ : DodagKey)]?).toList ++
      ((n.aodvRejoinBlocked[(⟨id, n.getGlobalAddressIn rreqDodag⟩ : DodagKey)]?).toList ++
        (n.p2pInstanceUse[id]?).toList.map fun used =>
          used.started + n.p2pMembershipBar + n.attributes.routeLifetime)

/-- The ID lies inside a bar. -/
def Barred (n : Node) (call : Allocation) (instanceId : UInt8) : Prop :=
  ∃ freeAt ∈ n.barEnds call instanceId, n.now < freeAt

/-- The first ID is free of all its bars only after the second one is. -/
def Outlasts (n : Node) (call : Allocation) (instanceId other : UInt8) : Prop :=
  ∃ freeAt ∈ n.barEnds call instanceId,
    n.now < freeAt ∧ ∀ otherFree ∈ n.barEnds call other, otherFree < freeAt

/-- The bar the walk goes by: the first one it finds on an ID. -/
def firstBar (n : Node) : Allocation → UInt8 → Option Time
  | .discoverRoute _ _, id => (n.rejoinBar ⟨id, n.getGlobalAddress⟩).or (n.p2pIdBarred id)
  | .discoverP2pRoute target _, id =>
    (n.aodvIdBarred id n.getGlobalAddress).or (n.p2pReuseBar target id)
  | .startAodvRrepInstance rreqDodag _, id =>
    ((n.rejoinBar ⟨id, n.getGlobalAddress⟩).or
      (n.rejoinBar ⟨id, n.getGlobalAddressIn rreqDodag⟩)).or (n.p2pIdBarred id)

theorem barUntil_isSome {freeAt : Time} : (n.barUntil freeAt).isSome ↔ n.now < freeAt := by
  unfold barUntil
  split
  · next running => exact iff_of_true rfl running
  · next passed => exact iff_of_false Bool.false_ne_true passed

theorem bind_barUntil_isSome {α : Type} {record : Option α} {freeAt : α → Time} :
    (record.bind fun a => n.barUntil (freeAt a)).isSome ↔
      ∃ end_ ∈ record.toList.map freeAt, n.now < end_ := by
  cases record with
  | none => simp
  | some a => simp [barUntil_isSome]

theorem rejoinBar_isSome {key : DodagKey} :
    (n.rejoinBar key).isSome ↔ ∃ end_ ∈ (n.aodvRejoinBlocked[key]?).toList, n.now < end_ := by
  rw [rejoinBar, ← List.map_id (n.aodvRejoinBlocked[key]?).toList]
  exact bind_barUntil_isSome

/-- The walk finds a bar on an ID exactly when there is one. -/
theorem firstBar_isSome : (n.firstBar call instanceId).isSome ↔ n.Barred call instanceId := by
  unfold Barred
  cases call with
  | discoverRoute target hopByHop =>
    simp only [firstBar, barEnds, Option.isSome_or, Bool.or_eq_true, rejoinBar_isSome,
      List.mem_append, or_and_right, exists_or]
    exact or_congr_right bind_barUntil_isSome
  | startAodvRrepInstance rreqDodag rreqKey =>
    simp only [firstBar, barEnds, Option.isSome_or, Bool.or_eq_true, rejoinBar_isSome,
      List.mem_append, or_and_right, exists_or, or_assoc]
    exact or_congr_right (or_congr_right bind_barUntil_isSome)
  | discoverP2pRoute target hopByHop =>
    have aodv : (n.aodvIdBarred instanceId n.getGlobalAddress).isSome ↔
        n.now < (n.aodvRejoinBlocked[(⟨instanceId, n.getGlobalAddress⟩ : DodagKey)]?).getD 0 ∨
          ∃ end_ ∈ (n.aodvRouteStateUntil[instanceId]?).toList, n.now < end_ := by
      rw [aodvIdBarred, barUntil_isSome, lt_max_iff]
      cases n.aodvRouteStateUntil[instanceId]? with
      | none => simp
      | some until_ => simp
    have p2p : (n.p2pReuseBar target instanceId).isSome ↔
        ∃ end_ ∈ (n.p2pInstanceUse[instanceId]?).toList.flatMap fun used =>
          (used.started + n.p2pMembershipBar) ::
            (used.targetStarted[target]?).toList.map
              (· + (n.attributes.routeLifetime + n.p2pMembershipBar)), n.now < end_ := by
      unfold p2pReuseBar
      cases n.p2pInstanceUse[instanceId]? with
      | none => simp
      | some used =>
        cases started : used.targetStarted[target]? with
        | none => simp [started, barUntil_isSome]
        | some at_ => simp [started, barUntil_isSome]
    simp only [firstBar, barEnds, Option.isSome_or, Bool.or_eq_true, aodv, p2p, List.mem_cons,
      List.mem_append, or_and_right, exists_or, exists_eq_left, or_assoc]

/-! ## The IDs walked -/

theorem mem_localInstanceIds (id : UInt8) : id ∈ localInstanceIds ↔ IsLocalId id := by
  have flagged : ∀ octet : UInt8, (localInstanceFlag ||| octet) &&& localInstanceFlag ≠ 0 ∧
      (octet &&& localInstanceFlag ≠ 0 →
        localInstanceFlag ||| (octet &&& aodvPrefixLengthMask) = octet) :=
    Octets.forall_octet (by decide +kernel)
  rw [localInstanceIds, List.mem_filter, List.mem_map, decide_eq_true_eq, IsLocalId]
  refine and_congr_left fun dClear => ⟨?_, fun set => ?_⟩
  · rintro ⟨candidate, -, rfl⟩
    exact (flagged _).1
  · have small : (id &&& aodvPrefixLengthMask).toNat ≤ aodvPrefixLengthMask.toNat :=
      UInt8.le_iff_toNat_le.mp UInt8.and_le_right
    refine ⟨(id &&& aodvPrefixLengthMask).toNat, List.mem_range.mpr (Nat.lt_succ_of_le small), ?_⟩
    rw [UInt8.ofNat_toNat]
    exact (flagged id).2 set

/-- The RREQ-Instance answered is under a Local ID with the D flag clear. -/
def Answerable : Allocation → Prop
  | .startAodvRrepInstance _ rreqKey => IsLocalId rreqKey.instanceId
  | _ => True

theorem isLocalId_iff : ∀ id : UInt8, IsLocalId id ↔ 128 ≤ id.toNat ∧ id.toNat < 192 :=
  Octets.forall_octet (by decide +kernel)

/-- The walk goes over the usable IDs and no others. -/
theorem mem_walk (answerable : Answerable call) :
    instanceId ∈ call.walk ↔ call.Usable instanceId := by
  cases call with
  | discoverRoute target hopByHop => exact mem_localInstanceIds _
  | discoverP2pRoute target hopByHop => exact mem_localInstanceIds _
  | startAodvRrepInstance rreqDodag rreqKey =>
    have localRreq : 128 ≤ rreqKey.instanceId.toNat ∧ rreqKey.instanceId.toNat < 192 :=
      (isLocalId_iff _).mp answerable
    rw [Allocation.walk, pairableInstanceIds, List.mem_filter, List.mem_map, Allocation.Usable,
      decide_eq_true_eq]
    constructor
    · rintro ⟨⟨delta, inRange, rfl⟩, dClear⟩
      have small : delta < 64 := List.mem_range.mp inRange
      refine ⟨⟨?_, dClear⟩, UInt8.ofNat delta, ?_, rfl⟩
      · have sum : (rreqKey.instanceId + UInt8.ofNat delta).toNat =
            rreqKey.instanceId.toNat + delta := by
          rw [UInt8.toNat_add, UInt8.toNat_ofNat']
          omega
        have flagged : ∀ id : UInt8, 128 ≤ id.toNat → id &&& localInstanceFlag ≠ 0 :=
          Octets.forall_octet (by decide +kernel)
        exact flagged _ (by omega)
      · rw [UInt8.le_iff_toNat_le, UInt8.toNat_ofNat']
        change delta % 256 ≤ 63
        omega
    · rintro ⟨⟨-, dClear⟩, delta, inReach, rfl⟩
      have small : delta.toNat ≤ 63 := UInt8.le_iff_toNat_le.mp inReach
      exact ⟨⟨delta.toNat, List.mem_range.mpr (Nat.lt_succ_of_le small), by rw [UInt8.ofNat_toNat]⟩,
        dClear⟩

/-! ## What the walk ends with -/

/-- The usable IDs not in use, in the order of the walk. -/
def spare (n : Node) (call : Allocation) : List UInt8 :=
  call.walk.filter fun candidate => !n.inUse call candidate

theorem mem_spare (answerable : Answerable call) :
    instanceId ∈ n.spare call ↔ call.Usable instanceId ∧ n.inUse call instanceId = false := by
  rw [spare, List.mem_filter, mem_walk answerable, Bool.not_eq_true']

/-- The end of the first bar found on an ID. -/
def firstEnd (n : Node) (call : Allocation) (instanceId : UInt8) : Time :=
  (n.firstBar call instanceId).getD 0

/-- The ID the walk of a call ends with. -/
def allocated (n : Node) (call : Allocation) : Option UInt8 :=
  allocateInstanceId call.walk (n.inUse call) (n.firstBar call)

theorem allocated_eq :
    n.allocated call =
      match (n.spare call).find? fun candidate => (n.firstBar call candidate).isNone with
      | some free => some free
      | none =>
        if (n.spare call).isEmpty then none
        else
          some ((n.spare call).foldl (fun best candidate =>
            match n.firstBar call candidate with
            | some freeAt => if freeAt < best.1 then (freeAt, candidate) else best
            | none => best) (timeMax, 0)).2 := rfl

/-- An ID outside every bar is taken where there is one. -/
theorem allocated_of_free (spare : instanceId ∈ n.spare call) (free : ¬n.Barred call instanceId) :
    ∃ taken ∈ n.spare call, ¬n.Barred call taken ∧ n.allocated call = some taken := by
  have passes : (n.firstBar call instanceId).isNone = true := by
    rw [← Option.not_isSome, Bool.not_eq_true']
    exact Bool.eq_false_iff.mpr fun barred => free (firstBar_isSome.mp barred)
  obtain ⟨taken, found⟩ := Option.isSome_iff_exists.mp
    (List.find?_isSome.mpr ⟨instanceId, spare, passes⟩ :
      ((n.spare call).find? fun candidate => (n.firstBar call candidate).isNone).isSome)
  refine ⟨taken, List.mem_of_find?_eq_some found, fun barred => ?_, by rw [allocated_eq, found]⟩
  have none_ := List.find?_some found
  rw [← Option.not_isSome, firstBar_isSome.mpr barred] at none_
  cases none_

/-- Nothing is taken where every usable ID is in use. -/
theorem allocated_of_full (full : n.spare call = []) : n.allocated call = none := by
  rw [allocated_eq, full]
  rfl

/-- Where every spare ID is barred, the walk ends with the first of those whose first bar ends
earliest, or with 0 when none of these ends comes before the largest time. -/
theorem allocated_of_barred {least : UInt8} (barred : ∀ id ∈ n.spare call, n.Barred call id)
    (isLeast : (n.spare call).argmin (n.firstEnd call) = some least) :
    n.allocated call = some (if n.firstEnd call least < timeMax then least else 0) := by
  have noneFree : (n.spare call).find? (fun candidate => (n.firstBar call candidate).isNone) =
      none := by
    refine List.find?_eq_none.mpr fun id mem => ?_
    rw [← Option.not_isSome, firstBar_isSome.mpr (barred id mem)]
    exact Bool.false_ne_true
  have occupied : n.spare call ≠ [] := List.ne_nil_of_mem (List.argmin_mem isLeast)
  have byEnd : ∀ (best : Time × UInt8), ∀ id ∈ n.spare call,
      (match n.firstBar call id with
        | some freeAt => if freeAt < best.1 then (freeAt, id) else best
        | none => best) = FirstLeast.keep (n.firstEnd call) best id := by
    intro best id mem
    obtain ⟨freeAt, found⟩ := Option.isSome_iff_exists.mp (firstBar_isSome.mpr (barred id mem))
    rw [found, FirstLeast.keep, firstEnd, found]
    rfl
  rw [allocated_eq, noneFree]
  dsimp only
  rw [if_neg (by rwa [List.isEmpty_iff]), List.foldl_ext _ _ _ byEnd, FirstLeast.foldl_keep,
    isLeast]
  dsimp only
  split
  · rfl
  · rfl

/-! ## What a call comes to -/

/-- The node after the call. -/
def allocate (n : Node) : Allocation → Node
  | .discoverRoute target hopByHop => (n.discoverRoute target hopByHop).2
  | .discoverP2pRoute target hopByHop => (n.discoverP2pRoute target hopByHop).2
  | .startAodvRrepInstance rreqDodag rreqKey => n.startAodvRrepInstance rreqDodag rreqKey

/-- The call gets as far as the choice of an ID: the node has an address to root the DODAG at,
and a target to look for or an RREQ-Instance under a Local ID to answer. -/
def ReachesAllocator (n : Node) : Allocation → Prop
  | .startAodvRrepInstance rreqDodag rreqKey =>
    n.getGlobalAddress.isAny = false ∧ (n.getGlobalAddressIn rreqDodag).isAny = false ∧
      n.findAodvRrepInstance rreqKey.dodagId rreqKey.instanceId = none ∧
      IsLocalId rreqKey.instanceId
  | .discoverRoute target _ | .discoverP2pRoute target _ =>
    n.getGlobalAddress.isAny = false ∧ target.isAny = false ∧ n.ipv6.isOwnAddress target = false

theorem answerable_of_reaches (reaches : n.ReachesAllocator call) : Answerable call := by
  cases call with
  | discoverRoute target hopByHop => trivial
  | discoverP2pRoute target hopByHop => trivial
  | startAodvRrepInstance rreqDodag rreqKey => exact reaches.2.2.2

@[simp] theorem contains_modifyDodag (n : Node) (key other : DodagKey)
    (f : DodagMembership → DodagMembership) :
    (n.modifyDodag key f).dodags.contains other = n.dodags.contains other :=
  ExtTreeMap.contains_modify

@[simp] theorem contains_armAodvExpiry (n : Node) (key other : DodagKey) :
    (n.armAodvExpiry key).dodags.contains other = n.dodags.contains other := by
  unfold armAodvExpiry
  split
  · rfl
  · dsimp only
    split
    · rfl
    · exact contains_modifyDodag ..

@[simp] theorem contains_armP2pExpiry (n : Node) (key other : DodagKey) :
    (n.armP2pExpiry key).dodags.contains other = n.dodags.contains other := by
  unfold armP2pExpiry
  split
  · rfl
  · split
    · rfl
    · exact contains_modifyDodag ..

/-- A local DODAG formed is the one membership more. -/
theorem contains_createLocalDodag {created : Node} {mop : UInt8} {key : DodagKey}
    (creates : n.createLocalDodag instanceId mop = some (key, created)) (other : DodagKey) :
    created.dodags.contains other =
      (n.dodags.contains other ||
        decide (other = ⟨clearDFlag instanceId, n.getGlobalAddress⟩)) := by
  unfold createLocalDodag at creates
  dsimp only at creates
  split at creates
  · cases creates
  · obtain ⟨made, makes, pair⟩ := Option.map_eq_some_iff.mp creates
    cases pair
    unfold createDodagMembership at makes
    split at makes
    · cases makes
    · have inserted : ∀ d, (n.dodags.insert (⟨clearDFlag instanceId, n.getGlobalAddress⟩ : DodagKey)
          d).contains other =
          (n.dodags.contains other ||
            decide (other = ⟨clearDFlag instanceId, n.getGlobalAddress⟩)) := by
        intro d
        rw [Bool.eq_iff_iff, ExtTreeMap.contains_iff_mem, ExtTreeMap.mem_insert, Bool.or_eq_true,
          ExtTreeMap.contains_iff_mem, decide_eq_true_eq, LawfulEqOrd.compare_eq_iff_eq, or_comm,
          eq_comm]
      dsimp only at makes
      split at makes
      · cases makes
        exact inserted _
      · cases makes
        exact inserted _

theorem createLocalDodag_eq_none {mop : UInt8} (address : n.getGlobalAddress.isAny = false)
    (fails : n.createLocalDodag instanceId mop = none) :
    n.dodags.contains ⟨clearDFlag instanceId, n.getGlobalAddress⟩ = true := by
  unfold createLocalDodag at fails
  dsimp only at fails
  rw [address, if_neg Bool.false_ne_true, Option.map_eq_none_iff] at fails
  unfold createDodagMembership at fails
  split at fails
  · next held => exact held
  · dsimp only at fails
    split at fails
    · cases fails
    · cases fails

/-- What a failed creation leaves as it was has the membership already. -/
theorem contains_or_of_held {key other : DodagKey} (held : n.dodags.contains key = true) :
    n.dodags.contains other = (n.dodags.contains other || decide (other = key)) := by
  by_cases same : other = key
  · rw [same, held, Bool.true_or]
  · rw [decide_eq_false same, Bool.or_false]

/-- A call roots a DODAG under the ID the walk ends with, and makes no other membership. -/
theorem contains_allocate (reaches : n.ReachesAllocator call) (key : DodagKey) :
    (n.allocate call).dodags.contains key =
      (n.dodags.contains key ||
        (n.allocated call).any fun id => key = ⟨clearDFlag id, n.getGlobalAddress⟩) := by
  cases call with
  | discoverRoute target hopByHop =>
    obtain ⟨address, asked, notOwn⟩ := reaches
    simp only [allocate, discoverRoute, asked, notOwn, address, Bool.or_self, Bool.false_eq_true,
      if_false]
    have walked : allocateInstanceId localInstanceIds (n.isJoinedTo · n.getGlobalAddress)
        (fun localId => (n.rejoinBar ⟨localId, n.getGlobalAddress⟩).or (n.p2pIdBarred localId)) =
        n.allocated (.discoverRoute target hopByHop) := rfl
    rw [walked]
    cases n.allocated (.discoverRoute target hopByHop) with
    | none => exact (Bool.or_false _).symm
    | some id =>
      dsimp only
      rw [Option.any_some]
      split
      · next fails =>
        exact contains_or_of_held
          (createLocalDodag_eq_none (n := { n with aodvSeqNo := _ }) address fails)
      · next made created creates =>
        rw [contains_armAodvExpiry, contains_modifyDodag]
        exact (contains_createLocalDodag creates key :)
  | discoverP2pRoute target hopByHop =>
    obtain ⟨address, asked, notOwn⟩ := reaches
    simp only [allocate, discoverP2pRoute, asked, notOwn, address, Bool.or_self, Bool.false_eq_true,
      if_false]
    have walked : allocateInstanceId localInstanceIds (n.isJoinedTo · n.getGlobalAddress)
        (fun localId => (n.aodvIdBarred localId n.getGlobalAddress).or
          (n.p2pReuseBar target localId)) =
        n.allocated (.discoverP2pRoute target hopByHop) := rfl
    rw [walked]
    cases n.allocated (.discoverP2pRoute target hopByHop) with
    | none => exact (Bool.or_false _).symm
    | some id =>
      dsimp only
      rw [Option.any_some]
      split
      · next fails =>
        exact contains_or_of_held
          (createLocalDodag_eq_none (n := n.noteP2pUse target id) address fails)
      · next made created creates =>
        rw [contains_armP2pExpiry, contains_modifyDodag]
        exact (contains_createLocalDodag creates key :)
  | startAodvRrepInstance rreqDodag rreqKey =>
    obtain ⟨address, own, noReply, -⟩ := reaches
    simp only [allocate, startAodvRrepInstance, own, noReply, Option.isSome_none, Bool.or_self,
      Bool.false_eq_true, if_false]
    have walked : n.allocateRrepInstanceId rreqKey.instanceId (n.getGlobalAddressIn rreqDodag)
        n.getGlobalAddress = n.allocated (.startAodvRrepInstance rreqDodag rreqKey) := rfl
    rw [walked]
    cases n.allocated (.startAodvRrepInstance rreqDodag rreqKey) with
    | none => exact (Bool.or_false _).symm
    | some id =>
      dsimp only
      rw [Option.any_some]
      split
      · next fails => exact contains_or_of_held (createLocalDodag_eq_none address fails)
      · next made created creates =>
        rw [contains_armAodvExpiry, contains_modifyDodag]
        exact (contains_createLocalDodag creates key :)

/-! ## Good allocations -/

/-- The call roots a DODAG under the ID at the node's own address. -/
def Founds (n : Node) (call : Allocation) (instanceId : UInt8) : Prop :=
  n.dodags.contains ⟨instanceId, n.getGlobalAddress⟩ = false ∧
    (n.allocate call).dodags.contains ⟨instanceId, n.getGlobalAddress⟩ = true

/-- What an allocation is for: a usable ID that is not in use, inside a bar only where every
such ID is and then none of them is free of its bars earlier, and some ID unless every usable
one is in use. -/
structure AllocatesWell (n : Node) (call : Allocation) : Prop where
  usable : ∀ id, n.Founds call id → call.Usable id ∧ n.inUse call id = false
  barred : ∀ id, n.Founds call id → n.Barred call id →
    ∀ other, call.Usable other → n.inUse call other = false →
      n.Barred call other ∧ ¬n.Outlasts call id other
  serves : (∀ id, ¬n.Founds call id) → ∀ id, call.Usable id → n.inUse call id = true

/-- Going by the first bar of each ID does no harm: an ID outside every bar can be had, or none
at all, or the ID that is first to see its first bar end sees it end before the largest time
and is free of all its bars no later than any other. -/
def FirstBarsDecide (n : Node) (call : Allocation) : Prop :=
  (∃ id ∈ n.spare call, ¬n.Barred call id) ∨ n.spare call = [] ∨
    ∃ id, (n.spare call).argmin (n.firstEnd call) = some id ∧ n.firstEnd call id < timeMax ∧
      ∀ other ∈ n.spare call, ¬n.Outlasts call id other

theorem founds_iff (reaches : n.ReachesAllocator call) :
    n.Founds call instanceId ↔
      n.dodags.contains ⟨instanceId, n.getGlobalAddress⟩ = false ∧
        ∃ taken, n.allocated call = some taken ∧ instanceId = clearDFlag taken := by
  refine and_congr_right fun notHeld => ?_
  rw [contains_allocate reaches, notHeld, Bool.false_or, Option.any_eq_true]
  simp only [decide_eq_true_eq, DodagKey.mk.injEq, and_true]

theorem clearDFlag_of_isLocalId : ∀ id : UInt8, IsLocalId id → clearDFlag id = id :=
  Octets.forall_octet (by decide +kernel)

/-- A spare ID is under no membership at the node's own address. -/
theorem not_held_of_spare (spare : instanceId ∈ n.spare call) :
    n.dodags.contains ⟨instanceId, n.getGlobalAddress⟩ = false := by
  have unused := (List.mem_filter.mp spare).2
  rw [Bool.not_eq_true'] at unused
  cases call with
  | discoverRoute target hopByHop => exact unused
  | discoverP2pRoute target hopByHop => exact unused
  | startAodvRrepInstance rreqDodag rreqKey => exact (Bool.or_eq_false_iff.mp unused).2

theorem isLocalId_of_usable (usable : call.Usable instanceId) : IsLocalId instanceId := by
  cases call with
  | discoverRoute target hopByHop => exact usable
  | discoverP2pRoute target hopByHop => exact usable
  | startAodvRrepInstance rreqDodag rreqKey => exact usable.1

/-- When the walk ends with a spare ID, that is the ID of the DODAG rooted. -/
theorem founds_iff_of_spare (reaches : n.ReachesAllocator call) {taken : UInt8}
    (spare : taken ∈ n.spare call) (ends : n.allocated call = some taken) :
    n.Founds call instanceId ↔ instanceId = taken := by
  have isLocal : IsLocalId taken :=
    isLocalId_of_usable ((mem_spare (answerable_of_reaches reaches)).mp spare).1
  rw [founds_iff reaches, ends]
  constructor
  · rintro ⟨-, other, same, rfl⟩
    cases same
    exact clearDFlag_of_isLocalId _ isLocal
  · rintro rfl
    exact ⟨not_held_of_spare spare, _, rfl, (clearDFlag_of_isLocalId _ isLocal).symm⟩

/-- The allocation is a good one when its ID is spare and it answers for its bar. -/
theorem allocatesWell_iff_of_spare (reaches : n.ReachesAllocator call) {taken : UInt8}
    (spare : taken ∈ n.spare call) (ends : n.allocated call = some taken) :
    n.AllocatesWell call ↔
      (n.Barred call taken → ∀ other ∈ n.spare call,
        n.Barred call other ∧ ¬n.Outlasts call taken other) := by
  have answerable := answerable_of_reaches reaches
  have founds : n.Founds call taken := (founds_iff_of_spare reaches spare ends).mpr rfl
  constructor
  · intro well barred other otherSpare
    obtain ⟨usable, unused⟩ := (mem_spare answerable).mp otherSpare
    exact well.barred taken founds barred other usable unused
  · intro answers
    refine ⟨fun id founded => ?_, fun id founded barred other usable unused => ?_,
      fun nothing => absurd founds (nothing taken)⟩
    · rw [(founds_iff_of_spare reaches spare ends).mp founded]
      exact (mem_spare answerable).mp spare
    · rw [(founds_iff_of_spare reaches spare ends).mp founded] at barred ⊢
      exact answers barred other ((mem_spare answerable).mpr ⟨usable, unused⟩)

/-- An allocation is a good one exactly when going by the first bar of each ID does no harm. -/
theorem allocatesWell_iff (reaches : n.ReachesAllocator call) :
    n.AllocatesWell call ↔ n.FirstBarsDecide call := by
  have answerable := answerable_of_reaches reaches
  by_cases full : n.spare call = []
  · have nothing : ∀ id, ¬n.Founds call id := by
      intro id founded
      obtain ⟨-, taken, ends, -⟩ := (founds_iff reaches).mp founded
      rw [allocated_of_full full] at ends
      cases ends
    refine iff_of_true ⟨fun id founded => absurd founded (nothing id),
      fun id founded => absurd founded (nothing id), fun _ id usable => ?_⟩ (.inr (.inl full))
    by_contra unused
    have spare : id ∈ n.spare call :=
      (mem_spare answerable).mpr ⟨usable, Bool.eq_false_iff.mpr unused⟩
    rw [full] at spare
    cases spare
  by_cases free : ∃ id ∈ n.spare call, ¬n.Barred call id
  · obtain ⟨id, spare, unbarred⟩ := free
    obtain ⟨taken, takenSpare, takenFree, ends⟩ := allocated_of_free spare unbarred
    rw [allocatesWell_iff_of_spare reaches takenSpare ends]
    exact iff_of_true (fun barred => absurd barred takenFree) (.inl ⟨id, spare, unbarred⟩)
  push Not at free
  obtain ⟨least, isLeast⟩ : ∃ least, (n.spare call).argmin (n.firstEnd call) = some least :=
    Option.ne_none_iff_exists'.mp fun none_ => full (List.argmin_eq_none.mp none_)
  have leastSpare := List.argmin_mem isLeast
  have ends := allocated_of_barred free isLeast
  have decides : n.FirstBarsDecide call ↔ n.firstEnd call least < timeMax ∧
      ∀ other ∈ n.spare call, ¬n.Outlasts call least other := by
    constructor
    · rintro (⟨id, spare, unbarred⟩ | empty | ⟨id, isFirst, below, earliest⟩)
      · exact absurd (free id spare) unbarred
      · exact absurd empty full
      · rw [isLeast] at isFirst
        cases isFirst
        exact ⟨below, earliest⟩
    · rintro ⟨below, earliest⟩
      exact .inr (.inr ⟨least, isLeast, below, earliest⟩)
  by_cases below : n.firstEnd call least < timeMax
  · rw [if_pos below] at ends
    rw [allocatesWell_iff_of_spare reaches leastSpare ends, decides]
    constructor
    · intro answers
      exact ⟨below, fun other spare => (answers (free least leastSpare) other spare).2⟩
    · rintro ⟨-, earliest⟩ - other spare
      exact ⟨free other spare, earliest other spare⟩
  · -- the walk ends with 0, which is not a Local ID
    rw [if_neg below] at ends
    refine iff_of_false (fun well => ?_) fun decided => below (decides.mp decided).1
    by_cases held : n.dodags.contains ⟨0, n.getGlobalAddress⟩ = true
    · obtain ⟨usable, unused⟩ := (mem_spare answerable).mp leastSpare
      have used := well.serves (fun id founded => ?_) least usable
      · rw [unused] at used
        cases used
      · rw [founds_iff reaches, ends] at founded
        obtain ⟨notHeld, taken, same, rfl⟩ := founded
        cases same
        exact absurd held (by rw [show clearDFlag 0 = 0 by decide] at notHeld; simp [notHeld])
    · have founded : n.Founds call 0 :=
        (founds_iff reaches).mpr ⟨Bool.eq_false_iff.mpr held, 0, ends, by decide⟩
      exact absurd (isLocalId_of_usable (well.usable 0 founded).1) (by decide)

/-! ## An ID under two bars -/

/-- A node with the global address 2001:db8::1. -/
def originIpv6 : Ipv6L3Protocol :=
  .ofInterfaces
    [{}, { addresses := [{ address := 0x20010db8000000000000000000000001#128, scope := .global }] }]

/-- It looks for 2001:db8::9. -/
def looksFor9 : Allocation := .discoverRoute 0x20010db8000000000000000000000009#128 false

/-- At 100 s every ID is inside its REJOIN_REENABLE bar, one of them until 110 s and the others
until 120 s, and 0x80 has served a P2P-RPL discovery since 60 s. -/
def barredThroughout (sooner : UInt8) : Node :=
  { now := seconds 100
    ipv6 := originIpv6
    sockets := {1}
    aodvRejoinBlocked := localInstanceIds.foldl
      (fun blocked id => blocked.insert ⟨id, 0x20010db8000000000000000000000001#128⟩
        (if id = sooner then seconds 110 else seconds 120)) ∅
    p2pInstanceUse := ExtTreeMap.empty.insert 0x80 { started := seconds 60 } }

/-- Where 0x81 is the one that is free sooner, it is founded, free of all its bars. -/
theorem barredThroughout_allocatesWell :
    (barredThroughout 0x81).Founds looksFor9 0x81 ∧
      (barredThroughout 0x81).Barred looksFor9 0x81 ∧
      (barredThroughout 0x81).AllocatesWell looksFor9 := by
  have reaches : (barredThroughout 0x81).ReachesAllocator looksFor9 :=
    ⟨by decide +kernel, by decide +kernel, by decide +kernel⟩
  refine ⟨⟨by decide +kernel, by decide +kernel⟩, ?_, (allocatesWell_iff reaches).mpr
    (.inr (.inr ⟨0x81, by decide +kernel, by decide +kernel, ?_⟩))⟩
  · unfold Barred
    decide +kernel
  · unfold Outlasts
    decide +kernel

/-- Where 0x80 is, the RREQ-Instance is rooted under it, though it is free of its bars at 1908 s
only, and 0x81 at 120 s. -/
theorem barredThroughout_not_allocatesWell :
    (barredThroughout 0x80).ReachesAllocator looksFor9 ∧
      ¬(barredThroughout 0x80).AllocatesWell looksFor9 := by
  refine ⟨⟨by decide +kernel, by decide +kernel, by decide +kernel⟩, fun well => ?_⟩
  have founds : (barredThroughout 0x80).Founds looksFor9 0x80 :=
    ⟨by decide +kernel, by decide +kernel⟩
  have ends80 : (barredThroughout 0x80).barEnds looksFor9 0x80 = [seconds 110, seconds 1908] := by
    decide +kernel
  have ends81 : (barredThroughout 0x80).barEnds looksFor9 0x81 = [seconds 120] := by
    decide +kernel
  have barred : (barredThroughout 0x80).Barred looksFor9 0x80 := by
    rw [Barred, ends80]
    exact ⟨seconds 110, List.mem_cons_self, by decide +kernel⟩
  refine (well.barred 0x80 founds barred 0x81 (by decide : IsLocalId 0x81) (by decide +kernel)).2 ?_
  rw [Outlasts, ends80, ends81]
  refine ⟨seconds 1908, List.mem_cons_of_mem _ List.mem_cons_self, by decide +kernel, ?_⟩
  intro otherFree mem
  rw [List.mem_singleton.mp mem]
  decide +kernel

end Node

end Rpl
