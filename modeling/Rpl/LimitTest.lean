import Rpl.Dio
import Rpl.DioCodec
import Rpl.Lifetimes
import Rpl.ParentChoice
import Rpl.Step

/-!
# The rank limit of a discovery

`ShouldRefuseAodvRreq`, `ShouldRefuseAodvRrep` and `ShouldRefuseP2pRdo` end in the
same test: the sender's rank in hops, and one more for this node, against a limit.
The test divides by a MinHopRankIncrease that has not been looked at before, and
predicts a rank that the join which follows computes from parameters of its own.
-/

namespace Rpl

open Std

/-- The three kinds of discovery, in the order `HandleDio` asks whether it refuses them. -/
inductive DiscoveryKind
  | rreq
  | rrep
  | p2pRdo
  deriving DecidableEq, Repr

namespace DioHeader

/-- The DIO has the option of the kind. -/
def carries (dio : DioHeader) : DiscoveryKind → Bool
  | .rreq => dio.rreq.isSome
  | .rrep => dio.rrep.isSome
  | .p2pRdo => dio.p2pRdo.isSome

/-- RankLimit, or MaxRank; 0 is no limit. -/
def rankLimit (dio : DioHeader) : DiscoveryKind → UInt8
  | .rreq => dio.getRreq.rankLimit
  | .rrep => dio.getRrep.rankLimit
  | .p2pRdo => dio.getP2pRdo.maxRankOrNh

end DioHeader

namespace Node

variable {n : Node} {dio : DioHeader} {heard : Reception} {kind : DiscoveryKind}

/-! ## The grounds for refusing -/

/-- The discovery is refused. -/
def shouldRefuse (n : Node) (dio : DioHeader) : DiscoveryKind → Bool
  | .rreq => n.shouldRefuseAodvRreq dio
  | .rrep => n.shouldRefuseAodvRrep dio
  | .p2pRdo => n.shouldRefuseP2pRdo dio

/-- The discovery is refused on a ground that comes before the limit test. -/
def refusesBeforeLimit (n : Node) (dio : DioHeader) : DiscoveryKind → Bool
  | .rreq =>
    dio.arts.isEmpty ||
      n.shouldRefuseAodvInstance dio.key ||
      (if dio.getRreq.hopByHop then
        (n.findHopByHopRoute dio.dodagId).any fun stored =>
          sequenceNewer stored.seqNo dio.getRreq.origSeqNo
      else n.inVector dio.getRreq.addressVector)
  | .rrep =>
    n.shouldRefuseAodvInstance dio.key || dio.arts.isEmpty || n.inVector dio.getRrep.addressVector
  | .p2pRdo =>
    malformedP2pDio dio || n.p2pStopped dio.key || n.ipv6.isOwnAddress dio.dodagId ||
      n.inVector dio.getP2pRdo.addressVector

/-- The discovery is for this node: it is the TargNode, the OrigNode or a Target. -/
def isSought (n : Node) (dio : DioHeader) : DiscoveryKind → Bool
  | .rreq => dio.arts.any fun art => n.ipv6.isOwnAddress art.target
  | .rrep => n.ipv6.isOwnAddress dio.getArt.target
  | .p2pRdo => n.matchesP2pTarget dio

/-- Every refusal is one on an earlier ground or one by the limit test. -/
theorem shouldRefuse_eq (n : Node) (dio : DioHeader) (kind : DiscoveryKind) :
    n.shouldRefuse dio kind = (n.refusesBeforeLimit dio kind ||
      refusesByRankLimit dio.rank (n.limitMinHopRankIncrease dio) (dio.rankLimit kind)
        (n.isSought dio kind)) := by
  cases kind <;> rfl

/-! ## The divisions on the way -/

/-- The divisors of the divisions one refusal comes to. -/
def limitDivisors (n : Node) (dio : DioHeader) (kind : DiscoveryKind) : List UInt16 :=
  if n.refusesBeforeLimit dio kind || dio.rankLimit kind = 0 then []
  else [n.limitMinHopRankIncrease dio]

/-- The divisors met while the refusals are asked one after the other, until one refuses. -/
def refusalDivisors (n : Node) (dio : DioHeader) : List DiscoveryKind → List UInt16
  | [] => []
  | kind :: rest =>
    if !dio.carries kind then n.refusalDivisors dio rest
    else
      n.limitDivisors dio kind ++
        if n.shouldRefuse dio kind then [] else n.refusalDivisors dio rest

/-- The divisors of the divisions by a MinHopRankIncrease that `HandleDio` comes to. -/
def handleDioDivisors (n : Node) (dio : DioHeader) (heard : Reception) : List UInt16 :=
  if n.dropsDio dio heard.sender then []
  else if dio.rrep.isSome && !heard.toMulticast then []
  else n.refusalDivisors dio [.rreq, .rrep, .p2pRdo]

/-- The limit test of some kind is come to. -/
def ReachesLimitTest (n : Node) (dio : DioHeader) (heard : Reception) : Prop :=
  n.dropsDio dio heard.sender = false ∧ (dio.rrep.isSome && !heard.toMulticast) = false ∧
    ∃ kind, dio.carries kind = true ∧ n.refusesBeforeLimit dio kind = false ∧
      dio.rankLimit kind ≠ 0

/-- A DIO that is not dropped carries one kind of discovery option at most. -/
theorem carries_unique (kept : n.dropsDio dio heard.sender = false) {other : DiscoveryKind}
    (carried : dio.carries kind = true) (carriedOther : dio.carries other = true) :
    other = kind := by
  have fit : discoveryOptionsFit dio = true := by
    simp only [dropsDio, Bool.or_eq_false_iff, Bool.not_eq_false'] at kept
    exact kept.2
  have few : dio.p2pRdo.isSome.toNat + dio.rreq.isSome.toNat + dio.rrep.isSome.toNat ≤ 1 := by
    unfold discoveryOptionsFit at fit
    dsimp only at fit
    split at fit
    · exact (of_decide_eq_true fit).le
    · exact (of_decide_eq_true fit).le.trans (by omega)
  cases kind <;> cases other <;> simp only [DioHeader.carries] at carried carriedOther <;>
    first
      | rfl
      | simp only [carried, carriedOther, Bool.toNat_true] at few
        omega

theorem limitDivisors_eq (n : Node) (dio : DioHeader) (kind : DiscoveryKind)
    (divisor : UInt16) :
    divisor ∈ n.limitDivisors dio kind ↔ n.refusesBeforeLimit dio kind = false ∧
      dio.rankLimit kind ≠ 0 ∧ divisor = n.limitMinHopRankIncrease dio := by
  unfold limitDivisors
  split
  · next stops =>
    rw [Bool.or_eq_true, decide_eq_true_eq] at stops
    constructor
    · exact fun mem => absurd mem List.not_mem_nil
    · rintro ⟨goesOn, limited, -⟩
      rcases stops with refused | unlimited
      · rw [goesOn] at refused
        cases refused
      · exact absurd unlimited limited
  · next goesOn =>
    rw [Bool.not_eq_true, Bool.or_eq_false_iff, decide_eq_false_iff_not] at goesOn
    rw [List.mem_singleton]
    exact ⟨fun same => ⟨goesOn.1, goesOn.2, same⟩, fun reached => reached.2.2⟩

/-- With one kind of option in the DIO, its own test is the only one. -/
theorem mem_refusalDivisors {kinds : List DiscoveryKind} {divisor : UInt16}
    (alone : ∀ kind ∈ kinds, ∀ other ∈ kinds, dio.carries kind = true →
      dio.carries other = true → other = kind) (nodup : kinds.Nodup) :
    divisor ∈ n.refusalDivisors dio kinds ↔
      ∃ kind ∈ kinds, dio.carries kind = true ∧ divisor ∈ n.limitDivisors dio kind := by
  induction kinds with
  | nil => simp [refusalDivisors]
  | cons first rest ih =>
    obtain ⟨fresh, nodupRest⟩ := List.nodup_cons.mp nodup
    have later := ih (fun kind mem other memOther =>
      alone kind (List.mem_cons_of_mem _ mem) other (List.mem_cons_of_mem _ memOther)) nodupRest
    unfold refusalDivisors
    split
    · next missing =>
      rw [Bool.not_eq_true'] at missing
      simp only [later, List.exists_mem_cons_iff, missing, Bool.false_eq_true, false_and, false_or]
    · next carried =>
      rw [Bool.not_eq_true', Bool.not_eq_false] at carried
      have noneLater : ¬∃ kind ∈ rest, dio.carries kind = true ∧
          divisor ∈ n.limitDivisors dio kind := by
        rintro ⟨kind, mem, carriedToo, -⟩
        have same := alone first List.mem_cons_self kind (List.mem_cons_of_mem _ mem) carried
          carriedToo
        exact fresh (same ▸ mem)
      rw [List.mem_append, List.exists_mem_cons_iff]
      simp only [carried, true_and, noneLater, or_false]
      constructor
      · rintro (here | further)
        · exact here
        · split at further
          · exact absurd further List.not_mem_nil
          · exact absurd (later.mp further) noneLater
      · exact Or.inl

/-- The node divides by no zero on account of a DIO exactly when the MinHopRankIncrease it
divides by, the DIO's or its own, is not zero, or it comes to no division. -/
theorem dividesSafely_iff (n : Node) (dio : DioHeader) (heard : Reception) :
    (∀ divisor ∈ n.handleDioDivisors dio heard, divisor ≠ 0) ↔
      (n.ReachesLimitTest dio heard → n.limitMinHopRankIncrease dio ≠ 0) := by
  unfold handleDioDivisors ReachesLimitTest
  split
  · next dropped => simp [dropped]
  · next kept =>
    rw [Bool.not_eq_true] at kept
    split
    · next relayed => simp [relayed]
    · next joins =>
      rw [Bool.not_eq_true] at joins
      have mem (divisor : UInt16) : divisor ∈ n.refusalDivisors dio [.rreq, .rrep, .p2pRdo] ↔ _ :=
        mem_refusalDivisors
          (fun _ _ _ _ carried carriedToo => carries_unique kept carried carriedToo) (by decide)
      have all : ∀ kind : DiscoveryKind, kind ∈ [.rreq, .rrep, .p2pRdo] := by
        intro kind
        cases kind <;> decide
      simp only [mem, all, true_and, limitDivisors_eq]
      constructor
      · rintro safe ⟨-, -, kind, carried, goesOn, limited⟩
        exact safe _ ⟨kind, carried, goesOn, limited, rfl⟩
      · rintro safe divisor ⟨kind, carried, goesOn, limited, rfl⟩
        exact safe ⟨kept, joins, kind, carried, goesOn, limited⟩

/-! ### A limit test without a divisor -/

/-- An RREQ-DIO on the wire: its DODAG Configuration has a MinHopRankIncrease of 0, its RREQ a
RankLimit of 4, and its ART names 2001:db8::9. -/
def undividedOctets : List UInt8 :=
  [0x80, 0, 1, 0, 0xa0, 0, 0, 0] ++ addressOctets 0x20010db8000000000000000000000001#128 ++
    [0x04, 14, 0, 8, 12, 0, 4, 0, 0, 0, 0, 0, 0, 30, 0, 60] ++ [0x0b, 3, 0x80, 4, 1] ++
    [0x0d, 18, 0, 0] ++ addressOctets 0x20010db8000000000000000000000009#128

/-- A router that has just started divides by the zero it reads off the wire. -/
theorem started_divides_by_zero :
    ¬∀ (octets : List UInt8) (dio : DioHeader), DioHeader.deserialize octets = some dio →
      ∀ (n : Node) (heard : Reception), ∀ divisor ∈ n.handleDioDivisors dio heard,
        divisor ≠ 0 := by
  intro safe
  have met : (DioHeader.deserialize undividedOctets).any (fun dio =>
      (started leafIpv6).handleDioDivisors dio
        { sender := 0xfe800000000000000000000000000001#128, interface := 1 } = [0]) = true := by
    decide +kernel
  obtain ⟨dio, read, divisors⟩ := (Option.any_eq_true _ _).mp met
  refine safe undividedOctets dio read (started leafIpv6)
    { sender := 0xfe800000000000000000000000000001#128, interface := 1 } 0 ?_ rfl
  rw [of_decide_eq_true divisors]
  exact List.mem_singleton_self 0

/-! ## The rank the join leads to -/

/-- The DAGRank the node comes to hold through the DIO's sender by joining. -/
def dagRankByJoining (n : Node) (dio : DioHeader) (heard : Reception) : Option Nat := do
  let dodag ← ((n.joinDodag dio heard.interface).updateParent dio heard).dodags[dio.key]?
  let parent ← dodag.parents[heard.sender]?
  dagRank (dodag.rankViaParent parent) dodag.minHopRankIncrease

/-- A DAGRank is out of bounds: at the limit, or past it where the node is sought. -/
def reachesLimit (taken : Nat) (limit : UInt8) (sought : Bool) : Bool :=
  if sought then limit.toNat < taken else limit.toNat ≤ taken

/-- The limit test refuses the DIO, with a DAGRank to compare, exactly when the DAGRank that
joining gives is out of bounds. -/
def LimitAgrees (n : Node) (dio : DioHeader) (heard : Reception) (kind : DiscoveryKind) : Prop :=
  ∃ advertised taken, dagRank dio.rank (n.limitMinHopRankIncrease dio) = some advertised ∧
    n.dagRankByJoining dio heard = some taken ∧
      refusesByRankLimit dio.rank (n.limitMinHopRankIncrease dio) (dio.rankLimit kind)
        (n.isSought dio kind) = reachesLimit taken (dio.rankLimit kind) (n.isSought dio kind)

/-- The MinHopRankIncrease `JoinDodag` adopts. -/
def adoptedMinHopRankIncrease (dio : DioHeader) : UInt16 :=
  match dio.dagConf with
  | some conf => conf.minHopRankIncrease
  | none => if dio.p2pRdo.isSome then 256 else minHopRankIncDefault

/-- The membership will be under MRHOF. -/
def adoptsMrhof (dio : DioHeader) : Prop :=
  ∃ conf, dio.dagConf = some conf ∧ conf.ocp = ocpMrhof

/-- The path cost of a neighbour heard for the first time. -/
def firstPathCost (dio : DioHeader) (heard : Reception) : Nat :=
  (dio.metricContainer.getD 0).toNat + (linkEtxFromPacket heard.lqi).toNat

/-- The least DAGRank out of bounds. -/
def leastOutOfBounds (limit : UInt8) (sought : Bool) : Nat :=
  if sought then limit.toNat + 1 else limit.toNat

/-- Where the test and the join come to the same: they divide by increments that are not
zero; a sender refused is too far by the increment adopted too, and the least DAGRank out of
bounds is one that a rank can have; a sender admitted is near enough by the increment
adopted too, and under MRHOF its path cost does not take the node out of bounds. -/
structure LimitMatches (n : Node) (dio : DioHeader) (heard : Reception) (least : Nat) : Prop where
  tested : n.limitMinHopRankIncrease dio ≠ 0
  adopted : adoptedMinHopRankIncrease dio ≠ 0
  refused : (least - 1) * (n.limitMinHopRankIncrease dio).toNat ≤ dio.rank.toNat →
    (least - 1) * (adoptedMinHopRankIncrease dio).toNat ≤ dio.rank.toNat ∧
      least * (adoptedMinHopRankIncrease dio).toNat ≤ infiniteRank.toNat
  admitted : dio.rank.toNat < (least - 1) * (n.limitMinHopRankIncrease dio).toNat →
    least * (adoptedMinHopRankIncrease dio).toNat ≤ infiniteRank.toNat →
      dio.rank.toNat < (least - 1) * (adoptedMinHopRankIncrease dio).toNat ∧
        (adoptsMrhof dio →
          firstPathCost dio heard < least * (adoptedMinHopRankIncrease dio).toNat)

theorem toNat_clampRank_eq_min (rank : Nat) :
    (clampRank rank).toNat = min rank infiniteRank.toNat := by
  unfold clampRank
  split
  · next over_ => exact (min_eq_right over_).symm
  · next under =>
    rw [Nat.not_le] at under
    rw [UInt16.toNat_ofNat', min_eq_left under.le]
    exact Nat.mod_eq_of_lt (under.trans (by decide))

/-- The test compares the sender's rank with one hop less than the least DAGRank out of
bounds. -/
theorem refusesByRankLimit_iff {rank increment : UInt16} {limit : UInt8} {sought : Bool}
    (positive : increment ≠ 0) (limited : limit ≠ 0) :
    refusesByRankLimit rank increment limit sought = true ↔
      (leastOutOfBounds limit sought - 1) * increment.toNat ≤ rank.toNat := by
  have divides : 0 < increment.toNat :=
    Nat.pos_of_ne_zero fun zero => positive (UInt16.toNat_inj.mp zero)
  have least : 0 < limit.toNat :=
    Nat.pos_of_ne_zero fun zero => limited (UInt8.toNat_inj.mp zero)
  rw [← Nat.le_div_iff_mul_le divides]
  unfold refusesByRankLimit leastOutOfBounds dagRank
  rw [if_neg positive]
  cases sought <;> simp only [limited, ne_eq, not_false_eq_true, decide_true, Bool.true_and,
    Bool.or_eq_true, decide_eq_true_eq, if_true, Bool.false_eq_true, if_false] <;> omega

theorem reachesLimit_iff {taken : Nat} {limit : UInt8} {sought : Bool} :
    reachesLimit taken limit sought = true ↔ leastOutOfBounds limit sought ≤ taken := by
  unfold reachesLimit leastOutOfBounds
  cases sought
  · exact decide_eq_true_iff
  · exact decide_eq_true_iff

/-! ### The membership after joining -/

theorem minHopRankIncrease_joinedMembership (n : Node) (dio : DioHeader) :
    (n.joinedMembership dio).minHopRankIncrease = adoptedMinHopRankIncrease dio := by
  have same : (n.joinedMembership dio).minHopRankIncrease =
      (withParameters (n.newMembership dio) dio).minHopRankIncrease := rfl
  rw [same]
  unfold withParameters adoptedMinHopRankIncrease
  cases dio.dagConf with
  | some conf => rfl
  | none =>
    dsimp only
    split
    · rfl
    · rfl

theorem ocp_joinedMembership (n : Node) (dio : DioHeader) :
    (n.joinedMembership dio).ocp = ocpMrhof ↔ adoptsMrhof dio := by
  have same : (n.joinedMembership dio).ocp = (withParameters (n.newMembership dio) dio).ocp := rfl
  rw [same]
  unfold withParameters adoptsMrhof
  split
  · next conf given =>
    constructor
    · exact fun mrhof => ⟨conf, given, mrhof⟩
    · rintro ⟨_, again, mrhof⟩
      cases given.symm.trans again
      exact mrhof
  · next missing =>
    have of0 : ¬(ocpOf0 = ocpMrhof) := by decide
    constructor
    · intro mrhof
      refine absurd ?_ of0
      split at mrhof
      · exact mrhof
      · exact mrhof
    · rintro ⟨_, given, -⟩
      rw [missing] at given
      cases given

/-- With no MinHopRankIncrease of its own the DIO leaves the node under OF0. -/
theorem limitMinHopRankIncrease_of_adoptsMrhof (mrhof : adoptsMrhof dio) :
    n.limitMinHopRankIncrease dio = adoptedMinHopRankIncrease dio := by
  obtain ⟨conf, given, -⟩ := mrhof
  unfold limitMinHopRankIncrease adoptedMinHopRankIncrease
  rw [given]
  rfl

theorem pathCost_heardParent (now : Time) (dio : DioHeader) (heard : Reception) :
    (heardParent now dio heard { address := anyAddress }).pathCost = firstPathCost dio heard := by
  unfold heardParent firstPathCost Parent.pathCost
  dsimp only
  split
  · next given => rw [given]; rfl
  · next missing => rw [missing]; rfl

theorem rank_heardParent (now : Time) (dio : DioHeader) (heard : Reception) (entry : Parent) :
    (heardParent now dio heard entry).rank = dio.rank := by
  unfold heardParent
  dsimp only
  split
  · rfl
  · rfl

/-- The neighbour table of a membership just joined has the sender, and nothing else. -/
theorem dagRankByJoining_eq (n : Node) (dio : DioHeader) (heard : Reception) :
    n.dagRankByJoining dio heard =
      dagRank ((n.joinedMembership dio).rankViaParent
        (heardParent (n.joinDodag dio heard.interface).now dio heard { address := anyAddress }))
          (adoptedMinHopRankIncrease dio) := by
  have held : (n.joinDodag dio heard.interface).dodags[dio.key]? =
      some (n.joinedMembership dio) := by
    rw [dodags_joinDodag, ExtTreeMap.getElem?_insert_self]
  have alone : (n.joinedMembership dio).parents = ∅ := by
    have same : (n.joinedMembership dio).parents =
        (withParameters (n.newMembership dio) dio).parents := rfl
    rw [same]
    unfold withParameters
    split
    · rfl
    · split
      · rfl
      · rfl
  have nobody : (n.joinedMembership dio).parents[heard.sender]? = none := by
    rw [alone]
    exact ExtTreeMap.getElem?_empty
  unfold dagRankByJoining updateParent
  simp only [held]
  rw [if_neg (by simp [bumpedDtsn, nobody])]
  simp only [nobody, setDodag, ExtTreeMap.getElem?_insert_self, Option.getD_none,
    Option.bind_eq_bind, Option.bind_some]
  rw [← minHopRankIncrease_joinedMembership n dio]
  rfl

/-- How high the rank is that joining gives. -/
theorem le_rankByJoining_iff (finite : dio.rank ≠ infiniteRank) (now : Time) (height : Nat) :
    height ≤ ((n.joinedMembership dio).rankViaParent
        (heardParent now dio heard { address := anyAddress })).toNat ↔
      height ≤ infiniteRank.toNat ∧
        (height ≤ dio.rank.toNat + (adoptedMinHopRankIncrease dio).toNat ∨
          adoptsMrhof dio ∧ height ≤ firstPathCost dio heard) := by
  unfold DodagPlace.rankViaParent
  rw [rank_heardParent, if_neg finite, pathCost_heardParent, minHopRankIncrease_joinedMembership]
  dsimp only
  by_cases mrhof : adoptsMrhof dio
  · rw [if_pos ((ocp_joinedMembership n dio).mpr mrhof), toNat_clampRank_eq_min]
    simp only [mrhof, true_and]
    omega
  · rw [if_neg (fun given => mrhof ((ocp_joinedMembership n dio).mp given)),
      toNat_clampRank_eq_min]
    simp only [mrhof, false_and, or_false]
    omega

/-- The two match when the test refuses exactly the heights that joining reaches. -/
theorem limitMatches_iff (tested : n.limitMinHopRankIncrease dio ≠ 0)
    (adopted : adoptedMinHopRankIncrease dio ≠ 0) {least : Nat} (positive : 0 < least) :
    n.LimitMatches dio heard least ↔
      ((least - 1) * (n.limitMinHopRankIncrease dio).toNat ≤ dio.rank.toNat ↔
        least * (adoptedMinHopRankIncrease dio).toNat ≤ infiniteRank.toNat ∧
          (least * (adoptedMinHopRankIncrease dio).toNat ≤
              dio.rank.toNat + (adoptedMinHopRankIncrease dio).toNat ∨
            adoptsMrhof dio ∧
              least * (adoptedMinHopRankIncrease dio).toNat ≤ firstPathCost dio heard)) := by
  have height : least * (adoptedMinHopRankIncrease dio).toNat =
      (least - 1) * (adoptedMinHopRankIncrease dio).toNat +
        (adoptedMinHopRankIncrease dio).toNat := by
    rw [← Nat.succ_mul, Nat.succ_eq_add_one, Nat.sub_add_cancel positive]
  have split : n.LimitMatches dio heard least ↔ _ ∧ _ ∧ _ ∧ _ :=
    ⟨fun agree => ⟨agree.tested, agree.adopted, agree.refused, agree.admitted⟩,
      fun ⟨tested, adopted, refused, admitted⟩ => ⟨tested, adopted, refused, admitted⟩⟩
  rw [split]
  by_cases mrhof : adoptsMrhof dio
  · rw [limitMinHopRankIncrease_of_adoptsMrhof mrhof] at tested ⊢
    simp only [ne_eq, tested, not_false_eq_true, mrhof, true_and, forall_const]
    omega
  · simp only [ne_eq, tested, adopted, not_false_eq_true, mrhof, true_and, false_and, or_false,
      false_implies, and_true]
    omega

/-- The limit test of a discovery DIO with a finite rank and a limit agrees with the rank
joining gives exactly where the two match. -/
theorem limitAgrees_iff (n : Node) (dio : DioHeader) (heard : Reception) (kind : DiscoveryKind)
    (finite : dio.rank ≠ infiniteRank) (limited : dio.rankLimit kind ≠ 0) :
    n.LimitAgrees dio heard kind ↔
      n.LimitMatches dio heard (leastOutOfBounds (dio.rankLimit kind) (n.isSought dio kind)) := by
  unfold LimitAgrees
  rw [dagRankByJoining_eq]
  by_cases tested : n.limitMinHopRankIncrease dio = 0
  · constructor
    · rintro ⟨_, -, tests, -⟩
      rw [dagRank, if_pos tested] at tests
      cases tests
    · exact fun agree => absurd tested agree.tested
  by_cases adopted : adoptedMinHopRankIncrease dio = 0
  · constructor
    · rintro ⟨-, _, -, takes, -⟩
      rw [dagRank, if_pos adopted] at takes
      cases takes
    · exact fun agree => absurd adopted agree.adopted
  have divides : 0 < (adoptedMinHopRankIncrease dio).toNat :=
    Nat.pos_of_ne_zero fun zero => adopted (UInt16.toNat_inj.mp zero)
  have positive : 0 < leastOutOfBounds (dio.rankLimit kind) (n.isSought dio kind) := by
    have above : 0 < (dio.rankLimit kind).toNat :=
      Nat.pos_of_ne_zero fun zero => limited (UInt8.toNat_inj.mp zero)
    unfold leastOutOfBounds
    split <;> omega
  have agrees {taken : Nat} := (Bool.eq_iff_iff (a := refusesByRankLimit dio.rank
      (n.limitMinHopRankIncrease dio) (dio.rankLimit kind) (n.isSought dio kind))
    (b := reachesLimit taken (dio.rankLimit kind) (n.isSought dio kind))).trans
      (iff_congr (refusesByRankLimit_iff tested limited) reachesLimit_iff)
  simp only [agrees]
  rw [limitMatches_iff tested adopted positive, dagRank, if_neg tested, dagRank, if_neg adopted,
    ← le_rankByJoining_iff (n := n) finite (n.joinDodag dio heard.interface).now,
    ← Nat.le_div_iff_mul_le divides]
  constructor
  · rintro ⟨_, taken, -, takes, agree⟩
    cases takes
    exact agree
  · exact fun agree => ⟨_, _, rfl, rfl, agree⟩

/-- A P2P mode DIO with a MaxRank and no DODAG Configuration, as the root multicasts it. -/
def maxRankDio (maxRank : UInt8) : DioHeader :=
  { grounded := true
    instanceId := 0x80
    dodagId := 0x20010db8000000000000000000000001#128
    mop := mopP2pRouteDiscovery
    rank := 256
    p2pRdo := some
      { hopByHop := true
        maxRankOrNh := maxRank
        target := 0x20010db8000000000000000000000009#128 } }

/-- The root's DIO, heard from the root. -/
def heardRoot : Reception :=
  { sender := 0xfe800000000000000000000000000001#128, interface := 1 }

/-- With a MaxRank of 5 the root is near enough by either increment. -/
theorem maxRankDio_agrees : (started leafIpv6).LimitAgrees (maxRankDio 5) heardRoot .p2pRdo :=
  (limitAgrees_iff (started leafIpv6) (maxRankDio 5) heardRoot .p2pRdo (by decide)
    (by decide)).mpr
    { tested := by decide
      adopted := by decide
      refused := by decide
      admitted := fun _ _ => ⟨by decide, fun ⟨_, given, _⟩ => by cases given⟩ }

/-- With a MaxRank of 3 a router refuses the root's own DIO, at DAGRank 2 of its own
increment, though it would come to hold DAGRank 1 + 1 by the increment it adopts. There is no
other ground on which it drops or refuses the DIO. -/
theorem maxRankDio_disagrees :
    ¬∀ (n : Node) (dio : DioHeader) (heard : Reception) (kind : DiscoveryKind),
      n.dodags[dio.key]? = none → n.dropsDio dio heard.sender = false →
        dio.carries kind = true → n.refusesBeforeLimit dio kind = false →
          dio.rank ≠ infiniteRank → dio.rankLimit kind ≠ 0 →
            n.LimitAgrees dio heard kind := by
  intro agrees
  obtain ⟨_, taken, -, takes, agree⟩ := agrees (started leafIpv6) (maxRankDio 3) heardRoot .p2pRdo
    (by decide +kernel) (by decide +kernel) rfl (by decide +kernel) (by decide) (by decide)
  have two : (started leafIpv6).dagRankByJoining (maxRankDio 3) heardRoot = some 2 := by
    decide +kernel
  cases two.symm.trans takes
  revert agree
  decide +kernel

end Node

end Rpl
