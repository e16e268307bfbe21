import Mathlib

/-!
# Protocol constants and sequence counters

The constants of `rpl-conf.h` that the routing protocol reads, and the lollipop
sequence counters of RFC 6550 section 7.2: `sequenceCompare` orders two
counters, or says that they cannot be ordered, and `sequenceIncrement` advances
one.  The comparison is neither total nor transitive, so what holds of it is
stated case by case: it is antisymmetric, and an increment is always newer.
-/

namespace Rpl

/-! ## Modes, objective functions, sentinels -/

def mopNonStoring : UInt8 := 1
def mopStoringNoMulticast : UInt8 := 2
def mopP2pRouteDiscovery : UInt8 := 4

def ocpOf0 : UInt16 := 0
def ocpMrhof : UInt16 := 1

def infiniteRank : UInt16 := 0xFFFF
def infiniteLifetime : UInt8 := 0xFF

def defaultInstance : UInt8 := 0
def localInstanceFlag : UInt8 := 0x80
def localInstanceDFlag : UInt8 := 0x40

def dioIntervalMinDefault : UInt8 := 12
def dioIntervalDoublingsDefault : UInt8 := 8
def dioRedundancyDefault : UInt8 := 0
/-- Bound on the two exponents a DODAG Configuration option carries. -/
def dioIntervalExponentMax : UInt8 := 20

def minHopRankIncDefault : UInt16 := 128
def maxRankIncDefault : UInt16 := 1024

def defaultLifetime : UInt8 := 30
def defaultLifetimeUnit : UInt16 := 60
def prefixValidLifetimeDefault : UInt32 := 86400
def prefixPreferredLifetimeDefault : UInt32 := 14400

/-! ## Link metrics and freshness -/

def lqlUndetermined : UInt8 := 0
def lqlWorst : UInt8 := 7
def etxFixedPoint : UInt16 := 128
def mrhofMaxLinkMetric : UInt16 := 512
def mrhofMaxPathCost : Nat := 32768
def mrhofParentSwitchThreshold : Nat := 192
def freshnessMax : UInt8 := 16
def freshnessTarget : UInt8 := 4

/-! ## Route discovery -/

def aodvPrefixLengthMask : UInt8 := 0x7F
/-- Largest Delta the RREP option's field holds, `RPL_AODV_DELTA_MASK` shifted down. -/
def aodvDeltaMax : UInt8 := 63
/-- Most addresses an AODV-RPL Address Vector holds. -/
def aodvAddressVectorMaxEntries : Nat := 15

/-- `RplAodvLifetimeSeconds`: the `L` field of an RREQ or RREP option, 0 for unlimited. -/
def aodvLifetimeSeconds (lifetimeField : UInt8) : Nat :=
  match (lifetimeField &&& 0x03).toNat with
  | 1 => 16
  | 2 => 64
  | 3 => 256
  | _ => 0

def p2pMaxRankMask : Nat := 0x3F
def p2pMaxCandidateRoutes : Nat := 14
/-- Largest Seq of a P2P-DRO, `RPL_P2P_DRO_SEQ_MASK` shifted down. -/
def p2pDroSeqMax : UInt8 := 3

/-- `RplP2pLifetimeSeconds`: the `L` field of a P2P Route Discovery Option. -/
def p2pLifetimeSeconds (lifetimeField : UInt8) : Nat :=
  match (lifetimeField &&& 0x03).toNat with
  | 1 => 4
  | 2 => 16
  | 3 => 64
  | _ => 1

/-- `RplP2pMaxAddressVectorEntries`: the addresses that fit beside the Target in one
option at the given elision. -/
def p2pMaxAddressVectorEntries (compr : UInt8) : Nat :=
  let entrySize := 16 - (compr &&& 0x0F).toNat
  let blocks := 253 / entrySize
  let entries := if blocks > 0 then blocks - 1 else 0
  if entries < p2pMaxRankMask then entries else p2pMaxRankMask

/-! ## Lollipop sequence counters -/

def sequenceWindow : Nat := 16
def sequenceLinearRegion : UInt8 := 128
def sequenceCircularSize : UInt8 := 128

/-- How two sequence counters compare under RFC 6550 section 7.2. -/
inductive SequenceOrder
  | less
  | equal
  | greater
  | notComparable
  deriving DecidableEq, Repr

/-- `RplSequenceCompare`. -/
def sequenceCompare (a b : UInt8) : SequenceOrder :=
  if a = b then .equal
  else
    let aLinear := decide (sequenceLinearRegion ≤ a)
    let bLinear := decide (sequenceLinearRegion ≤ b)
    if aLinear ≠ bLinear then
      let linear := (if aLinear then a else b).toNat
      let circular := (if aLinear then b else a).toNat
      if 256 + circular - linear ≤ sequenceWindow then
        if aLinear then .less else .greater
      else
        if aLinear then .greater else .less
    else if aLinear then
      let magnitude := if a > b then a.toNat - b.toNat else b.toNat - a.toNat
      if magnitude > sequenceWindow then .notComparable
      else if a > b then .greater else .less
    else
      let forward := ((a - b) % sequenceCircularSize).toNat
      if forward ≤ sequenceWindow then .greater
      else if sequenceCircularSize.toNat - forward ≤ sequenceWindow then .less
      else .notComparable

/-- `RplSequenceNewer`. -/
def sequenceNewer (candidate held : UInt8) : Bool :=
  sequenceCompare candidate held = .greater

/-- `RplSequenceIncrement`: 127 wraps to 0 inside the circular region, 255 leaves the
linear one. -/
def sequenceIncrement (value : UInt8) : UInt8 :=
  if value = sequenceLinearRegion - 1 then 0 else value + 1

@[simp] theorem sequenceCompare_self (a : UInt8) : sequenceCompare a a = .equal := by
  simp [sequenceCompare]

theorem sequenceCompare_eq_equal {a b : UInt8} : sequenceCompare a b = .equal ↔ a = b := by
  constructor
  · intro h
    by_contra ne
    simp only [sequenceCompare, if_neg ne] at h
    split_ifs at h
  · rintro rfl
    exact sequenceCompare_self a

/-- The comparison is antisymmetric: of two ordered counters exactly one is newer. -/
theorem sequenceCompare_less_of_greater {a b : UInt8} (newer : sequenceCompare a b = .greater) :
    sequenceCompare b a = .less := by
  have ha := a.toNat_lt
  have hb := b.toNat_lt
  have ne : a ≠ b := by rintro rfl; simp at newer
  have ne' : a.toNat ≠ b.toNat := fun h => ne (UInt8.toNat_inj.mp h)
  simp only [sequenceCompare, if_neg ne, if_neg ne.symm, UInt8.le_iff_toNat_le,
    UInt8.lt_iff_toNat_lt, sequenceLinearRegion, sequenceCircularSize, sequenceWindow,
    UInt8.toNat_mod, UInt8.toNat_sub, UInt8.reduceToNat, gt_iff_lt] at newer ⊢
  -- the four combinations of linear and circular region are four different formulas
  by_cases la : 128 ≤ a.toNat <;> by_cases lb : 128 ≤ b.toNat <;>
    simp only [la, lb, decide_true, decide_false, ne_eq, not_true_eq_false, if_false, if_true,
      reduceCtorEq, not_false_eq_true, Bool.false_eq_true] at newer ⊢ <;>
    split_ifs at newer ⊢ <;> first | rfl | omega

theorem sequenceCompare_greater_of_less {a b : UInt8} (older : sequenceCompare a b = .less) :
    sequenceCompare b a = .greater := by
  have ha := a.toNat_lt
  have hb := b.toNat_lt
  have ne : a ≠ b := by rintro rfl; simp at older
  have ne' : a.toNat ≠ b.toNat := fun h => ne (UInt8.toNat_inj.mp h)
  simp only [sequenceCompare, if_neg ne, if_neg ne.symm, UInt8.le_iff_toNat_le,
    UInt8.lt_iff_toNat_lt, sequenceLinearRegion, sequenceCircularSize, sequenceWindow,
    UInt8.toNat_mod, UInt8.toNat_sub, UInt8.reduceToNat, gt_iff_lt] at older ⊢
  by_cases la : 128 ≤ a.toNat <;> by_cases lb : 128 ≤ b.toNat <;>
    simp only [la, lb, decide_true, decide_false, ne_eq, not_true_eq_false, if_false, if_true,
      reduceCtorEq, not_false_eq_true, Bool.false_eq_true] at older ⊢ <;>
    split_ifs at older ⊢ <;> first | rfl | omega

theorem toNat_sequenceIncrement (value : UInt8) :
    (sequenceIncrement value).toNat = if value.toNat = 127 then 0 else (value.toNat + 1) % 256 := by
  have last : value = sequenceLinearRegion - 1 ↔ value.toNat = 127 := UInt8.toNat_inj.symm
  rw [sequenceIncrement, apply_ite UInt8.toNat, UInt8.toNat_add]
  simp only [last, UInt8.reduceToNat]

/-- Increments within a window go around the circular region, or leave the linear one for it. -/
theorem toNat_iterate_sequenceIncrement (start : UInt8) {steps : ℕ}
    (window : steps ≤ sequenceWindow) :
    (sequenceIncrement^[steps] start).toNat =
      if start.toNat < 128 then (start.toNat + steps) % 128 else (start.toNat + steps) % 256 := by
  have octet := start.toNat_lt
  induction steps with
  | zero =>
    change start.toNat = _
    split <;> omega
  | succ steps ih =>
    have shorter : steps < 16 := window
    rw [Function.iterate_succ_apply', toNat_sequenceIncrement, ih (Nat.le_of_succ_le window)]
    split_ifs <;> omega

/-- A value that has stepped on, and not beyond the window, is newer than the one it left, in
either region and across both wraps. -/
theorem sequenceCompare_iterate (start : UInt8) {steps : ℕ} (stepped : 0 < steps)
    (window : steps ≤ sequenceWindow) :
    sequenceCompare (sequenceIncrement^[steps] start) start = .greater := by
  have reached := toNat_iterate_sequenceIncrement start window
  have within : steps ≤ 16 := window
  have octet := start.toNat_lt
  generalize sequenceIncrement^[steps] start = later at reached ⊢
  have further : later.toNat ≠ start.toNat := by
    split_ifs at reached <;> omega
  have ne : later ≠ start := fun same => further (congrArg UInt8.toNat same)
  simp only [sequenceCompare, if_neg ne, UInt8.le_iff_toNat_le, UInt8.lt_iff_toNat_lt,
    sequenceLinearRegion, sequenceCircularSize, sequenceWindow, UInt8.toNat_mod,
    UInt8.toNat_sub, UInt8.reduceToNat, gt_iff_lt]
  by_cases la : 128 ≤ later.toNat <;> by_cases lb : 128 ≤ start.toNat <;>
    simp only [la, lb, decide_true, decide_false, ne_eq, not_true_eq_false, if_false, if_true,
      reduceCtorEq, not_false_eq_true, Bool.false_eq_true] <;>
    split_ifs at reached ⊢ <;> first | rfl | omega

end Rpl
