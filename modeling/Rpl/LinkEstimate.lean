import Rpl.Lib.Smoothing
import Rpl.ParentSet

/-!
# The ETX estimate of a link

From the second DIO of a neighbour on, `UpdateLinkEtx` gives up an eighth of the estimate and
takes an eighth of the sample, both rounded down.  So the estimate stays among the values it
comes from, and settles near a sample that does not change.
-/

namespace Rpl

namespace Parent

variable {parent : Parent} {sample : UInt16}

/-! ## One sample -/

theorem toNat_eighth (value : UInt16) : (value >>> 3).toNat = value.toNat / 8 := by
  rw [UInt16.toNat_shiftRight]
  exact Nat.shiftRight_eq_div_pow ..

/-- The sixteen bits hold every value on the way. -/
theorem etx_updateLinkEtx (heardAgain : 1 < parent.freshness) (sample : UInt16) :
    (parent.updateLinkEtx sample).etx.toNat =
      Smoothing.step 8 parent.etx.toNat sample.toNat := by
  have again : ¬parent.freshness ≤ 1 := UInt8.not_le.mpr heardAgain
  have down : parent.etx >>> 3 ≤ parent.etx := by
    rw [UInt16.le_iff_toNat_le, toNat_eighth]
    exact Nat.div_le_self ..
  have fits : Smoothing.step 8 parent.etx.toNat sample.toNat < 2 ^ 16 := by
    rcases le_total parent.etx.toNat sample.toNat with rises | falls
    · exact (Smoothing.step_rising rises).2.trans_lt sample.toNat_lt
    · exact (Smoothing.step_falling falls).2.trans_lt parent.etx.toNat_lt
  unfold updateLinkEtx
  dsimp only
  rw [if_neg again, UInt16.toNat_add, UInt16.toNat_sub_of_le _ _ down, toNat_eighth, toNat_eighth]
  exact Nat.mod_eq_of_lt fits

/-! ## Samples one after the other -/

theorem etx_foldl (heardAgain : 1 < parent.freshness) (samples : List UInt16) :
    (samples.foldl updateLinkEtx parent).etx.toNat =
      (samples.map UInt16.toNat).foldl (Smoothing.step 8) parent.etx.toNat := by
  induction samples generalizing parent with
  | nil => rfl
  | cons sample rest ih =>
    have next : 1 < (parent.updateLinkEtx sample).freshness := heardAgain
    rw [List.foldl_cons, ih next, List.map_cons, List.foldl_cons, etx_updateLinkEtx heardAgain]

/-- The estimate after the same sample so many times. -/
def estimateAfter (parent : Parent) (sample : UInt16) (count : ℕ) : UInt16 :=
  ((updateLinkEtx · sample)^[count] parent).etx

theorem toNat_estimateAfter (heardAgain : 1 < parent.freshness) (sample : UInt16) (count : ℕ) :
    (parent.estimateAfter sample count).toNat =
      Smoothing.repeated 8 sample.toNat count parent.etx.toNat := by
  unfold estimateAfter Smoothing.repeated
  induction count generalizing parent with
  | zero => rfl
  | succ count ih =>
    have next : 1 < (parent.updateLinkEtx sample).freshness := heardAgain
    rw [Function.iterate_succ_apply, Function.iterate_succ_apply, ih next,
      etx_updateLinkEtx heardAgain]

/-! ## The main result -/

theorem estimate_between (heardAgain : 1 < parent.freshness) (samples : List UInt16) :
    ∃ low ∈ parent.etx :: samples, ∃ high ∈ parent.etx :: samples,
      low ≤ (samples.foldl updateLinkEtx parent).etx ∧
        (samples.foldl updateLinkEtx parent).etx ≤ high := by
  obtain ⟨low, lowMem, high, highMem, above, below⟩ :=
    Smoothing.foldl_between 8 parent.etx.toNat (samples.map UInt16.toNat)
  rw [← List.map_cons] at lowMem highMem
  obtain ⟨least, leastMem, rfl⟩ := List.mem_map.mp lowMem
  obtain ⟨greatest, greatestMem, rfl⟩ := List.mem_map.mp highMem
  rw [← etx_foldl heardAgain] at above below
  exact ⟨least, leastMem, greatest, greatestMem, UInt16.le_iff_toNat_le.mpr above,
    UInt16.le_iff_toNat_le.mpr below⟩

/-- The estimate of a neighbour heard before stays between the least and the greatest of where
it was and the samples.  Under one sample over and over it moves towards the sample, never past
it, and comes to rest at most 7 away. -/
theorem estimate_settles (heardAgain : 1 < parent.freshness) :
    (∀ samples : List UInt16, ∃ low ∈ parent.etx :: samples, ∃ high ∈ parent.etx :: samples,
      low ≤ (samples.foldl updateLinkEtx parent).etx ∧
        (samples.foldl updateLinkEtx parent).etx ≤ high) ∧
    ∀ sample : UInt16,
      (parent.etx ≤ sample → ∀ count,
        parent.estimateAfter sample count ≤ parent.estimateAfter sample (count + 1) ∧
          parent.estimateAfter sample (count + 1) ≤ sample) ∧
      (sample ≤ parent.etx → ∀ count,
        sample ≤ parent.estimateAfter sample (count + 1) ∧
          parent.estimateAfter sample (count + 1) ≤ parent.estimateAfter sample count) ∧
      ∃ rest : UInt16, rest.toNat ≤ sample.toNat + 7 ∧ sample.toNat ≤ rest.toNat + 7 ∧
        ∃ count, ∀ later, count ≤ later → parent.estimateAfter sample later = rest := by
  refine ⟨estimate_between heardAgain, fun sample => ⟨fun below count => ?_, fun above count => ?_,
    ?_⟩⟩
  · have rises : Smoothing.repeated 8 _ count _ ≤ _ ∧ _ ≤ _ :=
      Smoothing.repeated_rising (UInt16.le_iff_toNat_le.mp below) count
    simpa only [UInt16.le_iff_toNat_le, toNat_estimateAfter heardAgain] using rises
  · have falls : _ ≤ Smoothing.repeated 8 _ (count + 1) _ ∧ _ ≤ _ :=
      Smoothing.repeated_falling (UInt16.le_iff_toNat_le.mp above) count
    simpa only [UInt16.le_iff_toNat_le, toNat_estimateAfter heardAgain] using falls
  · obtain ⟨count, rests⟩ := Smoothing.repeated_rests 8 sample.toNat parent.etx.toNat
    have near := Smoothing.close_of_step_eq (by decide : 0 < 8) (rests count le_rfl).2
    rw [← toNat_estimateAfter heardAgain] at near
    refine ⟨parent.estimateAfter sample count, by omega, by omega, count, fun later reached => ?_⟩
    rw [← UInt16.toNat_inj, toNat_estimateAfter heardAgain, toNat_estimateAfter heardAgain]
    exact (rests later reached).1

/-- A neighbour on a link of ETX 2 heard twice, whose frames come in without a loss from then
on. -/
theorem estimate_settles_twiceHeard :
    let parent : Parent := { address := linkLocalOf 1, freshness := 2, etx := 256 }
    ∃ rest : UInt16, rest.toNat ≤ 135 ∧ 128 ≤ rest.toNat + 7 ∧
      ∃ count, ∀ later, count ≤ later → parent.estimateAfter 128 later = rest :=
  ((estimate_settles (by decide)).2 128).2.2

end Parent

end Rpl
