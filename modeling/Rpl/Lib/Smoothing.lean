import Mathlib

/-!
# Smoothing in whole numbers

An estimate gives up one part of itself in `share` and takes the same part of a sample.  Both
parts are rounded down, and the rounding never takes the estimate past the sample.
-/

namespace Smoothing

def step (share estimate sample : ℕ) : ℕ := estimate - estimate / share + sample / share

variable {share estimate sample : ℕ}

/-- A part of a number grows no faster than the number. -/
theorem div_le_div_add (share : ℕ) {low high : ℕ} (ordered : low ≤ high) :
    high / share ≤ low / share + (high - low) := by
  rcases Nat.eq_zero_or_pos share with rfl | positive
  · rw [Nat.div_zero]
    exact Nat.zero_le _
  · have more : high ≤ low + (high - low) * share := by
      have grows := Nat.le_mul_of_pos_right (high - low) positive
      omega
    calc high / share ≤ (low + (high - low) * share) / share := Nat.div_le_div_right more
      _ = low / share + (high - low) := Nat.add_mul_div_right _ _ positive

theorem step_rising (below : estimate ≤ sample) :
    estimate ≤ step share estimate sample ∧ step share estimate sample ≤ sample := by
  have part : estimate / share ≤ estimate := Nat.div_le_self ..
  have grows := div_le_div_add share below
  have ordered : estimate / share ≤ sample / share := Nat.div_le_div_right below
  unfold step
  omega

theorem step_falling (above : sample ≤ estimate) :
    sample ≤ step share estimate sample ∧ step share estimate sample ≤ estimate := by
  have part : estimate / share ≤ estimate := Nat.div_le_self ..
  have grows := div_le_div_add share above
  have ordered : sample / share ≤ estimate / share := Nat.div_le_div_right above
  unfold step
  omega

/-- The estimate stays where it is exactly when it gives up as much as it takes. -/
theorem step_eq_iff : step share estimate sample = estimate ↔
    estimate / share = sample / share := by
  have part : estimate / share ≤ estimate := Nat.div_le_self ..
  unfold step
  omega

/-- An estimate that stays is within one share of the sample. -/
theorem close_of_step_eq (positive : 0 < share) (stays : step share estimate sample = estimate) :
    estimate < sample + share ∧ sample < estimate + share := by
  have same := step_eq_iff.mp stays
  have ofEstimate := Nat.div_add_mod estimate share
  have ofSample := Nat.div_add_mod sample share
  have restOfEstimate := Nat.mod_lt estimate positive
  have restOfSample := Nat.mod_lt sample positive
  rw [same] at ofEstimate
  omega

/-! ## Any samples -/

/-- The estimate stays between the least and the greatest of where it was and the samples. -/
theorem foldl_between (share estimate : ℕ) (samples : List ℕ) :
    ∃ low ∈ estimate :: samples, ∃ high ∈ estimate :: samples,
      low ≤ samples.foldl (step share) estimate ∧
        samples.foldl (step share) estimate ≤ high := by
  induction samples generalizing estimate with
  | nil => exact ⟨estimate, List.mem_cons_self, estimate, List.mem_cons_self, le_rfl, le_rfl⟩
  | cons sample rest ih =>
    obtain ⟨low, lowMem, high, highMem, above, below⟩ := ih (step share estimate sample)
    -- a bound that is the estimate after the first sample gives way to an end of that step
    have stepBetween : ∃ lower ∈ [estimate, sample], ∃ upper ∈ [estimate, sample],
        lower ≤ step share estimate sample ∧ step share estimate sample ≤ upper := by
      rcases le_total estimate sample with rises | falls
      · exact ⟨estimate, by simp, sample, by simp, step_rising rises⟩
      · exact ⟨sample, by simp, estimate, by simp, step_falling falls⟩
    obtain ⟨lower, lowerMem, upper, upperMem, isLower, isUpper⟩ := stepBetween
    have early {bound : ℕ} (mem : bound ∈ [estimate, sample]) :
        bound ∈ estimate :: sample :: rest := List.mem_append_left rest mem
    have late {bound : ℕ} (mem : bound ∈ rest) : bound ∈ estimate :: sample :: rest :=
      List.mem_append_right [estimate, sample] mem
    have lowEnd : ∃ end_ ∈ estimate :: sample :: rest,
        end_ ≤ rest.foldl (step share) (step share estimate sample) := by
      rcases List.mem_cons.mp lowMem with rfl | mem
      · exact ⟨lower, early lowerMem, isLower.trans above⟩
      · exact ⟨low, late mem, above⟩
    have highEnd : ∃ end_ ∈ estimate :: sample :: rest,
        rest.foldl (step share) (step share estimate sample) ≤ end_ := by
      rcases List.mem_cons.mp highMem with rfl | mem
      · exact ⟨upper, early upperMem, below.trans isUpper⟩
      · exact ⟨high, late mem, below⟩
    obtain ⟨least, leastMem, isLeast⟩ := lowEnd
    obtain ⟨greatest, greatestMem, isGreatest⟩ := highEnd
    exact ⟨least, leastMem, greatest, greatestMem, isLeast, isGreatest⟩

/-! ## The same sample, over and over -/

/-- The estimate after `count` times the same sample. -/
def repeated (share sample : ℕ) (count : ℕ) (estimate : ℕ) : ℕ :=
  (step share · sample)^[count] estimate

theorem repeated_succ (count : ℕ) : repeated share sample (count + 1) estimate =
    step share (repeated share sample count estimate) sample :=
  Function.iterate_succ_apply' ..

theorem repeated_rising (below : estimate ≤ sample) (count : ℕ) :
    repeated share sample count estimate ≤ repeated share sample (count + 1) estimate ∧
      repeated share sample (count + 1) estimate ≤ sample := by
  induction count with
  | zero => exact step_rising below
  | succ count ih =>
    rw [repeated_succ (count + 1)]
    exact step_rising ih.2

theorem repeated_falling (above : sample ≤ estimate) (count : ℕ) :
    sample ≤ repeated share sample (count + 1) estimate ∧
      repeated share sample (count + 1) estimate ≤ repeated share sample count estimate := by
  induction count with
  | zero => exact step_falling above
  | succ count ih =>
    rw [repeated_succ (count + 1)]
    exact step_falling ih.1

/-- Every step that moves the estimate takes it nearer to the sample. -/
theorem gap_step_lt (moves : step share estimate sample ≠ estimate) :
    (sample - step share estimate sample) + (step share estimate sample - sample) <
      (sample - estimate) + (estimate - sample) := by
  rcases le_total estimate sample with rises | falls
  · have between : estimate ≤ step share estimate sample ∧ step share estimate sample ≤ sample :=
      step_rising rises
    omega
  · have between : sample ≤ step share estimate sample ∧ step share estimate sample ≤ estimate :=
      step_falling falls
    omega

/-- It comes to rest. -/
theorem repeated_rests (share sample estimate : ℕ) : ∃ count, ∀ later, count ≤ later →
    repeated share sample later estimate = repeated share sample count estimate ∧
      step share (repeated share sample count estimate) sample =
        repeated share sample count estimate := by
  have rests : ∃ count, step share (repeated share sample count estimate) sample =
      repeated share sample count estimate := by
    induction gap : (sample - estimate) + (estimate - sample) using Nat.strong_induction_on
      generalizing estimate with
    | _ gap ih =>
      by_cases stays : step share estimate sample = estimate
      · exact ⟨0, stays⟩
      · obtain ⟨count, rest⟩ := ih _ (gap ▸ gap_step_lt stays) (step share estimate sample) rfl
        exact ⟨count + 1, rest⟩
  obtain ⟨count, rest⟩ := rests
  refine ⟨count, fun later reached => ⟨?_, rest⟩⟩
  induction later, reached using Nat.le_induction with
  | base => rfl
  | succ later _ ih => rw [repeated_succ, ih, rest]

end Smoothing
