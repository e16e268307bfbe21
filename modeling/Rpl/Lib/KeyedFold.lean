import Mathlib

/-!
# Folds that touch one key at a time

A program that takes a list of entries into a table one by one, each of them into
the place of its own key, leaves at a key what the entries for that key alone
make of the place.  `Local` is the step lemma, `Local.foldl` the run.
-/

namespace KeyedFold

variable {σ α κ ω : Type}

/-- In good states a step rewrites what is seen at its own key, as `cell` says, and nothing
that is seen at another. -/
structure Local (good : σ → Prop) (step : σ → α → σ) (key : α → κ) (view : κ → σ → ω)
    (cell : ω → α → ω) : Prop where
  keeps : ∀ s a, good s → good (step s a)
  own : ∀ s a, good s → view (key a) (step s a) = cell (view (key a) s) a
  frame : ∀ s a k, good s → k ≠ key a → view k (step s a) = view k s

variable {good : σ → Prop} {step : σ → α → σ} {key : α → κ} {view : κ → σ → ω}
  {cell : ω → α → ω}

theorem Local.good_foldl (touches : Local good step key view cell) (entries : List α) {s : σ}
    (start : good s) : good (entries.foldl step s) := by
  induction entries generalizing s with
  | nil => exact start
  | cons entry rest ih => exact ih (touches.keeps s entry start)

/-- What is seen at a key after the run is what the entries for that key make of what was
seen there before. -/
theorem Local.foldl [DecidableEq κ] (touches : Local good step key view cell)
    (entries : List α) {s : σ} (start : good s) (k : κ) :
    view k (entries.foldl step s) =
      (entries.filter fun entry => key entry = k).foldl cell (view k s) := by
  induction entries generalizing s with
  | nil => rfl
  | cons entry rest ih =>
    rw [List.foldl_cons, ih (touches.keeps s entry start)]
    by_cases same : key entry = k
    · rw [List.filter_cons_of_pos (by simpa using same), List.foldl_cons, ← same,
        touches.own s entry start]
    · rw [List.filter_cons_of_neg (by simpa using same),
        touches.frame s entry k start (Ne.symm same)]

end KeyedFold
