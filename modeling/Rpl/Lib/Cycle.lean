import Mathlib

/-!
# Going around a cycle

A transitive relation that nothing has to itself does not hold of every two
neighbours on a cycle.
-/

namespace Cycle

variable {α : Type} (r : α → α → Prop)

/-- A relation between neighbours carries over to the ends of the path between them. -/
theorem rel_of_chain [IsTrans α r] {f : Nat → α} {start steps : Nat}
    (chain : ∀ i ≤ steps, r (f (start + i)) (f (start + i + 1))) :
    r (f start) (f (start + steps + 1)) := by
  induction steps with
  | zero => exact chain 0 le_rfl
  | succ steps ih =>
    exact IsTrans.trans _ _ _ (ih fun i below => chain i (by omega)) (chain (steps + 1) le_rfl)

/-- Somewhere on a cycle of any length the relation fails between two neighbours. -/
theorem exists_not_rel [IsTrans α r] [Std.Irrefl r] {f : Nat → α} {start length : Nat}
    (positive : 0 < length) (closed : f (start + length) = f start) :
    ∃ i < length, ¬r (f (start + i)) (f (start + i + 1)) := by
  by_contra none
  have chain : ∀ i ≤ length - 1, r (f (start + i)) (f (start + i + 1)) := fun i below =>
    not_not.mp fun fails => none ⟨i, by omega, fails⟩
  have around := rel_of_chain r chain
  rw [show start + (length - 1) + 1 = start + length by omega, closed] at around
  exact Std.Irrefl.irrefl _ around

end Cycle
