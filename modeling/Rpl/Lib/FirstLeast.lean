import Mathlib

/-!
# A scan for the first least element

A loop that keeps the best value seen and the element it belongs to, starting from
a ceiling no value has to reach.  What it ends with is `List.argmin` of the list,
where that is below the ceiling, and the start otherwise.  A scan that starts with
nothing ends with `List.argmin` of the elements its test admits.
-/

namespace FirstLeast

variable {α β : Type} [LinearOrder β]

/-- One round: a strictly smaller value takes over. -/
def keep (value : α → β) (best : β × α) (a : α) : β × α :=
  if value a < best.1 then (value a, a) else best

/-- The scan ends with the first element of least value when that is below the ceiling. -/
theorem foldl_keep (value : α → β) (ceiling : β) (start : α) (items : List α) :
    items.foldl (keep value) (ceiling, start) =
      match items.argmin value with
      | none => (ceiling, start)
      | some least => if value least < ceiling then (value least, least) else (ceiling, start) := by
  induction items using List.reverseRecOn with
  | nil => rfl
  | append_singleton items a ih =>
    rw [List.foldl_append, List.foldl_cons, List.foldl_nil, ih, List.argmin_concat]
    cases items.argmin value with
    | none => rfl
    | some least =>
      dsimp only
      by_cases smaller : value a < value least
      · rw [if_pos smaller]
        by_cases below : value least < ceiling
        · rw [if_pos below, keep, if_pos smaller]
          exact (if_pos (smaller.trans below)).symm
        · rw [if_neg below, keep]
      · rw [if_neg smaller]
        by_cases below : value least < ceiling
        · rw [if_pos below, keep, if_neg smaller]
          exact (if_pos below).symm
        · have above : ¬value a < ceiling := fun lower =>
            below ((not_lt.mp smaller).trans_lt lower)
          rw [if_neg below, keep, if_neg above]
          exact (if_neg below).symm

/-- One round of a scan that starts with nothing and passes over what a test refuses: the first
element admitted takes over, and then every strictly smaller one. -/
def keepAdmitted (admits : α → Bool) (value : α → β) (best : Option α) (a : α) : Option α :=
  if admits a && best.all (fun least => value a < value least) then some a else best

/-- The scan ends with the first least of the elements admitted, if there are any. -/
theorem foldl_keepAdmitted (admits : α → Bool) (value : α → β) (items : List α) :
    items.foldl (keepAdmitted admits value) none = (items.filter admits).argmin value := by
  induction items using List.reverseRecOn with
  | nil => rfl
  | append_singleton items a ih =>
    rw [List.foldl_append, List.foldl_cons, List.foldl_nil, ih, List.filter_append]
    by_cases admitted : admits a
    · rw [List.filter_singleton, admitted, cond_true, List.argmin_concat, keepAdmitted, admitted]
      cases (items.filter admits).argmin value with
      | none => rfl
      | some least => simp only [Bool.true_and, Option.all_some, decide_eq_true_eq]
    · rw [Bool.not_eq_true] at admitted
      rw [List.filter_singleton, admitted, cond_false, List.append_nil, keepAdmitted, admitted]
      rfl

end FirstLeast
