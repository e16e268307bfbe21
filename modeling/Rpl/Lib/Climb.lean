import Mathlib

/-!
# Climbing to a goal

A partial function gives every element at most one next one.  A climb follows it
from an element until it first arrives at a goal; the elements it passes are
determined by where it starts, and so it passes none of them twice.
-/

namespace Climb

variable {α : Type}

/-- The climb from `start` passes the elements, in this order, and arrives at the goal after
the last of them. -/
inductive Passes (next : α → Option α) (goal : α) : α → List α → Prop
  | last {start : α} (arrives : next start = some goal) : Passes next goal start [start]
  | on {start above : α} {elements : List α} (leads : next start = some above)
      (further : above ≠ goal) (rest : Passes next goal above elements) :
      Passes next goal start (start :: elements)

namespace Passes

variable {next : α → Option α} {goal start : α} {elements : List α}

/-- There is one climb from an element. -/
theorem unique (passes : Passes next goal start elements) {others : List α}
    (passesOthers : Passes next goal start others) : others = elements := by
  induction passes generalizing others with
  | last arrives =>
    cases passesOthers with
    | last _ => rfl
    | on leads further _ =>
      rw [arrives, Option.some.injEq] at leads
      exact absurd leads.symm further
  | on leads further _ ih =>
    cases passesOthers with
    | last arrives =>
      rw [leads, Option.some.injEq] at arrives
      exact absurd arrives further
    | on leadsOther _ rest =>
      rw [leads, Option.some.injEq] at leadsOther
      subst leadsOther
      rw [ih rest]

/-- The climb from an element passed on the way is the rest of the climb. -/
theorem suffix_of_mem (passes : Passes next goal start elements) {passed : α}
    (mem : passed ∈ elements) : ∃ rest, rest <:+ elements ∧ Passes next goal passed rest := by
  induction passes with
  | @last start arrives =>
    rw [List.mem_singleton] at mem
    subst mem
    exact ⟨[passed], List.suffix_refl _, .last arrives⟩
  | @on start above elements leads further rest ih =>
    rcases List.mem_cons.mp mem with rfl | later
    · exact ⟨_, List.suffix_refl _, .on leads further rest⟩
    · obtain ⟨tail, suffix, passesTail⟩ := ih later
      exact ⟨tail, suffix.trans (List.suffix_cons ..), passesTail⟩

/-- Nothing is passed twice: the climb would go round for ever. -/
theorem nodup (passes : Passes next goal start elements) : elements.Nodup := by
  induction passes with
  | last _ => exact List.nodup_singleton _
  | @on start above elements leads further rest ih =>
    refine List.nodup_cons.mpr ⟨fun again => ?_, ih⟩
    obtain ⟨tail, suffix, passesTail⟩ := rest.suffix_of_mem again
    have same := (Passes.on leads further rest).unique passesTail
    have short := suffix.length_le
    rw [same, List.length_cons] at short
    omega

/-- Whatever is passed has a next element. -/
theorem isSome_of_mem (passes : Passes next goal start elements) {passed : α}
    (mem : passed ∈ elements) : (next passed).isSome = true := by
  obtain ⟨rest, -, passesRest⟩ := passes.suffix_of_mem mem
  cases passesRest with
  | last arrives => rw [arrives, Option.isSome_some]
  | on leads _ _ => rw [leads, Option.isSome_some]

end Passes

/-- There is a climb exactly where following the function leads to the goal. -/
theorem exists_passes_iff {next : α → Option α} {goal start : α} :
    (∃ elements, Passes next goal start elements) ↔
      Relation.TransGen (fun a b => next a = some b) start goal := by
  constructor
  · rintro ⟨elements, passes⟩
    induction passes with
    | last arrives => exact .single arrives
    | on leads _ _ ih => exact .head leads ih
  · intro reaches
    induction reaches using Relation.TransGen.head_induction_on with
    | single arrives => exact ⟨_, .last arrives⟩
    | @head start above leads _ ih =>
      obtain ⟨elements, passes⟩ := ih
      by_cases there : above = goal
      · exact ⟨_, .last (there ▸ leads)⟩
      · exact ⟨_, .on leads there passes⟩

end Climb
