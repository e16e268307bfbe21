import Mathlib

/-!
# Runs of a transition system

A transition system is a set of initial states, the events enabled in a state,
and the state an event leads to.  `Run good` is reachability through steps that
each satisfy a condition on the state before and the event; with the trivial
condition it is plain reachability.  An invariant of a run is shown one step at
a time, and one step at a time may itself mean one edit at a time, when an event
is a sequence of small edits.
-/

/-- Initial states, enabled events, and the state after an event. -/
structure TransitionSystem (σ ε : Type) where
  initial : σ → Prop
  enabled : σ → ε → Prop
  next : σ → ε → σ

namespace TransitionSystem

variable {σ ε : Type} {S : TransitionSystem σ ε} {good better : σ → ε → Prop} {I J : σ → Prop}

/-- The states reached by steps that all satisfy `good`. -/
inductive Run (S : TransitionSystem σ ε) (good : σ → ε → Prop) : σ → Prop
  | start {s : σ} : S.initial s → Run S good s
  | step {s : σ} {e : ε} : Run S good s → S.enabled s e → good s e → Run S good (S.next s e)

/-- The states reached by any steps. -/
def Reachable (S : TransitionSystem σ ε) : σ → Prop := S.Run fun _ _ => True

/-- A run under a stronger condition is a run under a weaker one. -/
theorem Run.mono (weaker : ∀ s e, better s e → good s e) {s : σ} (run : S.Run better s) :
    S.Run good s := by
  induction run with
  | start initial => exact .start initial
  | step _ enabled condition ih => exact ih.step enabled (weaker _ _ condition)

theorem Run.reachable {s : σ} (run : S.Run good s) : S.Reachable s :=
  run.mono fun _ _ _ => trivial

/-- What holds initially and is kept by every step that satisfies the condition holds in
every state of the run. -/
theorem Run.invariant (base : ∀ s, S.initial s → I s)
    (keeps : ∀ s e, I s → S.enabled s e → good s e → I (S.next s e)) {s : σ} (run : S.Run good s) :
    I s := by
  induction run with
  | start initial => exact base _ initial
  | step _ enabled condition ih => exact keeps _ _ ih enabled condition

/-! ## From one state to another -/

/-- The states reached from a state by steps that all satisfy `good`. -/
def Steps (S : TransitionSystem σ ε) (good : σ → ε → Prop) : σ → σ → Prop :=
  Relation.ReflTransGen fun s t => ∃ e, S.enabled s e ∧ good s e ∧ t = S.next s e

/-- What every step that satisfies the condition keeps, any number of them keep. -/
theorem Steps.keeps (keeps : ∀ s e, I s → S.enabled s e → good s e → I (S.next s e)) {s t : σ}
    (steps : S.Steps good s t) (holds : I s) : I t := by
  induction steps with
  | refl => exact holds
  | tail _ step ih =>
    obtain ⟨e, enabled, condition, rfl⟩ := step
    exact keeps _ _ ih enabled condition

/-! ## Runs that end -/

/-- A run without an end, state by state. -/
def Endless (S : TransitionSystem σ ε) (states : ℕ → σ) : Prop :=
  S.initial (states 0) ∧ ∀ k, ∃ e, S.enabled (states k) e ∧ states (k + 1) = S.next (states k) e

theorem Endless.reachable {states : ℕ → σ} (endless : S.Endless states) (k : ℕ) :
    S.Reachable (states k) := by
  induction k with
  | zero => exact .start endless.1
  | succ k ih =>
    obtain ⟨e, enabled, leads⟩ := endless.2 k
    rw [leads]
    exact ih.step enabled trivial

/-- Where every step from a reachable state lowers a measure, every run ends. -/
theorem not_endless {α : Type} [Preorder α] [WellFoundedLT α] (measure : σ → α)
    (falls : ∀ s e, S.Reachable s → S.enabled s e → measure (S.next s e) < measure s)
    (states : ℕ → σ) : ¬S.Endless states := by
  intro endless
  refine not_strictAnti_of_wellFoundedLT (fun k => measure (states k))
    (strictAnti_nat_of_succ_lt fun k => ?_)
  obtain ⟨e, enabled, leads⟩ := endless.2 k
  rw [leads]
  exact falls _ _ (endless.reachable k) enabled

/-! ## Events made of edits -/

/-- The relation keeps the predicate. -/
def Keeps (R : σ → σ → Prop) (I : σ → Prop) : Prop := ∀ ⦃a b⦄, R a b → I a → I b

/-- A predicate that every edit keeps is kept by a sequence of edits. -/
theorem Keeps.star {R : σ → σ → Prop} (keeps : Keeps R I) :
    Keeps (Relation.ReflTransGen R) I := by
  intro a b edits holds
  induction edits with
  | refl => exact holds
  | tail _ edit ih => exact keeps edit ih

/-- A loop whose every round is a sequence of edits, as seen through `view`, is one too. -/
theorem star_foldl {α τ : Type} {R : σ → σ → Prop} {view : τ → σ} {f : τ → α → τ}
    (edit : ∀ s a, Relation.ReflTransGen R (view s) (view (f s a))) (items : List α) (s : τ) :
    Relation.ReflTransGen R (view s) (view (items.foldl f s)) := by
  induction items generalizing s with
  | nil => exact .refl
  | cons item rest ih => exact (edit s item).trans (ih _)

end TransitionSystem
