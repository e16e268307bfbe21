import Mathlib

/-!
# Routing in a forest

Every element of a forest has at most one parent.  What is bound for a target goes up to
the parent until it is above the target, and from there down to the child that the target
is under.  These steps lead to the target from every element that has one above it in
common with the target; once they go down they go down to the end, and they meet no element
twice.
-/

namespace Forest

variable {α : Type}

/-- The first element is the second, or one above it is the parent of it. -/
def Under (parent : α → Option α) : α → α → Prop :=
  Relation.ReflTransGen fun child above => parent child = some above

/-- The first element is further down than the second. -/
def Below (parent : α → Option α) : α → α → Prop :=
  Relation.TransGen fun child above => parent child = some above

/-- The step down to the child the target is under. -/
structure Down (parent : α → Option α) (target here child : α) : Prop where
  leads : parent child = some here
  under : Under parent target child

/-- A step on the way to the target. -/
inductive Toward (parent : α → Option α) (target : α) : α → α → Prop
  | down {here child : α} (descends : Down parent target here child) :
      Toward parent target here child
  | up {here above : α} (elsewhere : ¬Under parent target here)
      (leads : parent here = some above) : Toward parent target here above

/-- A way of that many steps to the target. -/
structure Way (parent : α → Option α) (target : α) (length : Nat) (path : Nat → α) : Prop where
  toward : ∀ i < length, Toward parent target (path i) (path (i + 1))
  arrives : path length = target

variable {parent : α → Option α} {target here there source above : α} {length : Nat}
  {path : Nat → α}

theorem Down.below (descends : Down parent target here there) : Below parent target here :=
  Relation.TransGen.tail' descends.under descends.leads

/-- From above the target, steps lead down to it. -/
theorem Below.descends (below : Below parent target here) :
    Relation.TransGen (Down parent target) here target := by
  induction below with
  | single leads => exact .single ⟨leads, .refl⟩
  | tail below leads ih => exact .head ⟨leads, below.to_reflTransGen⟩ ih

/-- Steps lead to the target from every element under one that the target is under. -/
theorem reaches (apart : source ≠ target) (under : Under parent source above)
    (targetUnder : Under parent target above) :
    Relation.TransGen (Toward parent target) source target := by
  have descend {here : α} (apart : here ≠ target) (under : Under parent target here) :
      Relation.TransGen (Toward parent target) here target := by
    rcases Relation.reflTransGen_iff_eq_or_transGen.mp under with same | below
    · exact absurd same apart
    · exact Relation.TransGen.mono (fun _ _ step => Toward.down step) _ _ (Below.descends below)
  induction under using Relation.ReflTransGen.head_induction_on with
  | refl => exact descend apart targetUnder
  | @head here there leads _ ih =>
    by_cases passed : Under parent target here
    · exact descend apart passed
    have step : Toward parent target here there := .up passed leads
    by_cases arrives : there = target
    · exact .single (arrives ▸ step)
    · exact .head step (ih arrives)

/-- A path with one more element in front. -/
def prepend (first : α) (path : Nat → α) : Nat → α
  | 0 => first
  | i + 1 => path i

theorem prepend_steps {r : α → α → Prop} (step : r here there) (starts : path 0 = there)
    (steps : ∀ i < length, r (path i) (path (i + 1))) :
    ∀ i < length + 1, r (prepend here path i) (prepend here path (i + 1)) := by
  intro i within
  cases i with
  | zero =>
    subst starts
    exact step
  | succ i => exact steps i (Nat.lt_of_succ_lt_succ within)

/-- Steps that lead from one element to another make a path. -/
theorem exists_path {r : α → α → Prop} (leads : Relation.TransGen r source target) :
    ∃ (length : Nat) (path : Nat → α), path 0 = source ∧ path length = target ∧
      ∀ i < length, r (path i) (path (i + 1)) := by
  induction leads using Relation.TransGen.head_induction_on with
  | @single here step =>
    exact ⟨1, prepend here fun _ => target, rfl, rfl,
      prepend_steps step rfl fun _ within => absurd within (Nat.not_lt_zero _)⟩
  | @head here there step _ ih =>
    obtain ⟨length, path, starts, arrives, steps⟩ := ih
    exact ⟨length + 1, prepend here path, rfl, arrives, prepend_steps step starts steps⟩

/-! ## The shape of a way -/

/-- A step down from above the target leads to the target or above it again. -/
theorem Toward.below_or_eq (step : Toward parent target here there)
    (below : Below parent target here) : there = target ∨ Below parent target there := by
  cases step with
  | down descends =>
    rcases Relation.reflTransGen_iff_eq_or_transGen.mp descends.under with same | still
    · exact .inl same
    · exact .inr still
  | up elsewhere _ => exact absurd below.to_reflTransGen elsewhere

section Acyclic

variable (acyclic : ∀ element, ¬Below parent element element)
include acyclic

/-- A step goes down exactly from above the target. -/
theorem Toward.down_iff (step : Toward parent target here there) :
    parent there = some here ↔ Below parent target here := by
  cases step with
  | down descends => exact iff_of_true descends.leads descends.below
  | up elsewhere leads =>
    exact iff_of_false (fun back => acyclic here (.head leads (.single back)))
      fun below => elsewhere below.to_reflTransGen

/-- There is no step on from the target. -/
theorem not_toward_target : ¬Toward parent target target there := by
  intro step
  cases step with
  | down descends => exact acyclic target descends.below
  | up elsewhere _ => exact elsewhere .refl

/-- Once the way is above the target, it stays so to the end. -/
theorem Way.stays_below (way : Way parent target length path) {i j : Nat} (later : i ≤ j)
    (within : j < length) (below : Below parent target (path i)) :
    Below parent target (path j) := by
  induction j, later using Nat.le_induction with
  | base => exact below
  | succ j _ ih =>
    rcases (way.toward j (Nat.lt_of_succ_lt within)).below_or_eq (ih (Nat.lt_of_succ_lt within))
      with arrives | still
    · exact absurd (arrives ▸ way.toward (j + 1) within) (not_toward_target acyclic)
    · exact still

/-- A way that follows a function meets no element twice. -/
theorem Way.injOn (way : Way parent target length path) {next : α → Option α}
    (follows : ∀ i < length, next (path i) = some (path (i + 1))) :
    Set.InjOn path (Set.Iic length) := by
  have before {i j : Nat} (earlier : i < j) (within : j ≤ length) : path i ≠ path j := by
    intro same
    have together : ∀ steps, j + steps ≤ length → path (i + steps) = path (j + steps) := by
      intro steps
      induction steps with
      | zero => exact fun _ => same
      | succ steps ih =>
        intro still
        have leads := follows (i + steps) (by omega)
        rw [ih (by omega), follows (j + steps) (by omega), Option.some.injEq] at leads
        exact leads.symm
    have early := together (length - j) (by omega)
    rw [Nat.add_sub_cancel' within, way.arrives] at early
    exact not_toward_target acyclic (early ▸ way.toward (i + (length - j)) (by omega))
  intro i iWithin j jWithin same
  rcases Nat.lt_trichotomy i j with earlier | equal | later
  · exact absurd same (before earlier jWithin)
  · exact equal
  · exact absurd same.symm (before later iWithin)

end Acyclic

end Forest
