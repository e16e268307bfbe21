import Mathlib

/-!
# Ordered maps and first matches

Two facts about ordered maps that a program which walks a map in key order
leans on: the entry such a walk stops at is the least one satisfying its test,
and a walk that erases what fails a test leaves exactly the entries that pass.
-/

namespace OrderedMap

open Std

variable {κ ν : Type} [Ord κ] [TransOrd κ] [LawfulEqOrd κ]

/-- The first entry, in key order, that satisfies the test. -/
def first (test : κ → ν → Bool) (map : ExtTreeMap κ ν) : Option (κ × ν) :=
  map.toList.find? fun entry => test entry.1 entry.2

/-- The walk stops only at an entry of the map that passes the test. -/
theorem getElem?_of_first {test : κ → ν → Bool} {map : ExtTreeMap κ ν} {key : κ} {value : ν}
    (found : first test map = some (key, value)) :
    map[key]? = some value ∧ test key value = true := by
  refine ⟨?_, ?_⟩
  · exact ExtTreeMap.mem_toList_iff_getElem?_eq_some.mp (List.mem_of_find?_eq_some found)
  · simpa using List.find?_some found

/-- The walk comes back empty exactly when no entry passes the test. -/
theorem first_eq_none {test : κ → ν → Bool} {map : ExtTreeMap κ ν} :
    first test map = none ↔ ∀ key value, map[key]? = some value → test key value = false := by
  simp only [first, List.find?_eq_none, Prod.forall, ExtTreeMap.mem_toList_iff_getElem?_eq_some,
    Bool.not_eq_true]

theorem first_isSome {test : κ → ν → Bool} {map : ExtTreeMap κ ν} :
    (first test map).isSome ↔ ∃ key value, map[key]? = some value ∧ test key value = true := by
  rw [← not_iff_not, Bool.not_eq_true, Option.isSome_eq_false_iff, Option.isNone_iff_eq_none,
    first_eq_none]
  push Not
  simp

omit [LawfulEqOrd κ] in
/-- A walk that stops at the first entry that passes is the one over the list of entries. -/
theorem any_eq_any_toList (map : ExtTreeMap κ ν) (test : κ → ν → Bool) :
    map.any test = map.toList.any fun entry => test entry.1 entry.2 := by
  have walk (entries : List (κ × ν)) :
      (Id.run do
        for entry in entries do
          if test entry.1 entry.2 then return true
        return false) = entries.any fun entry => test entry.1 entry.2 := by
    induction entries with
    | nil => rfl
    | cons entry rest ih =>
      rw [List.any_cons, ← ih]
      cases passes : test entry.1 entry.2 <;> simp [passes]
  have walked : map.any test =
      (Id.run do
        for entry in map do
          if test entry.1 entry.2 then return true
        return false) := by
    obtain ⟨inner⟩ := map
    induction inner using ExtDTreeMap.inductionOn with
    | mk entries => rfl
  rw [walked, ← walk, ExtTreeMap.forIn_eq_forIn_toList]

theorem any_eq_true {map : ExtTreeMap κ ν} {test : κ → ν → Bool} :
    map.any test = true ↔ ∃ key value, map[key]? = some value ∧ test key value = true := by
  rw [any_eq_any_toList, List.any_eq_true]
  constructor
  · rintro ⟨⟨key, value⟩, mem, passes⟩
    exact ⟨key, value, ExtTreeMap.mem_toList_iff_getElem?_eq_some.mp mem, passes⟩
  · rintro ⟨key, value, held, passes⟩
    exact ⟨(key, value), ExtTreeMap.mem_toList_iff_getElem?_eq_some.mpr held, passes⟩

/-- What the walk stops at comes no later in key order than any other entry that passes. -/
theorem le_of_first {test : κ → ν → Bool} {map : ExtTreeMap κ ν} {key other : κ}
    {value otherValue : ν} (found : first test map = some (key, value))
    (present : map[other]? = some otherValue) (passes : test other otherValue = true) :
    compare key other ≠ .gt := by
  obtain ⟨before, after, split, earlier⟩ := List.find?_eq_some_iff_append.mp found |>.2
  have mem : (other, otherValue) ∈ before ++ (key, value) :: after := by
    rw [← split]
    exact ExtTreeMap.mem_toList_iff_getElem?_eq_some.mpr present
  have sorted := map.ordered_keys_toList
  rw [split, List.pairwise_append] at sorted
  rcases List.mem_append.mp mem with inBefore | inRest
  · have := earlier _ inBefore
    simp [passes] at this
  rcases List.mem_cons.mp inRest with same | inAfter
  · obtain ⟨rfl, rfl⟩ := Prod.mk.injEq .. ▸ same
    simp
  · have ordered := (List.pairwise_cons.mp sorted.2.1).1 _ inAfter
    simp only at ordered
    simp [ordered]

/-- The entry the walk stops at, characterised: it is in the map, it passes, and none that
passes comes before it. -/
theorem first_eq_some_iff {test : κ → ν → Bool} {map : ExtTreeMap κ ν} {key : κ} {value : ν} :
    first test map = some (key, value) ↔
      map[key]? = some value ∧ test key value = true ∧
        ∀ other otherValue, map[other]? = some otherValue → test other otherValue = true →
          compare key other ≠ .gt := by
  constructor
  · intro found
    obtain ⟨held, passes⟩ := getElem?_of_first found
    exact ⟨held, passes, fun _ _ present ok => le_of_first found present ok⟩
  · rintro ⟨held, passes, least⟩
    obtain ⟨⟨other, otherValue⟩, found⟩ :=
      Option.isSome_iff_exists.mp (first_isSome.mpr ⟨key, value, held, passes⟩)
    obtain ⟨otherHeld, otherPasses⟩ := getElem?_of_first found
    have notAfter := least other otherValue otherHeld otherPasses
    have notBefore := le_of_first found held passes
    -- neither comes after the other, so they are one
    have same : key = other := by
      apply LawfulEqOrd.eq_of_compare
      have swap : compare other key = (compare key other).swap := OrientedCmp.eq_swap
      rw [swap] at notBefore
      cases order : compare key other with
      | lt => rw [order] at notBefore; exact absurd rfl notBefore
      | eq => rfl
      | gt => exact absurd order notAfter
    subst same
    rw [held] at otherHeld
    cases otherHeld
    exact found

omit [LawfulEqOrd κ] in
/-- The walk over a map whose values are all rewritten stops where the walk over the map
itself does. -/
theorem first_map {μ : Type} {test : κ → μ → Bool} {map : ExtTreeMap κ ν} {f : ν → μ} :
    first test (map.map fun _ value => f value) =
      (first (fun key value => test key (f value)) map).map fun entry => (entry.1, f entry.2) := by
  simp only [first, ExtTreeMap.toList_map, List.find?_map]
  rfl

/-- `for (it …) if (test) erase(it)`: drop the entries that pass the test. -/
def eraseIf (test : κ → ν → Bool) (map : ExtTreeMap κ ν) : ExtTreeMap κ ν :=
  map.filter fun key value => !test key value

theorem getElem?_eraseIf {test : κ → ν → Bool} {map : ExtTreeMap κ ν} {key : κ} :
    (eraseIf test map)[key]? = map[key]?.filter fun value => !test key value :=
  ExtTreeMap.getElem?_filter'

theorem getElem?_eraseIf_eq_some {test : κ → ν → Bool} {map : ExtTreeMap κ ν} {key : κ}
    {value : ν} :
    (eraseIf test map)[key]? = some value ↔ map[key]? = some value ∧ test key value = false := by
  simp [getElem?_eraseIf, Option.filter_eq_some_iff]

/-- No more keys than entries. -/
theorem length_le_size {map : ExtTreeMap κ ν} {keys : List κ} (nodup : keys.Nodup)
    (held : ∀ key ∈ keys, key ∈ map) : keys.length ≤ map.size := by
  rw [← ExtTreeMap.length_keys]
  exact (List.subperm_of_subset nodup fun key mem =>
    ExtTreeMap.mem_keys.mpr (held key mem)).length_le

/-! ## Updates, by key equality -/

variable [DecidableEq κ]

/-- The value at a key rewritten in place, every other key left alone. -/
theorem getElem?_modify_eq {map : ExtTreeMap κ ν} {key other : κ} {f : ν → ν} :
    (map.modify key f)[other]? = if other = key then map[key]?.map f else map[other]? := by
  rw [ExtTreeMap.getElem?_modify]
  by_cases same : other = key
  · simp [same]
  · have : compare key other ≠ .eq := fun h => same (LawfulEqOrd.eq_of_compare h).symm
    simp [this, same]

/-- A value rewritten in place, as a map over the whole. -/
theorem modify_eq_map {map : ExtTreeMap κ ν} {key : κ} {f : ν → ν} :
    map.modify key f = map.map fun other value => if other = key then f value else value := by
  refine ExtTreeMap.ext_getElem? fun other => ?_
  rw [getElem?_modify_eq, ExtTreeMap.getElem?_map]
  by_cases same : other = key
  · simp [same]
  · simp [same]

theorem getElem?_insert_eq {map : ExtTreeMap κ ν} {key other : κ} {value : ν} :
    (map.insert key value)[other]? = if other = key then some value else map[other]? := by
  rw [ExtTreeMap.getElem?_insert]
  by_cases same : other = key
  · simp [same]
  · have : compare key other ≠ .eq := fun h => same (LawfulEqOrd.eq_of_compare h).symm
    simp [this, same]

theorem getElem?_erase_eq {map : ExtTreeMap κ ν} {key other : κ} :
    (map.erase key)[other]? = if other = key then none else map[other]? := by
  rw [ExtTreeMap.getElem?_erase]
  by_cases same : other = key
  · simp [same]
  · have : compare key other ≠ .eq := fun h => same (LawfulEqOrd.eq_of_compare h).symm
    simp [this, same]

/-- Writing the value that is held changes nothing. -/
theorem insert_held {map : ExtTreeMap κ ν} {key : κ} {value : ν} (held : map[key]? = some value) :
    map.insert key value = map := by
  refine ExtTreeMap.ext_getElem? fun other => ?_
  rw [getElem?_insert_eq]
  split
  · next same => rw [same, held]
  · rfl

/-! ## Updates under a rewriting of all values -/

variable {μ : Type} {map : ExtTreeMap κ ν} {f : ν → μ} {key : κ}

theorem map_insert {value : ν} :
    (map.insert key value).map (fun _ value => f value) =
      (map.map fun _ value => f value).insert key (f value) := by
  refine ExtTreeMap.ext_getElem? fun other => ?_
  simp only [ExtTreeMap.getElem?_map, getElem?_insert_eq]
  split
  · rfl
  · rfl

theorem map_erase :
    (map.erase key).map (fun _ value => f value) = (map.map fun _ value => f value).erase key := by
  refine ExtTreeMap.ext_getElem? fun other => ?_
  simp only [ExtTreeMap.getElem?_map, getElem?_erase_eq]
  split
  · rfl
  · rfl

theorem map_modify {g : ν → ν} {h : μ → μ} (follows : ∀ value, f (g value) = h (f value)) :
    (map.modify key g).map (fun _ value => f value) =
      (map.map fun _ value => f value).modify key h := by
  refine ExtTreeMap.ext_getElem? fun other => ?_
  simp only [ExtTreeMap.getElem?_map, getElem?_modify_eq]
  split
  · simp only [Option.map_map]
    congr 1
    funext value
    exact follows value
  · rfl

/-- Erasing makes an update of the same key before it void. -/
theorem erase_modify {g : ν → ν} : (map.modify key g).erase key = map.erase key := by
  refine ExtTreeMap.ext_getElem? fun other => ?_
  simp only [getElem?_erase_eq, getElem?_modify_eq]
  split
  · rfl
  · rfl

theorem erase_insert {value : ν} : (map.insert key value).erase key = map.erase key := by
  refine ExtTreeMap.ext_getElem? fun other => ?_
  simp only [getElem?_erase_eq, getElem?_insert_eq]
  split
  · rfl
  · rfl

theorem insert_insert {first second : ν} :
    (map.insert key first).insert key second = map.insert key second := by
  refine ExtTreeMap.ext_getElem? fun other => ?_
  simp only [getElem?_insert_eq]
  split
  · rfl
  · rfl

/-- Rewriting a held value is writing the rewritten value. -/
theorem modify_of_held {g : ν → ν} {value : ν} (held : map[key]? = some value) :
    map.modify key g = map.insert key (g value) := by
  refine ExtTreeMap.ext_getElem? fun other => ?_
  simp only [getElem?_modify_eq, getElem?_insert_eq, held, Option.map_some]

theorem modify_of_absent {g : ν → ν} (absent : map[key]? = none) : map.modify key g = map := by
  refine ExtTreeMap.ext_getElem? fun other => ?_
  rw [getElem?_modify_eq]
  split
  · next same => rw [same, absent, Option.map_none]
  · rfl

end OrderedMap
