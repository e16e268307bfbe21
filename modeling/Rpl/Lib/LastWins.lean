import Mathlib

/-!
# Lists in which the last entry for a key wins

`upsert` replaces the entry of a list that has the same key as the new one, in
place, or appends the new one.  Folding it over a list leaves one entry for each
key, the last one, in the order in which the keys first appear.
-/

namespace LastWins

variable {α κ : Type} [DecidableEq κ]

/-- The entry replaces the first one with its key, or goes to the end. -/
def upsert (key : α → κ) : List α → α → List α
  | [], entry => [entry]
  | seen :: rest, entry =>
    if key seen = key entry then entry :: rest else seen :: upsert key rest entry

/-- Each key once, with the last entry for it. -/
def dedup (key : α → κ) (entries : List α) : List α := entries.foldl (upsert key) []

theorem mem_keys_upsert {key : α → κ} {seen : List α} {entry : α} {k : κ} :
    k ∈ (upsert key seen entry).map key ↔ k ∈ seen.map key ∨ k = key entry := by
  induction seen with
  | nil => simp [upsert]
  | cons head rest ih =>
    simp only [upsert]
    split
    · rename_i same
      simp only [List.map_cons, List.mem_cons, same]
      tauto
    · simp only [List.map_cons, List.mem_cons, ih]
      tauto

/-- Keys stay distinct. -/
theorem nodup_upsert {key : α → κ} {seen : List α} {entry : α}
    (distinct : (seen.map key).Nodup) : ((upsert key seen entry).map key).Nodup := by
  induction seen with
  | nil => simp [upsert]
  | cons head rest ih =>
    rw [List.map_cons, List.nodup_cons] at distinct
    simp only [upsert]
    split
    · rename_i same
      rw [List.map_cons, List.nodup_cons, ← same]
      exact distinct
    · rename_i other
      rw [List.map_cons, List.nodup_cons, mem_keys_upsert]
      exact ⟨not_or.mpr ⟨distinct.1, other⟩, ih distinct.2⟩

/-- The entry found for a key after an `upsert` is the new one for its own key and the old
one for any other. -/
theorem find?_upsert {key : α → κ} {seen : List α} {entry : α} {k : κ} :
    (upsert key seen entry).find? (fun e => key e = k) =
      if key entry = k then some entry else seen.find? (fun e => key e = k) := by
  induction seen with
  | nil => by_cases same : key entry = k <;> simp [upsert, same]
  | cons head rest ih =>
    simp only [upsert]
    split
    · rename_i same
      by_cases entryKey : key entry = k
      · simp [entryKey]
      · simp [entryKey, same]
    · rename_i other
      by_cases headKey : key head = k
      · have : key entry ≠ k := fun h => other (headKey.trans h.symm)
        simp [headKey, this]
      · simp only [List.find?_cons, headKey, decide_false, ih]

theorem find?_foldl_upsert {key : α → κ} {entries seen : List α} {k : κ} :
    (entries.foldl (upsert key) seen).find? (fun e => key e = k) =
      (entries.reverse.find? (fun e => key e = k)).or (seen.find? (fun e => key e = k)) := by
  induction entries generalizing seen with
  | nil => simp
  | cons entry rest ih =>
    rw [List.foldl_cons, ih, find?_upsert, List.reverse_cons, List.find?_append]
    by_cases same : key entry = k <;> simp [same]

/-- What `dedup` keeps for a key is the last entry for it. -/
theorem find?_dedup {key : α → κ} {entries : List α} {k : κ} :
    (dedup key entries).find? (fun e => key e = k) =
      entries.reverse.find? (fun e => key e = k) := by
  simp [dedup, find?_foldl_upsert]

theorem nodup_dedup {key : α → κ} (entries : List α) : ((dedup key entries).map key).Nodup := by
  have fold : ∀ (entries seen : List α), (seen.map key).Nodup →
      ((entries.foldl (upsert key) seen).map key).Nodup := by
    intro entries
    induction entries with
    | nil => exact fun _ distinct => distinct
    | cons entry rest ih => exact fun seen distinct => ih _ (nodup_upsert distinct)
  exact fold entries [] List.nodup_nil

/-- An entry of a list with distinct keys is the one found for its key. -/
theorem mem_iff_find? {key : α → κ} {entries : List α} (distinct : (entries.map key).Nodup)
    {entry : α} : entry ∈ entries ↔ entries.find? (fun e => key e = key entry) = some entry := by
  constructor
  · intro mem
    induction entries with
    | nil => simp at mem
    | cons head rest ih =>
      rw [List.map_cons, List.nodup_cons] at distinct
      rcases List.mem_cons.mp mem with rfl | inRest
      · simp
      · have other : key head ≠ key entry := fun same =>
          distinct.1 (same ▸ List.mem_map_of_mem inRest)
        simp [other, ih distinct.2 inRest]
  · exact List.mem_of_find?_eq_some

/-- An entry of `dedup` is the last entry for its key. -/
theorem mem_dedup {key : α → κ} {entries : List α} {entry : α} :
    entry ∈ dedup key entries ↔
      entries.reverse.find? (fun e => key e = key entry) = some entry := by
  rw [mem_iff_find? (nodup_dedup entries), find?_dedup]

/-- The same, in terms of the entries for that key alone. -/
theorem mem_dedup_iff_getLast? {key : α → κ} {entries : List α} {entry : α} :
    entry ∈ dedup key entries ↔
      (entries.filter fun e => key e = key entry).getLast? = some entry := by
  rw [mem_dedup, ← List.head?_filter, List.filter_reverse, List.head?_reverse]

end LastWins
