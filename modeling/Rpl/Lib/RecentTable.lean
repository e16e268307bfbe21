import Mathlib

/-!
# A bounded table of the latest entries

A table keeps the latest entry for each key until it lapses, and when there is no more room the
oldest entry makes way.  What it gives for a key can be read off the entries put into it: the
latest one for the key, unless that has lapsed, or there have since been as many entries in the
table as there is room for.  Entries are listed newest first.
-/

namespace RecentTable

variable {α κ τ : Type} [DecidableEq κ] [LinearOrder τ] (key : α → κ) (time lapses : α → τ)

/-- What an entry that is put in leaves of those before it: the ones for other keys that have not
lapsed. -/
def spares (entry : α) (earlier : List α) : List α :=
  earlier.filter fun other => decide (time entry < lapses other) && decide (key other ≠ key entry)

/-- The table that the entries leave. -/
def table (capacity : ℕ) : List α → List α
  | [] => []
  | entry :: earlier =>
    (entry :: spares key time lapses entry (table capacity earlier)).take capacity

/-- What the entries would leave in a table with room for all of them. -/
def remembered : List α → List α
  | [] => []
  | entry :: earlier => entry :: spares key time lapses entry (remembered earlier)

/-- There have never been as many entries as there is room for. -/
def Roomy (capacity : ℕ) (since : List α) : Prop :=
  ∀ part ∈ since.tails, (remembered key time lapses part).length < capacity

instance (capacity : ℕ) (since : List α) : Decidable (Roomy key time lapses capacity since) :=
  inferInstanceAs (Decidable (∀ part ∈ since.tails, _))

/-- The latest entry for the key, if it has not lapsed and has not had to make way. -/
def standing (capacity : ℕ) (entries : List α) (k : κ) (now : τ) : Option α :=
  (entries.find? fun entry => key entry = k).filter fun entry =>
    decide (now < lapses entry) &&
      decide (Roomy key time lapses capacity (entries.takeWhile fun entry => key entry ≠ k))

variable {key time lapses} {capacity : ℕ} {entry first : α} {since earlier entries : List α}

theorem mem_remembered (mem : entry ∈ remembered key time lapses entries) : entry ∈ entries := by
  induction entries with
  | nil => exact mem
  | cons first rest ih =>
    rcases List.mem_cons.mp mem with same | spared
    · exact List.mem_cons.mpr (.inl same)
    · exact List.mem_cons_of_mem _ (ih (List.mem_of_mem_filter spared))

theorem length_table_le : (table key time lapses capacity entries).length ≤ capacity := by
  cases entries with
  | nil => exact Nat.zero_le _
  | cons first rest => exact List.length_take_le _ _

theorem roomy_cons :
    Roomy key time lapses capacity (first :: since) ↔
      (remembered key time lapses (first :: since)).length < capacity ∧
        Roomy key time lapses capacity since := by
  rw [Roomy, Roomy, List.tails_cons, List.forall_mem_cons]

theorem spares_cons_of_lives {older : List α} (other : key entry ≠ key first)
    (lives : time first < lapses entry) :
    spares key time lapses first (entry :: older) =
      entry :: spares key time lapses first older := by
  have kept : (decide (time first < lapses entry) && decide (key entry ≠ key first)) = true := by
    rw [decide_eq_true lives, decide_eq_true other]
    rfl
  exact List.filter_cons_of_pos kept

theorem spares_cons_of_lapsed {older : List α} (lapsed : ¬time first < lapses entry) :
    spares key time lapses first (entry :: older) = spares key time lapses first older := by
  refine List.filter_cons_of_neg ?_
  rw [decide_eq_false lapsed]
  exact Bool.false_ne_true

theorem eq_or_mem_of_mem_table_cons
    (mem : entry ∈ table key time lapses capacity (first :: entries)) :
    entry = first ∨ entry ∈ table key time lapses capacity entries := by
  rcases List.mem_cons.mp (List.mem_of_mem_take mem) with same | spared
  · exact .inl same
  · exact .inr (List.mem_of_mem_filter spared)

theorem mem_table (mem : entry ∈ table key time lapses capacity entries) : entry ∈ entries := by
  induction entries with
  | nil => exact mem
  | cons first rest ih =>
    rcases eq_or_mem_of_mem_table_cons mem with same | before
    · exact List.mem_cons.mpr (.inl same)
    · exact List.mem_cons_of_mem _ (ih before)

/-! ## An entry behind later ones -/

/-- None of the later entries, all for other keys, has come after it lapsed or made it make way. -/
structure Stands (key : α → κ) (time lapses : α → τ) (capacity : ℕ) (entry : α)
    (since : List α) : Prop where
  lives : ∀ later ∈ since, time later < lapses entry
  roomy : Roomy key time lapses capacity since

theorem stands_cons : Stands key time lapses capacity entry (first :: since) ↔
    Stands key time lapses capacity entry since ∧ time first < lapses entry ∧
      (remembered key time lapses (first :: since)).length < capacity := by
  constructor
  · rintro ⟨lives, roomy⟩
    obtain ⟨livesFirst, livesRest⟩ := List.forall_mem_cons.mp lives
    obtain ⟨room, roomyRest⟩ := roomy_cons.mp roomy
    exact ⟨⟨livesRest, roomyRest⟩, livesFirst, room⟩
  · rintro ⟨⟨livesRest, roomyRest⟩, livesFirst, room⟩
    exact ⟨List.forall_mem_cons.mpr ⟨livesFirst, livesRest⟩, roomy_cons.mpr ⟨room, roomyRest⟩⟩

/-- One more entry leaves it where it is, before the table is cut to its size. -/
theorem table_cons_append {older : List α} (other : key entry ≠ key first)
    (lives : time first < lapses entry)
    (left : table key time lapses capacity entries =
      remembered key time lapses since ++ entry :: older) :
    table key time lapses capacity (first :: entries) =
      (remembered key time lapses (first :: since) ++
        entry :: spares key time lapses first older).take capacity := by
  rw [table, left, spares, List.filter_append]
  change (first :: (_ ++ spares key time lapses first (entry :: older))).take capacity = _
  rw [spares_cons_of_lives other lives]
  rfl

/-- While it stands, the later entries are before it in the table. -/
theorem table_append_of_stands (other : ∀ later ∈ since, key later ≠ key entry)
    (room : 0 < capacity) (stands : Stands key time lapses capacity entry since) :
    ∃ older, table key time lapses capacity (since ++ entry :: earlier) =
        remembered key time lapses since ++ entry :: older ∧
      ∀ old ∈ older, key old ≠ key entry := by
  induction since with
  | nil =>
    obtain ⟨most, rfl⟩ := Nat.exists_eq_succ_of_ne_zero room.ne'
    refine ⟨_, List.take_succ_cons, fun old mem => ?_⟩
    have spared := List.mem_filter.mp (List.mem_of_mem_take mem)
    exact of_decide_eq_true (Bool.and_eq_true _ _ ▸ spared.2).2
  | cons first rest ih =>
    obtain ⟨before, lives, fits⟩ := stands_cons.mp stands
    obtain ⟨older, left, distinct⟩ :=
      ih (fun later mem => other later (List.mem_cons_of_mem _ mem)) before
    refine ⟨(spares key time lapses first older).take
      (capacity - (remembered key time lapses (first :: rest)).length - 1), ?_, fun old mem =>
        distinct old (List.mem_of_mem_filter (List.mem_of_mem_take mem))⟩
    rw [List.cons_append, table_cons_append (other first List.mem_cons_self).symm lives left,
      List.take_append, List.take_of_length_le fits.le]
    obtain ⟨left, size⟩ := Nat.exists_eq_add_of_lt fits
    rw [size, Nat.add_assoc, Nat.add_sub_cancel_left, List.take_succ_cons, Nat.add_sub_cancel]

/-- Once it does not, the table has nothing for its key, since nothing older had. -/
theorem table_append_of_not_stands (other : ∀ later ∈ since, key later ≠ key entry)
    (room : 0 < capacity) (gone : ¬Stands key time lapses capacity entry since) :
    ∀ left ∈ table key time lapses capacity (since ++ entry :: earlier),
      key left ≠ key entry := by
  induction since with
  | nil =>
    refine absurd ⟨fun _ mem => absurd mem List.not_mem_nil, fun part mem => ?_⟩ gone
    rw [List.mem_singleton.mp mem]
    exact room
  | cons first rest ih =>
    have otherRest : ∀ later ∈ rest, key later ≠ key entry :=
      fun later mem => other later (List.mem_cons_of_mem _ mem)
    intro left mem
    by_cases before : Stands key time lapses capacity entry rest
    · obtain ⟨older, was, distinct⟩ :=
        @table_append_of_stands _ _ _ _ _ _ _ _ capacity entry rest earlier otherRest room before
      by_cases lives : time first < lapses entry
      · have full : capacity ≤ (remembered key time lapses (first :: rest)).length :=
          Nat.le_of_not_lt fun fits => gone (stands_cons.mpr ⟨before, lives, fits⟩)
        rw [List.cons_append, table_cons_append (other first List.mem_cons_self).symm lives was,
          List.take_append_of_le_length full] at mem
        exact other left (mem_remembered (List.mem_of_mem_take mem))
      · rw [List.cons_append, table, was, spares, List.filter_append] at mem
        change left ∈ (first :: (_ ++ spares key time lapses first (entry :: older))).take _ at mem
        rw [spares_cons_of_lapsed lives] at mem
        rcases List.mem_cons.mp (List.mem_of_mem_take mem) with rfl | spared
        · exact other left List.mem_cons_self
        rcases List.mem_append.mp spared with later | old
        · exact otherRest left (mem_remembered (List.mem_of_mem_filter later))
        · exact distinct left (List.mem_of_mem_filter old)
    · rcases eq_or_mem_of_mem_table_cons mem with rfl | still
      · exact other left List.mem_cons_self
      · exact ih otherRest before left still

/-- What the table has for a key that has not lapsed is what the entries say. -/
theorem find?_table {now : τ} {k : κ} (room : 0 < capacity)
    (past : ∀ entry ∈ entries, time entry ≤ now) :
    (table key time lapses capacity entries).find? (fun entry =>
        decide (now < lapses entry) && decide (key entry = k)) =
      standing key time lapses capacity entries k now := by
  unfold standing
  cases found : entries.find? fun entry => key entry = k with
  | none =>
    rw [Option.filter_none, List.find?_eq_none]
    intro left mem
    have absent := List.find?_eq_none.mp found left (mem_table mem)
    rw [Bool.and_eq_true]
    exact fun given => absent given.2
  | some entry =>
    obtain ⟨isKey, since, earlier, rfl, before⟩ := List.find?_eq_some_iff_append.mp found
    rw [decide_eq_true_eq] at isKey
    subst isKey
    have other : ∀ later ∈ since, key later ≠ key entry := fun later mem => by
      simpa using before later mem
    have split : (since ++ entry :: earlier).takeWhile (fun other => key other ≠ key entry) =
        since := by
      rw [List.takeWhile_append_of_pos fun later mem => decide_eq_true (other later mem),
        List.takeWhile_cons_of_neg (by simp), List.append_nil]
    rw [split]
    by_cases stands : Stands key time lapses capacity entry since
    · obtain ⟨older, left, distinct⟩ :=
        @table_append_of_stands _ _ _ _ _ _ _ _ capacity entry since earlier other room stands
      have skipped : (remembered key time lapses since).find? (fun other =>
          decide (now < lapses other) && decide (key other = key entry)) = none := by
        refine List.find?_eq_none.mpr fun later mem given => ?_
        exact other later (mem_remembered mem) (of_decide_eq_true (Bool.and_eq_true _ _ ▸ given).2)
      have oldOnes : older.find? (fun other =>
          decide (now < lapses other) && decide (key other = key entry)) = none := by
        refine List.find?_eq_none.mpr fun old mem given => ?_
        exact distinct old mem (of_decide_eq_true (Bool.and_eq_true _ _ ▸ given).2)
      rw [left, List.find?_append, skipped, Option.none_or, List.find?_cons, oldOnes,
        Option.filter_some, decide_eq_true stands.roomy, Bool.and_true,
        decide_eq_true (rfl : key entry = key entry), Bool.and_true]
      cases decide (now < lapses entry) with
      | true => rfl
      | false => rfl
    · have none_ : (decide (now < lapses entry) &&
          decide (Roomy key time lapses capacity since)) = false := by
        rw [Bool.and_eq_false_iff]
        by_cases lives : now < lapses entry
        · refine .inr (decide_eq_false fun roomy => stands ⟨fun later mem => ?_, roomy⟩)
          exact lt_of_le_of_lt (past later (List.mem_append_left _ mem)) lives
        · exact .inl (decide_eq_false lives)
      rw [Option.filter_some, none_, if_neg Bool.false_ne_true, List.find?_eq_none]
      intro left mem given
      exact table_append_of_not_stands other room stands left mem
        (of_decide_eq_true (Bool.and_eq_true _ _ ▸ given).2)

end RecentTable
