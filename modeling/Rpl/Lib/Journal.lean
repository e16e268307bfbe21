import Mathlib

/-!
# Journals of a counter

A counter only ever steps on, and messages are posted that carry its value.  A journal lists
the messages in the order they are posted, each with the number of steps the counter had made
by then, and the number of steps it made in all.  Journals of one stretch and of the next
are appended.
-/

/-- The messages posted with the steps made before each, and the steps made in all. -/
@[ext]
structure Journal (β : Type) where
  posts : List (ℕ × β) := []
  total : ℕ := 0

namespace Journal

variable {α β : Type} {next : α → α} {value : β → α} {start middle stop : α}
  {first second journal : Journal β}

/-- One journal after the other. -/
def append (first second : Journal β) : Journal β where
  posts := first.posts ++ second.posts.map fun post => (first.total + post.1, post.2)
  total := first.total + second.total

theorem posts_append_snd :
    (first.append second).posts.map Prod.snd =
      first.posts.map Prod.snd ++ second.posts.map Prod.snd := by
  rw [append, List.map_append, List.map_map]
  rfl

theorem mem_append {post : ℕ × β} (mem : post ∈ (first.append second).posts) :
    post ∈ first.posts ∨ ∃ later ∈ second.posts, post = (first.total + later.1, later.2) := by
  rcases List.mem_append.mp mem with before | after
  · exact .inl before
  · obtain ⟨later, late, rfl⟩ := List.mem_map.mp after
    exact .inr ⟨later, late, rfl⟩

/-! ## A journal of a counter -/

/-- The journal is of a counter that goes from one value to another: every message carries the
value the counter had. -/
structure Counts (next : α → α) (value : β → α) (start : α) (journal : Journal β) (stop : α) :
    Prop where
  within : ∀ post ∈ journal.posts, post.1 ≤ journal.total
  ordered : journal.posts.Pairwise fun earlier later => earlier.1 ≤ later.1
  carries : ∀ post ∈ journal.posts, value post.2 = next^[post.1] start
  stop : stop = next^[journal.total] start

theorem Counts.none : Counts next value start {} start :=
  ⟨nofun, .nil, nofun, rfl⟩

theorem Counts.append (before : first.Counts next value start middle)
    (after : second.Counts next value middle stop) :
    (first.append second).Counts next value start stop := by
  refine ⟨fun post mem => ?_, List.pairwise_append.mpr ⟨before.ordered, ?_, ?_⟩,
    fun post mem => ?_, ?_⟩
  · change post.1 ≤ first.total + second.total
    rcases mem_append mem with early | ⟨later, late, rfl⟩
    · have within := before.within post early
      omega
    · have within := after.within later late
      dsimp only
      omega
  · rw [List.pairwise_map]
    exact after.ordered.imp fun le => Nat.add_le_add_left le _
  · intro earlier early post late
    obtain ⟨later, -, rfl⟩ := List.mem_map.mp late
    have within := before.within earlier early
    dsimp only
    omega
  · rcases mem_append mem with early | ⟨later, late, rfl⟩
    · exact before.carries post early
    · rw [after.carries later late, before.stop, ← Function.iterate_add_apply, Nat.add_comm]
  · rw [after.stop, before.stop, ← Function.iterate_add_apply, Nat.add_comm]
    rfl

/-- Of two messages in a row the later carries the value of the earlier, stepped on. -/
theorem Counts.isChain (counts : journal.Counts next value start stop) :
    journal.posts.IsChain fun earlier later => earlier.1 ≤ later.1 ∧
      value later.2 = next^[later.1 - earlier.1] (value earlier.2) := by
  refine List.Pairwise.isChain (counts.ordered.imp_of_mem fun early late le => ⟨le, ?_⟩)
  rw [counts.carries _ late, counts.carries _ early, ← Function.iterate_add_apply,
    Nat.sub_add_cancel le]

/-! ## What closes and what opens -/

/-- A message that closes is followed by one that opens only after a step of the counter, also
across the ends of the journal: while the poster is quiet it posts nothing that opens before the
counter has stepped, and where a closing message is the last thing before the end the poster is
quiet there. -/
structure Spaced (closes opens : β → Prop) (quietBefore : Prop) (journal : Journal β)
    (quietAfter : Prop) : Prop where
  apart : journal.posts.Pairwise fun earlier later =>
    closes earlier.2 → opens later.2 → earlier.1 < later.1
  waits : quietBefore → ∀ post ∈ journal.posts, opens post.2 → 0 < post.1
  quiets : ∀ post ∈ journal.posts, closes post.2 → post.1 = journal.total → quietAfter
  stays : quietBefore → journal.total = 0 → quietAfter

theorem Spaced.none {closes opens : β → Prop} {quietBefore quietAfter : Prop}
    (stays : quietBefore → quietAfter) : Spaced closes opens quietBefore {} quietAfter :=
  ⟨.nil, nofun, nofun, fun quiet _ => stays quiet⟩

theorem Spaced.append {closes opens : β → Prop} {quietBefore quiet quietAfter : Prop}
    (within : ∀ post ∈ first.posts, post.1 ≤ first.total)
    (before : first.Spaced closes opens quietBefore quiet)
    (after : second.Spaced closes opens quiet quietAfter) :
    (first.append second).Spaced closes opens quietBefore quietAfter := by
  refine ⟨List.pairwise_append.mpr ⟨before.apart, ?_, ?_⟩, fun quietNow post mem opening => ?_,
    fun post mem closing last => ?_, fun quietNow none => ?_⟩
  · rw [List.pairwise_map]
    exact after.apart.imp fun apart closing opening => by
      have := apart closing opening
      dsimp only
      omega
  · intro earlier early post shifted closing opening
    obtain ⟨later, late, rfl⟩ := List.mem_map.mp shifted
    have earliest := within earlier early
    dsimp only at opening ⊢
    -- either the counter stepped before the first journal ended, or the poster was quiet there
    by_cases last : earlier.1 = first.total
    · have := after.waits (before.quiets earlier early closing last) later late opening
      omega
    · omega
  · rcases mem_append mem with early | ⟨later, late, rfl⟩
    · exact before.waits quietNow post early opening
    · dsimp only at opening ⊢
      by_cases none : first.total = 0
      · have := after.waits (before.stays quietNow none) later late opening
        omega
      · omega
  · change post.1 = first.total + second.total at last
    rcases mem_append mem with early | ⟨later, late, rfl⟩
    · have := within post early
      exact after.stays (before.quiets post early closing (by omega)) (by omega)
    · exact after.quiets later late closing (by dsimp only at last; omega)
  · change first.total + second.total = 0 at none
    exact after.stays (before.stays quietNow (by omega)) (by omega)

/-! ## Reading the steps off the values -/

/-- How many steps lead from one value to another, the fewest there are. -/
def stepsBetween [DecidableEq α] (next : α → α) (bound : ℕ) (start stop : α) : ℕ :=
  ((List.range bound).find? fun steps => next^[steps] start = stop).getD 0

/-- A number of steps is read off when fewer do not lead there. -/
theorem stepsBetween_eq [DecidableEq α] {bound steps : ℕ} (within : steps < bound)
    (leads : next^[steps] start = stop) (fewer : ∀ k < steps, next^[k] start ≠ stop) :
    stepsBetween next bound start stop = steps := by
  have first : (List.range bound).find? (fun k => next^[k] start = stop) = some steps := by
    refine List.find?_range_eq_some.mpr ⟨decide_eq_true leads, List.mem_range.mpr within, ?_⟩
    intro k less
    simpa using fewer k less
  rw [stepsBetween, first, Option.getD_some]

/-- The journal of a stretch, read off the messages posted in it and the values of the counter
before and after. -/
def ofValues [DecidableEq α] (next : α → α) (bound : ℕ) (value : β → α) (start : α)
    (messages : List β) (stop : α) : Journal β where
  posts := messages.map fun message => (stepsBetween next bound start (value message), message)
  total := stepsBetween next bound start stop

/-- A journal with fewer steps than the counter takes to come back to a value it had is read off
the values. -/
theorem eq_ofValues [DecidableEq α] {bound : ℕ}
    (reads : ∀ steps ≤ journal.total, stepsBetween next bound start (next^[steps] start) = steps)
    (counts : journal.Counts next value start stop) :
    journal = ofValues next bound value start (journal.posts.map Prod.snd) stop := by
  refine Journal.ext ?_ ?_
  · rw [ofValues, List.map_map]
    refine (List.map_id _).symm.trans (List.map_congr_left fun post mem => ?_)
    rw [Function.comp_apply, counts.carries post mem, reads _ (counts.within post mem)]
    rfl
  · rw [ofValues, counts.stop, reads _ le_rfl]

end Journal
