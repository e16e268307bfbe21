import Rpl.DaoOrder

/-!
# What a Storing router relays

A Storing router collects, while it works through a DAO, the entries that changed
a route, and relays of each target the last one collected.  An entry that repeats
the Path Sequence held is taken into the table but not collected, so the lifetime
relayed is the one stored unless such a repetition, later in the same DAO, gave
another.  `changes` is what is collected for one target, and `relayAgrees_iff` the
exact condition under which what is relayed is what is stored.
-/

namespace Rpl

open Std

namespace DodagMembership

/-! ## One target -/

/-- The target's route after the entries for it. -/
def routeAfter (context : DaoContext) (held : Option DownwardRoute)
    (entries : List AdditionalTarget) : Option DownwardRoute :=
  entries.foldl (takeRoute context) held

/-- Those of the entries that change the route, each in the state the earlier ones left. -/
def changes (context : DaoContext) : Option DownwardRoute → List AdditionalTarget →
    List AdditionalTarget
  | _, [] => []
  | held, entry :: rest =>
    (if routeChanged held entry then [entry] else []) ++
      changes context (takeRoute context held entry) rest

/-- The Path Sequence held for a target after an entry for it. -/
def heldSequence (held : Option UInt8) (entry : AdditionalTarget) : Option UInt8 :=
  if (pathOrder held entry.pathSequence).stale then held
  else if entry.noPath then none
  else some entry.pathSequence

/-- The later entry leaves standing what the earlier one advertised: it is superseded by it,
or repeats its Path Sequence without withdrawing. -/
def leavesStanding (earlier later : AdditionalTarget) : Bool :=
  (sequenceCompare later.pathSequence earlier.pathSequence).stale ||
    (later.pathSequence = earlier.pathSequence && !later.noPath)

/-- The Path Lifetime the entry is left with once those after it have repeated it. -/
def repeatedLifetime (entry : AdditionalTarget) (after : List AdditionalTarget) : UInt8 :=
  ((after.filter fun later => later.pathSequence = entry.pathSequence).getLast?.getD
    entry).pathLifetime

/-- Of the entries for one target, whichever is the last advertisement to change the target's
route is repeated later only with its own Path Lifetime in the end. -/
def RepeatsAgree (held : Option UInt8) (entries : List AdditionalTarget) : Prop :=
  ∀ before change after, entries = before ++ change :: after → change.noPath = false →
    pathOrder (before.foldl heldSequence held) change.pathSequence = .greater →
    (∀ later ∈ after, leavesStanding change later = true) →
    repeatedLifetime change after = change.pathLifetime

/-- A target that a DAO names with one Path Lifetime throughout has nothing to disagree with. -/
theorem repeatsAgree_of_alike {held : Option UInt8} {entries : List AdditionalTarget}
    (alike : ∀ entry ∈ entries, ∀ other ∈ entries, other.pathLifetime = entry.pathLifetime) :
    RepeatsAgree held entries := by
  intro before change after split _ _ _
  have isEntry : change ∈ entries := by
    rw [split]
    exact List.mem_append_right _ List.mem_cons_self
  unfold repeatedLifetime
  cases last : (after.filter fun later => later.pathSequence = change.pathSequence).getLast? with
  | none => rfl
  | some later =>
    refine alike change isEntry later ?_
    rw [split]
    exact List.mem_append_right _
      (List.mem_cons_of_mem _ (List.mem_of_mem_filter (List.mem_of_getLast? last)))

variable {context : DaoContext} {held : Option DownwardRoute} {entry change : AdditionalTarget}
  {entries before after : List AdditionalTarget}

theorem routeAfter_append :
    routeAfter context held (before ++ after) =
      routeAfter context (routeAfter context held before) after :=
  List.foldl_append

theorem changes_append :
    changes context held (before ++ after) =
      changes context held before ++ changes context (routeAfter context held before) after := by
  induction before generalizing held with
  | nil => rfl
  | cons entry rest ih =>
    rw [List.cons_append, changes, ih, changes, List.append_assoc]
    rfl

/-- The Path Sequences of the route follow those of the entries alone. -/
theorem takeRoute_sequence (context : DaoContext) :
    (takeRoute context held entry).map DownwardRoute.pathSequence =
      heldSequence (held.map DownwardRoute.pathSequence) entry := by
  unfold takeRoute heldSequence
  split
  · rfl
  split
  · rfl
  · rfl

theorem routeAfter_sequence (context : DaoContext) :
    (routeAfter context held entries).map DownwardRoute.pathSequence =
      entries.foldl heldSequence (held.map DownwardRoute.pathSequence) := by
  induction entries generalizing held with
  | nil => rfl
  | cons entry rest ih =>
    rw [List.foldl_cons, ← takeRoute_sequence context, ← ih]
    rfl

/-- An entry that is no change keeps the Path Sequence held, and whether there is one. -/
theorem takeRoute_sequence_of_unchanged (context : DaoContext)
    (unchanged : routeChanged held entry = false) :
    (takeRoute context held entry).map DownwardRoute.pathSequence =
      held.map DownwardRoute.pathSequence := by
  rw [takeRoute_sequence, heldSequence]
  split
  · rfl
  rename_i current
  simp only [routeChanged, current, Bool.not_false, Bool.true_and] at unchanged
  split
  · rename_i withdraws
    rw [if_pos withdraws] at unchanged
    have absent : held = none :=
      Option.not_isSome_iff_eq_none.mp (by rw [unchanged]; exact Bool.false_ne_true)
    rw [absent]
    rfl
  · rename_i advertises
    rw [if_neg advertises] at unchanged
    cases held with
    | none => simp at unchanged
    | some route =>
      -- neither stale nor greater, so equal
      have equal : sequenceCompare entry.pathSequence route.pathSequence = .equal := by
        have order : pathOrder (some route.pathSequence) entry.pathSequence =
            sequenceCompare entry.pathSequence route.pathSequence := rfl
        simp only [Option.map_some, order] at unchanged current
        cases outcome : sequenceCompare entry.pathSequence route.pathSequence with
        | less => rw [outcome] at current; exact absurd rfl current
        | equal => rfl
        | greater => rw [outcome] at unchanged; exact absurd unchanged (by decide)
        | notComparable => rw [outcome] at current; exact absurd rfl current
      rw [Option.map_some, sequenceCompare_eq_equal.mp equal]

theorem routeAfter_sequence_of_unchanged (unchanged : changes context held entries = []) :
    (routeAfter context held entries).map DownwardRoute.pathSequence =
      held.map DownwardRoute.pathSequence := by
  induction entries generalizing held with
  | nil => rfl
  | cons entry rest ih =>
    rw [changes, List.append_eq_nil_iff] at unchanged
    have here : routeChanged held entry = false := by
      by_contra changed
      rw [if_pos (by simpa using changed)] at unchanged
      exact List.cons_ne_nil _ _ unchanged.1
    exact (ih unchanged.2).trans (takeRoute_sequence_of_unchanged context here)

/-- The last change splits the entries: it is a change where it stands, and nothing after it
is. -/
theorem split_at_last_change (last : (changes context held entries).getLast? = some change) :
    ∃ before after, entries = before ++ change :: after ∧
      routeChanged (routeAfter context held before) change = true ∧
      changes context (takeRoute context (routeAfter context held before) change) after = [] := by
  induction entries generalizing held with
  | nil => exact absurd last (by simp [changes])
  | cons entry rest ih =>
    by_cases later : changes context (takeRoute context held entry) rest = []
    · rw [changes, later, List.append_nil] at last
      by_cases changed : routeChanged held entry = true
      · rw [if_pos changed] at last
        cases last
        exact ⟨[], rest, rfl, changed, later⟩
      · rw [if_neg changed] at last
        exact absurd last (by simp)
    · rw [changes, List.getLast?_append_of_ne_nil _ later] at last
      obtain ⟨before, after, split, changed, unchanged⟩ := ih last
      exact ⟨entry :: before, after, by rw [split, List.cons_append], changed, unchanged⟩

/-- Conversely a change with none after it is the last. -/
theorem getLast?_changes_of_split
    (changed : routeChanged (routeAfter context held before) change = true)
    (unchanged :
      changes context (takeRoute context (routeAfter context held before) change) after = []) :
    (changes context held (before ++ change :: after)).getLast? = some change := by
  rw [changes_append, changes, unchanged, List.append_nil, if_pos changed,
    List.getLast?_append_of_ne_nil _ (List.cons_ne_nil _ _), List.getLast?_singleton]

/-! ## After the last change -/

theorem routeChanged_iff {route : DownwardRoute} :
    routeChanged (some route) entry = false ↔
      (sequenceCompare entry.pathSequence route.pathSequence).stale = true ∨
        entry.pathSequence = route.pathSequence ∧ entry.noPath = false := by
  have order : pathOrder ((some route).map DownwardRoute.pathSequence) entry.pathSequence =
      sequenceCompare entry.pathSequence route.pathSequence := rfl
  unfold routeChanged
  rw [order, ← sequenceCompare_eq_equal]
  cases sequenceCompare entry.pathSequence route.pathSequence <;>
    cases entry.noPath <;> simp [SequenceOrder.stale]

/-- An advertisement stands through entries none of which is a change, its lifetime that of
the last repetition. -/
theorem routeAfter_of_unchanged
    (unchanged : changes context (some (advertisedRoute context change)) after = []) :
    routeAfter context (some (advertisedRoute context change)) after =
      some (advertisedRoute context
        { change with pathLifetime := repeatedLifetime change after }) := by
  induction after generalizing change with
  | nil => rfl
  | cons entry rest ih =>
    rw [changes, List.append_eq_nil_iff] at unchanged
    have here : routeChanged (some (advertisedRoute context change)) entry = false := by
      by_contra changed
      rw [if_pos (by simpa using changed)] at unchanged
      exact List.cons_ne_nil _ _ unchanged.1
    have step : routeAfter context (some (advertisedRoute context change)) (entry :: rest) =
        routeAfter context (takeRoute context (some (advertisedRoute context change)) entry)
          rest := rfl
    rcases routeChanged_iff.mp here with stale | ⟨repeats, advertises⟩
    · have other : entry.pathSequence ≠ change.pathSequence := by
        intro same
        rw [same] at stale
        change (sequenceCompare change.pathSequence change.pathSequence).stale = true at stale
        rw [sequenceCompare_self] at stale
        exact absurd stale (by decide)
      have skipped : takeRoute context (some (advertisedRoute context change)) entry =
          some (advertisedRoute context change) := if_pos stale
      rw [step, skipped, ih (skipped ▸ unchanged.2), repeatedLifetime, repeatedLifetime,
        List.filter_cons_of_neg (by simpa using other)]
    · have equal : entry.pathSequence = change.pathSequence := repeats
      have taken : takeRoute context (some (advertisedRoute context change)) entry =
          some (advertisedRoute context entry) := by
        unfold takeRoute
        rw [if_neg, if_neg (by rw [advertises]; exact Bool.false_ne_true)]
        change ¬(sequenceCompare entry.pathSequence change.pathSequence).stale = true
        rw [equal, sequenceCompare_self]
        decide
      rw [step, taken, ih (taken ▸ unchanged.2)]
      have lifetime : repeatedLifetime entry rest = repeatedLifetime change (entry :: rest) := by
        rw [repeatedLifetime, repeatedLifetime, List.filter_cons_of_pos (by simpa using equal),
          equal, List.getLast?_cons, Option.getD_some]
      rw [lifetime]
      simp [advertisedRoute, equal]

/-- Entries that leave an advertisement standing are no changes to it, and the other way
round. -/
theorem changes_eq_nil_iff :
    changes context (some (advertisedRoute context change)) after = [] ↔
      ∀ later ∈ after, leavesStanding change later = true := by
  have standing : ∀ (route : DownwardRoute), route.pathSequence = change.pathSequence →
      (changes context (some route) after = [] ↔
        ∀ later ∈ after, leavesStanding change later = true) := by
    induction after with
    | nil => exact fun _ _ => by simp [changes]
    | cons entry rest ih =>
      intro route sequence
      have here : routeChanged (some route) entry = false ↔
          leavesStanding change entry = true := by
        rw [routeChanged_iff, sequence, leavesStanding]
        simp
      rw [changes, List.append_eq_nil_iff, List.forall_mem_cons]
      by_cases changed : routeChanged (some route) entry = true
      · rw [if_pos changed]
        have disturbs : ¬leavesStanding change entry = true := fun stands => by
          rw [here.mpr stands] at changed
          exact Bool.false_ne_true changed
        simp [disturbs]
      · rw [if_neg changed]
        have stands := here.mp (by simpa using changed)
        have kept := takeRoute_sequence_of_unchanged context (by simpa using changed)
        obtain ⟨next, taken, sequenceNext⟩ := Option.map_eq_some_iff.mp (kept.trans rfl)
        rw [taken]
        simpa [stands] using ih next (sequenceNext.trans sequence)
  exact standing _ rfl

/-! ## A whole DAO at a Storing router -/

/-- An entry as it is collected for relaying. -/
def collected (entry : AdditionalTarget) : AdditionalTarget :=
  { entry with targetPrefixLength := 128 }

/-- At a Storing router the entries for a target that is not passed over run the route and
collect the changes. -/
theorem foldl_takeEntry {place : DodagPlace} (storing : place.storing = true)
    (router : place.isRoot = false) {target : Ipv6Address}
    (taken : place.rejectsTarget context target = false)
    (only : ∀ entry ∈ entries, entry.target = target) (link : Option TopologyEntry)
    (relayed : List AdditionalTarget) :
    entries.foldl (takeEntry place context) ⟨held, link, relayed⟩ =
      ⟨routeAfter context held entries, link,
        relayed ++ (changes context held entries).map collected⟩ := by
  induction entries generalizing held relayed with
  | nil => simp [routeAfter, changes]
  | cons entry rest ih =>
    rw [List.forall_mem_cons] at only
    have step : takeEntry place context ⟨held, link, relayed⟩ entry =
        ⟨takeRoute context held entry, link,
          relayed ++ (if routeChanged held entry then [collected entry] else [])⟩ := by
      rw [takeEntry, if_neg (by rw [only.1, taken]; exact Bool.false_ne_true), if_pos storing,
        router]
      by_cases changed : routeChanged held entry = true
      · simp [changed, collected]
      · simp [changed]
    rw [List.foldl_cons, step, ih only.2, changes]
    by_cases changed : routeChanged held entry = true
    · simp [changed, routeAfter]
    · simp [changed, routeAfter]

/-- A target that is passed over stays as it is. -/
theorem foldl_takeEntry_of_rejected {place : DodagPlace} {target : Ipv6Address}
    (rejected : place.rejectsTarget context target = true)
    (only : ∀ entry ∈ entries, entry.target = target) (seen : TargetView) :
    entries.foldl (takeEntry place context) seen = seen := by
  induction entries with
  | nil => rfl
  | cons entry rest ih =>
    rw [List.forall_mem_cons] at only
    have step : takeEntry place context seen entry = seen := if_pos (only.1 ▸ rejected)
    rw [List.foldl_cons, step, ih only.2]

section

variable {dodag : DodagMembership} (storing : dodag.storing = true)
  (router : dodag.isRoot = false)

include storing router

/-- The route a DAO leaves a target that is not passed over. -/
theorem handleTargets_route {target : Ipv6Address} (entries : List AdditionalTarget)
    (taken : dodag.rejectsTarget context target = false) :
    (dodag.handleTargets context entries).dodag.downwardRoutes[target]? =
      routeAfter context dodag.downwardRoutes[target]? (entriesFor target entries) := by
  have view := handleTargets_view dodag context entries target
  rw [foldl_takeEntry storing router taken
    (fun _ (mem : _ ∈ entriesFor target entries) => target_of_mem_entriesFor mem)] at view
  exact congrArg TargetView.route view

/-- What is relayed: for each target that is not passed over, the last change. -/
theorem mem_relayedEntries_iff :
    entry ∈ relayedEntries (dodag.handleTargets context entries) ↔
      dodag.rejectsTarget context entry.target = false ∧
        ∃ last, (changes context dodag.downwardRoutes[entry.target]?
          (entriesFor entry.target entries)).getLast? = some last ∧ collected last = entry := by
  have view := congrArg TargetView.relayed (handleTargets_view dodag context entries entry.target)
  have only : ∀ e ∈ entriesFor entry.target entries, e.target = entry.target :=
    fun _ mem => target_of_mem_entriesFor mem
  rw [relayedEntries, LastWins.mem_dedup_iff_getLast?]
  change (DaoProgress.view entry.target _).relayed.getLast? = some entry ↔ _
  rw [view]
  by_cases rejected : dodag.rejectsTarget context entry.target = true
  · rw [foldl_takeEntry_of_rejected rejected only]
    simp [rejected]
  · have taken := Bool.eq_false_iff.mpr rejected
    rw [foldl_takeEntry storing router taken only]
    simp [taken, List.getLast?_map, Option.map_eq_some_iff]

end

/-- What is relayed agrees with what is stored: each target once, with the Path Sequence and
the Path Lifetime its route has afterwards, as a withdrawal when it has none, and none left
out whose route has come, gone or taken another Path Sequence. -/
structure RelayAgrees (before after : DodagMembership) (relayed : List AdditionalTarget) :
    Prop where
  once : (relayed.map AdditionalTarget.target).Nodup
  stored : ∀ entry ∈ relayed, ∀ route, after.downwardRoutes[entry.target]? = some route →
    entry.pathSequence = route.pathSequence ∧ entry.pathLifetime = route.pathLifetime
  withdrawn : ∀ entry ∈ relayed,
    (entry.pathLifetime = 0 ↔ after.downwardRoutes[entry.target]? = none)
  complete : ∀ target,
    (after.downwardRoutes[target]?).map DownwardRoute.pathSequence ≠
        (before.downwardRoutes[target]?).map DownwardRoute.pathSequence →
      ∃ entry ∈ relayed, entry.target = target

/-- A change that advertises is newer than what is held, and is taken. -/
theorem taken_of_changed (context : DaoContext) (changed : routeChanged held change = true)
    (advertises : change.noPath = false) :
    pathOrder (held.map DownwardRoute.pathSequence) change.pathSequence = .greater ∧
      takeRoute context held change = some (advertisedRoute context change) := by
  simp only [routeChanged, advertises, Bool.false_eq_true, if_false, Bool.and_eq_true,
    decide_eq_true_eq] at changed
  refine ⟨changed.2, ?_⟩
  rw [takeRoute_of_greater changed.2, askedRoute, advertises, if_neg Bool.false_ne_true]

theorem changed_of_greater
    (greater : pathOrder (held.map DownwardRoute.pathSequence) change.pathSequence = .greater)
    (advertises : change.noPath = false) : routeChanged held change = true := by
  unfold routeChanged
  rw [greater, advertises]
  rfl

/-- Where the route of a target stands after its last change. -/
theorem routeAfter_of_split
    (changed : routeChanged (routeAfter context held before) change = true)
    (unchanged :
      changes context (takeRoute context (routeAfter context held before) change) after = []) :
    routeAfter context held (before ++ change :: after) =
      if change.noPath then none
      else
        some (advertisedRoute context
          { change with pathLifetime := repeatedLifetime change after }) := by
  have step : routeAfter context held (before ++ change :: after) =
      routeAfter context (takeRoute context (routeAfter context held before) change) after :=
    routeAfter_append
  rw [step]
  by_cases withdraws : change.noPath = true
  · have gone : takeRoute context (routeAfter context held before) change = none := by
      rw [takeRoute, if_neg, if_pos withdraws]
      intro stale
      simp [routeChanged, stale] at changed
    rw [gone] at unchanged ⊢
    rw [if_pos withdraws]
    exact Option.map_eq_none_iff.mp (routeAfter_sequence_of_unchanged unchanged)
  · have taken := (taken_of_changed context changed (by simpa using withdraws)).2
    rw [taken] at unchanged ⊢
    rw [if_neg withdraws]
    exact routeAfter_of_unchanged unchanged

section

variable {dodag : DodagMembership} (storing : dodag.storing = true)
  (router : dodag.isRoot = false)

include storing router

/-- A relayed entry is the last change of its target, and its target's route is what that
change and the repetitions of it leave. -/
theorem relayed_split (mem : entry ∈ relayedEntries (dodag.handleTargets context entries)) :
    ∃ before change after, collected change = entry ∧
      dodag.rejectsTarget context entry.target = false ∧
      entriesFor entry.target entries = before ++ change :: after ∧
      routeChanged (routeAfter context dodag.downwardRoutes[entry.target]? before) change =
        true ∧
      changes context (takeRoute context
        (routeAfter context dodag.downwardRoutes[entry.target]? before) change) after = [] ∧
      (dodag.handleTargets context entries).dodag.downwardRoutes[entry.target]? =
        if change.noPath then none
        else
          some (advertisedRoute context
            { change with pathLifetime := repeatedLifetime change after }) := by
  obtain ⟨taken, change, last, form⟩ := (mem_relayedEntries_iff storing router).mp mem
  obtain ⟨before, after, split, changed, unchanged⟩ := split_at_last_change last
  have route := handleTargets_route storing router entries taken
  rw [split, routeAfter_of_split changed unchanged] at route
  exact ⟨before, change, after, form, taken, split, changed, unchanged, route⟩

/-- A target whose route has come, gone or taken another Path Sequence is relayed. -/
theorem relayed_of_sequence_ne {target : Ipv6Address}
    (differs : ((dodag.handleTargets context entries).dodag.downwardRoutes[target]?).map
        DownwardRoute.pathSequence ≠
      (dodag.downwardRoutes[target]?).map DownwardRoute.pathSequence) :
    ∃ entry ∈ relayedEntries (dodag.handleTargets context entries), entry.target = target := by
  by_cases rejected : dodag.rejectsTarget context target = true
  · have view := handleTargets_view dodag context entries target
    rw [foldl_takeEntry_of_rejected rejected fun _ mem => target_of_mem_entriesFor mem] at view
    have route := congrArg TargetView.route view
    exact absurd (congrArg (Option.map DownwardRoute.pathSequence) route) differs
  have taken := Bool.eq_false_iff.mpr rejected
  rw [handleTargets_route storing router entries taken] at differs
  cases last : (changes context dodag.downwardRoutes[target]?
      (entriesFor target entries)).getLast? with
  | none =>
    rw [List.getLast?_eq_none_iff] at last
    exact absurd (routeAfter_sequence_of_unchanged last) differs
  | some change =>
    obtain ⟨before, after, split, -⟩ := split_at_last_change last
    have target' : change.target = target := by
      have mem : change ∈ entriesFor target entries := by
        rw [split]
        exact List.mem_append_right _ List.mem_cons_self
      exact target_of_mem_entriesFor mem
    subst target'
    exact ⟨collected change,
      (mem_relayedEntries_iff storing router).mpr ⟨taken, change, last, rfl⟩, rfl⟩

end

end DodagMembership

namespace Node

open DodagMembership

variable {n : Node} {dao : DaoHeader} {sender : Ipv6Address} {key : DodagKey}
  {dodag : DodagMembership}

/-- What `HandleDao` makes of the entries of a DAO. -/
def daoProgress (n : Node) (dodag : DodagMembership) (dao : DaoHeader) (sender : Ipv6Address)
    (interface : Nat) : DaoProgress :=
  dodag.handleTargets (n.daoContext dodag dao sender interface) dao.entries

/-- What a Storing router relays of a DAO is what it stored, exactly when no target is changed
by one entry and then repeated, with another Path Lifetime in the end, by later ones. -/
theorem relayAgrees_iff (interface : Nat) (takes : n.TakesDao dao sender key dodag)
    (storing : dodag.storing = true) (router : dodag.isRoot = false) :
    let context := n.daoContext dodag dao sender interface
    let progress := n.daoProgress dodag dao sender interface
    n.handleDao dao sender interface =
        ((n.setDodag key progress.dodag).relayDao progress.dodag
          (relayedEntries progress)).acknowledgeDao progress.dodag dao sender interface ∧
      (RelayAgrees dodag progress.dodag (relayedEntries progress) ↔
        ∀ target, dodag.rejectsTarget context target = false →
          RepeatsAgree ((dodag.downwardRoutes[target]?).map DownwardRoute.pathSequence)
            (entriesFor target dao.entries)) := by
  intro context progress
  refine ⟨?_, ?_, ?_⟩
  · unfold handleDao
    rw [takes.found]
    dsimp only
    rw [if_neg (by rw [takes.accepted]; exact Bool.false_ne_true)]
    rfl
  · -- the last change is what is relayed, and its repetition is what is stored
    intro agrees target taken before change after split advertises greater standing
    have target' : change.target = target := by
      have mem : change ∈ entriesFor target dao.entries := by
        rw [split]
        exact List.mem_append_right _ List.mem_cons_self
      exact target_of_mem_entriesFor mem
    subst target'
    rw [← routeAfter_sequence context] at greater
    have changed := changed_of_greater greater advertises
    have unchanged : changes context (takeRoute context
        (routeAfter context dodag.downwardRoutes[change.target]? before) change) after = [] := by
      rw [(taken_of_changed context changed advertises).2]
      exact changes_eq_nil_iff.mpr standing
    have last : (changes context dodag.downwardRoutes[change.target]?
        (entriesFor change.target dao.entries)).getLast? = some change := by
      rw [split]
      exact getLast?_changes_of_split changed unchanged
    have relayed : collected change ∈ relayedEntries progress :=
      (mem_relayedEntries_iff storing router).mpr ⟨taken, change, last, rfl⟩
    have final := handleTargets_route storing router dao.entries taken
    rw [split, routeAfter_of_split changed unchanged, advertises, if_neg Bool.false_ne_true]
      at final
    exact (agrees.stored _ relayed _ final).2.symm
  · intro agree
    refine ⟨LastWins.nodup_dedup _, ?_, ?_, fun _ => relayed_of_sequence_ne storing router⟩
    · intro entry mem route final
      obtain ⟨before, change, after, rfl, taken, split, changed, unchanged, stands⟩ :=
        relayed_split storing router mem
      have final' := stands.symm.trans final
      by_cases withdraws : change.noPath = true
      · rw [if_pos withdraws] at final'
        exact nomatch final'
      rw [if_neg withdraws] at final'
      have advertises := Bool.eq_false_iff.mpr withdraws
      obtain ⟨greater, taken'⟩ := taken_of_changed context changed advertises
      rw [taken'] at unchanged
      rw [routeAfter_sequence] at greater
      have same := agree _ taken before change after split advertises greater
        (changes_eq_nil_iff.mp unchanged)
      cases final'
      exact ⟨rfl, same.symm⟩
    · intro entry mem
      obtain ⟨before, change, after, rfl, taken, split, changed, unchanged, stands⟩ :=
        relayed_split storing router mem
      change change.pathLifetime = 0 ↔ _
      rw [show progress.dodag.downwardRoutes[(collected change).target]? = _ from stands]
      simp [AdditionalTarget.noPath]

/-! ### A repetition with another lifetime -/

/-- A DAO with two entries for one target, Path Sequence 5 in both, and the given Path
Lifetimes. -/
def repeatingDao (first second : UInt8) : DaoHeader :=
  { dodagId := 0x20010db8000000000000000000000001#128
    target := 0x20010db8000000000000000000000009#128
    pathSequence := 5
    pathLifetime := first
    additionalTargets :=
      [{ target := 0x20010db8000000000000000000000009#128
         pathSequence := 5
         pathLifetime := second }] }

theorem switchingRouter_takesDao (dao : DaoHeader)
    (dodag : (⟨dao.instanceId, dao.dodagId⟩ : DodagKey) = switchingDodag.key) :
    switchingRouter.TakesDao dao 0xfe800000000000000000000000000002#128 switchingDodag.key
      switchingDodag where
  found := by
    rw [← dodag]
    refine daoMembership_of_named ?_ (by rw [dodag]; exact inDodag_dodags_self ..) rfl
    rw [show dao.dodagId = switchingDodag.key.dodagId from congrArg DodagKey.dodagId dodag]
    rfl
  accepted := rfl

/-- The first entry is relayed with lifetime 30, and the second leaves lifetime 60 stored. -/
theorem repeatingDao_not_relayAgrees :
    switchingRouter.TakesDao (repeatingDao 30 60) 0xfe800000000000000000000000000002#128
        switchingDodag.key switchingDodag ∧
      switchingDodag.storing = true ∧ switchingDodag.isRoot = false ∧
      ¬RelayAgrees switchingDodag
        (switchingRouter.daoProgress switchingDodag (repeatingDao 30 60)
          0xfe800000000000000000000000000002#128 1).dodag
        (relayedEntries (switchingRouter.daoProgress switchingDodag (repeatingDao 30 60)
          0xfe800000000000000000000000000002#128 1)) := by
  refine ⟨switchingRouter_takesDao _ rfl, rfl, rfl, fun agrees => ?_⟩
  have relayed : relayedEntries (switchingRouter.daoProgress switchingDodag (repeatingDao 30 60)
      0xfe800000000000000000000000000002#128 1) =
      [{ target := 0x20010db8000000000000000000000009#128, pathSequence := 5,
         pathLifetime := 30 }] := by
    decide +kernel
  have stored : ((switchingRouter.daoProgress switchingDodag (repeatingDao 30 60)
      0xfe800000000000000000000000000002#128 1).dodag.downwardRoutes[
        (0x20010db8000000000000000000000009#128 : Ipv6Address)]?).map
      DownwardRoute.pathLifetime = some 60 := by
    decide +kernel
  obtain ⟨route, held, lifetime⟩ := Option.map_eq_some_iff.mp stored
  have same := (agrees.stored _ (by rw [relayed]; exact List.mem_singleton_self _) route held).2
  rw [lifetime] at same
  exact absurd same (by decide)

/-- A DAO that names 2001:db8::9, then 2001:db8::a, then 2001:db8::9 again with the Path
Lifetime it had. -/
def alikeDao : DaoHeader :=
  { repeatingDao 30 30 with
    additionalTargets :=
      [{ target := 0x20010db800000000000000000000000a#128, pathSequence := 5, pathLifetime := 60 },
        { target := 0x20010db8000000000000000000000009#128
          pathSequence := 5
          pathLifetime := 30 }] }

/-- The two targets are relayed as they are stored. -/
theorem alikeDao_relayAgrees :
    (relayedEntries (switchingRouter.daoProgress switchingDodag alikeDao
        0xfe800000000000000000000000000002#128 1)).map (fun entry =>
          (entry.target, entry.pathLifetime)) =
      [(0x20010db8000000000000000000000009#128, 30),
        (0x20010db800000000000000000000000a#128, 60)] ∧
    RelayAgrees switchingDodag
      (switchingRouter.daoProgress switchingDodag alikeDao
        0xfe800000000000000000000000000002#128 1).dodag
      (relayedEntries (switchingRouter.daoProgress switchingDodag alikeDao
        0xfe800000000000000000000000000002#128 1)) := by
  have alike : ∀ entry ∈ alikeDao.entries, ∀ other ∈ alikeDao.entries,
      other.target = entry.target → other.pathLifetime = entry.pathLifetime := by decide
  refine ⟨by decide +kernel, (relayAgrees_iff 1 (switchingRouter_takesDao _ rfl) rfl rfl).2.mpr
    fun target _ => repeatsAgree_of_alike fun entry mem other memOther => ?_⟩
  exact alike entry (List.mem_of_mem_filter mem) other (List.mem_of_mem_filter memOther)
    ((target_of_mem_entriesFor memOther).trans (target_of_mem_entriesFor mem).symm)

end Node

end Rpl
