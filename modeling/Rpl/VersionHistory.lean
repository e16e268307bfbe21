import Rpl.WellFormed

/-!
# The Versions a node enters

A node keeps a record of each Version it leaves for a while.  It does not join a
DODAG anew in a Version that compares less than one it has a record of, but a
membership that moves to another Version is compared with the Version it moves from
only.  So the order is kept while no membership moves back behind a record.
-/

namespace Rpl

open Std

/-- The Version does not compare less than any of the records. -/
def NotBehind (records : List RetainedRank) (version : UInt8) : Prop :=
  ∀ record ∈ records, sequenceCompare version record.version ≠ .less

instance (records : List RetainedRank) (version : UInt8) : Decidable (NotBehind records version) :=
  inferInstanceAs (Decidable (∀ record ∈ records, _))

/-- Memberships do not move behind a record. -/
def orderedPolicy : Policy where
  discovers _ := True
  discoversTemporary := trivial
  enters _ := True
  moves := NotBehind

/-- No Version has been entered that compares less than one there was an unexpired record of. -/
def EntersInOrder (history : List Milestone) : Prop :=
  ∀ key time version mop records, Milestone.joined key time version mop records ∈ history →
    NotBehind records version

/-- A milestone other than of a Version entered. -/
theorem EntersInOrder.cons {history : List Milestone} (ordered : EntersInOrder history)
    {milestone : Milestone}
    (entered : ∀ key time version mop records, milestone = .joined key time version mop records →
      NotBehind records version) : EntersInOrder (milestone :: history) := by
  intro key time version mop records mem
  rcases List.mem_cons.mp mem with new | old
  · exact entered key time version mop records new.symm
  · exact ordered key time version mop records old

theorem EntersInOrder.joined {history : List Milestone} (ordered : EntersInOrder history)
    {key : DodagKey} {time : Time} {version mop : UInt8} {records : List RetainedRank}
    (entered : NotBehind records version) :
    EntersInOrder (.joined key time version mop records :: history) := by
  refine ordered.cons fun _ _ _ _ _ same => ?_
  cases same
  exact entered

theorem EntersInOrder.leave {s : Standing} (ordered : EntersInOrder s.history) (key : DodagKey)
    (poison : Bool) : EntersInOrder (s.leave key poison).history := by
  have left (time imax : Time) : EntersInOrder (.left key time imax :: s.history) :=
    ordered.cons (by simp)
  unfold Standing.leave
  split
  · exact ordered
  · dsimp only
    split
    · exact left _ _
    · exact left _ _

theorem keeps_entersInOrder :
    TransitionSystem.Keeps (Edit orderedPolicy) fun s => EntersInOrder s.history := by
  intro s after edit ordered
  cases edit with
  | elapse later forward => exact ordered
  | attach sockets loopback => exact ordered
  | create absent root keyed expires =>
    rw [Standing.create, Standing.claimBase_history]
    exact ordered
  | configure held root temporary stillRoot keyed stillTemporary => exact ordered
  | repair held repairs => exact ordered
  | settle settled =>
    cases settled with
    | absent absent => exact ordered
    | root held root => exact ordered
    | kept held notRoot same => exact ordered
    | lost held notRoot gone => exact ordered.leave _ _
    | taken held notRoot found => exact ordered.cons (by simp)
  | join absent fresh newer enters =>
    rw [Standing.join, Standing.claimBase_history]
    exact ordered.joined newer
  | migrate held notRoot lasting fresh discovers enters moves =>
    rw [Standing.join, Standing.claimBase_history]
    exact (ordered.leave _ _).joined moves
  | adopt held notRoot temporary moves => exact ordered.joined moves
  | arm held discovers rooted => exact ordered
  | giveUp held discovers rooted => exact ordered.leave _ _
  | expire held expires => exact ordered.leave _ _

namespace Node

/-- A DIO that is taken in does not move a membership to a Version that compares less than one
there is an unexpired record of. -/
def MovesInOrder (n : Node) (e : Event) : Prop :=
  ∀ heard dio, e = .receive heard (.dio dio) → n.takesDio dio heard = true →
    ∀ dodag, n.dodags[dio.key]? = some dodag → movesBy dodag dio = true →
      NotBehind (n.recordsAtMove dio.key dodag) dio.version

theorem complies_of_movesInOrder (n : Node) (e : Event) (moves : n.MovesInOrder e) :
    n.Complies orderedPolicy e :=
  fun heard dio received takes =>
    { discovers := fun _ _ _ => trivial
      enters := fun _ _ => trivial
      moves := moves heard dio received takes }

/-- While no membership moves behind a record, no Version is entered that compares less than
one there is an unexpired record of. -/
theorem entersInOrder_of_run {n : Node} (run : nodeSystem.Run MovesInOrder n) :
    EntersInOrder n.history := by
  have base (n : Node) (initial : n.Initial) : EntersInOrder n.standing.history := by
    rw [standing_history, initial.history]
    intro key time version mop records mem
    cases mem
  exact invariant_of_edits base keeps_entersInOrder
    (TransitionSystem.Run.mono complies_of_movesInOrder run)

/-! ## A Version entered in two moves -/

/-- A DIO of the DODAG of 2001:db8::1 in the given Version. -/
def versionDio (version : UInt8) : DioHeader :=
  { rank := 128, version := version, dodagId := 0x20010db8000000000000000000000001#128 }

/-- The neighbour gives the DODAG up. -/
def versionPoison : DioHeader := { versionDio 0 with rank := infiniteRank }

/-- A router that has been in Version 20 and is now in Version 0, which cannot be compared
with it. -/
def rejoined : Node :=
  (((started leafIpv6).apply (hears (versionDio 20))).apply (hears versionPoison)).apply
    (hears (versionDio 0))

/-- The same router once its neighbour has moved to Version 10. -/
def movedBack : Node := rejoined.apply (hears (versionDio 10))

theorem rejoined_run : nodeSystem.Run MovesInOrder rejoined := by
  have joining (n : Node) (dio : DioHeader) (absent : n.dodags[dio.key]? = none) :
      n.MovesInOrder (hears dio) := by
    intro heard other received _ dodag held
    injection received with _ message
    injection message with same
    subst same
    rw [absent] at held
    cases held
  have poison (n : Node) : n.MovesInOrder (hears versionPoison) := by
    intro heard other received takes
    injection received with _ message
    injection message with same
    subst same
    simp only [takesDio, versionPoison, ne_eq, not_true_eq_false, decide_false, Bool.and_false,
      Bool.false_eq_true] at takes
  refine run_hears (run_hears (run_hears (started_run leafIpv6) (started_listens _)
    (joining _ _ ?_)) (by decide +kernel) (poison _)) (by decide +kernel) (joining _ _ ?_)
  · decide +kernel
  · decide +kernel

/-- Version 0 was entered with a record of Version 20 held, which it does not compare less
than. -/
theorem rejoined_entersInOrder :
    (rejoined.unexpiredRecords (versionDio 0).key).map (·.version) = [20] ∧
      EntersInOrder rejoined.history :=
  ⟨by decide +kernel, entersInOrder_of_run rejoined_run⟩

/-- Version 10 compares less than Version 20, of which there is a record. -/
theorem movedBack_not_entersInOrder :
    nodeSystem.Reachable movedBack ∧ ¬EntersInOrder movedBack.history := by
  refine ⟨run_hears rejoined_run.reachable (by decide +kernel) trivial, fun ordered => ?_⟩
  have entered : movedBack.history.any (fun
      | .joined _ _ version _ records => decide (¬NotBehind records version)
      | _ => false) = true := by
    decide +kernel
  obtain ⟨milestone, mem, behind⟩ := List.any_eq_true.mp entered
  cases milestone with
  | joined key time version mop records =>
    exact of_decide_eq_true behind (ordered key time version mop records mem)
  | ranked key rank => cases behind
  | left key time imax => cases behind

end Node

end Rpl
