import Rpl.Turns

/-!
# Discovery state in its own membership

AODV-RPL and P2P-RPL share the mode of operation, the key space and the way a
membership is made.  A discovery begins in a membership of its own, and no timer and
no other message mixes the two.  What can mix them is a DIO under a key that is
taken already: the handlers of discovery options do not ask what the membership
they find is for.
-/

namespace Rpl

open Std

/-! ## Memberships of one kind -/

/-- No AODV-RPL discovery is recorded. -/
structure AodvStake.Clean (aodv : AodvStake) : Prop where
  target : aodv.target.isAny = true
  expiry : aodv.expiry = none

/-- No P2P-RPL discovery is recorded. -/
structure P2pStake.Clean (p2p : P2pStake) : Prop where
  target : p2p.target.isAny = true
  expiry : p2p.expiry = none

theorem AodvStake.Clean.initial : ({} : AodvStake).Clean := ⟨rfl, rfl⟩

theorem P2pStake.Clean.initial : ({} : P2pStake).Clean := ⟨rfl, rfl⟩

/-- Discovery state is of one kind, and in a temporary DODAG. -/
def Stake.Separate (stake : Stake) : Prop :=
  stake.aodv.Clean ∧ stake.p2p.Clean ∨
    stake.temporary = true ∧ (stake.aodv.Clean ∨ stake.p2p.Clean)

/-- The membership is one for the discovery the DIO is part of. -/
structure Stake.OwnKind (dio : DioHeader) (stake : Stake) : Prop where
  aodv : dio.rreq.isSome = true ∨ dio.rrep.isSome = true → stake.temporary = true ∧ stake.p2p.Clean
  p2p : dio.p2pRdo.isSome = true → stake.temporary = true ∧ stake.aodv.Clean

namespace Node

variable {n m : Node} {e : Event} {late : Bool} {s after : Stakes} {key : DodagKey}
  {dio : DioHeader}
  {heard : Reception}

/-- The discovery a DIO is part of is of one kind. -/
theorem Takes.not_rdo (takes : n.Takes e dio heard)
    (discovery : dio.rreq.isSome = true ∨ dio.rrep.isSome = true) : dio.p2pRdo.isSome = false := by
  rcases discovery with rreq | rrep
  · exact (takes.discovery.1 rreq).2
  · exact (takes.discovery.2.1 rrep).2

theorem Takes.ownKind_of_aodv (takes : n.Takes e dio heard)
    (discovery : dio.rreq.isSome = true ∨ dio.rrep.isSome = true) {stake : Stake}
    (temporary : stake.temporary = true) (clean : stake.p2p.Clean) : stake.OwnKind dio := by
  refine ⟨fun _ => ⟨temporary, clean⟩, fun rdo => ?_⟩
  rw [takes.not_rdo discovery] at rdo
  cases rdo

theorem Takes.ownKind_of_rdo (takes : n.Takes e dio heard) (rdo : dio.p2pRdo.isSome = true)
    {stake : Stake} (temporary : stake.temporary = true) (clean : stake.aodv.Clean) :
    stake.OwnKind dio := by
  refine ⟨fun discovery => ?_, fun _ => ⟨temporary, clean⟩⟩
  rw [takes.not_rdo discovery] at rdo
  cases rdo

/-- All discovery state is separate, and the DIO taken in, if there is one, is for a membership
of its own kind. -/
structure Apart (n : Node) (e : Event) (s : Stakes) : Prop where
  separate : ∀ (key : DodagKey) (stake : Stake), s.held[key]? = some stake → stake.Separate
  ownKind : ∀ dio heard, n.Takes e dio heard → ∀ stake, s.held[dio.key]? = some stake →
    stake.OwnKind dio

/-- A membership begins with the state of one discovery at most. -/
theorem separate_of_begins {stake : Stake} (begins : n.Begins e late s key stake) :
    stake.Separate := by
  cases begins with
  | join => exact .inl ⟨.initial, .initial⟩
  | root roots =>
    cases roots with
    | ordinary => exact .inl ⟨.initial, .initial⟩
    | rreq => exact .inr ⟨rfl, .inr .initial⟩
    | p2p => exact .inr ⟨rfl, .inl .initial⟩
    | rrep => exact .inr ⟨rfl, .inr .initial⟩

theorem ownKind_of_begins {stake : Stake} (takes : n.Takes e dio heard)
    (begins : n.Begins e late s key stake) : stake.OwnKind dio := by
  cases begins with
  | join _ takesOther =>
    cases takes.unique takesOther
    have temporary := takes.discovery.2.2
    refine ⟨fun discovery => ⟨?_, .initial⟩, fun rdo => ⟨?_, .initial⟩⟩
    · rcases discovery with rreq | rrep
      · exact decide_eq_true (temporary (.inl rreq))
      · exact decide_eq_true (temporary (.inr (.inl rrep)))
    · exact decide_eq_true (temporary (.inr (.inr rdo)))
  | root roots =>
    obtain ⟨rreq, -, mop, clean⟩ := roots.answers takes
    exact takes.ownKind_of_aodv (.inl rreq) (decide_eq_true mop) (clean ▸ .initial)

/-- What is recorded in a membership of the DIO's own kind keeps it so. -/
theorem apart_of_rewrites {stake other : Stake} (rewrites : n.Rewrites e late s key stake other)
    (separate : stake.Separate)
    (ownKind : ∀ dio heard, n.Takes e dio heard → dio.key = key → stake.OwnKind dio) :
    other.Separate ∧ ∀ dio heard, n.Takes e dio heard → dio.key = key → other.OwnKind dio := by
  have ofAodv {dio : DioHeader} {heard : Reception} (takes : n.Takes e dio heard)
      (discovery : dio.rreq.isSome = true ∨ dio.rrep.isSome = true) {other : Stake}
      (temporary : other.temporary = true) (clean : other.p2p.Clean) :
      other.Separate ∧ ∀ dio heard, n.Takes e dio heard → dio.key = key → other.OwnKind dio := by
    refine ⟨.inr ⟨temporary, .inr clean⟩, fun _ _ takesOther _ => ?_⟩
    cases takes.unique takesOther
    exact takes.ownKind_of_aodv discovery temporary clean
  have ofRdo {dio : DioHeader} {heard : Reception} (takes : n.Takes e dio heard)
      (rdo : dio.p2pRdo.isSome = true) {other : Stake}
      (temporary : other.temporary = true) (clean : other.aodv.Clean) :
      other.Separate ∧ ∀ dio heard, n.Takes e dio heard → dio.key = key → other.OwnKind dio := by
    refine ⟨.inr ⟨temporary, .inl clean⟩, fun _ _ takesOther _ => ?_⟩
    cases takes.unique takesOther
    exact takes.ownKind_of_rdo rdo temporary clean
  cases rewrites with
  | rest =>
    exact ⟨separate, fun dio heard takes keyed =>
      ⟨(ownKind dio heard takes keyed).aodv, (ownKind dio heard takes keyed).p2p⟩⟩
  | stop event =>
    have clean (p2p : P2pStake) (before : p2p.Clean) : ({ p2p with stopped := true }).Clean :=
      ⟨before.target, before.expiry⟩
    refine ⟨?_, fun dio heard takes => ?_⟩
    · rcases separate with ⟨aodv, p2p⟩ | ⟨temporary, aodv | p2p⟩
      · exact .inl ⟨aodv, clean _ p2p⟩
      · exact .inr ⟨temporary, .inl aodv⟩
      · exact .inr ⟨temporary, .inr (clean _ p2p)⟩
    · cases takes.event.symm.trans event
  | rreq _ takes rreq keyed =>
    obtain ⟨temporary, clean⟩ := (ownKind _ _ takes keyed).aodv (.inl rreq)
    exact ofAodv takes (.inl rreq) temporary clean
  | rrep _ takes rrep keyed =>
    obtain ⟨temporary, clean⟩ := (ownKind _ _ takes keyed).aodv (.inr rrep)
    exact ofAodv takes (.inr rrep) temporary clean
  | armAodv takes discovery keyed =>
    obtain ⟨temporary, clean⟩ := (ownKind _ _ takes keyed).aodv discovery
    exact ofAodv takes discovery temporary clean
  | rdo _ takes rdo keyed =>
    obtain ⟨temporary, clean⟩ := (ownKind _ _ takes keyed).p2p rdo
    exact ofRdo takes rdo temporary clean
  | armP2p takes rdo keyed =>
    obtain ⟨temporary, clean⟩ := (ownKind _ _ takes keyed).p2p rdo
    exact ofRdo takes rdo temporary clean

/-- Every shift keeps the kinds apart. -/
theorem apart_shift (shift : Shift n e late s after) (apart : n.Apart e s) : n.Apart e after := by
  have each (key : DodagKey) (stake : Stake) (held : after.held[key]? = some stake) :
      stake.Separate ∧ ∀ dio heard, n.Takes e dio heard → dio.key = key → stake.OwnKind dio := by
    have before (stake : Stake) (held : s.held[key]? = some stake) : stake.Separate ∧
        ∀ dio heard, n.Takes e dio heard → dio.key = key → stake.OwnKind dio :=
      ⟨apart.separate key stake held, fun dio heard takes keyed =>
        apart.ownKind dio heard takes stake (keyed ▸ held)⟩
    cases shift.turn key with
    | stays sameHeld => exact before stake (sameHeld ▸ held)
    | unbars _ _ _ _ heldBefore still =>
      rw [still, ← heldBefore] at held
      exact before stake held
    | begins absent begins heldAfter =>
      cases heldAfter.symm.trans held
      exact ⟨separate_of_begins begins, fun dio heard takes _ => ownKind_of_begins takes begins⟩
    | rewrites heldBefore rewrites rewritten =>
      cases rewritten.symm.trans held
      obtain ⟨separate, ownKind⟩ := before _ heldBefore
      exact apart_of_rewrites rewrites separate ownKind
    | ends _ gone =>
      rw [gone] at held
      cases held
  exact ⟨fun key stake held => (each key stake held).1,
    fun dio heard takes stake held => (each dio.key stake held).2 dio heard takes rfl⟩

theorem apart_shifts (shifts : Shifts n e late s after) (apart : n.Apart e s) : n.Apart e after :=
  TransitionSystem.Keeps.star (I := n.Apart e) (fun _ _ shift => apart_shift shift) shifts apart

/-! ## An event -/

/-- What a node has left is no longer in the way. -/
theorem separate_leave {stake : Stake}
    (separate : ∀ (key : DodagKey) (stake : Stake), s.held[key]? = some stake → stake.Separate) :
    ∀ (other : DodagKey) (kept : Stake), (s.leave key stake).held[other]? = some kept →
      kept.Separate := by
  intro other kept held
  rw [Stakes.leave_held] at held
  split at held
  · cases held
  · exact separate other kept held

/-- A DIO the node joins by is for the membership it makes. -/
theorem apart_enterVersion {entered : Node} (takes : n.Takes e dio heard)
    (joins : n.joinsBy dio = true) (enters : n.enterVersion dio heard.interface = some entered)
    (separate : ∀ (key : DodagKey) (stake : Stake), n.stakes.held[key]? = some stake →
      stake.Separate) : n.Apart e entered.stakes := by
  have joined (before : Node) (separate : ∀ (key : DodagKey) (stake : Stake),
      before.stakes.held[key]? = some stake → stake.Separate) :
      n.Apart e (before.joinDodag dio heard.interface).stakes := by
    have begins : n.Begins e false before.stakes dio.key (.joined dio) := .join rfl takes joins rfl
    rw [stakes_joinDodag]
    refine ⟨fun key stake held => ?_, fun other otherHeard takesOther stake held => ?_⟩
    · rw [Stakes.put_held] at held
      split at held
      · cases held
        exact separate_of_begins begins
      · exact separate key stake held
    · cases takes.unique takesOther
      rw [Stakes.put_held, if_pos rfl] at held
      cases held
      exact ownKind_of_begins takes begins
  obtain ⟨before, joins, earlier⟩ := enterVersion_of_joins joins heard.interface
  cases joins.symm.trans enters
  rcases earlier with rfl | ⟨⟨dodag, held⟩, rfl⟩
  · exact joined before separate
  · refine joined _ ?_
    rw [stakes_leaveDodag held]
    exact separate_leave separate

end Node

/-! ## Runs -/

/-- No discovery state of the AODV-RPL kind. -/
def DodagMembership.noAodv (dodag : DodagMembership) : Bool :=
  dodag.aodv.target.isAny && dodag.aodv.expiry.isNone

/-- No discovery state of the P2P-RPL kind. -/
def DodagMembership.noP2p (dodag : DodagMembership) : Bool :=
  dodag.p2p.target.isAny && dodag.p2p.expiry.isNone

/-- A DIO by which the node does not move to another Version is heeded in the membership it finds
if that is temporary, or of its Version. Any other is ignored. -/
def DodagMembership.heeds (dodag : DodagMembership) (dio : DioHeader) : Bool :=
  dio.version = dodag.version || dodag.isTemporary

namespace Node

variable {n m : Node} {e : Event} {key : DodagKey} {dio : DioHeader} {heard : Reception}

/-- Discovery state is in temporary DODAGs only, of one kind in each, and one deadline runs at
most. -/
structure KindsApart (n : Node) : Prop where
  temporary : ∀ (key : DodagKey) (dodag : DodagMembership), n.dodags[key]? = some dodag →
    dodag.aodv.target.isAny = false ∨ dodag.p2p.target.isAny = false → dodag.isTemporary = true
  target : ∀ (key : DodagKey) (dodag : DodagMembership), n.dodags[key]? = some dodag →
    dodag.aodv.target.isAny = true ∨ dodag.p2p.target.isAny = true
  expiry : ∀ (key : DodagKey) (dodag : DodagMembership), n.dodags[key]? = some dodag →
    dodag.aodv.expiry = none ∨ dodag.p2p.expiry = none

/-- A discovery DIO that is taken in makes the membership it is for, or, where it is heeded, finds
a temporary one without a discovery of the other kind. -/
def FindsOwnKind (n : Node) (e : Event) : Prop :=
  ∀ dio heard, n.Takes e dio heard → n.joinsBy dio = true ∨
    ∀ dodag, n.dodags[dio.key]? = some dodag → dodag.heeds dio = true →
      (dio.rreq.isSome = true ∨ dio.rrep.isSome = true →
        dodag.isTemporary = true ∧ dodag.noP2p = true) ∧
      (dio.p2pRdo.isSome = true → dodag.isTemporary = true ∧ dodag.noAodv = true)

/-- A DIO that is ignored changes nothing. -/
theorem enterVersion_of_ignored {dodag : DodagMembership} (interface : Nat)
    (held : n.dodags[dio.key]? = some dodag) (stays : n.joinsBy dio = false)
    (ignored : dodag.heeds dio = false) : n.enterVersion dio interface = none := by
  rw [DodagMembership.heeds, Bool.or_eq_false_iff, decide_eq_false_iff_not] at ignored
  obtain ⟨other, lasting⟩ := ignored
  rw [joinsBy, held] at stays
  dsimp only at stays
  rw [lasting, decide_eq_true other, Bool.not_false, Bool.and_self, Bool.true_and] at stays
  rw [enterVersion, held]
  dsimp only
  rw [if_neg other, lasting, if_neg Bool.false_ne_true, stays, if_neg Bool.false_ne_true]

theorem separate_apply (enabled : n.Enabled e) (finds : n.FindsOwnKind e)
    (separate : ∀ (key : DodagKey) (stake : Stake), n.stakes.held[key]? = some stake →
      stake.Separate) :
    ∀ (key : DodagKey) (stake : Stake), (n.apply e).stakes.held[key]? = some stake →
      stake.Separate := by
  by_cases joins : ∃ dio heard, n.Takes e dio heard ∧ n.joinsBy dio = true
  · obtain ⟨dio, heard, takes, joins⟩ := joins
    rw [takes.apply_eq]
    split
    · exact separate
    · next entered enters =>
      have handled := takes.shifts_of_enters enters
      rw [takes.apply_eq, enters] at handled
      exact (apart_shifts handled (apart_enterVersion takes joins enters separate)).separate
  by_cases ignored : ∃ dio heard dodag, n.Takes e dio heard ∧ n.dodags[dio.key]? = some dodag ∧
      dodag.heeds dio = false
  · obtain ⟨dio, heard, dodag, takes, held, ignored⟩ := ignored
    have stays : n.joinsBy dio = false :=
      Bool.eq_false_iff.mpr fun joined => joins ⟨dio, heard, takes, joined⟩
    rw [takes.apply_eq, enterVersion_of_ignored heard.interface held stays ignored]
    exact separate
  · refine (apart_shifts (shifts_apply n e enabled) ⟨separate, ?_⟩).separate
    intro dio heard takes stake held
    rw [stakes_held, Option.map_eq_some_iff] at held
    obtain ⟨dodag, held, rfl⟩ := held
    have own := (finds dio heard takes).resolve_left fun joined => joins ⟨dio, heard, takes, joined⟩
    have found := own dodag held
      (by_contra fun other => ignored ⟨dio, heard, dodag, takes, held, Bool.eq_false_iff.mpr other⟩)
    refine ⟨fun discovery => ?_, fun rdo => ?_⟩
    · obtain ⟨temporary, noP2p⟩ := found.1 discovery
      rw [DodagMembership.noP2p, Bool.and_eq_true, Option.isNone_iff_eq_none] at noP2p
      exact ⟨temporary, noP2p.1, noP2p.2⟩
    · obtain ⟨temporary, noAodv⟩ := found.2 rdo
      rw [DodagMembership.noAodv, Bool.and_eq_true, Option.isNone_iff_eq_none] at noAodv
      exact ⟨temporary, noAodv.1, noAodv.2⟩

/-- In a run in which every discovery DIO finds a membership of its own kind, discovery state
stays in its own membership. -/
theorem kindsApart_of_run (run : nodeSystem.Run FindsOwnKind n) : n.KindsApart := by
  have separate : ∀ (key : DodagKey) (stake : Stake), n.stakes.held[key]? = some stake →
      stake.Separate := by
    refine run.invariant (I := fun n => ∀ (key : DodagKey) (stake : Stake),
      n.stakes.held[key]? = some stake → stake.Separate) ?_ ?_
    · intro n initial key stake held
      rw [stakes_held, initial.dodags] at held
      cases held
    · exact fun n e separate enabled finds => separate_apply enabled finds separate
  refine ⟨fun key dodag held recorded => ?_, fun key dodag held => ?_, fun key dodag held => ?_⟩
  · rcases separate key _ (held_stake held) with ⟨aodv, p2p⟩ | ⟨temporary, -⟩
    · rcases recorded with set | set
      · cases aodv.target.symm.trans set
      · cases p2p.target.symm.trans set
    · exact temporary
  · rcases separate key _ (held_stake held) with ⟨aodv, -⟩ | ⟨-, aodv | p2p⟩
    · exact .inl aodv.target
    · exact .inl aodv.target
    · exact .inr p2p.target
  · rcases separate key _ (held_stake held) with ⟨aodv, -⟩ | ⟨-, aodv | p2p⟩
    · exact .inl aodv.expiry
    · exact .inl aodv.expiry
    · exact .inr p2p.expiry

/-! ## A key that is taken -/

/-- An RREQ of 2001:db8::1 with hop-by-hop routes. -/
def takenRreq : DioHeader :=
  { instanceId := 0x80
    rank := 256
    mop := mopP2pRouteDiscovery
    dodagId := 0x20010db8000000000000000000000001#128
    rreq := some { hopByHop := true, lifetime := 2 }
    arts := [{ target := 0x20010db8000000000000000000000009#128 }] }

/-- An ordinary DODAG of 2001:db8::1, under the same RPLInstanceID. -/
def takenOrdinary : DioHeader :=
  { instanceId := 0x80
    rank := 256
    mop := mopNonStoring
    dodagId := 0x20010db8000000000000000000000001#128 }

/-- A leaf in the ordinary DODAG. -/
def leaf : Node := (started leafIpv6).apply (hears takenOrdinary)

theorem leaf_reachable : nodeSystem.Reachable leaf :=
  run_hears (started_run leafIpv6) (started_listens _) trivial

/-- The RREQ is recorded in the ordinary membership. -/
theorem leaf_not_kindsApart :
    nodeSystem.Reachable (leaf.apply (hears takenRreq)) ∧
      ¬(leaf.apply (hears takenRreq)).KindsApart := by
  refine ⟨run_hears leaf_reachable (by decide +kernel) trivial, fun apart => ?_⟩
  have recorded : ((leaf.apply (hears takenRreq)).dodags[takenRreq.key]?).any (fun dodag =>
      !dodag.aodv.target.isAny && !dodag.isTemporary) = true := by decide +kernel
  obtain ⟨dodag, held, found⟩ := (Option.any_eq_true _ _).mp recorded
  rw [Bool.and_eq_true, Bool.not_eq_true', Bool.not_eq_true'] at found
  have temporary := apart.temporary _ dodag held (.inl found.1)
  rw [found.2] at temporary
  cases temporary

theorem started_findsOwnKind : (started leafIpv6).FindsOwnKind (hears takenRreq) := by
  intro dio heard takes
  cases takes.event
  exact .inl (by decide +kernel)

/-- A node that joins by the RREQ keeps it apart. -/
theorem joined_kindsApart : ((started leafIpv6).apply (hears takenRreq)).KindsApart :=
  kindsApart_of_run (run_hears (started_run leafIpv6) (started_listens _) started_findsOwnKind)

end Node

end Rpl
