import Rpl.WellFormed

/-!
# The base DODAG

The base DODAG should be one of the memberships, and not a temporary one.  The
deadline of a discovery gives a membership up without giving the base DODAG away,
and a membership that moves to another Version keeps the base DODAG whatever the
mode of operation it is joined in.  So the invariant is kept while the discoveries
of neighbours act on temporary memberships only.
-/

namespace Rpl

open Std

/-- Discoveries act on temporary memberships only. -/
def temporaryPolicy : Policy where
  discovers mop := mop = mopP2pRouteDiscovery
  discoversTemporary := rfl
  enters _ := True
  moves _ _ := True

namespace Standing

/-- The base DODAG, if there is one, is a lasting membership. -/
def BaseHeld (s : Standing) : Prop :=
  ∀ key, s.base = some key →
    ∃ member, s.held[key]? = some member ∧ member.place.isTemporary = false

/-- The invariant: only temporary memberships have a deadline. -/
structure Anchored (s : Standing) : Prop where
  base : s.BaseHeld
  deadline : ∀ (key : DodagKey) (member : Member), s.held[key]? = some member →
    member.expires = true → member.place.isTemporary = true

variable {s : Standing} {key : DodagKey} {member before : Member} {place : DodagPlace}

theorem BaseHeld.put (base : s.BaseHeld) (held : s.held[key]? = some before)
    (same : before.place.isTemporary = false → member.place.isTemporary = false) :
    (s.put key member).BaseHeld := by
  intro named is_base
  obtain ⟨other, heldOther, lasting⟩ := base named is_base
  rw [held_put]
  split
  · next here =>
    rw [here, held] at heldOther
    cases heldOther
    exact ⟨member, rfl, same lasting⟩
  · exact ⟨other, heldOther, lasting⟩

/-- A new membership takes no base DODAG away, and becomes it only if it lasts. -/
theorem BaseHeld.claim (base : ∀ named, s.base = some named → named = key →
      member.place.isTemporary = false)
    (others : ∀ named, s.base = some named → named ≠ key →
      ∃ member, s.held[named]? = some member ∧ member.place.isTemporary = false) :
    ((s.put key member).claimBase key member.place).BaseHeld := by
  intro named is_base
  rw [claimBase_held, held_put]
  rw [claimBase] at is_base
  split at is_base
  · next claims =>
    cases is_base
    rw [Bool.and_eq_true, Bool.not_eq_true'] at claims
    exact ⟨member, if_pos rfl, claims.2⟩
  · split
    · next here => exact ⟨member, rfl, base named is_base here⟩
    · next other => exact others named is_base other

theorem claimBase_mark {milestone : Milestone} :
    ((s.mark milestone).claimBase key place) = (s.claimBase key place).mark milestone := by
  unfold claimBase
  rw [mark_base]
  split
  · rfl
  · rfl

/-- A poisoning leave promotes a lasting membership if it gives the base DODAG away. -/
theorem BaseHeld.leave_poison (base : s.BaseHeld) : (s.leave key true).BaseHeld := by
  intro named is_base
  cases held : s.held[key]? with
  | none =>
    rw [leave_of_absent held] at is_base ⊢
    exact base named is_base
  | some member =>
    rw [leave, held] at is_base ⊢
    dsimp only at is_base ⊢
    split at is_base
    · next gives =>
      rw [if_pos gives]
      rw [promote, Option.map_eq_some_iff] at is_base
      obtain ⟨⟨found, value⟩, first, rfl⟩ := is_base
      obtain ⟨heldFound, lasting⟩ := OrderedMap.getElem?_of_first first
      exact ⟨value, heldFound, (Bool.not_eq_true' _).mp lasting⟩
    · next keeps =>
      rw [if_neg keeps]
      have other : named ≠ key := fun same => keeps ⟨rfl, is_base.trans (congrArg some same)⟩
      obtain ⟨value, heldNamed, lasting⟩ := base named is_base
      refine ⟨value, ?_, lasting⟩
      rw [OrderedMap.getElem?_erase_eq, if_neg other]
      exact heldNamed

theorem leave_base : (s.leave key false).base = s.base := by
  unfold leave
  split
  · rfl
  · rw [if_neg fun gives => Bool.false_ne_true gives.1]

/-- A leave that does not poison may only be of a temporary membership. -/
theorem BaseHeld.leave_quiet (base : s.BaseHeld) (held : s.held[key]? = some member)
    (temporary : member.place.isTemporary = true) : (s.leave key false).BaseHeld := by
  intro named is_base
  rw [leave_base] at is_base
  obtain ⟨value, heldNamed, lasting⟩ := base named is_base
  have other : named ≠ key := by
    rintro rfl
    rw [held] at heldNamed
    cases heldNamed
    exact Bool.false_ne_true (lasting.symm.trans temporary)
  exact ⟨value, by rw [held_leave, if_neg other]; exact heldNamed, lasting⟩

theorem BaseHeld.arm (base : s.BaseHeld) : (s.arm key).BaseHeld := by
  intro named is_base
  obtain ⟨value, heldNamed, lasting⟩ := base named is_base
  rw [held_arm]
  split
  · next here =>
    rw [← here, heldNamed]
    exact ⟨{ value with expires := true }, rfl, lasting⟩
  · exact ⟨value, heldNamed, lasting⟩

theorem BaseHeld.settled {after : Standing}
    {f : ExtTreeMap Ipv6Address Parent → ExtTreeMap Ipv6Address Parent}
    (base : s.BaseHeld) (settled : s.Settled key f after) : after.BaseHeld := by
  cases settled with
  | absent absent => exact base
  | root held root => exact base.put held id
  | kept held notRoot same => exact base.put held id
  | lost held notRoot gone => exact base.leave_poison
  | taken held notRoot found => exact base.put held id

end Standing

/-! ## The invariant -/

open Standing in
theorem Edit.baseHeld {s after : Standing} (edit : Edit temporaryPolicy s after)
    (anchored : s.Anchored) : after.BaseHeld := by
  have base := anchored.base
  cases edit with
  | elapse later forward => exact base
  | attach sockets loopback => exact base
  | create absent root keyed expires =>
    refine BaseHeld.claim (fun named is_base here => ?_) fun named is_base _ => base named is_base
    obtain ⟨value, held, -⟩ := base named is_base
    rw [here, absent] at held
    cases held
  | configure held root temporary stillRoot keyed stillTemporary =>
    exact base.put held fun lasting =>
      absurd (lasting.symm.trans temporary) Bool.false_ne_true
  | repair held repairs => exact base.put held id
  | settle settled => exact base.settled settled
  | @join key place absent fresh newer enters =>
    rw [Standing.join, claimBase_mark]
    refine BaseHeld.claim (fun named is_base here => ?_) fun named is_base _ => base named is_base
    obtain ⟨value, held, -⟩ := base named is_base
    rw [here, absent] at held
    cases held
  | @migrate key member place held notRoot lasting fresh discovers enters moves =>
    have stays : place.isTemporary = false := by
      by_contra temporary
      have acts : temporaryPolicy.discovers member.place.mop :=
        discovers ((Bool.not_eq_false _).mp temporary)
      exact absurd (lasting.symm.trans (decide_eq_true acts)) Bool.false_ne_true
    rw [Standing.join, claimBase_mark]
    refine BaseHeld.claim (fun _ _ _ => stays) fun named is_base other => ?_
    rw [leave_base] at is_base
    rw [held_leave, if_neg other]
    exact base named is_base
  | adopt held notRoot temporary moves =>
    exact base.put held id
  | arm held discovers rooted => exact base.arm
  | giveUp held discovers rooted => exact base.leave_quiet held (decide_eq_true discovers)
  | expire held expires => exact base.leave_quiet held (anchored.deadline _ _ held expires)

theorem Became.deadline {s : Standing} {key : DodagKey} {member : Member}
    (became : Became temporaryPolicy s key member)
    (deadline : ∀ member : Member, s.held[key]? = some member → member.expires = true →
      member.place.isTemporary = true) (running : member.expires = true) :
    member.place.isTemporary = true := by
  cases became with
  | same held => exact deadline _ held running
  | created absent root keyed expires =>
    exact absurd (expires.symm.trans running) Bool.false_ne_true
  | configured held stillRoot keyed stillTemporary => exact stillTemporary
  | repaired held repairs =>
    have before := deadline _ held
    exact before running
  | heard held root =>
    have before := deadline _ held
    exact before running
  | kept held notRoot same =>
    have before := deadline _ held
    exact before running
  | taken held notRoot found =>
    have before := deadline _ held
    exact before running
  | joined fresh enters => exact absurd running Bool.false_ne_true
  | adopted held notRoot temporary => exact temporary
  | armed held discovers rooted => exact decide_eq_true discovers

theorem keeps_anchored :
    TransitionSystem.Keeps (Edit temporaryPolicy) Standing.Anchored :=
  fun _ _ edit anchored =>
    ⟨edit.baseHeld anchored, fun key _ held =>
      (edit.became held).deadline (anchored.deadline key)⟩

namespace Node

theorem Initial.anchored {n : Node} (initial : n.Initial) : n.standing.Anchored := by
  refine ⟨fun key is_base => ?_, fun key member held => ?_⟩
  · simp only [standing, initial.hasBaseDodag, Bool.false_eq_true, if_false, reduceCtorEq]
      at is_base
  · rw [standing_held, initial.dodags, ExtTreeMap.getElem?_empty] at held
    cases held

/-- The base DODAG is a membership, and not a temporary one. -/
def BaseLasts (n : Node) : Prop :=
  n.hasBaseDodag = true →
    ∃ dodag, n.dodags[n.baseDodagKey]? = some dodag ∧ dodag.mop ≠ mopP2pRouteDiscovery

/-- A DIO of a discovery that is taken in names no membership of another mode of operation. -/
def DiscoversTemporary (n : Node) (e : Event) : Prop :=
  ∀ heard dio, e = .receive heard (.dio dio) → n.takesDio dio heard = true →
    dio.mop = mopP2pRouteDiscovery → ∀ dodag, n.dodags[dio.key]? = some dodag →
      dodag.mop = mopP2pRouteDiscovery

theorem complies_of_discoversTemporary (n : Node) (e : Event) (names : n.DiscoversTemporary e) :
    n.Complies temporaryPolicy e :=
  fun heard dio received takes =>
    { discovers := names heard dio received takes
      enters := fun _ _ => trivial
      moves := fun _ _ _ => trivial }

/-- While the discoveries of neighbours name temporary DODAGs, or DODAGs not held, the base
DODAG is a membership and not a temporary one. -/
theorem baseLasts_of_run {n : Node} (run : nodeSystem.Run DiscoversTemporary n) : n.BaseLasts := by
  have complying := TransitionSystem.Run.mono complies_of_discoversTemporary run
  have anchored := invariant_of_edits (fun _ initial => initial.anchored) keeps_anchored complying
  intro has
  obtain ⟨member, held, lasting⟩ := anchored.base n.baseDodagKey (by
    rw [standing, has, if_pos rfl])
  rw [standing_held, Option.map_eq_some_iff] at held
  obtain ⟨dodag, heldDodag, rfl⟩ := held
  exact ⟨dodag, heldDodag, of_decide_eq_false lasting⟩

/-! ## A discovery that names the base DODAG -/

/-- A DIO of the DODAG of 2001:db8::1. -/
def baseDio : DioHeader := { rank := 128, dodagId := 0x20010db8000000000000000000000001#128 }

/-- The same DODAG in its next Version, as a discovery of 2001:db8::9. -/
def takeoverDio : DioHeader :=
  { baseDio with
    version := 1
    mop := mopP2pRouteDiscovery
    rreq := some {}
    arts := [{ target := 0x20010db8000000000000000000000009#128 }] }

/-- A router that has joined the DODAG. -/
def based : Node := (started leafIpv6).apply (hears baseDio)

/-- The same router once it has heard the discovery. -/
def takenOver : Node := based.apply (hears takeoverDio)

theorem based_run {good : Node → Event → Prop}
    (condition : good (started leafIpv6) (hears baseDio)) :
    nodeSystem.Run good based :=
  run_hears (started_run leafIpv6) (started_listens _) condition

/-- A DIO of an ordinary DODAG is not of a discovery. -/
theorem discoversTemporary_baseDio (n : Node) : n.DiscoversTemporary (hears baseDio) := by
  intro heard dio received _ discovery
  injection received with _ message
  injection message with same
  subst same
  exact absurd discovery (by decide)

/-- The router that has joined an ordinary DODAG has it as its base DODAG. -/
theorem based_baseLasts : based.hasBaseDodag = true ∧ based.BaseLasts :=
  ⟨by decide +kernel, baseLasts_of_run (based_run (discoversTemporary_baseDio _))⟩

/-- After the discovery the base DODAG is a temporary one. -/
theorem takenOver_not_baseLasts : nodeSystem.Reachable takenOver ∧ ¬takenOver.BaseLasts := by
  refine ⟨run_hears (based_run trivial) (by decide +kernel) trivial, fun lasts => ?_⟩
  have outcome : takenOver.hasBaseDodag = true ∧
      (takenOver.dodags[takenOver.baseDodagKey]?).map (fun dodag => dodag.mop) =
        some mopP2pRouteDiscovery := by
    decide +kernel
  obtain ⟨dodag, held, mop⟩ := lasts outcome.1
  rw [held, Option.map_some, Option.some.injEq] at outcome
  exact mop outcome.2

end Node

end Rpl
