import Rpl.RouteAgreement
import Rpl.Simulation

/-!
# What holds of a node at all times

Each membership is held under its own key, only roots repair their DODAGs, the
deadline of a discovery never runs for a lasting DODAG of this node's own, and RPL
does not run on the loopback.
-/

namespace Rpl

open Std

/-- A membership, as it is held under a key. -/
structure Member.Sound (key : DodagKey) (member : Member) : Prop where
  keyed : member.place.key = key
  repairs : member.repairs = true → member.place.isRoot = true
  deadline : member.expires = true → member.place.isRoot = true → member.place.isTemporary = true

structure Standing.Sound (s : Standing) : Prop where
  members : ∀ (key : DodagKey) (member : Member), s.held[key]? = some member → member.Sound key
  loopback : 0 ∉ s.sockets

theorem Became.sound {policy : Policy} {s : Standing} {key : DodagKey} {member : Member}
    (became : Became policy s key member)
    (sound : ∀ member : Member, s.held[key]? = some member → member.Sound key) :
    member.Sound key := by
  cases became with
  | same held => exact sound _ held
  | created absent root keyed expires =>
    exact ⟨keyed, fun _ => root,
      fun running => absurd (expires.symm.trans running) Bool.false_ne_true⟩
  | configured held stillRoot keyed stillTemporary =>
    exact ⟨keyed.trans (sound _ held).keyed, fun _ => stillRoot, fun _ _ => stillTemporary⟩
  | repaired held repairs =>
    exact ⟨(sound _ held).keyed, (sound _ held).repairs, (sound _ held).deadline⟩
  | heard held root =>
    exact ⟨(sound _ held).keyed, (sound _ held).repairs, (sound _ held).deadline⟩
  | kept held notRoot same =>
    exact ⟨(sound _ held).keyed, (sound _ held).repairs, (sound _ held).deadline⟩
  | taken held notRoot found =>
    exact ⟨(sound _ held).keyed, (sound _ held).repairs, (sound _ held).deadline⟩
  | joined fresh enters =>
    exact ⟨fresh.keyed, fun running => absurd running Bool.false_ne_true,
      fun running => absurd running Bool.false_ne_true⟩
  | adopted held notRoot temporary =>
    exact ⟨(sound _ held).keyed, (sound _ held).repairs, (sound _ held).deadline⟩
  | armed held discovers rooted =>
    exact ⟨(sound _ held).keyed, (sound _ held).repairs, fun _ => rooted⟩

theorem Standing.leave_sockets (s : Standing) (key : DodagKey) (poison : Bool) :
    (s.leave key poison).sockets = s.sockets := by
  unfold leave
  split
  · rfl
  · dsimp only
    split
    · rfl
    · rfl

theorem Standing.leave_now {s : Standing} {key : DodagKey} {poison : Bool} :
    (s.leave key poison).now = s.now := by
  unfold leave
  split
  · rfl
  · dsimp only
    split
    · rw [promote_now]
    · rfl

/-- No edit starts RPL on the loopback. -/
theorem Edit.loopback {policy : Policy} {s after : Standing} (edit : Edit policy s after)
    (started : 0 ∈ after.sockets) : 0 ∈ s.sockets := by
  cases edit with
  | elapse later forward => exact started
  | attach sockets loopback => exact loopback started
  | create absent root keyed expires =>
    rwa [Standing.create, Standing.claimBase_sockets] at started
  | configure heldBefore root temporary stillRoot keyed stillTemporary => exact started
  | repair heldBefore repairs => exact started
  | settle settled =>
    cases settled with
    | absent absent => exact started
    | root heldBefore root => exact started
    | kept heldBefore notRoot same => exact started
    | lost heldBefore notRoot gone => rwa [Standing.leave_sockets] at started
    | taken heldBefore notRoot found => exact started
  | join absent fresh newer enters => rwa [Standing.join, Standing.claimBase_sockets] at started
  | migrate heldBefore notRoot lasting fresh discovers enters moves =>
    rw [Standing.join, Standing.claimBase_sockets] at started
    rwa [Standing.mark_sockets, Standing.put_sockets, Standing.leave_sockets] at started
  | adopt heldBefore notRoot temporary moves => exact started
  | arm heldBefore discovers rooted => exact started
  | giveUp heldBefore discovers rooted => rwa [Standing.leave_sockets] at started
  | expire heldBefore expires => rwa [Standing.leave_sockets] at started

theorem keeps_sound (policy : Policy) :
    TransitionSystem.Keeps (Edit policy) Standing.Sound := by
  intro s after edit sound
  refine ⟨fun key member held => ?_, fun started => sound.loopback (edit.loopback started)⟩
  exact (edit.became held).sound (sound.members key)

namespace Node

theorem Initial.sound {n : Node} (initial : n.Initial) : n.standing.Sound := by
  refine ⟨fun key member held => ?_, initial.loopback⟩
  rw [standing_held, initial.dodags, ExtTreeMap.getElem?_empty] at held
  cases held

theorem sound_of_run {policy : Policy} {n : Node} (run : nodeSystem.Run (Complies policy) n) :
    n.standing.Sound :=
  invariant_of_edits (fun _ initial => initial.sound) (keeps_sound policy) run

/-- Every node that can be reached is well formed. -/
theorem wellFormed_of_reachable {n : Node} (reachable : nodeSystem.Reachable n) :
    n.WellFormed := by
  have sound := sound_of_run (run_any_of_reachable reachable)
  exact ⟨fun key dodag held => (sound.members key dodag.member (held_member held)).keyed,
    sound.loopback⟩

end Node

end Rpl
