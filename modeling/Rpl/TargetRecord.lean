import Rpl.Docket
import Rpl.Lifetimes

/-!
# The targets an RREQ-Instance still asks for

The first RREQ-DIO a membership takes in seeds its record of targets, and later ones leave
those of the record that they name too.  Which RREQ-DIO is the first is read off the record
for one with hop-by-hop routes, and off the address vector for one without: where the record
has been seeded and the vector is still empty, an RREQ-DIO without them seeds it again.
-/

namespace Rpl

open Std

/-! ## Records that recede -/

/-- The record has been seeded and names no further target. -/
structure Notes.Recedes (before after : Notes) : Prop where
  seeded : after.targetsSeeded = true
  targets : after.targets ⊆ before.targets

theorem Notes.Recedes.trans {first second third : Notes} (before : first.Recedes second)
    (after : second.Recedes third) : first.Recedes third :=
  ⟨after.seeded, List.Subset.trans after.targets before.targets⟩

/-- The membership has ended since, or its record has receded. -/
def Docket.Narrows (start : ℕ) (first : Notes) (docket : Docket) : Prop :=
  start < docket.ended ∨
    docket.ended = start ∧ ∃ notes, docket.held = some notes ∧ first.Recedes notes

namespace AodvRreqState

variable {aodv : AodvRreqState} {dio : DioHeader}

theorem targets_intersectTargets {target : Ipv6Address} {processed : Bool}
    (asked : target ∈ (Node.intersectTargets processed dio aodv).targets) :
    if processed then target ∈ aodv.targets else target ∈ dio.arts.map ArtOption.target := by
  unfold Node.intersectTargets at asked
  cases processed with
  | true => exact (List.mem_filter.mp asked).1
  | false => exact asked

theorem targetsSeeded_intersectTargets (processed : Bool) (seeded : aodv.targetsSeeded = true) :
    (Node.intersectTargets processed dio aodv).targetsSeeded = true := by
  unfold Node.intersectTargets
  cases processed with
  | true => exact seeded
  | false => rfl

end AodvRreqState

/-! ## Shifts of addresses -/

theorem Shift.ipv6_eq {n : Node} {e : Event} {late : Bool} {s after : Stakes}
    (shift : Shift n e late s after) (settled : ∀ interfaces, e ≠ .readdress interfaces)
    (other : ∀ heard dio, e ≠ .receive heard (.dio dio)) : after.ipv6 = s.ipv6 := by
  cases shift with
  | readdress cause =>
    rcases cause with ⟨interfaces, event⟩ | ⟨dio, heard, takes, -⟩
    · exact absurd event (settled interfaces)
    · exact absurd takes.event (other heard dio)
  | _ => rfl

theorem Shifts.ipv6_eq {n : Node} {e : Event} {late : Bool} {s after : Stakes}
    (shifts : Shifts n e late s after) (settled : ∀ interfaces, e ≠ .readdress interfaces)
    (other : ∀ heard dio, e ≠ .receive heard (.dio dio)) : after.ipv6 = s.ipv6 := by
  induction shifts with
  | refl => rfl
  | tail _ shift ih => exact (shift.ipv6_eq settled other).trans ih

namespace Node

variable {n m : Node} {e : Event} {key : DodagKey} {dodag later : DodagMembership}
  {dio : DioHeader} {heard : Reception}

/-! ## RREQ-DIOs that seed the record again -/

/-- A target named by an RREQ-DIO that is neither asked for any more nor an address of the node's
own. -/
def namesFurther (n : Node) (dodag : DodagMembership) (dio : DioHeader) : Bool :=
  dio.arts.any fun art => !dodag.aodv.targets.contains art.target && !n.ipv6.isOwnAddress art.target

/-- The event is the receipt of an RREQ-DIO that seeds the record of targets again, with a target
that is not in it. -/
def Reinserts (n : Node) (key : DodagKey) (e : Event) : Prop :=
  ∃ dio heard dodag, n.Takes e dio heard ∧ dio.rreq.isSome = true ∧ dio.key = key ∧
    n.dodags[key]? = some dodag ∧ dodag.aodv.targetsSeeded = true ∧
    rreqProcessed dodag.aodv dio.getRreq = false ∧ n.ignoresRreq dodag dio heard = false ∧
    n.namesFurther dodag dio = true

/-! ## One RREQ-DIO -/

/-- The targets asked for after an RREQ-DIO were asked for before, or are named by it and not the
node's own where it seeds the record. -/
theorem targets_takeRreq {target : Ipv6Address}
    (asked : target ∈ (m.takeRreq dodag dio).2.targets) :
    target ∈ dodag.aodv.targets ∨
      rreqProcessed dodag.aodv dio.getRreq = false ∧ target ∈ dio.arts.map ArtOption.target ∧
        m.ipv6.isOwnAddress target = false := by
  obtain ⟨kept, foreign⟩ := List.mem_filter.mp asked
  rw [Bool.not_eq_true'] at foreign
  have source := AodvRreqState.targets_intersectTargets kept
  cases processed : rreqProcessed dodag.aodv dio.getRreq with
  | true =>
    rw [processed] at source
    exact .inl source
  | false =>
    rw [processed] at source
    exact .inr ⟨rfl, source, foreign⟩

theorem recedes_takeRreq (seeded : dodag.aodv.targetsSeeded = true)
    (named : rreqProcessed dodag.aodv dio.getRreq = false → m.namesFurther dodag dio = false) :
    dodag.notes.Recedes (dodag.notes.withAodv (m.takeRreq dodag dio).2) := by
  refine ⟨AodvRreqState.targetsSeeded_intersectTargets _ seeded, fun target asked => ?_⟩
  rcases targets_takeRreq asked with before | ⟨seeds, listed, foreign⟩
  · exact before
  · obtain ⟨art, mem, rfl⟩ := List.mem_map.mp listed
    have known := List.any_eq_false.mp (named seeds) art mem
    rw [foreign, Bool.not_false, Bool.and_true, Bool.not_eq_true, Bool.not_eq_false'] at known
    exact List.contains_iff_mem.mp known

/-! ## The addresses of a node that takes in a DIO -/

/-- Parent selection leaves the addresses alone: as part of an event that sets none, it shifts
none. -/
theorem ipv6_selectAfterDio (sender : Ipv6Address) :
    (n.selectAfterDio dio sender).ipv6 = n.ipv6 := by
  have shifts : Shifts n .setAsRoot true n.stakes (n.selectAfterDio dio sender).stakes :=
    shifts_selectAfterDio n dio sender
  exact shifts.ipv6_eq (fun _ => Event.noConfusion) fun _ _ => Event.noConfusion

/-- The discovery part of a DIO the node does not join by finds the discovery state and the
addresses there were before. -/
theorem same_of_stays (stays : n.joinsBy dio = false)
    (handles : n.beforeDiscovery dio heard = some m) (held : m.dodags[dio.key]? = some later) :
    m.ipv6 = n.ipv6 ∧ ∃ dodag, n.dodags[dio.key]? = some dodag ∧ later.aodv = dodag.aodv := by
  obtain ⟨entered, enters, rfl⟩ := Option.map_eq_some_iff.mp handles
  have same : entered.ipv6 = n.ipv6 ∧ entered.discoveryAt dio.key = n.discoveryAt dio.key := by
    unfold enterVersion at enters
    unfold joinsBy at stays
    split at enters
    · next absent =>
      rw [absent, Bool.not_eq_false'] at stays
      rw [if_pos stays] at enters
      cases enters
    · next dodag here =>
      rw [here] at stays
      split at enters
      · cases enters
        exact ⟨rfl, rfl⟩
      split at enters
      · cases enters
        unfold adoptVersion
        split
        · exact ⟨rfl, discoveryAt_modifyDodag fun _ => ⟨rfl, rfl⟩⟩
        · exact ⟨rfl, rfl⟩
      split at enters
      · next newer ordinary migrating =>
        simp only [ne_eq, newer, not_false_eq_true, decide_true, ordinary, Bool.not_false,
          migrating, Bool.and_self, Bool.true_eq_false] at stays
      · cases enters
  have kept : (entered.updateParent dio heard).KeepsDiscovery dio.key _ :=
    keepsDiscovery_selectAfterDio heard.sender
  rw [KeepsDiscovery, discoveryAt_updateParent, same.2, discoveryAt, held, Option.map_some] at kept
  have addresses : (entered.updateParent dio heard).ipv6 = entered.ipv6 :=
    congrArg Stakes.ipv6 (stakes_updateParent entered dio heard)
  refine ⟨(ipv6_selectAfterDio heard.sender).trans (addresses.trans same.1), ?_⟩
  rcases kept with gone | before
  · cases gone
  · obtain ⟨dodag, here, states⟩ := Option.map_eq_some_iff.mp before.symm
    exact ⟨dodag, here, (congrArg Prod.fst states).symm⟩

/-! ## Runs -/

theorem ignoresRreq_of_unprocessed (unprocessed : rreqProcessed dodag.aodv dio.getRreq = false)
    (same : later.aodv = dodag.aodv) :
    m.ignoresRreq later dio heard = n.ignoresRreq dodag dio heard := by
  unfold ignoresRreq
  rw [same, unprocessed]
  simp only [Bool.and_false, Bool.false_and, Bool.or_false]

theorem narrows_noting {start : ℕ} {first : Notes} {before docket : Docket}
    (stays : ¬n.Reinserts key e) (noting : Noting n e key before docket)
    (narrows : before.Narrows start first) : docket.Narrows start first := by
  rcases narrows with ended | ⟨here, notes, held, recedes⟩
  · refine .inl (Nat.lt_of_lt_of_le ended ?_)
    cases noting with
    | ends => exact Nat.le_succ _
    | _ => exact le_rfl
  · cases noting with
    | ends => exact .inl (Nat.lt_succ_of_le (Nat.le_of_eq here.symm))
    | begins => cases held
    | @rreq m dio heard later takes handles rreq keyed heldThere attends =>
      subst keyed
      cases held
      refine .inr ⟨here, _, rfl, recedes.trans (recedes_takeRreq recedes.seeded fun seeds => ?_)⟩
      cases joins : n.joinsBy dio with
      | true =>
        -- the record of a membership that has just begun has not been seeded
        have seeded := recedes.seeded
        rw [DodagMembership.notes, (clean_of_joins joins handles heldThere).1] at seeded
        cases seeded
      | false =>
        obtain ⟨addresses, dodag, heldHere, same⟩ := same_of_stays joins handles heldThere
        refine Bool.eq_false_of_not_eq_true fun further => stays ?_
        have seeded : dodag.aodv.targetsSeeded = true := same ▸ recedes.seeded
        rw [same] at seeds
        refine ⟨dio, heard, dodag, takes, rreq, rfl, heldHere, seeded, seeds, ?_, ?_⟩
        · rw [← ignoresRreq_of_unprocessed (m := m) seeds same, attends]
        · rw [namesFurther, ← same, ← addresses]
          exact further
    | appended =>
      cases held
      exact .inr ⟨here, _, rfl, recedes.seeded, recedes.targets⟩
    | relayed target =>
      cases held
      exact .inr ⟨here, _, rfl, recedes.seeded, List.Subset.trans List.erase_subset recedes.targets⟩
    | recorded m dodag rdo heard =>
      cases held
      obtain ⟨p2p, same⟩ := m.recordP2pRoutes_eq dodag rdo heard
      rw [same]
      exact .inr ⟨here, _, rfl, recedes.seeded, recedes.targets⟩
    | pruned dodag =>
      cases held
      exact .inr ⟨here, _, rfl, recedes.seeded, recedes.targets⟩
    | shed =>
      cases held
      exact .inr ⟨here, _, rfl, recedes.seeded, recedes.targets⟩

theorem narrows_apply {start : ℕ} {first : Notes} (stays : ¬n.Reinserts key e)
    (narrows : (n.docket key).Narrows start first) :
    ((n.apply e).docket key).Narrows start first := by
  have notings := notings_apply n e key
  generalize (n.apply e).docket key = docket at notings
  induction notings with
  | refl => exact narrows
  | tail _ noting ih => exact narrows_noting stays noting ih

/-- Once an RREQ-DIO has seeded the record of targets of a membership, every later record of that
membership names no other targets, where no RREQ-DIO seeds it again with further ones. -/
theorem targets_recede (held : n.dodags[key]? = some dodag)
    (seeded : dodag.aodv.targetsSeeded = true)
    (steps : nodeSystem.Steps (fun s e => ¬s.Reinserts key e) n m)
    (same : m.departures key = n.departures key) (heldLater : m.dodags[key]? = some later) :
    later.aodv.targetsSeeded = true ∧ later.aodv.targets ⊆ dodag.aodv.targets := by
  have narrows : (m.docket key).Narrows (n.departures key) dodag.notes :=
    steps.keeps (I := fun s => (s.docket key).Narrows (n.departures key) dodag.notes)
      (fun s e before _ stays => narrows_apply stays before)
      (.inr ⟨rfl, _, congrArg Docket.held (docket_of_held held), seeded, List.Subset.refl _⟩)
  rw [docket_of_held heldLater] at narrows
  rcases narrows with ended | ⟨-, notes, noted, recedes⟩
  · exact absurd same (Nat.ne_of_gt ended)
  · cases noted
    exact ⟨recedes.seeded, recedes.targets⟩

/-! ## A router that has no address yet -/

/-- An RREQ of 2001:db8::1 without hop-by-hop routes, for 2001:db8::9. -/
def asksForNine : DioHeader :=
  { instanceId := 0x80
    rank := 256
    mop := mopP2pRouteDiscovery
    dodagId := 0x20010db8000000000000000000000001#128
    rreq := some { lifetime := 2 }
    arts := [{ target := 0x20010db8000000000000000000000009#128 }] }

/-- Another copy, for 2001:db8::a as well. -/
def asksForTen : DioHeader :=
  { asksForNine with
    arts := [{ target := 0x20010db8000000000000000000000009#128 },
      { target := 0x20010db800000000000000000000000a#128 }] }

/-- A router that has taken in the first. -/
def nineRecorded : Node := (started leafIpv6).apply (hears asksForNine)

theorem nineRecorded_facts :
    1 ∈ nineRecorded.sockets ∧
    ((nineRecorded.dodags[asksForNine.key]?).any fun dodag =>
      dodag.aodv.targetsSeeded && !nineRecorded.namesFurther dodag asksForNine &&
        dodag.aodv.targets = [0x20010db8000000000000000000000009#128]) = true ∧
    ((nineRecorded.apply (hears asksForTen)).departures asksForNine.key =
        nineRecorded.departures asksForNine.key ∧
      ((nineRecorded.apply (hears asksForTen)).dodags[asksForNine.key]?).any (fun dodag =>
        dodag.aodv.targets.contains 0x20010db800000000000000000000000a#128) = true) ∧
    (nineRecorded.apply (hears asksForNine)).departures asksForNine.key =
        nineRecorded.departures asksForNine.key ∧
      ((nineRecorded.apply (hears asksForNine)).dodags[asksForNine.key]?).isSome = true := by
  decide +kernel

/-- It has no global address, and its address vector stays empty: the other copy seeds the record
again. -/
theorem nineRecorded_reinserts :
    nodeSystem.Reachable nineRecorded ∧ nineRecorded.Enabled (hears asksForTen) ∧
      ∃ dodag later, nineRecorded.dodags[asksForNine.key]? = some dodag ∧
        dodag.aodv.targetsSeeded = true ∧
        (nineRecorded.apply (hears asksForTen)).departures asksForNine.key =
          nineRecorded.departures asksForNine.key ∧
        (nineRecorded.apply (hears asksForTen)).dodags[asksForNine.key]? = some later ∧
        ¬later.aodv.targets ⊆ dodag.aodv.targets := by
  obtain ⟨listens, first, ⟨same, second⟩, -⟩ := nineRecorded_facts
  obtain ⟨dodag, held, record⟩ := (Option.any_eq_true _ _).mp first
  obtain ⟨later, heldLater, further⟩ := (Option.any_eq_true _ _).mp second
  rw [Bool.and_eq_true, Bool.and_eq_true, decide_eq_true_eq] at record
  refine ⟨run_hears (started_run _) (started_listens _) trivial, listens, dodag, later, held,
    record.1.1, same, heldLater, fun fewer => ?_⟩
  have known := fewer (List.contains_iff_mem.mp further)
  rw [record.2] at known
  exact absurd known (by decide)

/-- The same copy again leaves the record as it is. -/
theorem nineRecorded_recedes : ∃ dodag later,
    nineRecorded.dodags[asksForNine.key]? = some dodag ∧
      (nineRecorded.apply (hears asksForNine)).dodags[asksForNine.key]? = some later ∧
      later.aodv.targets ⊆ dodag.aodv.targets := by
  obtain ⟨listens, first, -, same, second⟩ := nineRecorded_facts
  obtain ⟨dodag, held, record⟩ := (Option.any_eq_true _ _).mp first
  obtain ⟨later, heldLater⟩ := Option.isSome_iff_exists.mp second
  rw [Bool.and_eq_true, Bool.and_eq_true, Bool.not_eq_true'] at record
  have stays : ¬nineRecorded.Reinserts asksForNine.key (hears asksForNine) := by
    rintro ⟨dio, heard, other, takes, -, -, heldOther, -, -, -, further⟩
    cases takes.event
    obtain rfl := Option.some.inj (held.symm.trans heldOther)
    exact absurd (record.1.2.symm.trans further) Bool.false_ne_true
  exact ⟨dodag, later, held, heldLater, (targets_recede held record.1.1
    (.single ⟨hears asksForNine, listens, stays, rfl⟩) same heldLater).2⟩

end Node

end Rpl
