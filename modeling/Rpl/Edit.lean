import Rpl.Standing

/-!
# Edits of a standing

Every event moves a node's standing by a few edits, of which there are a dozen
kinds.  An `Edit` says of each under which conditions it happens; a predicate kept
by every edit is an invariant of the node.  Some edits are within the reach of
whoever sends a DIO, and a policy says which of those are considered: with the
trivial policy all of them are.
-/

namespace Rpl

open Std

/-! ## Policies -/

/-- Which of the edits a DIO can cause are considered. -/
structure Policy where
  /-- The mode of operation of a membership that the discovery part of a DIO acts on. -/
  discovers : UInt8 → Prop
  /-- A discovery always acts on temporary DODAGs. -/
  discoversTemporary : discovers mopP2pRouteDiscovery
  /-- The place a DODAG is joined at. -/
  enters : DodagPlace → Prop
  /-- The records held when a membership moves to a Version, and the Version. -/
  moves : List RetainedRank → UInt8 → Prop

/-- Every edit is considered. -/
def Policy.any : Policy where
  discovers _ := True
  discoversTemporary := trivial
  enters _ := True
  moves _ _ := True

namespace Standing

/-! ## What a selection can come to -/

theorem withParents_of_held {s : Standing} {key : DodagKey} {member : Member}
    {f : ExtTreeMap Ipv6Address Parent → ExtTreeMap Ipv6Address Parent}
    (held : s.held[key]? = some member) :
    s.withParents key f =
      s.put key
        { member with place := { member.place with parents := f member.place.parents } } := by
  simp only [withParents, modify, put, OrderedMap.modify_of_held held]

theorem withParents_of_absent {s : Standing} {key : DodagKey}
    {f : ExtTreeMap Ipv6Address Parent → ExtTreeMap Ipv6Address Parent}
    (absent : s.held[key]? = none) : s.withParents key f = s := by
  simp only [withParents, modify, OrderedMap.modify_of_absent absent]

theorem withParents_id (s : Standing) (key : DodagKey) : s.withParents key id = s := by
  cases held : s.held[key]? with
  | none => exact withParents_of_absent held
  | some member =>
    rw [withParents_of_held held]
    simp only [id, put, OrderedMap.insert_held held]

theorem select_of_absent {s : Standing} {key : DodagKey} (absent : s.held[key]? = none) :
    s.select key = s := by
  rw [select, absent]

theorem select_of_root {s : Standing} {key : DodagKey} {member : Member}
    (held : s.held[key]? = some member) (root : member.place.isRoot = true) :
    s.select key = s := by
  rw [select, held]
  exact if_pos root

/-- The place a selection starts from, once the neighbours that are gone are gone. -/
def table (s : Standing) (member : Member)
    (f : ExtTreeMap Ipv6Address Parent → ExtTreeMap Ipv6Address Parent) : DodagPlace :=
  DodagPlace.sweep { member.place with parents := f member.place.parents } s.now fun _ => true

/-- What settling a membership can come to. -/
inductive Settled (s : Standing) (key : DodagKey)
    (f : ExtTreeMap Ipv6Address Parent → ExtTreeMap Ipv6Address Parent) : Standing → Prop
  /-- The DODAG is not held. -/
  | absent (absent : s.held[key]? = none) : Settled s key f s
  /-- A root selects no parent. -/
  | root {member : Member} (held : s.held[key]? = some member)
      (root : member.place.isRoot = true) :
      Settled s key f
        (s.put key
          { member with place := { member.place with parents := f member.place.parents } })
  /-- The place stays as it was. -/
  | kept {member : Member} (held : s.held[key]? = some member)
      (notRoot : member.place.isRoot = false)
      (same : (s.table member f).selectionChanged (s.table member f).chooseParent = false) :
      Settled s key f (s.put key { member with place := s.table member f })
  /-- There is no parent left, and the DODAG is left. -/
  | lost {member : Member} (held : s.held[key]? = some member)
      (notRoot : member.place.isRoot = false)
      (gone : (s.table member f).chooseParent.address.isAny = true) :
      Settled s key f (s.leave key true)
  /-- A parent is taken. -/
  | taken {member : Member} (held : s.held[key]? = some member)
      (notRoot : member.place.isRoot = false)
      (found : (s.table member f).chooseParent.address.isAny = false) :
      Settled s key f
        ((s.put key
          { member with
            place := (s.table member f).adoptParent (s.table member f).chooseParent }).mark
          (.ranked key ((s.table member f).adoptParent (s.table member f).chooseParent).rank))

theorem settled (s : Standing) (key : DodagKey)
    (f : ExtTreeMap Ipv6Address Parent → ExtTreeMap Ipv6Address Parent) :
    Settled s key f ((s.withParents key f).select key) := by
  cases held : s.held[key]? with
  | none =>
    rw [withParents_of_absent held, select_of_absent held]
    exact .absent held
  | some member =>
    have heldPut (other : Member) : (s.put key other).held[key]? = some other :=
      ExtTreeMap.getElem?_insert_self
    rw [withParents_of_held held]
    cases root : member.place.isRoot with
    | true =>
      have still := select_of_root (heldPut
        { member with place := { member.place with parents := f member.place.parents } }) root
      rw [still]
      exact .root held root
    | false =>
      rw [select, heldPut]
      dsimp only
      rw [if_neg (by rw [root]; exact Bool.false_ne_true), put_put, put_put]
      split
      · next same => exact .kept held root ((Bool.not_eq_true' _).mp same)
      split
      · next gone =>
        have sameLeave : (s.put key { member with place := s.table member f }).leave key true =
            s.leave key true := put_leave held rfl
        exact sameLeave ▸ .lost held root gone
      · next found => exact .taken held root (Bool.eq_false_iff.mpr found)

end Standing

/-! ## Edits -/

/-- One edit of a standing. -/
inductive Edit (policy : Policy) : Standing → Standing → Prop
  /-- Time passes. -/
  | elapse {s : Standing} (later : Time) (forward : s.now ≤ later) :
      Edit policy s { s with now := later }
  /-- RPL starts or stops on interfaces, but never starts on the loopback. -/
  | attach {s : Standing} (sockets : ExtTreeSet Nat) (loopback : 0 ∈ sockets → 0 ∈ s.sockets) :
      Edit policy s { s with sockets := sockets }
  /-- A DODAG is formed, with this node as its root. -/
  | create {s : Standing} {key : DodagKey} {member : Member} (absent : s.held[key]? = none)
      (root : member.place.isRoot = true) (keyed : member.place.key = key)
      (expires : member.expires = false) : Edit policy s (s.create key member)
  /-- The parameters of a temporary DODAG this node has formed are set. -/
  | configure {s : Standing} {key : DodagKey} {member : Member} {place : DodagPlace}
      (held : s.held[key]? = some member) (root : member.place.isRoot = true)
      (temporary : member.place.isTemporary = true) (stillRoot : place.isRoot = true)
      (keyed : place.key = member.place.key) (stillTemporary : place.isTemporary = true) :
      Edit policy s (s.put key { member with place := place })
  /-- A root moves its DODAG to the next Version. -/
  | repair {s : Standing} {key : DodagKey} {member : Member} (held : s.held[key]? = some member)
      (repairs : member.repairs = true) :
      Edit policy s
        (s.put key
          { member with
            place := { member.place with version := sequenceIncrement member.place.version } })
  /-- Neighbours come and go, and a parent is selected. -/
  | settle {s after : Standing} {key : DodagKey}
      {f : ExtTreeMap Ipv6Address Parent → ExtTreeMap Ipv6Address Parent}
      (settled : s.Settled key f after) : Edit policy s after
  /-- A DODAG not held is joined. -/
  | join {s : Standing} {key : DodagKey} {place : DodagPlace} (absent : s.held[key]? = none)
      (fresh : s.Fresh key place)
      (newer : ∀ record ∈ s.unexpired key, sequenceCompare place.version record.version ≠ .less)
      (enters : policy.enters place) : Edit policy s (s.join key place)
  /-- A membership that is not temporary is left and joined in another Version. -/
  | migrate {s : Standing} {key : DodagKey} {member : Member} {place : DodagPlace}
      (held : s.held[key]? = some member) (notRoot : member.place.isRoot = false)
      (lasting : member.place.isTemporary = false) (fresh : (s.leave key false).Fresh key place)
      (discovers : place.isTemporary = true → policy.discovers member.place.mop)
      (enters : policy.enters place)
      (moves : policy.moves ((s.leave key false).unexpired key) place.version) :
      Edit policy s ((s.leave key false).join key place)
  /-- A temporary membership takes a Version in place. -/
  | adopt {s : Standing} {key : DodagKey} {member : Member} {version : UInt8}
      (held : s.held[key]? = some member) (notRoot : member.place.isRoot = false)
      (temporary : member.place.isTemporary = true)
      (moves : policy.moves (s.unexpired key) version) :
      Edit policy s (s.adopt key member version)
  /-- A discovery sets a deadline. -/
  | arm {s : Standing} {key : DodagKey} {member : Member} (held : s.held[key]? = some member)
      (discovers : policy.discovers member.place.mop)
      (rooted : member.place.isRoot = true → member.place.isTemporary = true) :
      Edit policy s (s.arm key)
  /-- A discovery is given up, its route being too long. -/
  | giveUp {s : Standing} {key : DodagKey} {member : Member} (held : s.held[key]? = some member)
      (discovers : policy.discovers member.place.mop)
      (rooted : member.place.isRoot = true → member.place.isTemporary = true) :
      Edit policy s (s.leave key false)
  /-- A deadline has passed. -/
  | expire {s : Standing} {key : DodagKey} {member : Member} (held : s.held[key]? = some member)
      (expires : member.expires = true) : Edit policy s (s.leave key false)

/-- Any number of edits. -/
abbrev Edits (policy : Policy) : Standing → Standing → Prop := Relation.ReflTransGen (Edit policy)

/-! ## The edits of a discovery -/

/-- What a discovery does to a standing: it sets a deadline on the membership it acts on, gives
that membership up, and forms and configures temporary DODAGs of this node's own. -/
inductive Touch (key : DodagKey) : Standing → Standing → Prop
  | arm {s : Standing} {member : Member} (held : s.held[key]? = some member) :
      Touch key s (s.arm key)
  | giveUp {s : Standing} {member : Member} (held : s.held[key]? = some member) :
      Touch key s (s.leave key false)
  | form {s : Standing} {own : DodagKey} {member : Member} (absent : s.held[own]? = none)
      (root : member.place.isRoot = true) (keyed : member.place.key = own)
      (temporary : member.place.isTemporary = true) (expires : member.expires = false) :
      Touch key s (s.create own member)
  | configure {s : Standing} {own : DodagKey} {member : Member} {place : DodagPlace}
      (held : s.held[own]? = some member) (root : member.place.isRoot = true)
      (temporary : member.place.isTemporary = true) (stillRoot : place.isRoot = true)
      (keyed : place.key = member.place.key) (stillTemporary : place.isTemporary = true) :
      Touch key s (s.put own { member with place := place })
  | armOwn {s : Standing} {own : DodagKey} {member : Member}
      (held : s.held[own]? = some member) (root : member.place.isRoot = true)
      (temporary : member.place.isTemporary = true) : Touch key s (s.arm own)

abbrev Touches (key : DodagKey) : Standing → Standing → Prop := Relation.ReflTransGen (Touch key)

/-- A discovery may act on the membership under the key. -/
def Standing.Open (policy : Policy) (key : DodagKey) (s : Standing) : Prop :=
  ∀ member, s.held[key]? = some member →
    policy.discovers member.place.mop ∧
      (member.place.isRoot = true → member.place.isTemporary = true)

theorem Policy.discovers_of_temporary (policy : Policy) {place : DodagPlace}
    (temporary : place.isTemporary = true) : policy.discovers place.mop := by
  have mop : place.mop = mopP2pRouteDiscovery := of_decide_eq_true temporary
  rw [mop]
  exact policy.discoversTemporary

namespace Touch

variable {policy : Policy} {key : DodagKey} {s after : Standing}

theorem edit (touch : Touch key s after) (acts : s.Open policy key) : Edit policy s after := by
  cases touch with
  | arm held => exact .arm held (acts _ held).1 (acts _ held).2
  | giveUp held => exact .giveUp held (acts _ held).1 (acts _ held).2
  | form absent root keyed temporary expires => exact .create absent root keyed expires
  | configure held root temporary stillRoot keyed stillTemporary =>
    exact .configure held root temporary stillRoot keyed stillTemporary
  | armOwn held root temporary =>
    exact .arm held (policy.discovers_of_temporary temporary) fun _ => temporary

/-- What a discovery does to one membership keeps it open to the discovery of another. -/
theorem keepsOpen (touch : Touch key s after) (acts : s.Open policy key) :
    after.Open policy key := by
  intro member held
  cases touch with
  | arm heldBefore =>
    simp only [Standing.arm, Standing.modify, OrderedMap.getElem?_modify_eq, if_true,
      Option.map_eq_some_iff] at held
    obtain ⟨before, heldOld, rfl⟩ := held
    exact acts before heldOld
  | giveUp heldBefore =>
    rw [Standing.leave, heldBefore] at held
    simp only [Bool.false_eq_true, false_and, if_false, OrderedMap.getElem?_erase_eq, if_true,
      reduceCtorEq] at held
  | form absent root keyed temporary expires =>
    simp only [Standing.create, Standing.claimBase_held, Standing.put_held,
      OrderedMap.getElem?_insert_eq] at held
    split at held
    · cases held
      exact ⟨policy.discovers_of_temporary temporary, fun _ => temporary⟩
    · exact acts member held
  | configure heldOwn root temporary stillRoot keyed stillTemporary =>
    simp only [Standing.put_held, OrderedMap.getElem?_insert_eq] at held
    split at held
    · cases held
      exact ⟨policy.discovers_of_temporary stillTemporary, fun _ => stillTemporary⟩
    · exact acts member held
  | armOwn heldOwn root temporary =>
    simp only [Standing.arm, Standing.modify, OrderedMap.getElem?_modify_eq] at held
    split at held
    · obtain ⟨before, heldOld, rfl⟩ := Option.map_eq_some_iff.mp held
      rw [heldOwn] at heldOld
      cases heldOld
      exact ⟨policy.discovers_of_temporary temporary, fun _ => temporary⟩
    · exact acts member held

end Touch

/-- Whatever a discovery does to a membership open to it is made of edits. -/
theorem Touches.edits {policy : Policy} {key : DodagKey} {s after : Standing}
    (touches : Touches key s after) (acts : s.Open policy key) : Edits policy s after := by
  induction touches using Relation.ReflTransGen.head_induction_on with
  | refl => exact .refl
  | head touch _ ih => exact .head (touch.edit acts) (ih (touch.keepsOpen acts))

/-! ## What becomes of one membership -/

/-- How a membership held after an edit came about. -/
inductive Became (policy : Policy) (s : Standing) (key : DodagKey) : Member → Prop
  | same {member : Member} (held : s.held[key]? = some member) : Became policy s key member
  | created {member : Member} (absent : s.held[key]? = none) (root : member.place.isRoot = true)
      (keyed : member.place.key = key) (expires : member.expires = false) :
      Became policy s key member
  | configured {before : Member} {place : DodagPlace} (held : s.held[key]? = some before)
      (stillRoot : place.isRoot = true) (keyed : place.key = before.place.key)
      (stillTemporary : place.isTemporary = true) :
      Became policy s key { before with place := place }
  | repaired {before : Member} (held : s.held[key]? = some before)
      (repairs : before.repairs = true) :
      Became policy s key
        { before with
          place := { before.place with version := sequenceIncrement before.place.version } }
  | heard {before : Member} {parents : ExtTreeMap Ipv6Address Parent}
      (held : s.held[key]? = some before) (root : before.place.isRoot = true) :
      Became policy s key { before with place := { before.place with parents := parents } }
  | kept {before : Member} {f : ExtTreeMap Ipv6Address Parent → ExtTreeMap Ipv6Address Parent}
      (held : s.held[key]? = some before) (notRoot : before.place.isRoot = false)
      (same : (s.table before f).selectionChanged (s.table before f).chooseParent = false) :
      Became policy s key { before with place := s.table before f }
  | taken {before : Member} {f : ExtTreeMap Ipv6Address Parent → ExtTreeMap Ipv6Address Parent}
      (held : s.held[key]? = some before) (notRoot : before.place.isRoot = false)
      (found : (s.table before f).chooseParent.address.isAny = false) :
      Became policy s key
        { before with place := (s.table before f).adoptParent (s.table before f).chooseParent }
  | joined {place : DodagPlace} {entered : Standing} (fresh : entered.Fresh key place)
      (enters : policy.enters place) :
      Became policy s key { place := place, expires := false, repairs := false }
  | adopted {before : Member} {version : UInt8} (held : s.held[key]? = some before)
      (notRoot : before.place.isRoot = false) (temporary : before.place.isTemporary = true) :
      Became policy s key { before with place := { before.place with version := version } }
  | armed {before : Member} (held : s.held[key]? = some before)
      (discovers : policy.discovers before.place.mop)
      (rooted : before.place.isRoot = true → before.place.isTemporary = true) :
      Became policy s key { before with expires := true }

namespace Standing

variable {s : Standing} {key other : DodagKey} {member held : Member} {place : DodagPlace}

theorem held_put :
    (s.put key member).held[other]? = if other = key then some member else s.held[other]? := by
  rw [put_held, OrderedMap.getElem?_insert_eq]

theorem held_leave {poison : Bool} :
    (s.leave key poison).held[other]? = if other = key then none else s.held[other]? := by
  unfold leave
  split
  · next absent =>
    split
    · next same => rw [same, absent]
    · rfl
  · dsimp only
    split
    · rw [promote_held, OrderedMap.getElem?_erase_eq]
    · rw [OrderedMap.getElem?_erase_eq]

theorem held_join :
    (s.join key place).held[other]? =
      if other = key then some { place := place, expires := false, repairs := false }
      else s.held[other]? := by
  rw [join, claimBase_held, mark_held, held_put]

theorem held_create :
    (s.create key member).held[other]? = if other = key then some member else s.held[other]? := by
  rw [create, claimBase_held, held_put]

theorem held_arm :
    (s.arm key).held[other]? =
      if other = key then s.held[key]?.map fun member => { member with expires := true }
      else s.held[other]? := by
  rw [arm, modify, OrderedMap.getElem?_modify_eq]

end Standing

/-- The inversion of an edit at one membership held after it. -/
theorem Edit.became {policy : Policy} {s after : Standing} {key : DodagKey} {member : Member}
    (edit : Edit policy s after) (held : after.held[key]? = some member) :
    Became policy s key member := by
  cases edit with
  | elapse later forward => exact .same held
  | attach sockets loopback => exact .same held
  | create absent root keyed expires =>
    rw [Standing.held_create] at held
    split at held
    · next here =>
      cases held
      exact .created (here ▸ absent) root (keyed.trans here.symm) expires
    · exact .same held
  | configure heldBefore root temporary stillRoot keyed stillTemporary =>
    rw [Standing.held_put] at held
    split at held
    · next here =>
      cases held
      exact .configured (here ▸ heldBefore) stillRoot keyed stillTemporary
    · exact .same held
  | repair heldBefore repairs =>
    rw [Standing.held_put] at held
    split at held
    · next here =>
      cases held
      exact .repaired (here ▸ heldBefore) repairs
    · exact .same held
  | settle settled =>
    cases settled with
    | absent absent => exact .same held
    | root heldBefore root =>
      rw [Standing.held_put] at held
      split at held
      · next here =>
        cases held
        exact .heard (here ▸ heldBefore) root
      · exact .same held
    | kept heldBefore notRoot same =>
      rw [Standing.held_put] at held
      split at held
      · next here =>
        cases held
        exact .kept (here ▸ heldBefore) notRoot same
      · exact .same held
    | lost heldBefore notRoot gone =>
      rw [Standing.held_leave] at held
      split at held
      · cases held
      · exact .same held
    | taken heldBefore notRoot found =>
      rw [Standing.mark_held, Standing.held_put] at held
      split at held
      · next here =>
        cases held
        exact .taken (here ▸ heldBefore) notRoot found
      · exact .same held
  | join absent fresh newer enters =>
    rw [Standing.held_join] at held
    split at held
    · next here =>
      cases held
      exact .joined (here ▸ fresh) enters
    · exact .same held
  | migrate heldBefore notRoot lasting fresh discovers enters moves =>
    rw [Standing.held_join, Standing.held_leave] at held
    split at held
    · next here =>
      cases held
      exact .joined (here ▸ fresh) enters
    · exact .same held
  | adopt heldBefore notRoot temporary moves =>
    rw [Standing.adopt, Standing.mark_held, Standing.held_put] at held
    split at held
    · next here =>
      cases held
      exact .adopted (here ▸ heldBefore) notRoot temporary
    · exact .same held
  | arm heldBefore discovers rooted =>
    rw [Standing.held_arm] at held
    split at held
    · next here =>
      rw [heldBefore] at held
      cases held
      exact .armed (here ▸ heldBefore) discovers rooted
    · exact .same held
  | giveUp heldBefore discovers rooted =>
    rw [Standing.held_leave] at held
    split at held
    · cases held
    · exact .same held
  | expire heldBefore expires =>
    rw [Standing.held_leave] at held
    split at held
    · cases held
    · exact .same held

end Rpl
