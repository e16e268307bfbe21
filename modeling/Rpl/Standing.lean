import Rpl.Emit
import Rpl.Step

/-!
# Where a node stands

A node's standing is the part of its state that says which DODAGs it is in and
where in each of them: the places of its memberships with the timers that may end
or move them, the records of Versions left, the base DODAG, and the history.  It
leaves out everything that messages, DAO state and discoveries are made of.

The operations below are what joining, leaving and selecting a parent mean for a
standing.  That the functions of the protocol do exactly this is shown at the end
for `LeaveDodag` and `SelectPreferredParent`, and in the modules that follow for
the rest.
-/

namespace Rpl

open Std

/-! ## Standings -/

/-- A membership as its standing sees it. -/
structure Member where
  place : DodagPlace
  /-- A discovery deadline runs, of AODV-RPL or of P2P-RPL. -/
  expires : Bool
  /-- The global repair timer runs. -/
  repairs : Bool

/-- What of a membership its standing sees. -/
def DodagMembership.member (dodag : DodagMembership) : Member :=
  { place := dodag.toDodagPlace
    expires := dodag.aodv.expiry.isRunning || dodag.p2p.expiry.isRunning
    repairs := dodag.globalRepairEvent.isRunning }

@[simp] theorem DodagMembership.member_place (dodag : DodagMembership) :
    dodag.member.place = dodag.toDodagPlace := rfl

/-- Which DODAGs a node is in, and where. -/
structure Standing where
  now : Time
  sockets : ExtTreeSet Nat
  held : ExtTreeMap DodagKey Member
  retained : ExtTreeMap DodagKey (List RetainedRank)
  base : Option DodagKey
  history : List Milestone

namespace Standing

def put (s : Standing) (key : DodagKey) (member : Member) : Standing :=
  { s with held := s.held.insert key member }

def modify (s : Standing) (key : DodagKey) (f : Member → Member) : Standing :=
  { s with held := s.held.modify key f }

def mark (s : Standing) (milestone : Milestone) : Standing :=
  { s with history := milestone :: s.history }

/-! ## Leaving -/

/-- The first membership that is not temporary becomes the base DODAG, or none does. -/
def promote (s : Standing) : Standing :=
  { s with
    base := (OrderedMap.first (fun _ member => !member.place.isTemporary) s.held).map Prod.fst }

/-- The records after the membership is left; a temporary one leaves none. -/
def recordsAfter (s : Standing) (key : DodagKey) (member : Member) :
    ExtTreeMap DodagKey (List RetainedRank) :=
  if member.place.isTemporary then s.retained
  else s.retained.insert key (Node.retainRank (s.retained[key]?.getD []) member.place s.now)

/-- A membership is left. Only a poisoning leave gives the base DODAG away. -/
def leave (s : Standing) (key : DodagKey) (poison : Bool) : Standing :=
  match s.held[key]? with
  | none => s
  | some member =>
    let left : Standing :=
      { s with
        held := s.held.erase key
        retained := s.recordsAfter key member
        history := .left key s.now member.place.imax :: s.history }
    if poison ∧ s.base = some key then left.promote else left

/-! ## Selecting a parent -/

/-- The place after the sweep. -/
def swept (s : Standing) (member : Member) : DodagPlace :=
  member.place.sweep s.now fun _ => true

/-- A membership takes the parent its table gives, or is left when it gives none. -/
def select (s : Standing) (key : DodagKey) : Standing :=
  match s.held[key]? with
  | none => s
  | some member =>
    if member.place.isRoot then s
    else
      let place := s.swept member
      let best := place.chooseParent
      if !place.selectionChanged best then s.put key { member with place := place }
      else if best.address.isAny then (s.put key { member with place := place }).leave key true
      else
        (s.put key { member with place := place.adoptParent best }).mark
          (.ranked key (place.adoptParent best).rank)

/-! ## Joining -/

/-- The records of Versions of a DODAG that have not expired. -/
def unexpired (s : Standing) (key : DodagKey) : List RetainedRank :=
  (s.retained[key]?.getD []).filter fun record => s.now < record.expires

/-- L at the start of a membership: what the last unexpired record of the Version says. -/
def retainedLowest (s : Standing) (key : DodagKey) (version : UInt8) : UInt16 :=
  (((s.unexpired key).filter (·.version = version)).getLast?.map
    RetainedRank.lowestRank).getD infiniteRank

/-- A place as `JoinDodag` makes it: nothing is heard yet, and no rank is taken. -/
structure Fresh (s : Standing) (key : DodagKey) (place : DodagPlace) : Prop where
  keyed : place.key = key
  notRoot : place.isRoot = false
  rank : place.rank = infiniteRank
  parents : place.parents = ∅
  preferredParent : place.preferredParent = anyAddress
  lowest : place.lowestRankThisVersion = s.retainedLowest key place.version

/-- A DODAG that is not temporary becomes the base DODAG when there is none. -/
def claimBase (s : Standing) (key : DodagKey) (place : DodagPlace) : Standing :=
  if s.base.isNone && !place.isTemporary then { s with base := some key } else s

/-- A DODAG is joined. -/
def join (s : Standing) (key : DodagKey) (place : DodagPlace) : Standing :=
  ((s.put key { place := place, expires := false, repairs := false }).mark
    (.joined key s.now place.version place.mop (s.unexpired key))).claimBase key place

/-- A DODAG this node is the root of comes into being. -/
def create (s : Standing) (key : DodagKey) (member : Member) : Standing :=
  (s.put key member).claimBase key member.place

/-- A membership moves to another Version in place. -/
def adopt (s : Standing) (key : DodagKey) (member : Member) (version : UInt8) : Standing :=
  (s.put key { member with place := { member.place with version := version } }).mark
    (.joined key s.now version member.place.mop (s.unexpired key))

/-- The neighbour table of a membership changes. -/
def withParents (s : Standing) (key : DodagKey)
    (f : ExtTreeMap Ipv6Address Parent → ExtTreeMap Ipv6Address Parent) : Standing :=
  s.modify key fun member =>
    { member with place := { member.place with parents := f member.place.parents } }

/-- A discovery deadline is set. -/
def arm (s : Standing) (key : DodagKey) : Standing :=
  s.modify key fun member => { member with expires := true }

/-! ### What the operations leave alone -/

section Projections

variable (s : Standing) (key : DodagKey) (member : Member) (place : DodagPlace)
  (milestone : Milestone)

@[simp] theorem put_now : (s.put key member).now = s.now := rfl
@[simp] theorem put_sockets : (s.put key member).sockets = s.sockets := rfl
@[simp] theorem put_held : (s.put key member).held = s.held.insert key member := rfl
@[simp] theorem put_retained : (s.put key member).retained = s.retained := rfl
@[simp] theorem put_base : (s.put key member).base = s.base := rfl
@[simp] theorem put_history : (s.put key member).history = s.history := rfl

@[simp] theorem mark_now : (s.mark milestone).now = s.now := rfl
@[simp] theorem mark_sockets : (s.mark milestone).sockets = s.sockets := rfl
@[simp] theorem mark_held : (s.mark milestone).held = s.held := rfl
@[simp] theorem mark_retained : (s.mark milestone).retained = s.retained := rfl
@[simp] theorem mark_base : (s.mark milestone).base = s.base := rfl
@[simp] theorem mark_history : (s.mark milestone).history = milestone :: s.history := rfl

@[simp] theorem promote_now : s.promote.now = s.now := rfl
@[simp] theorem promote_sockets : s.promote.sockets = s.sockets := rfl
@[simp] theorem promote_held : s.promote.held = s.held := rfl
@[simp] theorem promote_retained : s.promote.retained = s.retained := rfl
@[simp] theorem promote_history : s.promote.history = s.history := rfl

@[simp] theorem claimBase_now : (s.claimBase key place).now = s.now := by
  unfold claimBase; split <;> rfl

@[simp] theorem claimBase_sockets : (s.claimBase key place).sockets = s.sockets := by
  unfold claimBase; split <;> rfl

@[simp] theorem claimBase_held : (s.claimBase key place).held = s.held := by
  unfold claimBase; split <;> rfl

@[simp] theorem claimBase_retained : (s.claimBase key place).retained = s.retained := by
  unfold claimBase; split <;> rfl

@[simp] theorem claimBase_history : (s.claimBase key place).history = s.history := by
  unfold claimBase; split <;> rfl

end Projections

theorem leave_of_absent {s : Standing} {key : DodagKey} {poison : Bool}
    (absent : s.held[key]? = none) : s.leave key poison = s := by
  rw [leave, absent]

/-- What the neighbour table was does not matter to a leave. -/
theorem put_leave {s : Standing} {key : DodagKey} {member other : Member} {poison : Bool}
    (held : s.held[key]? = some other)
    (samePlace : member.place = { other.place with parents := member.place.parents }) :
    (s.put key member).leave key poison = s.leave key poison := by
  have temporary : member.place.isTemporary = other.place.isTemporary := by
    rw [samePlace]
    rfl
  have imax : member.place.imax = other.place.imax := by
    rw [samePlace]
    rfl
  have records : ∀ kept now, Node.retainRank kept member.place now =
      Node.retainRank kept other.place now := by
    intro kept now
    rw [samePlace]
    rfl
  simp only [leave, put, held, ExtTreeMap.getElem?_insert_self, OrderedMap.erase_insert,
    recordsAfter, temporary, imax, records]

theorem put_put {s : Standing} {key : DodagKey} {first second : Member} :
    (s.put key first).put key second = s.put key second := by
  simp only [put, OrderedMap.insert_insert]

end Standing

/-! ## The standing of a node -/

namespace Node

open Standing

def standing (n : Node) : Standing :=
  { now := n.now
    sockets := n.sockets
    held := n.dodags.map fun _ dodag => dodag.member
    retained := n.retainedRank
    base := if n.hasBaseDodag then some n.baseDodagKey else none
    history := n.history }

@[simp] theorem standing_now (n : Node) : n.standing.now = n.now := rfl
@[simp] theorem standing_sockets (n : Node) : n.standing.sockets = n.sockets := rfl
@[simp] theorem standing_retained (n : Node) : n.standing.retained = n.retainedRank := rfl
@[simp] theorem standing_history (n : Node) : n.standing.history = n.history := rfl

@[simp] theorem standing_held (n : Node) (key : DodagKey) :
    n.standing.held[key]? = n.dodags[key]?.map DodagMembership.member :=
  ExtTreeMap.getElem?_map

theorem held_member {n : Node} {key : DodagKey} {dodag : DodagMembership}
    (held : n.dodags[key]? = some dodag) : n.standing.held[key]? = some dodag.member := by
  rw [standing_held, held, Option.map_some]

@[simp] theorem standing_emit (n : Node) (sent : List Output) :
    (n.emit sent).standing = n.standing := rfl

@[simp] theorem standing_log (n : Node) (output : Output) : (n.log output).standing = n.standing :=
  rfl

@[simp] theorem standing_mark (n : Node) (milestone : Milestone) :
    (n.mark milestone).standing = n.standing.mark milestone := rfl

@[simp] theorem standing_setDodag (n : Node) (key : DodagKey) (dodag : DodagMembership) :
    (n.setDodag key dodag).standing = n.standing.put key dodag.member := by
  simp only [standing, setDodag, Standing.put, OrderedMap.map_insert]
  rfl

/-- A membership put back with its place and its timers as they were. -/
theorem standing_setDodag_same {n : Node} {key : DodagKey} {dodag other : DodagMembership}
    (held : n.dodags[key]? = some dodag) (same : other.member = dodag.member) :
    (n.setDodag key other).standing = n.standing := by
  rw [standing_setDodag, same, Standing.put, OrderedMap.insert_held (held_member held)]

theorem standing_modifyDodag {n : Node} {key : DodagKey} {f : DodagMembership → DodagMembership}
    {g : Member → Member} (follows : ∀ dodag, (f dodag).member = g dodag.member) :
    (n.modifyDodag key f).standing = n.standing.modify key g := by
  simp only [standing, modifyDodag, Standing.modify, OrderedMap.map_modify follows]
  rfl

/-- A membership rewritten outside its place and its timers. -/
theorem standing_modifyDodag_same {n : Node} {key : DodagKey}
    {f : DodagMembership → DodagMembership} (same : ∀ dodag, (f dodag).member = dodag.member) :
    (n.modifyDodag key f).standing = n.standing := by
  rw [standing_modifyDodag (g := id) same, Standing.modify]
  have unchanged : n.standing.held.modify key id = n.standing.held := by
    refine ExtTreeMap.ext_getElem? fun other => ?_
    rw [OrderedMap.getElem?_modify_eq, Option.map_id]
    split
    · next here => rw [here]; rfl
    · rfl
  rw [unchanged]

/-- The same of one membership, as it is held. -/
theorem standing_modifyDodag_held {n : Node} {key : DodagKey} {dodag : DodagMembership}
    {f : DodagMembership → DodagMembership} (held : n.dodags[key]? = some dodag)
    (same : (f dodag).member = dodag.member) : (n.modifyDodag key f).standing = n.standing := by
  have written : n.modifyDodag key f = n.setDodag key (f dodag) := by
    rw [modifyDodag, OrderedMap.modify_of_held held, setDodag]
  rw [written, standing_setDodag_same held same]

theorem standing_modifyPlace (n : Node) (key : DodagKey) (f : DodagPlace → DodagPlace) :
    (n.modifyPlace key f).standing =
      n.standing.modify key fun member => { member with place := f member.place } :=
  standing_modifyDodag fun _ => rfl

end Node

end Rpl
