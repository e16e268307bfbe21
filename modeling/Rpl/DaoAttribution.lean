import Rpl.DaoTarget
import Rpl.DaoCodec

/-!
# Whose Transit Information a target gets

A DAO may carry several Target options, each followed by its own Transit
Information option.  A Non-Storing root takes Path Sequence and Path Lifetime of
each target from the option that follows it.  The parent address is one for the
whole message, that of the first pair: the header has a single field for it, as
every DAO this module sends has a single parent to report.
-/

namespace Rpl

open Std

/-- A DAO as `RecvRpl` hands it on: decoded, and dropped when it cannot be. -/
def Node.recvDao (n : Node) (octets : List UInt8) (sender : Ipv6Address) (interface : Nat) :
    Node :=
  match DaoHeader.deserialize octets with
  | none => n
  | some dao => n.handleDao dao sender interface

namespace TransitPair

/-- The topology entry of the pair's target after the pair, where `parentOf` says which parent
address a pair is stored with: an expired entry is forgotten first, a superseded pair
changes nothing, Path Lifetime 0 withdraws. -/
def takePair (now : Time) (parentOf : TransitPair → Ipv6Address) (held : Option TopologyEntry)
    (pair : TransitPair) : Option TopologyEntry :=
  let held := held.filter fun link => now < link.expire
  if (pathOrder (held.map TopologyEntry.pathSequence) pair.pathSequence).stale then held
  else if pair.pathLifetime = 0 then none
  else
    some
      { parent := parentOf pair
        pathSequence := pair.pathSequence
        expire := pathExpiry now pair.pathLifetime }

/-- The topology entry of a target after the pairs of a DAO. -/
def takePairs (now : Time) (parentOf : TransitPair → Ipv6Address) (target : Ipv6Address)
    (held : Option TopologyEntry) (pairs : List TransitPair) : Option TopologyEntry :=
  (pairs.filter fun pair => pair.target = target).foldl (takePair now parentOf) held

/-- The parent address of the first pair. -/
def sharedParent (pairs : List TransitPair) : Ipv6Address :=
  (pairs.head?.map TransitPair.parent).getD anyAddress

end TransitPair

/-! ## The entries of a decoded DAO -/

namespace DaoHeader

/-- A decoded base without options. -/
def ofBase (base : DaoBase) : DaoHeader :=
  { instanceId := base.instanceId
    ackRequested := base.flags &&& daoKFlag ≠ 0
    sequence := base.sequence
    dodagId := if base.flags &&& daoDFlag ≠ 0 then base.dodagId else anyAddress }

theorem withPairs_parent (base : DaoBase) (pairs : List TransitPair) :
    ((ofBase base).withPairs pairs).parent = TransitPair.sharedParent pairs := by
  cases pairs with
  | nil => rfl
  | cons first rest => rfl

/-- Every pair is one entry; without any, the one entry names no target. -/
theorem entriesFor_withPairs (base : DaoBase) (pairs : List TransitPair) {target : Ipv6Address}
    (named : target.isAny = false) :
    DodagMembership.entriesFor target ((ofBase base).withPairs pairs).entries =
      (pairs.filter fun pair => pair.target = target).map TransitPair.entry := by
  cases pairs with
  | nil =>
    have other : ¬anyAddress = target := by
      rintro rfl
      exact absurd named (by decide)
    have entries : ((ofBase base).withPairs []).entries =
        [{ target := anyAddress, pathLifetime := defaultLifetime }] := rfl
    rw [entries]
    simp [DodagMembership.entriesFor, other]
  | cons first rest =>
    have entries : ((ofBase base).withPairs (first :: rest)).entries =
        (first :: rest).map TransitPair.entry := by
      simp [withPairs, ofBase, DaoHeader.entries, TransitPair.entry]
    rw [entries, DodagMembership.entriesFor, List.filter_map]
    rfl

end DaoHeader

/-! ## At a Non-Storing root -/

namespace DodagMembership

/-- Outside Storing mode the entries for a target that is not passed over go into its topology
entry alone. -/
theorem foldl_takeEntry_link {place : DodagPlace} {context : DaoContext}
    {entries : List AdditionalTarget} (nonStoring : place.storing = false) {target : Ipv6Address}
    (taken : place.rejectsTarget context target = false)
    (only : ∀ entry ∈ entries, entry.target = target) (seen : TargetView) :
    (entries.foldl (takeEntry place context) seen).link =
      entries.foldl (takeLink context) seen.link := by
  induction entries generalizing seen with
  | nil => rfl
  | cons entry rest ih =>
    rw [List.forall_mem_cons] at only
    have step : takeEntry place context seen entry =
        { seen with link := takeLink context seen.link entry } := by
      rw [takeEntry, if_neg (by rw [only.1, taken]; exact Bool.false_ne_true),
        if_neg (by rw [nonStoring]; exact Bool.false_ne_true)]
    rw [List.foldl_cons, step, ih only.2]
    rfl

end DodagMembership

namespace Node

open DodagMembership

variable {n : Node} {sender : Ipv6Address} {key : DodagKey} {dodag : DodagMembership}

/-- A root stores each target with the Path Sequence and the Path Lifetime of its own Transit
Information option, under the parent address of the message's first one. -/
theorem recvDao_topology (base : DaoBase) (pairs : List TransitPair) (interface : Nat)
    {dao : DaoHeader} (decoded : DaoHeader.deserialize (base.message pairs) = some dao)
    (takes : n.TakesDao dao sender key dodag) (nonStoring : dodag.storing = false)
    (target : Ipv6Address)
    (accepted : dodag.rejectsTarget (n.daoContext dodag dao sender interface) target = false) :
    ∃ after, (n.recvDao (base.message pairs) sender interface).dodags[key]? = some after ∧
      after.topology[target]? =
        TransitPair.takePairs n.now (fun _ => TransitPair.sharedParent pairs) target
          dodag.topology[target]? pairs := by
  obtain rfl : (DaoHeader.ofBase base).withPairs pairs = dao :=
    Option.some_inj.mp ((DaoHeader.deserialize_message base pairs).symm.trans decoded)
  obtain ⟨sent, result⟩ := handleDao_eq interface takes
  have received : n.recvDao (base.message pairs) sender interface =
      n.handleDao ((DaoHeader.ofBase base).withPairs pairs) sender interface := by
    rw [recvDao, decoded]
  refine ⟨_, by
    rw [received, result, emit_dodags, setDodag, OrderedMap.getElem?_insert_eq, if_pos rfl], ?_⟩
  have named : target.isAny = false := by
    by_contra unnamed
    rw [Bool.not_eq_false] at unnamed
    simp [DodagPlace.rejectsTarget, unnamed] at accepted
  have view := congrArg TargetView.link
    (handleTargets_view dodag (n.daoContext dodag ((DaoHeader.ofBase base).withPairs pairs) sender
      interface) ((DaoHeader.ofBase base).withPairs pairs).entries target)
  rw [foldl_takeEntry_link nonStoring accepted fun _ mem => target_of_mem_entriesFor mem,
    DaoHeader.entriesFor_withPairs base pairs named, List.foldl_map] at view
  have step : (fun held (pair : TransitPair) => takeLink
        (n.daoContext dodag ((DaoHeader.ofBase base).withPairs pairs) sender interface) held
        pair.entry) =
      TransitPair.takePair n.now fun _ => TransitPair.sharedParent pairs := by
    funext held pair
    have withdraws : (pair.entry.noPath = true) = (pair.pathLifetime = 0) :=
      decide_eq_true_eq
    simp only [takeLink, TransitPair.takePair, liveLink, advertisedLink, daoContext, withdraws,
      DaoHeader.withPairs_parent]
    rfl
  rw [step] at view
  exact view

/-! ### Two pairs with different parents -/

/-- The root 2001:db8::1 in Non-Storing mode. -/
def collectingDodag : DodagMembership :=
  { dodagId := 0x20010db8000000000000000000000001#128
    isRoot := true
    mop := mopNonStoring
    rank := 128 }

def collectingRoot : Node := inDodag (.ofInterfaces [{}, {}]) collectingDodag

def collectedBase : DaoBase :=
  { instanceId := 0
    flags := daoDFlag
    sequence := 1
    dodagId := 0x20010db8000000000000000000000001#128 }

/-- Two nodes, each under a parent of its own. -/
def collectedPairs : List TransitPair :=
  [{ targetPrefixLength := 128
     target := 0x20010db8000000000000000000000008#128
     pathSequence := 1
     pathLifetime := 30
     parent := 0x20010db8000000000000000000000002#128 },
   { targetPrefixLength := 128
     target := 0x20010db8000000000000000000000009#128
     pathSequence := 1
     pathLifetime := 30
     parent := 0x20010db8000000000000000000000003#128 }]

theorem collectingRoot_takesDao (sender : Ipv6Address) :
    collectingRoot.TakesDao ((DaoHeader.ofBase collectedBase).withPairs collectedPairs) sender
      collectingDodag.key collectingDodag where
  found := daoMembership_of_named (by decide +kernel)
    (by exact inDodag_dodags_self _ collectingDodag) rfl
  accepted := rfl

/-- The second target is stored under the parent of the first. -/
theorem collectedPairs_second_parent :
    DaoHeader.deserialize (collectedBase.message collectedPairs) =
        some ((DaoHeader.ofBase collectedBase).withPairs collectedPairs) ∧
      collectingRoot.TakesDao ((DaoHeader.ofBase collectedBase).withPairs collectedPairs)
        0x20010db8000000000000000000000002#128 collectingDodag.key collectingDodag ∧
      collectingDodag.storing = false ∧
      ((collectingRoot.recvDao (collectedBase.message collectedPairs)
          0x20010db8000000000000000000000002#128 1).dodags[collectingDodag.key]?.bind fun after =>
        after.topology[(0x20010db8000000000000000000000009#128 : Ipv6Address)]?) ≠
        TransitPair.takePairs collectingRoot.now TransitPair.parent
          0x20010db8000000000000000000000009#128
          collectingDodag.topology[(0x20010db8000000000000000000000009#128 : Ipv6Address)]?
          collectedPairs :=
  ⟨DaoHeader.deserialize_message .., collectingRoot_takesDao _, rfl, by decide +kernel⟩

/-- It is stored, with its own Path Sequence and lifetime. -/
theorem collectedPairs_second_stored :
    ∃ after, (collectingRoot.recvDao (collectedBase.message collectedPairs)
        0x20010db8000000000000000000000002#128 1).dodags[collectingDodag.key]? = some after ∧
      after.topology[(0x20010db8000000000000000000000009#128 : Ipv6Address)]? =
        some
          { parent := 0x20010db8000000000000000000000002#128
            pathSequence := 1
            expire := seconds 1800 } := by
  obtain ⟨after, held, stored⟩ := recvDao_topology collectedBase collectedPairs 1
    (DaoHeader.deserialize_message ..)
    (collectingRoot_takesDao 0x20010db8000000000000000000000002#128) rfl
    0x20010db8000000000000000000000009#128 (by decide +kernel)
  exact ⟨after, held, stored.trans (by decide +kernel)⟩

end Node

end Rpl
