import Rpl.DaoAttribution
import Rpl.Quiet

/-!
# One DAO for several targets

A DAO may carry the targets of several DAOs, all under its one parent.  Each target is
handled by itself, whatever becomes of those before it, so the tables are in the end what
the DAOs with one target each would have made of them, one after the other.
-/

namespace Rpl

open Std

namespace DaoHeader

/-- A DAO for one entry of another, with a DAO Sequence and a K flag of its own. -/
def single (dao : DaoHeader) (stamp : UInt8 × Bool) (entry : AdditionalTarget) : DaoHeader :=
  { dao with
    sequence := stamp.1
    ackRequested := stamp.2
    target := entry.target
    targetPrefixLength := entry.targetPrefixLength
    pathSequence := entry.pathSequence
    pathLifetime := entry.pathLifetime
    additionalTargets := [] }

/-- The DAOs with one target each that carry the same as the one, in its order. -/
def singles (dao : DaoHeader) (stamps : ℕ → UInt8 × Bool) : List DaoHeader :=
  dao.entries.mapIdx fun i entry => dao.single (stamps i) entry

theorem entries_single (dao : DaoHeader) (stamp : UInt8 × Bool) (entry : AdditionalTarget) :
    (dao.single stamp entry).entries = [entry] := rfl

end DaoHeader

namespace DodagMembership

/-- What an entry does to the membership does not depend on what is to be relayed. -/
theorem handleOneTarget_dodag (context : DaoContext) (progress : DaoProgress)
    (entry : AdditionalTarget) :
    (handleOneTarget context progress entry).dodag =
      (handleOneTarget context { dodag := progress.dodag } entry).dodag := by
  unfold handleOneTarget
  dsimp only
  split
  · rfl
  split
  · rfl
  · rfl

theorem foldl_handleOneTarget_dodag (context : DaoContext) (entries : List AdditionalTarget)
    (progress : DaoProgress) :
    (entries.foldl (handleOneTarget context) progress).dodag =
      (progress.dodag.handleTargets context entries).dodag := by
  unfold handleTargets
  induction entries using List.reverseRecOn with
  | nil => rfl
  | append_singleton entries last ih =>
    rw [List.foldl_concat, List.foldl_concat, handleOneTarget_dodag, ih, ← handleOneTarget_dodag]

/-- The entries one by one, the membership taken up anew after the first. -/
theorem handleTargets_cons (dodag : DodagMembership) (context : DaoContext)
    (entry : AdditionalTarget) (rest : List AdditionalTarget) :
    (dodag.handleTargets context (entry :: rest)).dodag =
      ((dodag.handleTargets context [entry]).dodag.handleTargets context rest).dodag :=
  foldl_handleOneTarget_dodag context rest (dodag.handleTargets context [entry])

end DodagMembership

namespace Node

open DodagMembership

variable {n : Node} {dao : DaoHeader} {sender : Ipv6Address} {interface : Nat} {key : DodagKey}
  {dodag : DodagMembership}

/-- DAOs from one sender, one after the other. -/
def handleDaos (n : Node) (daos : List DaoHeader) (sender : Ipv6Address) (interface : Nat) : Node :=
  daos.foldl (fun n dao => n.handleDao dao sender interface) n

/-- A DAO that is not taken in changes nothing. -/
theorem handleDao_of_not_takes
    (passes : ∀ key dodag, ¬n.TakesDao dao sender key dodag) (interface : Nat) :
    n.handleDao dao sender interface = n := by
  unfold handleDao
  split
  · rfl
  · next key dodag found =>
    refine if_pos (by_contra fun accepts => passes key dodag ⟨found, ?_⟩)
    exact Bool.eq_false_of_not_eq_true accepts

/-- Whether a DAO is taken in depends on the DODAG it names, not on its targets. -/
theorem takesDao_single (stamp : UInt8 × Bool) (entry : AdditionalTarget) :
    n.TakesDao (dao.single stamp entry) sender key dodag ↔ n.TakesDao dao sender key dodag :=
  ⟨fun takes => ⟨takes.found, takes.accepted⟩, fun takes => ⟨takes.found, takes.accepted⟩⟩

/-- The DAOs with one target each do to the membership what its entries together do. -/
theorem handleDaos_singles (interface : Nat) (takes : n.TakesDao dao sender key dodag)
    (entries : List AdditionalTarget) (stamps : ℕ → UInt8 × Bool) :
    ∃ sent, n.handleDaos (entries.mapIdx fun i entry => dao.single (stamps i) entry) sender
        interface =
      (n.setDodag key
        (dodag.handleTargets (n.daoContext dodag dao sender interface) entries).dodag).emit
        sent := by
  induction entries generalizing n dodag stamps with
  | nil => exact ⟨[], (setDodag_self (daoMembership_held takes.found).1).symm⟩
  | cons entry rest ih =>
    obtain ⟨sent, handled⟩ := handleDao_eq interface
      ((takesDao_single (stamps 0) entry).mpr takes)
    rw [DaoHeader.entries_single] at handled
    have tables := dodag.handleTargets_onlyTables (n.daoContext dodag dao sender interface) [entry]
    have cons := dodag.handleTargets_cons (n.daoContext dodag dao sender interface) entry rest
    change n.handleDao _ sender interface = (n.setDodag key (dodag.handleTargets
      (n.daoContext dodag dao sender interface) [entry]).dodag).emit sent at handled
    generalize (dodag.handleTargets (n.daoContext dodag dao sender interface) [entry]).dodag =
      stepped at *
    have sameContext : ((n.setDodag key stepped).emit sent).daoContext stepped dao sender
        interface = n.daoContext dodag dao sender interface := daoContext_setDodag tables sent
    have takesNext : ((n.setDodag key stepped).emit sent).TakesDao dao sender key stepped :=
      { found := daoMembership_setDodag takes.found tables rfl
        accepted := by
          rw [dropsDao, DodagPlace.storing, tables.place]
          exact takes.accepted }
    obtain ⟨further, goesOn⟩ := ih takesNext fun i => stamps (i + 1)
    rw [sameContext] at goesOn
    refine ⟨further ++ sent, ?_⟩
    rw [List.mapIdx_cons, handleDaos, List.foldl_cons, handled]
    refine goesOn.trans ?_
    rw [cons, ← emit_emit]
    simp only [setDodag, emit, OrderedMap.insert_insert]

/-- A DAO for several targets leaves the memberships, with their topologies and downward routes,
as the DAOs with one target each leave them that carry the same one after the other. Whether and
under which number each of those asks for an acknowledgement makes no difference. -/
theorem aggregation_transparent (n : Node) (dao : DaoHeader) (stamps : ℕ → UInt8 × Bool)
    (sender : Ipv6Address) (interface : Nat) :
    (n.recvDao dao.serialize sender interface).dodags =
      ((dao.singles stamps).foldl (fun n single => n.recvDao single.serialize sender interface)
        n).dodags := by
  have received (m : Node) (sent : DaoHeader) :
      m.recvDao sent.serialize sender interface = m.handleDao sent sender interface := by
    rw [recvDao, sent.deserialize_serialize]
  simp only [received]
  change _ = (n.handleDaos (dao.singles stamps) sender interface).dodags
  by_cases takes : ∃ key dodag, n.TakesDao dao sender key dodag
  · obtain ⟨key, dodag, takes⟩ := takes
    obtain ⟨sent, together⟩ := handleDao_eq interface takes
    obtain ⟨sentToo, oneByOne⟩ := handleDaos_singles interface takes dao.entries stamps
    rw [together, DaoHeader.singles, oneByOne]
    rfl
  · have passes : ∀ key dodag, ¬n.TakesDao dao sender key dodag := fun key dodag given =>
      takes ⟨key, dodag, given⟩
    rw [handleDao_of_not_takes passes]
    have idle : ∀ daos : List DaoHeader, (∀ single ∈ daos, ∃ stamp entry,
        single = dao.single stamp entry) → n.handleDaos daos sender interface = n := by
      intro daos
      induction daos with
      | nil => exact fun _ => rfl
      | cons first rest ih =>
        intro each
        obtain ⟨⟨stamp, entry, rfl⟩, others⟩ := List.forall_mem_cons.mp each
        have passed : n.handleDao (dao.single stamp entry) sender interface = n :=
          handleDao_of_not_takes (fun key dodag given =>
            passes key dodag ((takesDao_single stamp entry).mp given)) interface
        rw [handleDaos, List.foldl_cons, passed]
        exact ih others
    rw [idle]
    intro single mem
    obtain ⟨i, _, rfl⟩ := List.mem_mapIdx.mp mem
    exact ⟨_, _, rfl⟩

end Node

end Rpl
