import Rpl.Dio
import Rpl.Lib.LastWins

/-!
# Receiving a DAO

`HandleDao` takes the entries of a DAO one by one into the downward routes of a
Storing router or into the topology of a Non-Storing root, and collects what a
Storing router relays upward.  One entry is one Target with the Path Sequence
and Path Lifetime of its Transit Information; Path Lifetime 0 withdraws.
-/

namespace Rpl

open Std

/-! ## The entries of a DAO -/

namespace DaoHeader

/-- The primary target and the additional ones, in the order they are handled. -/
def entries (dao : DaoHeader) : List AdditionalTarget :=
  { target := dao.target
    targetPrefixLength := dao.targetPrefixLength
    pathSequence := dao.pathSequence
    pathLifetime := dao.pathLifetime } :: dao.additionalTargets

end DaoHeader

/-- `noPath`: the entry withdraws its target. -/
def AdditionalTarget.noPath (entry : AdditionalTarget) : Bool := entry.pathLifetime = 0

/-- How an entry's Path Sequence compares with the one held for its target; a target that
is not held is as good as older. -/
def pathOrder (held : Option UInt8) (pathSequence : UInt8) : SequenceOrder :=
  match held with
  | none => .greater
  | some held => sequenceCompare pathSequence held

/-- The entry is superseded by what is held. -/
def SequenceOrder.stale (order : SequenceOrder) : Bool :=
  order = .less || order = .notComparable

/-- When an entry with this Path Lifetime expires. -/
def pathExpiry (now : Time) (pathLifetime : UInt8) : Time :=
  if pathLifetime = infiniteLifetime then timeMax
  else now + seconds (pathLifetime.toNat * defaultLifetimeUnit.toNat)

/-- What the handling of a DAO knows besides its entries: the node's own address in the
DODAG, the time, the sender with its interface, and the parent the DAO names. -/
structure DaoContext where
  ownAddress : Ipv6Address
  now : Time
  sender : Ipv6Address
  interface : Nat
  parent : Ipv6Address
  deriving DecidableEq, Repr

/-- The targets `handleOneTarget` passes over: no address, the root's, or the node's own. -/
def DodagPlace.rejectsTarget (dodag : DodagPlace) (context : DaoContext) (target : Ipv6Address) :
    Bool :=
  target.isAny || target = dodag.dodagId || target = context.ownAddress

namespace DodagMembership

/-- The downward route an entry installs. -/
def advertisedRoute (context : DaoContext) (entry : AdditionalTarget) : DownwardRoute :=
  { nextHop := context.sender
    interface := context.interface
    pathSequence := entry.pathSequence
    pathLifetime := entry.pathLifetime
    expire := pathExpiry context.now entry.pathLifetime }

/-- One entry at a Storing router: the membership after it, and whether it is news for the
routers above. -/
def storeDownward (dodag : DodagMembership) (context : DaoContext) (entry : AdditionalTarget) :
    DodagMembership × Bool :=
  let held := dodag.downwardRoutes[entry.target]?
  let order := pathOrder (held.map DownwardRoute.pathSequence) entry.pathSequence
  if order.stale then (dodag, false)
  else if entry.noPath then
    ({ dodag with downwardRoutes := dodag.downwardRoutes.erase entry.target }, held.isSome)
  else
    ({ dodag with
        downwardRoutes :=
          dodag.downwardRoutes.insert entry.target (advertisedRoute context entry) },
      order = .greater)

/-- The topology entry an entry installs: every one of them under the parent the DAO names. -/
def advertisedLink (context : DaoContext) (entry : AdditionalTarget) : TopologyEntry :=
  { parent := context.parent
    pathSequence := entry.pathSequence
    expire := pathExpiry context.now entry.pathLifetime }

/-- The topology without the target's entry when that has expired. -/
def withoutExpired (dodag : DodagMembership) (now : Time) (target : Ipv6Address) :
    DodagMembership :=
  if (dodag.topology[target]?).any fun held => held.expire ≤ now then
    { dodag with topology := dodag.topology.erase target }
  else dodag

/-- One entry at a Non-Storing root. -/
def storeTopology (dodag : DodagMembership) (context : DaoContext) (entry : AdditionalTarget) :
    DodagMembership :=
  let dodag := dodag.withoutExpired context.now entry.target
  let held := dodag.topology[entry.target]?
  if (pathOrder (held.map TopologyEntry.pathSequence) entry.pathSequence).stale then dodag
  else if entry.noPath then { dodag with topology := dodag.topology.erase entry.target }
  else
    { dodag with
      topology := dodag.topology.insert entry.target (advertisedLink context entry) }

/-- What the entry loop carries: the membership and what is to be relayed. -/
structure DaoProgress where
  dodag : DodagMembership
  toPropagate : List AdditionalTarget := []

/-- `handleOneTarget`. -/
def handleOneTarget (context : DaoContext) (progress : DaoProgress) (entry : AdditionalTarget) :
    DaoProgress :=
  let dodag := progress.dodag
  if dodag.rejectsTarget context entry.target then progress
  else if dodag.storing then
    let (stored, changed) := dodag.storeDownward context entry
    { dodag := stored
      toPropagate :=
        if changed && !dodag.isRoot then
          progress.toPropagate ++ [{ entry with targetPrefixLength := 128 }]
        else progress.toPropagate }
  else { progress with dodag := dodag.storeTopology context entry }

/-- The entry loop. -/
def handleTargets (dodag : DodagMembership) (context : DaoContext)
    (entries : List AdditionalTarget) : DaoProgress :=
  entries.foldl (handleOneTarget context) { dodag := dodag }

/-- What is relayed: of several entries for one target the last, in the place of the first. -/
def relayedEntries (progress : DaoProgress) : List AdditionalTarget :=
  LastWins.dedup AdditionalTarget.target progress.toPropagate

end DodagMembership

namespace Node

open DodagMembership

/-- The membership accepts DAOs: it is a root's, or a Storing router's. -/
def acceptsDao (dodag : DodagMembership) : Bool := dodag.isRoot || dodag.storing

/-- The membership a DAO is for: the one it names, or the first of its instance when it
names no DODAGID. -/
def daoMembership (n : Node) (dao : DaoHeader) : Option (DodagKey × DodagMembership) :=
  let named : DodagKey := ⟨dao.instanceId, dao.dodagId⟩
  (if dao.dodagId.isAny then n.findDodagByInstance dao.instanceId
  else n.dodags[named]?.map fun dodag => (named, dodag)).filter fun found => acceptsDao found.2

/-- A Storing mode DAO comes from a neighbour. -/
def dropsDao (dodag : DodagMembership) (sender : Ipv6Address) : Bool :=
  dodag.storing && !sender.isLinkLocal

def daoContext (n : Node) (dodag : DodagMembership) (dao : DaoHeader) (sender : Ipv6Address)
    (interface : Nat) : DaoContext :=
  { ownAddress := n.getGlobalAddressIn dodag
    now := n.now
    sender := sender
    interface := interface
    parent := dao.parent }

/-- What a Storing router relays goes up as one DAO, the first entry its primary target. -/
def relayDao (n : Node) (dodag : DodagMembership) (entries : List AdditionalTarget) : Node :=
  match entries with
  | [] => n
  | primary :: rest =>
    n.sendDaoMessage dodag primary.target dodag.daoSequence primary.pathSequence
      primary.pathLifetime false rest

/-- The acknowledgement of a DAO that asks for one: back over the link in Storing mode. -/
def acknowledgeDao (n : Node) (dodag : DodagMembership) (dao : DaoHeader) (sender : Ipv6Address)
    (interface : Nat) : Node :=
  if dao.ackRequested then
    let ack : DaoAckHeader :=
      { instanceId := dodag.instanceId
        dodagId := dodag.dodagId
        sequence := dao.sequence
        status := 0 }
    if dodag.storing then n.sendRplMessageOn interface (.daoAck ack) sender
    else n.sendRplMessageUnicast (.daoAck ack) sender
  else n

/-- `HandleDao`. -/
def handleDao (n : Node) (dao : DaoHeader) (sender : Ipv6Address) (interface : Nat) : Node :=
  match n.daoMembership dao with
  | none => n
  | some (key, dodag) =>
    if dropsDao dodag sender then n
    else
      let progress := dodag.handleTargets (n.daoContext dodag dao sender interface) dao.entries
      let n := n.setDodag key progress.dodag
      (n.relayDao progress.dodag (relayedEntries progress)).acknowledgeDao progress.dodag dao
        sender interface

/-- `HandleDaoAck`: only the acknowledgement of the last DAO, with status 0, counts. -/
def handleDaoAck (n : Node) (ack : DaoAckHeader) : Node :=
  let key : DodagKey := ⟨ack.instanceId, ack.dodagId⟩
  match n.dodags[key]? with
  | none => n
  | some dodag =>
    if ack.sequence = dodag.daoSequence ∧ ack.status = 0 then
      n.modifyDodag key fun dodag => { dodag with daoAckPending := false, daoRetryEvent := none }
    else n

end Node

end Rpl
