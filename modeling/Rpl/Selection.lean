import Rpl.DioSend

/-!
# Leaving a DODAG and selecting a parent

`LeaveDodag` ends a membership and keeps what has to outlive it: the Path
Sequence, the lowest rank held in the Version, the bar on rejoining a discovery.
`SelectPreferredParent` sweeps the neighbour table, takes the parent chosen, and
leaves the DODAG when there is none.
-/

namespace Rpl

open Std

namespace Node

/-! ## Leaving -/

/-- The membership advertises INFINITE_RANK once, on the way out. -/
def poisonDodag (n : Node) (key : DodagKey) : Node :=
  (n.modifyPlace key fun place =>
    { place with rank := infiniteRank, pathEtx := UInt16.ofNat mrhofMaxPathCost }).sendDio
      key allNodesMulticast 0

/-- The records kept of the Versions left, with one for the Version held now: the expired
ones and an older one of this Version go, and the oldest when there are too many. -/
def retainRank (records : List RetainedRank) (dodag : DodagPlace) (now : Time) :
    List RetainedRank :=
  let imax := dodag.dioIntervalMin * 2 ^ (min dodag.dioIntervalDoublings 30).toNat
  let kept := records.filter fun record =>
    !(record.expires ≤ now || record.version = dodag.version)
  let records := kept ++ [⟨dodag.version, dodag.lowestRankThisVersion, now + 2 * imax⟩]
  if retainedVersions < records.length then records.tail else records

/-- What outlives a membership that is not temporary. -/
def retainDodag (n : Node) (key : DodagKey) (dodag : DodagMembership) : Node :=
  { n with
    retainedPathSequence := n.retainedPathSequence.insert key dodag.pathSequence
    retainedRank :=
      n.retainedRank.insert key
        (retainRank (n.retainedRank[key]?.getD []) dodag.toDodagPlace n.now) }

/-- Another membership, not temporary, becomes the base DODAG, or none does. -/
def promoteBase (n : Node) : Node :=
  match OrderedMap.first (fun _ survivor => !survivor.isTemporary) n.dodags with
  | some (survivorKey, _) => { n with hasBaseDodag := true, baseDodagKey := survivorKey }
  | none => { n with hasBaseDodag := false }

/-- The membership and its timers go, and what outlives it is kept. -/
def eraseDodag (n : Node) (key : DodagKey) (dodag : DodagMembership) : Node :=
  let n :=
    if dodag.aodv.target.isAny then n
    else
      { n with
        aodvRejoinBlocked := n.aodvRejoinBlocked.insert key
          (n.now + n.attributes.aodvRejoinReenable) }
  let n := if dodag.isTemporary then n else n.retainDodag key dodag
  ({ n with dodags := n.dodags.erase key }).mark (.left key n.now dodag.imax)

/-- `LeaveDodag`. Only a poisoning leave gives the base DODAG away. -/
def leaveDodag (n : Node) (key : DodagKey) (poison : Bool) : Node :=
  match n.dodags[key]? with
  | none => n
  | some dodag =>
    let n := if poison then n.poisonDodag key else n
    let n := n.eraseDodag key dodag
    if poison && n.hasBaseDodag && n.baseDodagKey = key then n.promoteBase else n

/-! ## Selecting -/

/-- The sweep of `SelectPreferredParent`. It reaches the preferred parent with the stale
neighbours before it already gone, and withdraws through it before erasing it. -/
def sweepParents (n : Node) (key : DodagKey) : Node :=
  match n.dodags[key]? with
  | none => n
  | some dodag =>
    let withdrawn :=
      if dodag.preferredEntry.any (dodag.stale n.now) then
        (n.modifyPlace key fun place =>
          place.sweep n.now (· < dodag.preferredParent)).sendNoPathDao key dodag.preferredParent
      else n
    withdrawn.modifyPlace key fun place => place.sweep n.now fun _ => true

/-- A solicitation within the second, unless one is already coming. -/
def scheduleSolicitation (n : Node) : Node :=
  if n.disRefreshPending then n
  else
    let (delay, n) := n.drawJitter
    { n with disRefreshPending := true, disTimer := some (n.now + delay) }

/-- A DAO within the second, unless one is already coming. -/
def scheduleDaoRefresh (n : Node) (key : DodagKey) : Node :=
  match n.dodags[key]? with
  | none => n
  | some dodag =>
    if dodag.daoRefreshPending then n
    else
      let (delay, n) := n.drawJitter
      n.modifyDodag key fun dodag =>
        { dodag with daoRefreshPending := true, daoEvent := some (n.now + delay) }

/-- A withdrawal through a parent that is still a neighbour. -/
def withdrawThrough (n : Node) (key : DodagKey) (parent : Ipv6Address) : Node :=
  match n.dodags[key]? with
  | none => n
  | some dodag =>
    if !parent.isAny && dodag.parents.contains parent then n.sendNoPathDao key parent else n

/-- No neighbour is left to be a parent. -/
def loseLastParent (n : Node) (key : DodagKey) (dodag : DodagMembership) : Node :=
  ((n.withdrawThrough key dodag.preferredParent).leaveDodag key true).scheduleSolicitation

/-- The DAO exchange follows a parent switch: out through the old parent, then in through
the new one. -/
def switchParent (n : Node) (key : DodagKey) (oldPreferredParent : Ipv6Address) : Node :=
  ((n.withdrawThrough key oldPreferredParent).modifyDodag key fun dodag =>
    { dodag with pathSequence := sequenceIncrement dodag.pathSequence }).scheduleDaoRefresh key

/-- The chosen parent is taken. -/
def takeParent (n : Node) (key : DodagKey) (dodag : DodagMembership) (best : Candidate) : Node :=
  let adopted := dodag.adoptParent best
  let n := (n.modifyPlace key fun _ => adopted).mark (.ranked key adopted.rank)
  if best.address ≠ dodag.preferredParent ∧ ¬dodag.isTemporary then
    n.switchParent key dodag.preferredParent
  else n

/-- `SelectPreferredParent`: whether the node's place in the DODAG changed, and the node
after it. -/
def selectPreferredParent (n : Node) (key : DodagKey) : Bool × Node :=
  match n.dodags[key]? with
  | none => (false, n)
  | some dodag =>
    if dodag.isRoot then (false, n)
    else
      let n := n.sweepParents key
      match n.dodags[key]? with
      | none => (false, n)
      | some dodag =>
        let best := dodag.chooseParent
        if !dodag.selectionChanged best then (false, n)
        else if best.address.isAny then (true, n.loseLastParent key dodag)
        else (true, n.takeParent key dodag best)

/-! ## What selects besides a DIO -/

/-- The parent selection reported a change: the DODAG's Trickle timer starts over. -/
def resetTrickle (n : Node) (key : DodagKey) : Node :=
  n.modifyDodag key fun dodag => { dodag with dioTrickle := dodag.dioTrickle.reset n.now }

/-- `SelectPreferredParent` followed by a Trickle reset when it reports a change. -/
def selectAndReset (n : Node) (key : DodagKey) : Node :=
  let (changed, n) := n.selectPreferredParent key
  if changed then n.resetTrickle key else n

/-- `DioTrickleFire`. -/
def dioTrickleFire (n : Node) (key : DodagKey) : Node :=
  (n.selectPreferredParent key).2.sendDio key allNodesMulticast 0

/-- One membership of a node whose interface stops: the neighbours heard on it go. -/
def stopInterfaceIn (interface : Nat) (n : Node) (key : DodagKey) : Node :=
  (n.modifyPlace key fun place =>
    { place with
      parents := OrderedMap.eraseIf (fun _ parent => parent.interface = interface) place.parents }
    ).selectAndReset key

/-- `StopInterface`. -/
def stopInterface (n : Node) (interface : Nat) : Node :=
  if interface ∈ n.sockets then
    let n := { n with sockets := n.sockets.erase interface }
    n.dodags.keys.foldl (stopInterfaceIn interface) n
  else n

/-- `StartInterface`: deferred until the interface has a link-local address. -/
def startInterface (n : Node) (interface : Nat) : Node :=
  if interface ∈ n.sockets || (n.ipv6.getLinkLocalAddress interface).isAny then n
  else { n with sockets := n.sockets.insert interface }

end Node

end Rpl
