import Rpl.Tables

/-!
# Parent selection

What `SelectPreferredParent` computes from one membership, before anything is
sent: which neighbours are stale, the bound a candidate's rank must stay under,
the passes over the neighbour table, the hysteresis of MRHOF, and the ranks the
node then takes.  `Candidate` is the triple the source carries through the loops,
its address `::` while no neighbour has been taken.
-/

namespace Rpl

open Std

/-- `PathCostViaParent`. -/
def Parent.pathCost (parent : Parent) : Nat := parent.pathEtx.toNat + parent.etx.toNat

/-- Heard often enough. -/
def Parent.fresh (parent : Parent) : Bool := freshnessTarget ≤ parent.freshness

/-- `UpdateLinkEtx`: the first sample is taken as it is, later ones are smoothed in. -/
def Parent.updateLinkEtx (parent : Parent) (sample : UInt16) : Parent :=
  { parent with
    etx :=
      if parent.freshness ≤ 1 then sample
      else parent.etx - (parent.etx >>> 3) + (sample >>> 3) }

/-- `LinkEtxFromPacket`: from the link quality indicator the frame is tagged with, if it is. -/
def linkEtxFromPacket (lqi : Option UInt8) : UInt16 :=
  match lqi with
  | none => etxFixedPoint
  | some lqi =>
    if lqi = 0 then mrhofMaxLinkMetric
    else
      UInt16.ofNat (min (255 * etxFixedPoint.toNat / lqi.toNat) mrhofMaxLinkMetric.toNat)

/-- A 32-bit rank as the 16-bit field holds it, INFINITE_RANK from there on. -/
def clampRank (rank : Nat) : UInt16 :=
  if infiniteRank.toNat ≤ rank then infiniteRank else UInt16.ofNat rank

/-- What the loops of `SelectPreferredParent` carry: `best`, `bestRank`, `bestPathCost`. -/
structure Candidate where
  address : Ipv6Address := anyAddress
  rank : UInt16 := infiniteRank
  pathCost : Nat := 4294967295
  deriving DecidableEq, Repr

namespace DodagPlace

/-! ## Ranks -/

/-- `RankViaParent`. -/
def rankViaParent (dodag : DodagPlace) (parent : Parent) : UInt16 :=
  if parent.rank = infiniteRank then infiniteRank
  else
    let rank := parent.rank.toNat + dodag.minHopRankIncrease.toNat
    if dodag.ocp = ocpMrhof then clampRank (max rank parent.pathCost) else clampRank rank

/-! ## The sweep -/

/-- Imax. -/
def maxInterval (dodag : DodagPlace) : Time :=
  dodag.dioIntervalMin * 2 ^ dodag.dioIntervalDoublings.toNat

/-- `imax` of `LeaveDodag`. -/
def imax (dodag : DodagPlace) : Time :=
  dodag.dioIntervalMin * 2 ^ (min dodag.dioIntervalDoublings 30).toNat

/-- A neighbour silent for two maximum intervals; temporary DODAGs have no such thing. -/
def stale (dodag : DodagPlace) (now : Time) (parent : Parent) : Bool :=
  !dodag.isTemporary && parent.lastHeard < now - 2 * dodag.maxInterval

/-- The stale neighbours are swept out of the part of the table the sweep has reached. -/
def sweep (dodag : DodagPlace) (now : Time) (reached : Ipv6Address → Bool) :
    DodagPlace :=
  { dodag with
    parents := OrderedMap.eraseIf
      (fun address parent => reached address && dodag.stale now parent) dodag.parents }

/-! ## Candidates -/

def haveFresh (dodag : DodagPlace) : Bool :=
  dodag.parents.any fun _ parent => parent.fresh

/-- A preferred parent that is in the table and fresh. -/
def preferredFresh (dodag : DodagPlace) : Bool := dodag.preferredEntry.any Parent.fresh

/-- `currentRank`: the rank a candidate must stay under, one MinHopRankIncrease more than
the node's own when a fresh neighbour can replace a preferred parent that is not. -/
def rankBound (dodag : DodagPlace) : UInt16 :=
  if dodag.haveFresh && !dodag.preferredFresh then
    clampRank (dodag.rank.toNat + dodag.minHopRankIncrease.toNat)
  else dodag.rank

/-- The candidate's rank is under the bound, or there is none. -/
def closer (dodag : DodagPlace) (parent : Parent) : Bool :=
  dodag.rankBound = infiniteRank || parent.rank < dodag.rankBound

/-- The tests a neighbour has to pass to be a candidate. -/
def admitted (dodag : DodagPlace) (requireFresh : Bool) (parent : Parent) : Bool :=
  (!requireFresh || parent.fresh) &&
    dodag.closer parent &&
    (dodag.ocp ≠ ocpMrhof || parent.etx ≤ mrhofMaxLinkMetric) &&
    dodag.rankViaParent parent ≠ infiniteRank &&
    (dodag.ocp ≠ ocpMrhof || parent.pathCost < mrhofMaxPathCost)

/-- The candidate so far against one more admitted neighbour. -/
def betterThan (dodag : DodagPlace) (address : Ipv6Address) (parent : Parent)
    (best : Candidate) : Bool :=
  best.address.isAny ||
    if dodag.ocp = ocpMrhof then
      parent.pathCost < best.pathCost ||
        (parent.pathCost = best.pathCost && address < best.address)
    else
      dodag.rankViaParent parent < best.rank ||
        (dodag.rankViaParent parent = best.rank && address < best.address)

/-- One neighbour in the candidate loop. -/
def consider (dodag : DodagPlace) (requireFresh : Bool) (best : Candidate)
    (entry : Ipv6Address × Parent) : Candidate :=
  if dodag.admitted requireFresh entry.2 && dodag.betterThan entry.1 entry.2 best then
    { address := entry.1
      rank := dodag.rankViaParent entry.2
      pathCost := if dodag.ocp = ocpMrhof then entry.2.pathCost else best.pathCost }
  else best

/-- One pass over the neighbour table. -/
def candidatePass (dodag : DodagPlace) (requireFresh : Bool) (best : Candidate) :
    Candidate :=
  dodag.parents.toList.foldl (dodag.consider requireFresh) best

/-- The two passes: the second, over every neighbour, only when the first found none. Also
whether the pass that was last required freshness. -/
def searchParents (dodag : DodagPlace) : Bool × Candidate :=
  let first := dodag.candidatePass dodag.haveFresh {}
  if first.address.isAny then (false, dodag.candidatePass false first)
  else (dodag.haveFresh, first)

/-- MRHOF keeps the parent it has while its path cost is within the threshold of the best. -/
def keepsCurrent (dodag : DodagPlace) (requireFresh : Bool) (best : Candidate)
    (current : Parent) : Bool :=
  dodag.ocp = ocpMrhof && !best.address.isAny && dodag.admitted requireFresh current &&
    current.pathCost < best.pathCost + mrhofParentSwitchThreshold

/-- The parent the selection settles on, `::` for none. -/
def chooseParent (dodag : DodagPlace) : Candidate :=
  let (requireFresh, best) := dodag.searchParents
  match dodag.preferredEntry with
  | some current =>
    if dodag.keepsCurrent requireFresh best current then
      { address := dodag.preferredParent
        rank := dodag.rankViaParent current
        pathCost := current.pathCost }
    else best
  | none => best

/-! ## What the choice changes -/

/-- L + DAGMaxRankIncrease. -/
def rankCeiling (dodag : DodagPlace) : Nat :=
  dodag.lowestRankThisVersion.toNat + dodag.maxRankIncrease.toNat

/-- A rank above the ceiling is advertised as INFINITE_RANK. -/
def ceiled (dodag : DodagPlace) (rank : UInt16) : UInt16 :=
  if dodag.rankCeiling < rank.toNat then infiniteRank else rank

/-- The path cost of the choice, as the 16-bit field holds it, differs from the one held. -/
def pathCostChanged (dodag : DodagPlace) (best : Candidate) : Bool :=
  dodag.ocp = ocpMrhof && !best.address.isAny && UInt16.ofNat best.pathCost ≠ dodag.pathEtx

/-- `advertisedBest`. -/
def advertisedBest (dodag : DodagPlace) (best : Candidate) : UInt16 :=
  if best.address.isAny then best.rank else dodag.ceiled best.rank

/-- The selection has an effect. -/
def selectionChanged (dodag : DodagPlace) (best : Candidate) : Bool :=
  best.address ≠ dodag.preferredParent || dodag.advertisedBest best ≠ dodag.rank ||
    dodag.pathCostChanged best

/-- The chosen parent and the rank it gives are taken, L lowered to a rank within the
ceiling. -/
def adoptParent (dodag : DodagPlace) (best : Candidate) : DodagPlace :=
  { dodag with
    preferredParent := best.address
    rank := dodag.ceiled best.rank
    pathEtx := if dodag.ocp = ocpMrhof then UInt16.ofNat best.pathCost else dodag.pathEtx
    lowestRankThisVersion :=
      if dodag.rankCeiling < best.rank.toNat then dodag.lowestRankThisVersion
      else min dodag.lowestRankThisVersion best.rank }

end DodagPlace

end Rpl
