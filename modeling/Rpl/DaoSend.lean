import Rpl.ParentSet

/-!
# Sending DAOs

`SendDaoMessage` builds and sends one DAO, `SendDao` advertises the node and, in
Storing mode, everything below it, and `SendNoPathDao` withdraws the node through
one parent.  The timers of the exchange are here too: the refresh, the retry
while an acknowledgement is outstanding, and a Storing root's purge.
-/

namespace Rpl

open Std

namespace DodagMembership

/-- The downward routes as further DAO targets. -/
def aggregatedTargets (dodag : DodagMembership) : List AdditionalTarget :=
  dodag.downwardRoutes.toList.map fun (target, route) =>
    { target := target
      targetPrefixLength := 128
      pathSequence := route.pathSequence
      pathLifetime := route.pathLifetime }

/-- The DAO header `SendDaoMessage` fills in: the parent is named only outside Storing
mode. -/
def daoMessage (dodag : DodagMembership) (target : Ipv6Address)
    (sequence pathSequence pathLifetime : UInt8) (ackRequested : Bool)
    (additionalTargets : List AdditionalTarget) : DaoHeader :=
  { instanceId := dodag.instanceId
    dodagId := dodag.dodagId
    sequence := sequence
    ackRequested := ackRequested
    target := target
    parent := if dodag.storing then anyAddress else dodag.globalAddressOf dodag.preferredParent
    pathSequence := pathSequence
    pathLifetime := pathLifetime
    additionalTargets := additionalTargets }

/-- The DAO header `SendNoPathDao` fills in, with Path Lifetime 0. -/
def noPathMessage (dodag : DodagMembership) (target viaParent : Ipv6Address) : DaoHeader :=
  { instanceId := dodag.instanceId
    dodagId := dodag.dodagId
    sequence := dodag.daoSequence
    target := target
    parent := if dodag.storing then anyAddress else dodag.globalAddressOf viaParent
    pathSequence := dodag.pathSequence
    pathLifetime := 0 }

end DodagMembership

namespace Node

/-- A DAO goes one hop up in Storing mode, and to the root otherwise. -/
def sendDaoTo (n : Node) (dodag : DodagMembership) (parent : Ipv6Address) (dao : DaoHeader) :
    Node :=
  if dodag.storing then
    let interface := n.interfaceForNeighbour dodag parent
    if interface = 0 then n else n.sendRplMessageOn interface (.dao dao) parent
  else n.sendRplMessageUnicast (.dao dao) dodag.dodagId

/-- `SendDaoMessage`. -/
def sendDaoMessage (n : Node) (dodag : DodagMembership) (target : Ipv6Address)
    (sequence pathSequence pathLifetime : UInt8) (ackRequested : Bool)
    (additionalTargets : List AdditionalTarget) : Node :=
  n.sendDaoTo dodag dodag.preferredParent
    (dodag.daoMessage target sequence pathSequence pathLifetime ackRequested additionalTargets)

/-- `SendDao` has an address to advertise, and a parent to name where it names one. -/
def canAdvertise (n : Node) (dodag : DodagMembership) (viaParent : Ipv6Address) : Bool :=
  !(n.getGlobalAddressIn dodag).isAny &&
    (dodag.storing || !(dodag.globalAddressOf viaParent).isAny)

/-- `SendDao`. -/
def sendDao (n : Node) (key : DodagKey) : Node :=
  match n.dodags[key]? with
  | none => n
  | some dodag =>
    if dodag.isRoot || dodag.preferredParent.isAny || dodag.isTemporary ||
        !n.canAdvertise dodag dodag.preferredParent then n
    else
      let dodag := if dodag.storing then dodag.purgeDownwardRoutes n.now else dodag
      let dodag := { dodag with daoSequence := sequenceIncrement dodag.daoSequence }
      let sent := (n.setDodag key dodag).sendDaoMessage dodag (n.getGlobalAddressIn dodag)
        dodag.daoSequence dodag.pathSequence n.attributes.pathLifetime true
        (if dodag.storing then dodag.aggregatedTargets else [])
      sent.modifyDodag key fun dodag =>
        { dodag with
          daoAckPending := true
          daoRetriesLeft := n.attributes.daoRetries
          daoRetryEvent := some (n.now + n.attributes.daoAckTimeout) }

/-- `SendNoPathDao`: both sequence counters advance before the message is sent. -/
def sendNoPathDao (n : Node) (key : DodagKey) (viaParent : Ipv6Address) : Node :=
  match n.dodags[key]? with
  | none => n
  | some dodag =>
    if dodag.isTemporary || !n.canAdvertise dodag viaParent then n
    else
      let dodag :=
        { dodag with
          daoSequence := sequenceIncrement dodag.daoSequence
          pathSequence := sequenceIncrement dodag.pathSequence }
      (n.setDodag key dodag).sendDaoTo dodag viaParent
        (dodag.noPathMessage (n.getGlobalAddressIn dodag) viaParent)

/-! ## Timers -/

/-- `DaoTimerExpire`. -/
def daoTimerExpire (n : Node) (key : DodagKey) : Node :=
  (n.sendDao key).modifyDodag key fun dodag =>
    { dodag with
      daoRefreshPending := false
      daoEvent := some (n.now + n.attributes.daoInterval) }

/-- `PurgeDownwardRoutesTimerExpire`. -/
def purgeDownwardRoutesTimerExpire (n : Node) (key : DodagKey) : Node :=
  n.modifyDodag key fun dodag =>
    { dodag.purgeDownwardRoutes n.now with daoEvent := some (n.now + n.attributes.daoInterval) }

/-- `DaoRetry`: the same DAO again, the downward routes that have expired left out. -/
def daoRetry (n : Node) (key : DodagKey) : Node :=
  match n.dodags[key]? with
  | none => n
  | some dodag =>
    if !dodag.daoAckPending then n
    else if dodag.daoRetriesLeft = 0 then
      n.modifyDodag key fun dodag => { dodag with daoAckPending := false }
    else
      let dodag := { dodag with daoRetriesLeft := dodag.daoRetriesLeft - 1 }
      let sent := (n.setDodag key dodag).sendDaoMessage dodag (n.getGlobalAddressIn dodag)
        dodag.daoSequence dodag.pathSequence n.attributes.pathLifetime true
        (if dodag.storing then (dodag.purgeDownwardRoutes n.now).aggregatedTargets else [])
      sent.modifyDodag key fun dodag =>
        { dodag with daoRetryEvent := some (n.now + n.attributes.daoAckTimeout) }

/-- `GlobalRepairFire`: the root moves its DODAG to the next Version. -/
def globalRepairFire (n : Node) (key : DodagKey) : Node :=
  n.modifyDodag key fun dodag =>
    { dodag with
      version := sequenceIncrement dodag.version
      dioTrickle := dodag.dioTrickle.reset n.now
      globalRepairEvent := some (n.now + n.attributes.globalRepairInterval) }

end Node

end Rpl
