import Rpl.Node

/-!
# Route tables

The tables a membership and a node keep, with the lookups and the purges the
handlers and the forwarding path share: downward routes, the Non-Storing
topology and the source routes computed from it, hop-by-hop routes, and the
interface a neighbour is reached on.
-/

namespace Rpl

open Std

/-! ## Addresses of neighbours -/

namespace DodagMembership

/-- `GlobalAddressOf`: the neighbour's address under the DODAGID's prefix. -/
def globalAddressOf (dodag : DodagMembership) (linkLocal : Ipv6Address) : Ipv6Address :=
  if dodag.dodagId.isAny || linkLocal.isAny then anyAddress
  else dodag.dodagId.prefixHalf ++ linkLocal.interfaceId

/-! ## Downward routes -/

/-- `PurgeDownwardRoutes`. -/
def purgeDownwardRoutes (dodag : DodagMembership) (now : Time) : DodagMembership :=
  { dodag with
    downwardRoutes := OrderedMap.eraseIf (fun _ route => route.expire ≤ now) dodag.downwardRoutes }

/-- `FindDownwardRoute`: an expired route is no route. -/
def findDownwardRoute (dodag : DodagMembership) (now : Time) (target : Ipv6Address) :
    Option DownwardRoute :=
  dodag.downwardRoutes[target]?.filter fun route => now < route.expire

/-! ## Topology and source routes -/

/-- `PurgeTopology`. -/
def purgeTopology (dodag : DodagMembership) (now : Time) : DodagMembership :=
  { dodag with
    topology := OrderedMap.eraseIf (fun _ entry => entry.expire ≤ now) dodag.topology }

/-- The walk of `ComputeSourceRoute`: parent links from `current` up to the root, at most
`steps` of them, the nodes visited collected in front of `chain`. -/
def climbTopology (dodag : DodagMembership) (now : Time) :
    Nat → Ipv6Address → List Ipv6Address → Option (List Ipv6Address)
  | 0, _, _ => none
  | steps + 1, current, chain =>
    match dodag.topology[current]? with
    | none => none
    | some entry =>
      if entry.expire ≤ now then none
      else if entry.parent = dodag.dodagId then some (current :: chain)
      else climbTopology dodag now steps entry.parent (current :: chain)

/-- `ComputeSourceRoute`: the link-local hops from the root to the destination. -/
def computeSourceRoute (dodag : DodagMembership) (now : Time) (destination : Ipv6Address) :
    Option (List Ipv6Address) :=
  if !dodag.isRoot || !dodag.topology.contains destination then none
  else
    (dodag.climbTopology now (dodag.topology.size + 1) destination []).map (List.map linkLocalOf)

end DodagMembership

namespace Node

/-! ## Finding a membership -/

/-- `FindDodagByInstance`: the first membership, in key order, of the instance. -/
def findDodagByInstance (n : Node) (instanceId : UInt8) : Option (DodagKey × DodagMembership) :=
  OrderedMap.first (fun key _ => key.instanceId = instanceId) n.dodags

/-- The first interface RPL runs on, 0 when it runs on none. -/
def firstSocket (n : Node) : Nat := n.sockets.toList.head?.getD 0

/-- `InterfaceForNeighbour`: neighbours are compared by their interface identifier. -/
def interfaceForNeighbour (n : Node) (dodag : DodagMembership) (neighbour : Ipv6Address) : Nat :=
  match OrderedMap.first (fun address _ => address.interfaceId = neighbour.interfaceId)
      dodag.parents with
  | some (_, parent) => parent.interface
  | none => n.firstSocket

/-! ## Hop-by-hop routes -/

/-- `FindHopByHopRoute`, by destination alone. -/
def findHopByHopRoute (n : Node) (destination : Ipv6Address) : Option HopByHopRoute :=
  n.hopByHopRoutes[destination]?.filter fun route => n.now < route.expire

/-- `FindHopByHopRoute`, of one instance and DODAG. -/
def findHopByHopRouteIn (n : Node) (key : DodagKey) (destination : Ipv6Address) :
    Option HopByHopRoute :=
  (n.findHopByHopRoute destination).filter fun route =>
    route.instanceId = key.instanceId && route.dodagId = key.dodagId

/-- `HasHopByHopRoute`. -/
def hasHopByHopRoute (n : Node) (instanceId : UInt8) (destination : Ipv6Address) : Bool :=
  (n.findHopByHopRoute destination).any fun route => route.instanceId = instanceId

/-- `StoreHopByHopRoute` refuses: the route held is newer, or disagrees on the next hop
where that is pinned. -/
def refusesHopByHopRoute (n : Node) (key : DodagKey) (destination nextHop : Ipv6Address)
    (seqNo : Option UInt8) (pinNextHop : Bool) : Bool :=
  (n.findHopByHopRouteIn key destination).any fun held =>
    match seqNo with
    | some seqNo =>
      sequenceNewer held.seqNo seqNo ||
        (pinNextHop && held.seqNo = seqNo && held.nextHop ≠ nextHop)
    | none => held.nextHop ≠ nextHop

/-- `StoreHopByHopRoute`: whether the route was accepted, and the node after it. -/
def storeHopByHopRoute (n : Node) (key : DodagKey) (destination nextHop : Ipv6Address)
    (lifetime : Time) (seqNo : Option UInt8) (pinNextHop : Bool) : Bool × Node :=
  if n.refusesHopByHopRoute key destination nextHop seqNo pinNextHop then (false, n)
  else
    let route : HopByHopRoute :=
      { instanceId := key.instanceId
        dodagId := key.dodagId
        nextHop := nextHop
        expire := n.now + lifetime
        seqNo := seqNo.getD 0 }
    (true, { n with hopByHopRoutes := n.hopByHopRoutes.insert destination route })

end Node

end Rpl
