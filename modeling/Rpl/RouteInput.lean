import Rpl.PacketInfoOption

/-!
# Forwarding packets

`RouteInput`: a packet that is not for this node follows a hop-by-hop route named by
its RPL Packet Information, or a downward route of the base DODAG, or goes up to a
preferred parent.  A downward packet with no route is sent back up, its F flag set.
-/

namespace Rpl

open Std

/-- What `RouteInput` does with a packet. -/
inductive InputResult
  /-- Link-local multicast is not this protocol's to forward. -/
  | accepted
  /-- The packet is forwarded over the route, as the lookup leaves it. -/
  | forward (source : RouteSource) (route : Ipv6Route) (packet : List UInt8)
  /-- The error callback is told there is no route to the host. -/
  | refused

namespace Node

/-- Packets that come in on the interface may be forwarded. -/
def forwardsFrom (n : Node) (interface : Option Nat) : Bool :=
  (interface.bind fun interface => n.ipv6.interfaces[interface]?).any Ipv6Interface.forwarding

/-- The instance and DODAGID a packet's RPL Packet Information stands for: a local instance with
its D flag set is that of the destination, any other that of the source. -/
def hopByHopKey (instanceId : UInt8) (source destination : Ipv6Address) : DodagKey :=
  let local_ : Bool := instanceId &&& localInstanceFlag ≠ 0
  let up : Bool := local_ && instanceId &&& localInstanceDFlag ≠ 0
  ⟨clearDFlag instanceId, if up then destination else source⟩

/-- The hop-by-hop route `RouteInput` looks up for a packet. -/
def inputEntry (n : Node) (packet : List UInt8) (header : Ipv6Header) : Option HopByHopRoute :=
  (readRpiInstanceId packet header).bind fun instanceId =>
    n.findHopByHopRouteIn (hopByHopKey instanceId header.source header.destination)
      header.destination

/-- The route over it, which is of the packet's instance. -/
def inputHopByHop (n : Node) (packet : List UInt8) (header : Ipv6Header) :
    Option (RouteSource × Ipv6Route × List UInt8) :=
  (n.inputEntry packet header).bind fun held =>
    (n.routeToNeighbour held.instanceId held.nextHop header.destination).map fun route =>
      (.hopByHop held, route, packet)

/-- The base DODAG, when it is in Storing mode. -/
def storingBase
    (n : Node) : Option DodagMembership := n.getBaseDodag.filter fun dodag => dodag.storing

/-- A downward route of the base DODAG, or the way back up for a downward packet that has
none. -/
def inputStoring (n : Node) (packet : List UInt8) (header : Ipv6Header) :
    Option (RouteSource × Ipv6Route × List UInt8) :=
  n.storingBase.bind fun base =>
    match base.findDownwardRoute n.now header.destination with
    | some downward =>
      (n.routeToNeighbourOn downward.interface downward.nextHop header.destination).map fun route =>
        (.storing base, route, packet)
    | none =>
      if readRpiDown packet header = some true then
        (markForwardingError packet header).bind fun bounced =>
          (n.routeViaPreferredParent base header.destination).map fun route =>
            (.preferredParent base, route, bounced)
      else none

/-- The membership whose preferred parent a packet goes up to: the first of the packet's
instance when there is a choice, or else the base DODAG. -/
def inputDodag (n : Node) (packet : List UInt8) (header : Ipv6Header) : Option DodagMembership :=
  if 1 < n.dodags.size then
    ((readRpiInstanceId packet header).bind fun instanceId =>
      (n.findDodagByInstance instanceId).map Prod.snd).or n.getBaseDodag
  else n.getBaseDodag

def inputUpward (n : Node) (packet : List UInt8) (header : Ipv6Header) :
    Option (RouteSource × Ipv6Route × List UInt8) :=
  (n.inputDodag packet header).bind fun dodag =>
    (n.routeViaPreferredParent dodag header.destination).map fun route =>
      (.preferredParent dodag, route, packet)

/-- The cascade of `RouteInput`. -/
def inputRoute (n : Node) (packet : List UInt8) (header : Ipv6Header) :
    Option (RouteSource × Ipv6Route × List UInt8) :=
  (n.inputHopByHop packet header).or <| (n.inputStoring packet header).or <|
    n.inputUpward packet header

/-- `RouteInput`. -/
def routeInput (n : Node) (packet : List UInt8) (header : Ipv6Header) (interface : Option Nat) :
    InputResult :=
  if header.destination.isLinkLocalMulticast then .accepted
  else if !n.forwardsFrom interface then .refused
  else
    match n.inputRoute packet header with
    | some (source, route, packet) => .forward source route packet
    | none => .refused

end Node

end Rpl
