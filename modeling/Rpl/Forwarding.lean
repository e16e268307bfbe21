import Rpl.DaoReceive

/-!
# Routing locally originated packets

`RouteOutput` chooses the gateway of a packet, and `PrepareOutgoingPacket`, called
with the route it chose, adds the headers.  Each walks its own cascade of lookups.
`RouteSource` names the lookup a route was taken from.
-/

namespace Rpl

open Std

/-- `Ipv6Route`, as far as the protocol fills it in. -/
structure Ipv6Route where
  destination : Ipv6Address
  gateway : Ipv6Address
  interface : Nat
  source : Ipv6Address
  deriving DecidableEq, Repr

/-- The lookup `RouteOutput` took a route from. -/
inductive RouteSource
  /-- The destination is on the link. -/
  | onLink
  | aodv (instanceId : UInt8) (hops : List Ipv6Address)
  | p2p (instanceId : UInt8) (hops : List Ipv6Address)
  | hopByHop (held : HopByHopRoute)
  /-- A downward route of the base DODAG in Storing mode. -/
  | storing (base : DodagMembership)
  /-- The topology of a Non-Storing DODAG this node is the root of. -/
  | root (dodag : DodagMembership) (hops : List Ipv6Address)
  /-- The preferred parent in a DODAG. -/
  | preferredParent (dodag : DodagMembership)

/-- What `PrepareOutgoingPacket` adds to a packet. -/
structure AddedHeaders where
  /-- The first hop the IPv6 Destination is rewritten to, with the Routing Header. -/
  sourceRoute : Option (Ipv6Address × SourceRoutingHeader) := none
  packetInfo : Option PacketInfo := none
  deriving DecidableEq, Repr

/-- What an address sent to by `RouteOutput` needs a route for. -/
def Ipv6Address.isGlobalUnicast (a : Ipv6Address) : Bool := !a.isMulticast && !a.isLinkLocal

namespace Node

/-! ## Route lookups -/

/-- The hops of a live AODV-RPL route, as link-local addresses: `FindAodvRoute`. -/
def findAodvRoute (n : Node) (destination : Ipv6Address) : Option (UInt8 × List Ipv6Address) :=
  ((n.aodvRoutes[destination]?).filter fun route => n.now < route.expire).map fun route =>
    (route.rreqInstanceId, route.hops.map linkLocalOf)

/-- `FindP2pRoute`. -/
def findP2pRoute (n : Node) (destination : Ipv6Address) : Option (UInt8 × List Ipv6Address) :=
  ((n.p2pRoutes[destination]?).filter fun route => n.now < route.expire).map fun route =>
    (route.instanceId, route.hops.map linkLocalOf)

/-- A live downward route of the base DODAG, in Storing mode. -/
def findStoringRoute (n : Node) (destination : Ipv6Address) :
    Option (DodagMembership × DownwardRoute) :=
  match n.getBaseDodag with
  | none => none
  | some base =>
    if base.storing then
      (base.findDownwardRoute n.now destination).map fun route => (base, route)
    else none

/-- `GetDownwardRoute`. -/
def getDownwardRoute (n : Node) (key : DodagKey) (target : Ipv6Address) : Option DownwardRoute :=
  (n.dodags[key]?).bind fun dodag => dodag.findDownwardRoute n.now target

def isBase (n : Node) (key : DodagKey) : Bool := n.hasBaseDodag && key = n.baseDodagKey

/-- The memberships in the order `FindRootDodagFor` tries them: the base DODAG, and then the
others in key order. -/
def baseFirst (n : Node) : List (DodagKey × DodagMembership) :=
  n.dodags.toList.filter (fun entry => n.isBase entry.1) ++
    n.dodags.toList.filter fun entry => !n.isBase entry.1

/-- What `FindRootDodagFor` finds in one membership: the source route of its topology, purged
first. -/
def rootRouteIn (n : Node) (destination : Ipv6Address) (dodag : DodagMembership) :
    Option (DodagMembership × List Ipv6Address) :=
  if !dodag.isRoot then none
  else
    ((dodag.purgeTopology n.now).computeSourceRoute n.now destination).map fun hops =>
      (dodag.purgeTopology n.now, hops)

/-- `FindRootDodagFor`: the first DODAG this node is the root of that has a source route. -/
def findRootDodagFor (n : Node) (destination : Ipv6Address) :
    Option (DodagMembership × List Ipv6Address) :=
  n.baseFirst.findSome? fun entry => n.rootRouteIn destination entry.2

/-- The memberships other than the base DODAG, in key order. -/
def otherDodags (n : Node) : List DodagMembership :=
  (n.dodags.toList.filter fun entry => !n.isBase entry.1).map Prod.snd

/-! ## Routes -/

/-- `RouteToNeighbour`: through the interface the neighbour was heard on, or the first one
RPL runs on. -/
def routeToNeighbour (n : Node) (instanceId : UInt8) (neighbour destination : Ipv6Address) :
    Option Ipv6Route :=
  let interface :=
    match n.findDodagByInstance instanceId with
    | some (_, dodag) => n.interfaceForNeighbour dodag neighbour
    | none => 0
  let interface := if interface = 0 then n.firstSocket else interface
  if interface = 0 then none
  else
    some
      { destination := destination
        gateway := if neighbour.isLinkLocal then neighbour else linkLocalOf neighbour
        interface := interface
        source := n.ipv6.sourceAddressSelection n.ipv6.interfaces interface destination }

/-- `RouteToNeighbourOn`. -/
def routeToNeighbourOn (n : Node) (interface : Nat) (neighbour destination : Ipv6Address) :
    Option Ipv6Route :=
  if interface = 0 then none
  else
    some
      { destination := destination
        gateway := if neighbour.isLinkLocal then neighbour else linkLocalOf neighbour
        interface := interface
        source := n.ipv6.sourceAddressSelection n.ipv6.interfaces interface destination }

/-- `RouteViaPreferredParent`: only with a global address on the interface toward it. -/
def routeViaPreferredParent (n : Node) (dodag : DodagMembership) (destination : Ipv6Address) :
    Option Ipv6Route :=
  if dodag.preferredParent.isAny then none
  else
    match dodag.preferredEntry with
    | none => none
    | some parent =>
      if (n.ipv6.addressesOf parent.interface).any fun a => a.scope = .global then
        some
          { destination := destination
            gateway := dodag.preferredParent
            interface := parent.interface
            source := n.ipv6.sourceAddressSelection n.ipv6.interfaces parent.interface destination }
      else none

/-! ## RouteOutput -/

/-- A source route found gives a route to its first hop. The source asserts that there is
one; where it is empty the program stops, and no route is returned. -/
def routeOver (n : Node) (destination : Ipv6Address)
    (source : UInt8 → List Ipv6Address → RouteSource)
    (found : Option (UInt8 × List Ipv6Address)) : Option (RouteSource × Ipv6Route) :=
  match found with
  | some (instanceId, first :: rest) =>
    (n.routeToNeighbour instanceId first destination).map fun route =>
      (source instanceId (first :: rest), route)
  | _ => none

/-- The lookups of `RouteOutput` that depend on the destination alone. -/
def lookupDiscovered (n : Node) (destination : Ipv6Address) : Option (RouteSource × Ipv6Route) :=
  (n.routeOver destination .aodv (n.findAodvRoute destination)).or <|
  (n.routeOver destination .p2p (n.findP2pRoute destination)).or <|
  (n.findHopByHopRoute destination).bind fun held =>
    (n.routeToNeighbour held.instanceId held.nextHop destination).map fun route =>
      (.hopByHop held, route)

/-- The downward route `RouteOutput` takes in Storing mode. -/
def lookupStoring (n : Node) (destination : Ipv6Address) : Option (RouteSource × Ipv6Route) :=
  (n.findStoringRoute destination).bind fun (base, downward) =>
    (n.routeToNeighbourOn downward.interface downward.nextHop destination).map fun route =>
      (.storing base, route)

/-- The source route `RouteOutput` takes as a root. -/
def lookupRoot (n : Node) (destination : Ipv6Address) : Option (RouteSource × Ipv6Route) :=
  (n.findRootDodagFor destination).bind fun (dodag, hops) =>
    n.routeOver destination (fun _ => .root dodag) (some (dodag.instanceId, hops))

/-- The preferred parent `RouteOutput` falls back on: that of the DODAG whose DODAGID is the
destination, a temporary one left out, or that of the base DODAG. -/
def lookupUpward (n : Node) (destination : Ipv6Address) : Option (RouteSource × Ipv6Route) :=
  (n.otherDodags.findSome? fun other =>
    if other.dodagId ≠ destination || other.isTemporary then none
    else
      (n.routeViaPreferredParent other destination).map fun route =>
        (.preferredParent other, route)).or <|
  n.getBaseDodag.bind fun base =>
    (n.routeViaPreferredParent base destination).map fun route => (.preferredParent base, route)

/-- The cascade of `RouteOutput` for a destination that is not on the link. -/
def lookupRoute (n : Node) (destination : Ipv6Address) : Option (RouteSource × Ipv6Route) :=
  (n.lookupDiscovered destination).or <| (n.lookupStoring destination).or <|
  (n.lookupRoot destination).or <| n.lookupUpward destination

/-- The interface `RouteOutput` starts from: the one the socket is bound to, or the first one
RPL runs on. -/
def outputInterface (n : Node) (oif : Option Nat) : Nat := oif.getD n.firstSocket

/-- `RouteOutput`: the route with the lookup it was taken from. -/
def routeOutput (n : Node) (destination : Ipv6Address) (oif : Option Nat) :
    Option (RouteSource × Ipv6Route) :=
  let interface := n.outputInterface oif
  if interface = 0 then none
  else if !destination.isGlobalUnicast then
    some (.onLink,
      { destination := destination
        gateway := destination
        interface := interface
        source := n.ipv6.sourceAddressSelection n.ipv6.interfaces interface destination })
  else n.lookupRoute destination

/-- The purge of the base DODAG's downward routes, in Storing mode. -/
def purgeStoring (n : Node) : Node :=
  if n.hasBaseDodag then
    n.modifyDodag n.baseDodagKey fun dodag =>
      if dodag.storing then dodag.purgeDownwardRoutes n.now else dodag
  else n

/-- The purges of `FindRootDodagFor`: the topologies it visits, up to the one that has a
source route. -/
def purgeRoots (n : Node) (destination : Ipv6Address) :
    List (DodagKey × DodagMembership) → Node
  | [] => n
  | (key, dodag) :: rest =>
    if !dodag.isRoot then n.purgeRoots destination rest
    else
      let purged := n.modifyDodag key fun dodag => dodag.purgeTopology n.now
      if (n.rootRouteIn destination dodag).isSome then purged
      else purged.purgeRoots destination rest

/-- The node after `RouteOutput`, which purges the tables its cascade reaches. -/
def afterRouteOutput (n : Node) (destination : Ipv6Address) (oif : Option Nat) : Node :=
  if n.outputInterface oif = 0 || !destination.isGlobalUnicast ||
      (n.lookupDiscovered destination).isSome then n
  else if (n.lookupStoring destination).isSome then n.purgeStoring
  else n.purgeStoring.purgeRoots destination n.purgeStoring.baseFirst

/-! ## PrepareOutgoingPacket -/

/-- The RPL Packet Information of a hop-by-hop route: toward its DODAGID the packet goes up,
and a local instance says so with its D flag. -/
def hopByHopInfo (n : Node) (destination : Ipv6Address) (held : HopByHopRoute) : PacketInfo :=
  let down : Bool := held.dodagId ≠ destination
  { down := down
    instanceId :=
      if !down && held.instanceId &&& localInstanceFlag ≠ 0 then
        held.instanceId ||| localInstanceDFlag
      else held.instanceId
    senderRank := n.attributes.minHopRankIncrease }

/-- The RPL Packet Information of a membership's route. -/
def membershipInfo (dodag : DodagMembership) (down : Bool) : PacketInfo :=
  { down := down, instanceId := dodag.instanceId, senderRank := dodag.rank }

/-- The Routing Header over the given hops, when there is more than one and they fit: the
first hop takes the IPv6 Destination, the destination takes the last place. -/
def sourceRouteOver (destination : Ipv6Address) (hops : List Ipv6Address) :
    Option (Ipv6Address × SourceRoutingHeader) :=
  match hops with
  | first :: second :: rest =>
    let addresses := (second :: rest).dropLast ++ [destination]
    let srh : SourceRoutingHeader :=
      { segmentsLeft := UInt8.ofNat addresses.length, addresses := addresses }
    if addresses.length ≤ 255 ∧ srh.serializedSize ≤ SourceRoutingHeader.maxSerializedSize then
      some (first, srh)
    else none
  | _ => none

/-- The base DODAG, when it is in Storing mode and has a downward route. -/
def stampingStoring (n : Node) (destination : Ipv6Address) : Option DodagMembership :=
  n.getBaseDodag.filter fun base =>
    base.storing && (n.getDownwardRoute base.key destination).isSome

/-- The membership a packet that follows no other route is stamped for: the first one besides
the base DODAG whose DODAGID is the destination, or else the base DODAG. -/
def stampingDodag (n : Node) (destination : Ipv6Address) : Option DodagMembership :=
  (n.otherDodags.find? fun other => other.dodagId = destination).or n.getBaseDodag

/-- The RPL Packet Information of a packet that follows no other route. -/
def defaultInfo (n : Node) (destination : Ipv6Address) : PacketInfo :=
  match n.stampingDodag destination with
  | some dodag => membershipInfo dodag dodag.isRoot
  | none => { down := false, instanceId := defaultInstance, senderRank := infiniteRank }

/-- The cascade of `PrepareOutgoingPacket`. -/
def headersFor (n : Node) (destination : Ipv6Address) : AddedHeaders :=
  match n.findHopByHopRoute destination with
  | some held => { packetInfo := some (n.hopByHopInfo destination held) }
  | none =>
    match n.stampingStoring destination with
    | some base => { packetInfo := some (membershipInfo base true) }
    | none =>
      match (n.findAodvRoute destination).or (n.findP2pRoute destination) with
      | some (_, hops) => { sourceRoute := sourceRouteOver destination hops }
      | none =>
        match n.findRootDodagFor destination with
        | some (dodag, hops) =>
          { sourceRoute := sourceRouteOver destination hops
            packetInfo := some (membershipInfo dodag dodag.isRoot) }
        | none => { packetInfo := some (n.defaultInfo destination) }

/-- `PrepareOutgoingPacket`: nothing is added to what stays on the link, or leaves on an
interface RPL does not run on. -/
def prepareOutgoingPacket (n : Node) (destination : Ipv6Address) (route : Ipv6Route) :
    AddedHeaders :=
  if !destination.isGlobalUnicast || route.interface ∉ n.sockets then {}
  else n.headersFor destination

/-! ## Errors reported by the extension headers -/

/-- `NotifyRankInconsistency`. -/
def notifyRankInconsistency (n : Node) (instanceId : UInt8) : Node :=
  match n.findDodagByInstance instanceId with
  | none => n
  | some (key, _) => n.resetTrickle key

/-- `NotifyForwardingError`. -/
def notifyForwardingError (n : Node) (instanceId : UInt8) (destination : Ipv6Address) : Node :=
  match n.findDodagByInstance instanceId with
  | none => n
  | some (key, _) =>
    n.modifyDodag key fun dodag =>
      { dodag with downwardRoutes := dodag.downwardRoutes.erase destination }

end Node

end Rpl
