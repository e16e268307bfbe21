import Rpl.Conf

/-!
# IPv6 addresses and the node's IPv6 layer

An address is its 128 bits, ordered as a number, which is the order
`std::map<Ipv6Address, …>` iterates in.  `Ipv6L3Protocol` is what the routing
protocol reads of the IPv6 layer below it: the interfaces with their addresses,
and the two services of that layer it calls, source address selection and
stateless autoconfiguration, which are code outside this repository and so are
parameters here.
-/

namespace Rpl

abbrev Ipv6Address := BitVec 128

instance : Std.TransOrd Ipv6Address := inferInstanceAs (Std.TransOrd (BitVec 128))

/-- Simulation time, in nanoseconds. -/
abbrev Time := Int

/-- `Time::Max()`, what an unlimited lifetime expires at. -/
def timeMax : Time := 9223372036854775807

def seconds (s : Nat) : Time := s * 1000000000
def milliSeconds (ms : Nat) : Time := ms * 1000000

/-- `Ipv6Address::GetAny()`. -/
def anyAddress : Ipv6Address := 0

/-- `RPL_ALL_NODES_MULTICAST`, ff02::1a. -/
def allNodesMulticast : Ipv6Address := 0xff02000000000000000000000000001a#128

namespace Ipv6Address

def isAny (a : Ipv6Address) : Bool := a = anyAddress

def isMulticast (a : Ipv6Address) : Bool := a.extractLsb' 120 8 = 0xff#8

/-- `Ipv6Address::IsLinkLocal`: fe80::/64. -/
def isLinkLocal (a : Ipv6Address) : Bool := a.extractLsb' 64 64 = 0xfe80000000000000#64

def isLinkLocalMulticast (a : Ipv6Address) : Bool := a.extractLsb' 112 16 = 0xff02#16

/-- The routing prefix half of an address. -/
def prefixHalf (a : Ipv6Address) : BitVec 64 := a.extractLsb' 64 64

/-- The interface identifier half of an address. -/
def interfaceId (a : Ipv6Address) : BitVec 64 := a.extractLsb' 0 64

/-- `Ipv6Prefix(length).IsMatch(a, b)`: the leading `length` bits agree. -/
def prefixMatch (length : UInt8) (a b : Ipv6Address) : Bool :=
  a >>> (128 - length.toNat) = b >>> (128 - length.toNat)

end Ipv6Address

/-- `RplRoutingProtocol::LinkLocalOf`: the link-local address with the same interface
identifier. -/
def linkLocalOf (global : Ipv6Address) : Ipv6Address :=
  0xfe80000000000000#64 ++ Ipv6Address.interfaceId global

@[simp] theorem interfaceId_append (p i : BitVec 64) :
    Ipv6Address.interfaceId (p ++ i) = i :=
  BitVec.extractLsb'_append_eq_right

@[simp] theorem prefixHalf_append (p i : BitVec 64) :
    Ipv6Address.prefixHalf (p ++ i) = p :=
  BitVec.extractLsb'_append_eq_left

@[simp] theorem isLinkLocal_linkLocalOf (a : Ipv6Address) :
    Ipv6Address.isLinkLocal (linkLocalOf a) = true := by
  exact decide_eq_true (prefixHalf_append _ _)

@[simp] theorem interfaceId_linkLocalOf (a : Ipv6Address) :
    Ipv6Address.interfaceId (linkLocalOf a) = Ipv6Address.interfaceId a := by
  simp [linkLocalOf]

/-! ## The IPv6 layer -/

/-- `Ipv6InterfaceAddress::GetScope`. -/
inductive AddressScope
  | linkLocal
  | global
  | host
  deriving DecidableEq, Repr

/-- `Ipv6InterfaceAddress`, with the one state the protocol tests for. -/
structure Ipv6InterfaceAddress where
  address : Ipv6Address
  scope : AddressScope
  tentative : Bool := false
  deriving DecidableEq, Repr

/-- One interface: its addresses in configuration order, and whether it is up and
forwards. -/
structure Ipv6Interface where
  addresses : List Ipv6InterfaceAddress := []
  up : Bool := true
  forwarding : Bool := true
  deriving DecidableEq, Repr

/-- What `AddAutoconfiguredAddress` is called with. -/
structure AutoconfRequest where
  interface : Nat
  network : Ipv6Address
  prefixLength : UInt8
  onLink : Bool
  validLifetime : UInt32
  preferredLifetime : UInt32
  deriving DecidableEq, Repr

/-- The IPv6 layer as the routing protocol sees it. Interface 0 is the loopback. -/
structure Ipv6L3Protocol where
  interfaces : List Ipv6Interface
  sourceAddressSelection : List Ipv6Interface → Nat → Ipv6Address → Ipv6Address
  addAutoconfiguredAddress : List Ipv6Interface → AutoconfRequest → List Ipv6Interface

namespace Ipv6L3Protocol

/-- The addresses of one interface, none for an index that does not exist. -/
def addressesOf (ipv6 : Ipv6L3Protocol) (interface : Nat) : List Ipv6InterfaceAddress :=
  (ipv6.interfaces[interface]?.map Ipv6Interface.addresses).getD []

/-- `IsOwnAddress`. -/
def isOwnAddress (ipv6 : Ipv6L3Protocol) (address : Ipv6Address) : Bool :=
  !address.isAny &&
    ipv6.interfaces.any fun interface => interface.addresses.any fun a => a.address = address

/-- `GetLinkLocalAddress`. -/
def getLinkLocalAddress (ipv6 : Ipv6L3Protocol) (interface : Nat) : Ipv6Address :=
  (((ipv6.addressesOf interface).map Ipv6InterfaceAddress.address).find?
    Ipv6Address.isLinkLocal).getD anyAddress

/-- A global address whose duplicate address detection does not forbid its use. -/
def usableGlobal (a : Ipv6InterfaceAddress) : Bool := a.scope = .global && !a.tentative

/-- `GetGlobalAddress`: the first usable global address, the loopback left out. -/
def getGlobalAddress (ipv6 : Ipv6L3Protocol) : Ipv6Address :=
  (((ipv6.interfaces.drop 1).flatMap Ipv6Interface.addresses).find? usableGlobal
    |>.map Ipv6InterfaceAddress.address).getD anyAddress

/-- The first usable global address under a prefix, the loopback left out. -/
def getGlobalAddressUnder (ipv6 : Ipv6L3Protocol) (network : Ipv6Address) (length : UInt8) :
    Ipv6Address :=
  (((ipv6.interfaces.drop 1).flatMap Ipv6Interface.addresses).find?
    (fun a => usableGlobal a && Ipv6Address.prefixMatch length a.address network)
    |>.map Ipv6InterfaceAddress.address).getD anyAddress

/-- An IPv6 layer over the given interfaces that selects as source the address of the
destination's scope on the interface, and autoconfigures nothing. -/
def ofInterfaces (interfaces : List Ipv6Interface) : Ipv6L3Protocol :=
  { interfaces := interfaces
    sourceAddressSelection := fun interfaces interface destination =>
      let onLink := destination.isLinkLocal || destination.isLinkLocalMulticast
      ((((interfaces[interface]?.map Ipv6Interface.addresses).getD []).find? fun a =>
          a.address.isLinkLocal = onLink).map Ipv6InterfaceAddress.address).getD anyAddress
    addAutoconfiguredAddress := fun interfaces _ => interfaces }

end Ipv6L3Protocol

end Rpl
