import Rpl.Ipv6

/-!
# RPL control messages

The messages as the handlers see them once decoded, and as they are handed to
the encoder: DIS, DIO with its options, DAO, DAO-ACK, and the two messages of
P2P-RPL.  An optional part whose accessor is guarded by a `Has…` predicate in
the source is an `Option` here; where the source reads the accessor without the
guard, the value it then finds is the option's default.
-/

namespace Rpl

/-! ## DODAG Information Object -/

/-- The DODAG Configuration option. -/
structure DagConfiguration where
  flags : UInt8 := 0
  intervalDoublings : UInt8 := dioIntervalDoublingsDefault
  intervalMin : UInt8 := dioIntervalMinDefault
  redundancy : UInt8 := dioRedundancyDefault
  maxRankIncrease : UInt16 := maxRankIncDefault
  minHopRankIncrease : UInt16 := minHopRankIncDefault
  ocp : UInt16 := ocpOf0
  defaultLifetime : UInt8 := Rpl.defaultLifetime
  lifetimeUnit : UInt16 := defaultLifetimeUnit
  deriving DecidableEq, Repr

/-- `GetDagConfAuthEnabled`. -/
def DagConfiguration.authEnabled (conf : DagConfiguration) : Bool := conf.flags &&& 0x08 ≠ 0

/-- The Prefix Information option. -/
structure PrefixInfo where
  network : Ipv6Address
  prefixLength : UInt8
  onLink : Bool
  autonomous : Bool
  validLifetime : UInt32
  preferredLifetime : UInt32
  deriving DecidableEq, Repr

/-- The AODV-RPL RREQ option. -/
structure RreqOption where
  symmetric : Bool := true
  hopByHop : Bool := false
  compr : UInt8 := 0
  lifetime : UInt8 := 0
  rankLimit : UInt8 := 0
  origSeqNo : UInt8 := 0
  addressVector : List Ipv6Address := []
  deriving DecidableEq, Repr

/-- The AODV-RPL RREP option. -/
structure RrepOption where
  gratuitous : Bool := false
  hopByHop : Bool := false
  compr : UInt8 := 0
  lifetime : UInt8 := 0
  rankLimit : UInt8 := 0
  delta : UInt8 := 0
  addressVector : List Ipv6Address := []
  deriving DecidableEq, Repr

/-- The AODV-RPL Target option, ART. -/
structure ArtOption where
  destSeqNo : UInt8 := 0
  prefixLength : UInt8 := 0
  target : Ipv6Address := anyAddress
  deriving DecidableEq, Repr

/-- The P2P Route Discovery Option. -/
structure P2pRdoOption where
  reply : Bool := true
  hopByHop : Bool := false
  numRoutes : UInt8 := 0
  compr : UInt8 := 0
  lifetime : UInt8 := 0
  maxRankOrNh : UInt8 := 0
  target : Ipv6Address := anyAddress
  addressVector : List Ipv6Address := []
  deriving DecidableEq, Repr

/-- `P2pRdoCompr`: eight octets are elided when the Target and every address of the vector
share the first eight octets of the DODAGID, else none. -/
def p2pRdoCompr (target : Ipv6Address) (addressVector : List Ipv6Address)
    (dodagId : Ipv6Address) : UInt8 :=
  if target.prefixHalf ≠ dodagId.prefixHalf then 0
  else if addressVector.any fun address => address.prefixHalf ≠ dodagId.prefixHalf then 0
  else 8

/-- An RPL Target option carried by a DIO. -/
structure TargetOption where
  prefixLength : UInt8 := 0
  target : Ipv6Address := anyAddress
  deriving DecidableEq, Repr

/-- `RplDioHeader`. -/
structure DioHeader where
  instanceId : UInt8 := defaultInstance
  version : UInt8 := 0
  rank : UInt16 := infiniteRank
  grounded : Bool := false
  mop : UInt8 := mopNonStoring
  preference : UInt8 := 0
  dtsn : UInt8 := 0
  dodagId : Ipv6Address := anyAddress
  dagConf : Option DagConfiguration := none
  /-- The ETX object of a DAG Metric Container. -/
  metricContainer : Option UInt16 := none
  /-- The Link Quality Level object of a DAG Metric Container. -/
  lql : Option UInt8 := none
  prefixInfo : Option PrefixInfo := none
  rreq : Option RreqOption := none
  rrep : Option RrepOption := none
  arts : List ArtOption := []
  p2pRdo : Option P2pRdoOption := none
  targets : List TargetOption := []
  deriving DecidableEq, Repr

namespace DioHeader

/-- `GetRreq`. -/
def getRreq (dio : DioHeader) : RreqOption := dio.rreq.getD {}

/-- `GetRrep`. -/
def getRrep (dio : DioHeader) : RrepOption := dio.rrep.getD {}

/-- `GetArt`: the first of the ART options. -/
def getArt (dio : DioHeader) : ArtOption := dio.arts.head?.getD {}

/-- `GetP2pRdo`. -/
def getP2pRdo (dio : DioHeader) : P2pRdoOption := dio.p2pRdo.getD {}
end DioHeader

/-! ## Destination Advertisement Object -/

/-- `RplDaoHeader::AdditionalTarget`: a further Target with the Path Sequence and Path
Lifetime of its own Transit Information option. -/
structure AdditionalTarget where
  target : Ipv6Address := anyAddress
  targetPrefixLength : UInt8 := 128
  pathSequence : UInt8 := 0
  pathLifetime : UInt8 := 0
  deriving DecidableEq, Repr

/-- `RplDaoHeader`. -/
structure DaoHeader where
  instanceId : UInt8 := defaultInstance
  ackRequested : Bool := false
  sequence : UInt8 := 0
  dodagId : Ipv6Address := anyAddress
  target : Ipv6Address := anyAddress
  targetPrefixLength : UInt8 := 128
  parent : Ipv6Address := anyAddress
  pathSequence : UInt8 := 0
  pathLifetime : UInt8 := defaultLifetime
  additionalTargets : List AdditionalTarget := []
  deriving DecidableEq, Repr

/-- `RplDaoAckHeader`. -/
structure DaoAckHeader where
  instanceId : UInt8 := defaultInstance
  sequence : UInt8 := 0
  status : UInt8 := 0
  dodagId : Ipv6Address := anyAddress
  deriving DecidableEq, Repr

/-! ## P2P Discovery Reply Object -/

/-- `RplP2pDroHeader`. -/
structure P2pDroHeader where
  instanceId : UInt8 := 0
  stop : Bool := false
  ackRequested : Bool := false
  sequence : UInt8 := 0
  dodagId : Ipv6Address := anyAddress
  p2pRdo : Option P2pRdoOption := none
  deriving DecidableEq, Repr

/-- `RplP2pDroAckHeader`. -/
structure P2pDroAckHeader where
  instanceId : UInt8 := 0
  sequence : UInt8 := 0
  dodagId : Ipv6Address := anyAddress
  deriving DecidableEq, Repr

/-- What a node puts on the link. -/
inductive RplMessage
  | dis
  | dio (dio : DioHeader)
  | dao (dao : DaoHeader)
  | daoAck (ack : DaoAckHeader)
  | p2pDro (dro : P2pDroHeader)
  | p2pDroAck (ack : P2pDroAckHeader)
  deriving DecidableEq, Repr

/-! ## Data packets -/

/-- The RPL Packet Information `PrepareOutgoingPacket` stamps. -/
structure PacketInfo where
  down : Bool
  instanceId : UInt8
  senderRank : UInt16
  deriving DecidableEq, Repr

/-- `RplSourceRoutingHeader`. -/
structure SourceRoutingHeader where
  segmentsLeft : UInt8
  addresses : List Ipv6Address
  deriving DecidableEq, Repr

namespace SourceRoutingHeader

/-- `Cmpri`: eight octets are elided from every address but the last when all of those are
link-local. -/
def cmprI (srh : SourceRoutingHeader) : Nat :=
  if srh.addresses.length < 2 then 0
  else if srh.addresses.dropLast.all Ipv6Address.isLinkLocal then 8 else 0

/-- `Cmpre`. -/
def cmprE (srh : SourceRoutingHeader) : Nat :=
  if srh.addresses.getLast?.any Ipv6Address.isLinkLocal then 8 else 0

/-- `GetSerializedSize`. -/
def serializedSize (srh : SourceRoutingHeader) : Nat :=
  if srh.addresses.isEmpty then 8
  else 8 + (srh.addresses.length - 1) * (16 - srh.cmprI) + (16 - srh.cmprE)

/-- `MAX_SERIALIZED_SIZE`. -/
def maxSerializedSize : Nat := 2048

end SourceRoutingHeader

end Rpl
