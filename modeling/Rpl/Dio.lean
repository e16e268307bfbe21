import Rpl.P2pReceive

/-!
# Receiving a DIO

`HandleDio`: the checks that refuse a DIO outright, the DODAG Version it enters,
the entry of its sender, the parent selection it causes, and the discovery it
may be part of.
-/

namespace Rpl

open Std

namespace Node

/-- The modes of operation this node implements. -/
def implementedMop (mop : UInt8) : Bool :=
  mop = mopNonStoring || mop = mopStoringNoMulticast || mop = mopP2pRouteDiscovery

/-- A P2P mode DIO carries exactly one kind of discovery option, any other DIO none. -/
def discoveryOptionsFit (dio : DioHeader) : Bool :=
  let options := dio.p2pRdo.isSome.toNat + dio.rreq.isSome.toNat + dio.rrep.isSome.toNat
  if dio.mop = mopP2pRouteDiscovery then options = 1 else options = 0

/-- A DIO whose discovery options fit carries one kind of them at most, and none outside a
temporary DODAG. -/
theorem discoveryOptionsFit_alone {dio : DioHeader} (fits : discoveryOptionsFit dio = true) :
    (dio.rreq.isSome = true → dio.rrep.isSome = false ∧ dio.p2pRdo.isSome = false) ∧
      (dio.rrep.isSome = true → dio.rreq.isSome = false ∧ dio.p2pRdo.isSome = false) ∧
      (dio.rreq.isSome = true ∨ dio.rrep.isSome = true ∨ dio.p2pRdo.isSome = true →
        dio.mop = mopP2pRouteDiscovery) := by
  unfold discoveryOptionsFit at fits
  split at fits
  · next mop =>
    rw [decide_eq_true_eq] at fits
    cases rreq : dio.rreq.isSome <;> cases rrep : dio.rrep.isSome <;>
      cases rdo : dio.p2pRdo.isSome <;> simp_all
  · rw [decide_eq_true_eq] at fits
    cases rreq : dio.rreq.isSome <;> cases rrep : dio.rrep.isSome <;>
      cases rdo : dio.p2pRdo.isSome <;> simp_all

/-- The DIO is dropped before anything in it is acted on. -/
def dropsDio (n : Node) (dio : DioHeader) (sender : Ipv6Address) : Bool :=
  (n.isRoot && !n.isJoined) || (n.dodags[dio.key]?).any (fun dodag => dodag.isRoot) ||
    n.ipv6.isOwnAddress sender || !implementedMop dio.mop || !discoveryOptionsFit dio

/-- The discovery a DIO belongs to is refused. -/
def refusesDiscovery (n : Node) (dio : DioHeader) : Bool :=
  (dio.rreq.isSome && n.shouldRefuseAodvRreq dio) ||
    (dio.rrep.isSome && n.shouldRefuseAodvRrep dio) ||
    (dio.p2pRdo.isSome && n.shouldRefuseP2pRdo dio)

/-- The DODAG is still held after the parent selection. -/
def holds (n : Node) (key : DodagKey) : Bool := n.dodags.contains key

/-- The discovery part of a DIO that has been taken in, for a DODAG still held. -/
def handleDiscovery (n : Node) (dio : DioHeader) (heard : Reception) : Node :=
  let n := if dio.rreq.isSome && n.holds dio.key then n.handleAodvRreq dio heard else n
  let n :=
    if dio.rrep.isSome && n.holds dio.key then n.handleAodvRrepInstance dio heard.sender else n
  if dio.p2pRdo.isSome && n.holds dio.key then n.handleP2pRdo dio heard else n

/-- A DIO for the Version the node is in now. -/
def acceptDio (n : Node) (dio : DioHeader) (heard : Reception) : Node :=
  ((n.updateParent dio heard).selectAfterDio dio heard.sender).handleDiscovery dio heard

/-- `HandleDio`. -/
def handleDio (n : Node) (dio : DioHeader) (heard : Reception) : Node :=
  if n.dropsDio dio heard.sender then n
  else if dio.rrep.isSome && !heard.toMulticast then n.handleAodvRrep dio heard.sender
  else if n.refusesDiscovery dio then n
  else if dio.rank = infiniteRank then n.handlePoison dio.key heard.sender
  else
    match n.enterVersion dio heard.interface with
    | none => n
    | some n => n.acceptDio dio heard

end Node

end Rpl
