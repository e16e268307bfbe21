import Rpl.PacketInfoOption

/-!
# A packet that comes back

A packet with its F flag set says that a neighbour had no downward route for it.  The
route that sent it there is to go.  What is erased is the route of the packet's
destination, whoever the packet comes from: that is right only if the packet comes
from the next hop of that route.
-/

namespace Rpl

open Std

namespace PacketInfoHeader

/-- An option that could not be parsed has no flags. -/
theorem wellFormed_of_forwardingError {octets tail : List UInt8} {rpi : PacketInfoHeader}
    (read : deserialize octets = some (rpi, tail)) (failing : rpi.getForwardingError = true) :
    rpi.malformed = false := by
  unfold deserialize at read
  split at read
  · split at read
    · cases read
      rw [getForwardingError, getFlag, UInt8.zero_and] at failing
      exact absurd rfl (of_decide_eq_true failing)
    · split at read
      · cases read
        rfl
      · cases read
  · cases read

end PacketInfoHeader

namespace Node

/-- No membership loses or changes a downward route but that of the destination, and that one
is lost only if the neighbour is its next hop. -/
def OnlyFailingRoute (n after : Node) (destination neighbour : Ipv6Address) : Prop :=
  ∀ (key : DodagKey) (dodag : DodagMembership), n.dodags[key]? = some dodag →
    ∃ later : DodagMembership, after.dodags[key]? = some later ∧ ∀ target : Ipv6Address,
      later.downwardRoutes[target]? = dodag.downwardRoutes[target]? ∨
        target = destination ∧ later.downwardRoutes[target]? = none ∧
          ∃ route : DownwardRoute, dodag.downwardRoutes[target]? = some route ∧
            route.nextHop = neighbour

/-- The downward route a Forwarding-Error of the instance takes for the failing one. -/
def failingRoute (n : Node) (instanceId : UInt8) (destination : Ipv6Address) :
    Option DownwardRoute :=
  (n.findDodagByInstance instanceId).bind fun (_, dodag) => dodag.downwardRoutes[destination]?

/-- The routers that act on the F flag: it is not the packet acted on last, and no hop-by-hop
route takes the packet. -/
def actsOnForwardingError (n : Node) (state : OptionState) (uid : Nat) (instanceId : UInt8)
    (destination : Ipv6Address) : Bool :=
  !(uid = state.lastProcessedUid ∧ n.now = state.lastProcessedTime) &&
    !n.hasHopByHopRoute (clearDFlag instanceId) destination

variable {n : Node} {destination neighbour : Ipv6Address}

theorem onlyFailingRoute_refl : n.OnlyFailingRoute n destination neighbour :=
  fun _ dodag held => ⟨dodag, held, fun _ => .inl rfl⟩

/-- `NotifyForwardingError` erases the right route exactly if it leads to the neighbour. -/
theorem onlyFailingRoute_notify_iff {instanceId : UInt8} :
    n.OnlyFailingRoute (n.notifyForwardingError instanceId destination) destination neighbour ↔
      ∀ route, n.failingRoute instanceId destination = some route → route.nextHop = neighbour := by
  unfold notifyForwardingError failingRoute
  cases found : n.findDodagByInstance instanceId with
  | none =>
    refine ⟨fun _ route held => ?_, fun _ => onlyFailingRoute_refl⟩
    cases held
  | some entry =>
    obtain ⟨own, membership⟩ := entry
    have heldOwn := (OrderedMap.getElem?_of_first found).1
    dsimp only
    rw [Option.bind_some]
    have after (key : DodagKey) :
        (n.modifyDodag own fun dodag =>
          { dodag with downwardRoutes := dodag.downwardRoutes.erase destination }).dodags[key]? =
        if key = own then n.dodags[own]?.map fun dodag =>
          { dodag with downwardRoutes := dodag.downwardRoutes.erase destination }
        else n.dodags[key]? :=
      OrderedMap.getElem?_modify_eq
    constructor
    · intro only route held
      obtain ⟨later, heldLater, routes⟩ := only own membership heldOwn
      rw [after, if_pos rfl, heldOwn, Option.map_some, Option.some.injEq] at heldLater
      subst heldLater
      rcases routes destination with same | ⟨-, -, gone, heldGone, nextHop⟩
      · rw [held] at same
        simp only [OrderedMap.getElem?_erase_eq, if_true, reduceCtorEq] at same
      · rw [held, Option.some.injEq] at heldGone
        rw [heldGone]
        exact nextHop
    · intro leads key dodag held
      by_cases here : key = own
      · subst here
        rw [heldOwn, Option.some.injEq] at held
        subst held
        refine ⟨_, by rw [after, if_pos rfl, heldOwn, Option.map_some], fun target => ?_⟩
        simp only [OrderedMap.getElem?_erase_eq]
        split
        · next same =>
          subst same
          cases route : membership.downwardRoutes[target]? with
          | none => exact .inl rfl
          | some gone => exact .inr ⟨rfl, rfl, gone, rfl, leads gone route⟩
        · exact .inl rfl
      · exact ⟨dodag, by rw [after, if_neg here]; exact held, fun _ => .inl rfl⟩

/-- A packet with F set leaves every other downward route alone, and takes away the one for its
destination rightly, exactly if the router does not act on it or the route leads to the
neighbour the packet comes from. -/
theorem onlyFailingRoute_iff {state : OptionState} {uid offset : Nat} {packet tail : List UInt8}
    {header : Ipv6Header} {rpi : PacketInfoHeader} {processed : OptionProcessed}
    (read : PacketInfoHeader.deserialize (packet.drop offset) = some (rpi, tail))
    (failing : rpi.getForwardingError = true)
    (process : n.processOption state uid packet offset header = some processed) :
    n.OnlyFailingRoute processed.node header.destination neighbour ↔
      (n.actsOnForwardingError state uid rpi.instanceId header.destination = true →
        ∀ route, n.failingRoute rpi.instanceId header.destination = some route →
          route.nextHop = neighbour) := by
  have wellFormed := PacketInfoHeader.wellFormed_of_forwardingError read failing
  simp only [processOption, read, Option.map_some, wellFormed, Bool.false_eq_true, if_false,
    Option.some.injEq] at process
  rw [actsOnForwardingError]
  split at process
  · next again =>
    subst process
    exact ⟨fun _ acts => by simp [again] at acts, fun _ => onlyFailingRoute_refl⟩
  · next distinct =>
    split at process
    · next taken =>
      subst process
      exact ⟨fun _ acts => by simp [taken] at acts, fun _ => onlyFailingRoute_refl⟩
    · next notTaken =>
      subst process
      rw [onlyFailingRoute_notify_iff]
      refine ⟨fun leads _ => leads, fun leads => leads ?_⟩
      simp only [distinct, decide_false, Bool.not_false, Bool.true_and,
        Bool.eq_false_iff.mpr notTaken]

/-! ## A flag set by someone else -/

/-- A Storing membership with a downward route for 2001:db8::9 through fe80::7. -/
def bouncedDodag : DodagMembership :=
  { instanceId := 0
    dodagId := 0x20010db8000000000000000000000001#128
    mop := mopStoringNoMulticast
    rank := 256
    downwardRoutes := ExtTreeMap.empty.insert 0x20010db8000000000000000000000009#128
      { nextHop := 0xfe800000000000000000000000000007#128, interface := 1, pathSequence := 1
        expire := timeMax } }

/-- A router with that membership. -/
def bounced : Node :=
  { ipv6 := leafIpv6, dodags := ExtTreeMap.empty.insert bouncedDodag.key bouncedDodag, now := 1 }

/-- A packet for 2001:db8::9. -/
def bouncedHeader : Ipv6Header :=
  { source := 0x20010db8000000000000000000000008#128
    destination := 0x20010db8000000000000000000000009#128
    nextHeader := nextHeaderHopByHop
    hopLimit := 64 }

/-- The option of a packet that goes down, with its F flag set. -/
def bouncedRpi : PacketInfoHeader :=
  (PacketInfoHeader.ofPacketInfo { down := true, instanceId := 0, senderRank := 128 }
    ).setForwardingError true

/-- The router takes the packet in. -/
def bouncedArrival : Option OptionProcessed :=
  bounced.processOption { lastProcessedTime := 0 } 1 (59 :: 0 :: bouncedRpi.serialize) 2
    bouncedHeader

theorem bouncedArrival_read :
    PacketInfoHeader.deserialize ((59 :: 0 :: bouncedRpi.serialize).drop 2) =
      some (bouncedRpi, []) := by
  decide

/-- Coming from fe80::7, it takes the route there away. -/
theorem bounced_onlyFailingRoute :
    ∃ processed, bouncedArrival = some processed ∧
      bounced.OnlyFailingRoute processed.node bouncedHeader.destination
        0xfe800000000000000000000000000007#128 := by
  obtain ⟨processed, arrived⟩ : ∃ processed, bouncedArrival = some processed := ⟨_, rfl⟩
  refine ⟨processed, arrived, (onlyFailingRoute_iff bouncedArrival_read (by decide) arrived).mpr
    fun _ route held => ?_⟩
  have nextHop : (bounced.failingRoute bouncedRpi.instanceId bouncedHeader.destination).map
      (fun route => route.nextHop) = some 0xfe800000000000000000000000000007#128 := by
    decide +kernel
  rw [held, Option.map_some, Option.some.injEq] at nextHop
  exact nextHop

/-- Coming from anyone else, fe80::66 for one, it takes the same route away. -/
theorem bounced_not_onlyFailingRoute :
    ∃ processed, bouncedArrival = some processed ∧
      ¬bounced.OnlyFailingRoute processed.node bouncedHeader.destination
        0xfe800000000000000000000000000066#128 := by
  obtain ⟨processed, arrived⟩ : ∃ processed, bouncedArrival = some processed := ⟨_, rfl⟩
  refine ⟨processed, arrived, fun only => ?_⟩
  have held : bounced.dodags[bouncedDodag.key]? = some bouncedDodag :=
    ExtTreeMap.getElem?_insert_self
  obtain ⟨later, heldLater, routes⟩ := only _ _ held
  have gone : (bouncedArrival.bind fun processed => processed.node.dodags[bouncedDodag.key]?).map
      (fun dodag => (dodag.downwardRoutes[bouncedHeader.destination]?).map
        fun route => route.nextHop) = some none := by
    decide +kernel
  have before : (bouncedDodag.downwardRoutes[bouncedHeader.destination]?).map
      (fun route => route.nextHop) = some 0xfe800000000000000000000000000007#128 := by
    decide +kernel
  rw [arrived, Option.bind_some, heldLater, Option.map_some, Option.some.injEq] at gone
  rcases routes bouncedHeader.destination with same | ⟨-, -, route, heldRoute, nextHop⟩
  · rw [same, before] at gone
    cases gone
  · rw [heldRoute, Option.map_some, nextHop] at before
    exact absurd before (by decide)

end Node

end Rpl
