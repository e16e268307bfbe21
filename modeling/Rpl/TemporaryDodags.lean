import Rpl.RouteInput
import Rpl.Step

/-!
# Temporary DODAGs and default traffic

A temporary DODAG exists for one discovery, and no other traffic should go up it.
`RouteOutput` passes temporary DODAGs over where it looks for a DODAG by its DODAGID.
Where the base DODAG is taken, and where `RouteInput` takes the DODAG of a packet's
instance, nothing is passed over.
-/

namespace Rpl

open Std

/-- The gateway is the preferred parent of a temporary membership. -/
def RouteSource.throughTemporary : RouteSource → Bool
  | .preferredParent dodag => dodag.isTemporary
  | _ => false

/-- What a lookup gives does not go through a temporary membership. -/
def Avoids {β : Type} (found : Option (RouteSource × β)) : Prop :=
  ∀ source rest, found = some (source, rest) → source.throughTemporary = false

section Avoids

variable {β : Type} {first second : Option (RouteSource × β)}

theorem avoids_none : Avoids (none : Option (RouteSource × β)) :=
  fun _ _ found => absurd found.symm (Option.some_ne_none _)

theorem avoids_or_iff :
    Avoids (first.or second) ↔ Avoids first ∧ (first = none → Avoids second) := by
  cases first with
  | none => exact ⟨fun avoids => ⟨avoids_none, fun _ => avoids⟩, fun avoids => avoids.2 rfl⟩
  | some found => exact ⟨fun avoids => ⟨avoids, fun found => absurd found (Option.some_ne_none _)⟩,
    fun avoids => avoids.1⟩

/-- Where the earlier lookup cannot go wrong, the later one decides when it is reached. -/
theorem avoids_or_iff_of_avoids (avoids : Avoids first) :
    Avoids (first.or second) ↔ (first = none → Avoids second) :=
  avoids_or_iff.trans (and_iff_right avoids)

/-- The sources of a lookup that gives only one kind of source. -/
theorem avoids_of_source {α : Type} {found : Option α} {lookup : α → Option (RouteSource × β)}
    (each : ∀ a, Avoids (lookup a)) : Avoids (found.bind lookup) := by
  intro source rest gives
  obtain ⟨a, -, lookedUp⟩ := Option.bind_eq_some_iff.mp gives
  exact each a source rest lookedUp

theorem avoids_map {α : Type} {found : Option α} {source : RouteSource} {f : α → β}
    (aside : source.throughTemporary = false) : Avoids (found.map fun a => (source, f a)) := by
  intro source' rest gives
  obtain ⟨a, -, same⟩ := Option.map_eq_some_iff.mp gives
  cases same
  exact aside

/-- A lookup that ends at one membership's preferred parent. -/
theorem avoids_preferredParent_iff {found : Option Ipv6Route} {dodag : DodagMembership}
    {f : Ipv6Route → β} :
    Avoids (found.map fun route => (RouteSource.preferredParent dodag, f route)) ↔
      (found.isSome = true → dodag.isTemporary = false) := by
  cases found with
  | none => exact ⟨fun _ has => absurd has Bool.false_ne_true, fun _ => avoids_none⟩
  | some route =>
    refine ⟨fun avoids _ => avoids _ _ rfl, fun aside source rest gives => ?_⟩
    cases gives
    exact aside rfl

end Avoids

namespace Node

variable {n : Node} {destination : Ipv6Address}

/-! ## Packets of this node -/

/-- What `RouteOutput` tries before the preferred parent of the base DODAG. -/
def lookupBeforeBase (n : Node) (destination : Ipv6Address) : Option (RouteSource × Ipv6Route) :=
  (n.lookupDiscovered destination).or <| (n.lookupStoring destination).or <|
  (n.lookupRoot destination).or <|
  n.otherDodags.findSome? fun other =>
    if other.dodagId ≠ destination || other.isTemporary then none
    else
      (n.routeViaPreferredParent other destination).map fun route =>
        (.preferredParent other, route)

theorem avoids_routeOver {source : UInt8 → List Ipv6Address → RouteSource}
    (aside : ∀ instanceId hops, (source instanceId hops).throughTemporary = false)
    (found : Option (UInt8 × List Ipv6Address)) :
    Avoids (n.routeOver destination source found) := by
  unfold routeOver
  split
  · exact avoids_map (aside _ _)
  · exact avoids_none

theorem avoids_lookupBeforeBase : Avoids (n.lookupBeforeBase destination) := by
  unfold lookupBeforeBase lookupDiscovered lookupStoring lookupRoot
  have aodv : Avoids (n.routeOver destination .aodv (n.findAodvRoute destination)) :=
    avoids_routeOver (fun _ _ => rfl) _
  have p2p : Avoids (n.routeOver destination .p2p (n.findP2pRoute destination)) :=
    avoids_routeOver (fun _ _ => rfl) _
  refine avoids_or_iff.mpr ⟨avoids_or_iff.mpr ⟨aodv, fun _ => avoids_or_iff.mpr ⟨p2p, fun _ => ?_⟩⟩,
    fun _ => avoids_or_iff.mpr ⟨?_, fun _ => avoids_or_iff.mpr ⟨?_, fun _ => ?_⟩⟩⟩
  · exact avoids_of_source fun held => avoids_map rfl
  · exact avoids_of_source fun found => avoids_map rfl
  · exact avoids_of_source fun found => avoids_routeOver (fun _ _ => rfl) _
  · intro source route found
    obtain ⟨other, -, gives⟩ := List.exists_of_findSome?_eq_some found
    split at gives
    · cases gives
    · next passed =>
      rw [Bool.not_eq_true, Bool.or_eq_false_iff] at passed
      have aside : (RouteSource.preferredParent other).throughTemporary = false := passed.2
      exact avoids_map aside source route gives

theorem lookupRoute_eq :
    n.lookupRoute destination = (n.lookupBeforeBase destination).or
      (n.getBaseDodag.bind fun base =>
        (n.routeViaPreferredParent base destination).map fun route =>
          (.preferredParent base, route)) := by
  unfold lookupRoute lookupBeforeBase lookupUpward
  simp only [Option.or_assoc]

/-- A packet of this node is not sent up a temporary base DODAG: it stays on the link or has no
interface, another lookup takes it, or that DODAG has no usable preferred parent. -/
def OutputAside (n : Node) (destination : Ipv6Address) (oif : Option Nat) : Prop :=
  n.outputInterface oif ≠ 0 → destination.isGlobalUnicast = true →
    n.lookupBeforeBase destination = none → ∀ base, n.getBaseDodag = some base →
      (n.routeViaPreferredParent base destination).isSome = true → base.isTemporary = false

theorem avoids_routeOutput_iff (oif : Option Nat) :
    Avoids (n.routeOutput destination oif) ↔ n.OutputAside destination oif := by
  unfold routeOutput OutputAside
  dsimp only
  split
  · next none_ => exact ⟨fun _ interface => absurd none_ interface, fun _ => avoids_none⟩
  · next interface =>
    split
    · next onLink =>
      refine ⟨fun _ _ global => ?_, fun _ source route gives => ?_⟩
      · rw [global] at onLink
        cases onLink
      · cases gives
        rfl
    · next global =>
      rw [Bool.not_eq_true, Bool.not_eq_false'] at global
      rw [lookupRoute_eq, avoids_or_iff_of_avoids avoids_lookupBeforeBase]
      simp only [interface, global, ne_eq, not_false_eq_true, true_implies]
      refine imp_congr_right fun _ => ?_
      cases n.getBaseDodag with
      | none =>
        exact ⟨fun _ _ held => absurd held.symm (Option.some_ne_none _), fun _ => avoids_none⟩
      | some base =>
        rw [Option.bind_some, avoids_preferredParent_iff]
        exact ⟨fun aside other same => by cases same; exact aside, fun aside => aside base rfl⟩

/-! ## Packets of others -/

variable {packet : List UInt8} {header : Ipv6Header}

/-- A packet that is forwarded is not sent up a temporary DODAG: it is not forwarded, a
hop-by-hop route or the Storing mode of the base DODAG takes it, or the DODAG it would go up has
no usable preferred parent. -/
def InputAside (n : Node) (packet : List UInt8) (header : Ipv6Header) (interface : Option Nat) :
    Prop :=
  header.destination.isLinkLocalMulticast = false → n.forwardsFrom interface = true →
    n.inputHopByHop packet header = none → n.inputStoring packet header = none →
    ∀ dodag, n.inputDodag packet header = some dodag →
      (n.routeViaPreferredParent dodag header.destination).isSome = true →
      dodag.isTemporary = false

/-- `RouteInput` does not forward the packet up a temporary DODAG. -/
def InputAvoids (n : Node) (packet : List UInt8) (header : Ipv6Header) (interface : Option Nat) :
    Prop :=
  ∀ source route packet', n.routeInput packet header interface = .forward source route packet' →
    source.throughTemporary = false

theorem avoids_inputHopByHop : Avoids (n.inputHopByHop packet header) :=
  avoids_of_source fun _ => avoids_map rfl

/-- A DODAG in Storing mode is not a temporary one. -/
theorem avoids_inputStoring : Avoids (n.inputStoring packet header) := by
  intro source rest gives
  obtain ⟨base, isBase, found⟩ := Option.bind_eq_some_iff.mp gives
  have storing : base.storing = true := by
    rw [storingBase] at isBase
    exact (Option.filter_eq_some_iff.mp isBase).2
  have lasting : (RouteSource.preferredParent base).throughTemporary = false := by
    rw [DodagPlace.storing, decide_eq_true_eq] at storing
    rw [RouteSource.throughTemporary, DodagPlace.isTemporary, storing]
    decide
  revert found
  split
  · exact avoids_map rfl source rest
  · split
    · exact avoids_of_source (fun _ => avoids_map lasting) source rest
    · exact fun found => absurd found.symm (Option.some_ne_none _)

theorem avoids_inputRoute_iff :
    Avoids (n.inputRoute packet header) ↔
      (n.inputHopByHop packet header = none → n.inputStoring packet header = none →
        ∀ dodag, n.inputDodag packet header = some dodag →
          (n.routeViaPreferredParent dodag header.destination).isSome = true →
          dodag.isTemporary = false) := by
  rw [inputRoute, avoids_or_iff_of_avoids avoids_inputHopByHop]
  refine imp_congr_right fun _ => ?_
  rw [avoids_or_iff_of_avoids avoids_inputStoring]
  refine imp_congr_right fun _ => ?_
  unfold inputUpward
  cases n.inputDodag packet header with
  | none =>
    exact ⟨fun _ _ held => absurd held.symm (Option.some_ne_none _), fun _ => avoids_none⟩
  | some dodag =>
    rw [Option.bind_some, avoids_preferredParent_iff]
    exact ⟨fun aside other same => by cases same; exact aside, fun aside => aside dodag rfl⟩

theorem inputAvoids_iff (interface : Option Nat) :
    n.InputAvoids packet header interface ↔ n.InputAside packet header interface := by
  unfold InputAvoids InputAside routeInput
  split
  · next multicast =>
    exact ⟨fun _ notMulticast => absurd (notMulticast.symm.trans multicast) Bool.false_ne_true,
      fun _ _ _ _ gives => InputResult.noConfusion gives⟩
  · next notMulticast =>
    split
    · next refuses =>
      refine ⟨fun _ _ forwards => ?_, fun _ _ _ _ gives => InputResult.noConfusion gives⟩
      rw [forwards] at refuses
      cases refuses
    · next forwards =>
      rw [Bool.not_eq_true, Bool.not_eq_false'] at forwards
      simp only [Bool.eq_false_iff.mpr notMulticast, forwards, true_implies]
      rw [← avoids_inputRoute_iff]
      cases n.inputRoute packet header with
      | none => exact ⟨fun _ => avoids_none, fun _ _ _ _ gives => InputResult.noConfusion gives⟩
      | some found =>
        obtain ⟨source, route, after⟩ := found
        refine ⟨fun avoids source rest gives => ?_, fun avoids source route packet' gives => ?_⟩
        · cases gives
          exact avoids _ _ _ rfl
        · cases gives
          exact avoids _ _ rfl

/-- Neither `RouteOutput` nor `RouteInput` sends a packet up a temporary DODAG exactly if the
DODAG each of them comes to, when no other lookup takes the packet, is not temporary or has no
usable preferred parent. -/
theorem avoidsTemporary_iff (packet : List UInt8) (header : Ipv6Header)
    (oif interface : Option Nat) :
    (Avoids (n.routeOutput header.destination oif) ∧ n.InputAvoids packet header interface) ↔
      (n.OutputAside header.destination oif ∧ n.InputAside packet header interface) :=
  and_congr (avoids_routeOutput_iff oif) (inputAvoids_iff interface)

/-! ## A packet of the instance of a discovery -/

/-- The lasting membership of a router, with no parent. -/
def lastingDodag : DodagMembership :=
  { instanceId := 0, dodagId := 0x20010db8000000000000000000000001#128, rank := 256 }

/-- Its temporary membership in the discovery of 2001:db8::8, with parent fe80::7. -/
def temporaryDodag : DodagMembership :=
  { instanceId := 0x80
    dodagId := 0x20010db8000000000000000000000008#128
    mop := mopP2pRouteDiscovery
    rank := 512
    preferredParent := 0xfe800000000000000000000000000007#128
    parents := ExtTreeMap.empty.insert 0xfe800000000000000000000000000007#128
      { address := 0xfe800000000000000000000000000007#128, rank := 256, interface := 1 } }

/-- A router in both. -/
def inBoth : Node :=
  { ipv6 := .ofInterfaces
      [{}, { addresses :=
          [{ address := 0xfe800000000000000000000000000005#128, scope := .linkLocal },
           { address := 0x20010db8000000000000000000000005#128, scope := .global }] }]
    sockets := {1}
    hasBaseDodag := true
    baseDodagKey := lastingDodag.key
    dodags := (ExtTreeMap.empty.insert lastingDodag.key lastingDodag).insert temporaryDodag.key
      temporaryDodag }

/-- A packet for 2001:db8::9 that names the instance of the discovery. -/
def straying : List UInt8 × Ipv6Header :=
  (59 :: 0 :: (PacketInfoHeader.ofPacketInfo
      { down := false, instanceId := 0x80, senderRank := 768 }).serialize,
    { source := 0x20010db8000000000000000000000006#128
      destination := 0x20010db8000000000000000000000009#128
      nextHeader := nextHeaderHopByHop
      hopLimit := 64 })

/-- It goes up the temporary DODAG. -/
theorem inBoth_not_avoidsTemporary :
    ¬(Avoids (inBoth.routeOutput straying.2.destination none) ∧
      inBoth.InputAvoids straying.1 straying.2 (some 1)) := by
  rintro ⟨-, avoids⟩
  have outcome : (match inBoth.routeInput straying.1 straying.2 (some 1) with
      | .forward source _ _ => source.throughTemporary
      | _ => false) = true := by
    decide +kernel
  cases result : inBoth.routeInput straying.1 straying.2 (some 1) with
  | forward source route packet =>
    rw [result] at outcome
    exact absurd ((avoids source route packet result).symm.trans outcome) Bool.false_ne_true
  | accepted =>
    rw [result] at outcome
    cases outcome
  | refused =>
    rw [result] at outcome
    cases outcome

end Node

end Rpl
