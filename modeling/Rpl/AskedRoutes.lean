import Rpl.Turns
import Rpl.RouteTables

/-!
# Routes that were asked for

A source route comes to an origin in three messages.  The P2P-DRO is checked against
the Target the Origin asked for.  The replies of AODV-RPL are not checked against the
target of the RREQ-Instance: the one by unicast gives a route to whatever its address
vector ends in, the DIO of an RREP-Instance one to whatever node roots it.
-/

namespace Rpl

open Std

/-! ## Asking -/

/-- The RREQ-Instance of an OrigNode, for the target. -/
def DodagMembership.asksAodv (dodag : DodagMembership) (target : Ipv6Address) : Bool :=
  dodag.isRoot && dodag.isTemporary && dodag.aodv.isOrigin && !dodag.aodv.isRrepInstance &&
    dodag.aodv.target = target

/-- The temporary DAG of an Origin, for the Target. -/
def DodagMembership.asksP2p (dodag : DodagMembership) (target : Ipv6Address) : Bool :=
  dodag.isRoot && dodag.isTemporary && dodag.p2p.isOrigin && dodag.p2p.target = target

namespace Node

/-- The node is the OrigNode of a discovery of the target. -/
def AsksAodv (n : Node) (target : Ipv6Address) : Prop :=
  ∃ (key : DodagKey) (dodag : DodagMembership),
    n.dodags[key]? = some dodag ∧ dodag.asksAodv target = true

/-- The node is the Origin of a discovery of the Target. -/
def AsksP2p (n : Node) (target : Ipv6Address) : Prop :=
  ∃ (key : DodagKey) (dodag : DodagMembership),
    n.dodags[key]? = some dodag ∧ dodag.asksP2p target = true

/-- A message that stores an AODV-RPL route to the target. -/
inductive StoresAodvRoute (n : Node) (e : Event) : Ipv6Address → Prop
  /-- A reply by unicast to an own address, under the key of a membership held, that names the
  target last in its address vector. -/
  | reply {dio : DioHeader} {heard : Reception} {dodag : DodagMembership} {target : Ipv6Address}
      (event : e = .receive heard (.dio dio)) (unicast : heard.toMulticast = false)
      (kept : n.dropsDio dio heard.sender = false) (rrep : dio.rrep.isSome = true)
      (sourceRouted : dio.getRrep.hopByHop = false) (named : dio.arts ≠ [])
      (held : n.dodags[(⟨dio.instanceId - dio.getRrep.delta, dio.getArt.target⟩ : DodagKey)]? =
        some dodag)
      (unhandled : dodag.aodv.rrepHandled.contains dio.dodagId = false)
      (own : n.ipv6.isOwnAddress dio.getArt.target = true)
      (last : dio.getRrep.addressVector.getLast? = some target) : StoresAodvRoute n e target
  /-- A DIO of the target's RREP-Instance, in answer to an own address, that is not passed over
  and whose address vector has room. -/
  | rrepInstance {dio : DioHeader} {heard : Reception} {m : Node} {dodag : DodagMembership}
      (takes : n.Takes e dio heard) (rrep : dio.rrep.isSome = true)
      (sourceRouted : dio.getRrep.hopByHop = false)
      (handles : n.beforeDiscovery dio heard = some m) (held : m.dodags[dio.key]? = some dodag)
      (heeded : m.ignoresRrepInstance dodag dio heard.sender = false)
      (own : m.ipv6.isOwnAddress dio.getArt.target = true)
      (addressed : (m.getGlobalAddressIn dodag).isAny = false)
      (room : dio.getRrep.addressVector.length < aodvAddressVectorMaxEntries) :
      StoresAodvRoute n e dio.dodagId

/-- Whatever route the event stores, the node asks for. -/
def AnswersAsked (n : Node) (e : Event) : Prop :=
  ∀ target, n.StoresAodvRoute e target → n.AsksAodv target

variable {n m : Node} {e : Event} {key : DodagKey} {dodag : DodagMembership} {dio : DioHeader}
  {heard : Reception} {target : Ipv6Address}

/-! ## The RREP-Instance -/

/-- The membership the address vector is extended in has the addresses it had. -/
theorem extendVector_stuck {armed : Node} {rewritten : AodvRreqState}
    (held : armed.dodags[key]? = some { dodag with aodv := rewritten })
    (sameIpv6 : armed.ipv6 = m.ipv6) (addressVector : List Ipv6Address)
    (stuck : (m.getGlobalAddressIn dodag).isAny = true ∨
      aodvAddressVectorMaxEntries ≤ addressVector.length) :
    (armed.extendVector key addressVector).1 = false := by
  have sameAddress : armed.getGlobalAddressIn { dodag with aodv := rewritten } =
      m.getGlobalAddressIn dodag := by
    unfold getGlobalAddressIn getGlobalAddress
    rw [sameIpv6]
  unfold extendVector
  rw [held]
  dsimp only
  rw [sameAddress]
  rcases stuck with unaddressed | full
  · rw [if_pos unaddressed]
  · split
    · rfl
    · rfl

theorem held_armAodvExpiry (held : m.dodags[key]? = some dodag) :
    ∃ aodv, (m.armAodvExpiry key).dodags[key]? = some { dodag with aodv := aodv } ∧
      (m.armAodvExpiry key).ipv6 = m.ipv6 := by
  unfold armAodvExpiry
  rw [held]
  dsimp only
  split
  · exact ⟨dodag.aodv, held, rfl⟩
  · rw [setDodag_of_held held]
    exact ⟨_, ExtTreeMap.getElem?_insert_self, rfl⟩

theorem aodvRoutes_extendVector (addressVector : List Ipv6Address) :
    (m.extendVector key addressVector).2.aodvRoutes = m.aodvRoutes := by
  unfold extendVector
  split
  · rfl
  · dsimp only
    split
    · rfl
    · split
      · exact congrArg RouteTables.aodv (routeTables_leaveDodag m key false)
      · rfl

/-- A node stores no route from an RREP-Instance DIO that it passes over, that is not for it, or
that it cannot add its address to. -/
theorem aodvRoutes_handleAodvRrepInstance (held : m.dodags[dio.key]? = some dodag)
    (sender : Ipv6Address)
    (stuck : m.ignoresRrepInstance dodag dio sender = true ∨
      m.ipv6.isOwnAddress dio.getArt.target = false ∨ (m.getGlobalAddressIn dodag).isAny = true ∨
      aodvAddressVectorMaxEntries ≤ dio.getRrep.addressVector.length) :
    (m.handleAodvRrepInstance dio sender).aodvRoutes = m.aodvRoutes := by
  have heldUnbarred : (m.unbarred dio.key).dodags[dio.key]? = some dodag := held
  have sameIgnores : (m.unbarred dio.key).ignoresRrepInstance dodag dio sender =
      m.ignoresRrepInstance dodag dio sender := rfl
  have sameIpv6 : (m.unbarred dio.key).ipv6 = m.ipv6 := rfl
  have sameAddress : (m.unbarred dio.key).getGlobalAddressIn dodag = m.getGlobalAddressIn dodag :=
    rfl
  have sameRoutes : (m.unbarred dio.key).aodvRoutes = m.aodvRoutes := rfl
  rw [← sameIgnores, ← sameIpv6, ← sameAddress] at stuck
  rw [← sameRoutes]
  unfold handleAodvRrepInstance
  extract_lets key option lifted
  have isLifted : m.unbarred dio.key = lifted := rfl
  rw [isLifted] at heldUnbarred stuck ⊢
  clear_value lifted
  rw [heldUnbarred]
  dsimp only
  split
  · rfl
  · next heeded =>
    replace stuck := stuck.resolve_left heeded
    have recordedHeld : (lifted.modifyAodv key fun _ => lifted.withRrep dio dodag.aodv).dodags[
        key]? = some { dodag with aodv := lifted.withRrep dio dodag.aodv } := by
      rw [modifyAodv, setDodag_of_held heldUnbarred, setDodag, ExtTreeMap.getElem?_insert_self]
    have recordedIpv6 : (lifted.modifyAodv key fun _ => lifted.withRrep dio dodag.aodv).ipv6 =
        lifted.ipv6 := rfl
    have recordedRoutes : (lifted.modifyAodv key fun _ =>
        lifted.withRrep dio dodag.aodv).aodvRoutes = lifted.aodvRoutes := rfl
    generalize (lifted.modifyAodv key fun _ => lifted.withRrep dio dodag.aodv) = recorded
      at recordedHeld recordedIpv6 recordedRoutes ⊢
    obtain ⟨aodv, armedHeld, armedIpv6⟩ := held_armAodvExpiry recordedHeld
    have arms (m : Node) : (m.armAodvExpiry dio.key).aodvRoutes = m.aodvRoutes :=
      congrArg RouteTables.aodv (routeTables_armAodvExpiry m dio.key)
    have armedRoutes : (recorded.armAodvExpiry key).aodvRoutes = lifted.aodvRoutes :=
      (arms recorded).trans recordedRoutes
    rw [recordedIpv6] at armedIpv6
    generalize recorded.armAodvExpiry key = armed at armedHeld armedIpv6 armedRoutes ⊢
    split
    · have stored := armed.stakes_storeHopByHopRoute
        ⟨(lifted.withRrep dio dodag.aodv).pairedInstanceId,
          (lifted.withRrep dio dodag.aodv).origNode⟩
        key.dodagId dodag.preferredParent armed.attributes.routeLifetime
        (some (lifted.withRrep dio dodag.aodv).origSeqNo) false
      split
      · exact armedRoutes
      · next after accepted =>
        rw [accepted] at stored
        exact (arms after).trans ((congrArg Stakes.aodvRoutes stored).trans armedRoutes)
    · have extended : (armed.extendVector key option.addressVector).2.aodvRoutes =
          armed.aodvRoutes := aodvRoutes_extendVector option.addressVector
      split
      · exact extended.trans armedRoutes
      · next goesOn =>
        split
        · next origin =>
          have room : ¬((lifted.getGlobalAddressIn dodag).isAny = true ∨
              aodvAddressVectorMaxEntries ≤ option.addressVector.length) := by
            intro full
            rw [extendVector_stuck armedHeld armedIpv6 option.addressVector full] at goesOn
            exact goesOn rfl
          rcases stuck with notOwn | full
          · rw [withRrep] at origin
            dsimp only at origin
            rw [notOwn] at origin
            cases origin
          · exact absurd full room
        · exact (arms _).trans (extended.trans armedRoutes)

/-! ## What an event stores -/

/-- An AODV-RPL route changes only where a message gives one. -/
theorem givesAodvRoute_of_changed (enabled : n.Enabled e)
    (changed : (n.apply e).aodvRoutes[target]? ≠ n.aodvRoutes[target]?) :
    ∃ s, n.GivesAodvRoute e s target := by
  refine keeps_apply (I := fun s => s.aodvRoutes[target]? ≠ n.aodvRoutes[target]? →
    ∃ s, n.GivesAodvRoute e s target) enabled ?_ (fun different => absurd rfl different) changed
  intro s after _ shift before changed
  cases shift with
  | @aodvRoute given _ gives =>
    by_cases same : target = given
    · subst same
      exact ⟨s, gives⟩
    · dsimp only at changed
      rw [OrderedMap.getElem?_insert_eq, if_neg same] at changed
      exact before changed
  | _ => exact before changed

theorem givesP2pRoute_of_changed (enabled : n.Enabled e)
    (changed : (n.apply e).p2pRoutes[target]? ≠ n.p2pRoutes[target]?) :
    n.GivesP2pRoute e target := by
  refine keeps_apply (I := fun s => s.p2pRoutes[target]? ≠ n.p2pRoutes[target]? →
    n.GivesP2pRoute e target) enabled ?_ (fun different => absurd rfl different) changed
  intro s after _ shift before changed
  cases shift with
  | @p2pRoute given _ gives =>
    by_cases same : target = given
    · subst same
      exact gives
    · dsimp only at changed
      rw [OrderedMap.getElem?_insert_eq, if_neg same] at changed
      exact before changed
  | _ => exact before changed

/-- The message that gives a route has met all that it takes to store it. -/
theorem storesAodvRoute_of_changed (enabled : n.Enabled e)
    (changed : (n.apply e).aodvRoutes[target]? ≠ n.aodvRoutes[target]?) :
    n.StoresAodvRoute e target := by
  obtain ⟨s, gives⟩ := givesAodvRoute_of_changed enabled changed
  cases gives with
  | reply event unicast kept rrep sourceRouted named held unhandled own last =>
    exact .reply event unicast kept rrep sourceRouted named held unhandled own last
  | @rrepInstance dio heard takes rrep sourceRouted =>
    cases handles : n.beforeDiscovery dio heard with
    | none =>
      have entered : n.enterVersion dio heard.interface = none := Option.map_eq_none_iff.mp handles
      rw [takes.apply_eq, entered] at changed
      exact absurd rfl changed
    | some m =>
      obtain ⟨entered, enters, isBefore⟩ := Option.map_eq_some_iff.mp handles
      have sameTables : m.routeTables = n.routeTables := by
        rw [← isBefore, routeTables_selectAfterDio, routeTables_updateParent,
          routeTables_enterVersion enters]
      have sameRoutes : m.aodvRoutes = n.aodvRoutes := congrArg RouteTables.aodv sameTables
      rw [takes.apply_eq_handleDiscovery handles, ← sameRoutes] at changed
      cases holds : m.holds dio.key with
      | false =>
        have skipped : m.handleDiscovery dio heard = m := by
          simp only [handleDiscovery, holds, Bool.and_false, Bool.false_eq_true, if_false]
        rw [skipped] at changed
        exact absurd rfl changed
      | true =>
        rw [handleDiscovery_of_rrep takes rrep holds] at changed
        obtain ⟨dodag, held⟩ := held_of_holds holds
        have moves (stuck) : False := changed
          (congrArg (·[dio.dodagId]?) (aodvRoutes_handleAodvRrepInstance held heard.sender stuck))
        refine .rrepInstance takes rrep sourceRouted handles held ?_ ?_ ?_ ?_
        · exact Bool.eq_false_iff.mpr fun ignored => moves (.inl ignored)
        · by_contra notOwn
          exact moves (.inr (.inl (Bool.eq_false_iff.mpr notOwn)))
        · exact Bool.eq_false_iff.mpr fun unaddressed => moves (.inr (.inr (.inl unaddressed)))
        · exact Nat.lt_of_not_le fun full => moves (.inr (.inr (.inr full)))

/-! ## The Origin of a temporary DAG -/

/-- Whoever is the Origin in a temporary DAG is its root. -/
def OriginsRooted (s : Stakes) : Prop :=
  ∀ (key : DodagKey) (stake : Stake), s.held[key]? = some stake →
    stake.p2p.isOrigin = true → stake.isRoot = true

theorem originsRooted_shift {late : Bool} {s after : Stakes} (shift : Shift n e late s after)
    (rooted : OriginsRooted s) : OriginsRooted after := by
  intro key stake held origin
  cases shift.turn key with
  | stays sameHeld => exact rooted key stake (sameHeld ▸ held) origin
  | unbars _ _ _ _ heldBefore still =>
    rw [still, ← heldBefore] at held
    exact rooted key stake held origin
  | begins absent begins heldAfter =>
    cases heldAfter.symm.trans held
    cases begins with
    | join => cases origin
    | root roots =>
      cases roots with
      | ordinary => rfl
      | rreq => rfl
      | p2p => rfl
      | rrep => rfl
  | rewrites heldBefore rewrites rewritten =>
    cases rewritten.symm.trans held
    have before := rooted key _ heldBefore
    cases rewrites with
    | rest => exact before origin
    | rreq => exact before origin
    | rrep => exact before origin
    | rdo => exact before origin
    | armAodv => exact before origin
    | armP2p => exact before origin
    | stop => exact before origin
  | ends _ gone =>
    rw [gone] at held
    cases held

theorem originsRooted_of_reachable (reachable : nodeSystem.Reachable n) :
    OriginsRooted n.stakes := by
  refine reachable.invariant (I := fun n => OriginsRooted n.stakes) ?_ ?_
  · intro n initial key stake held
    rw [stakes_held, initial.dodags] at held
    cases held
  · intro n e rooted enabled _
    exact keeps_apply enabled (fun _ _ _ shift => originsRooted_shift shift) rooted

/-- A route is stored only for a target the node asks for, in every step whose message answers
what was asked. -/
theorem asks_of_changed (reachable : nodeSystem.Reachable n) (enabled : n.Enabled e)
    (answers : n.AnswersAsked e) (target : Ipv6Address) :
    ((n.apply e).aodvRoutes[target]? ≠ n.aodvRoutes[target]? → n.AsksAodv target) ∧
      ((n.apply e).p2pRoutes[target]? ≠ n.p2pRoutes[target]? → n.AsksP2p target) := by
  refine ⟨fun changed => answers target (storesAodvRoute_of_changed enabled changed),
    fun changed => ?_⟩
  cases givesP2pRoute_of_changed enabled changed with
  | @dro _ dro rdo dodag event option held temporary origin sought =>
    have rooted : dodag.isRoot = true :=
      originsRooted_of_reachable reachable _ _ (held_stake held) origin
    refine ⟨_, dodag, held, ?_⟩
    rw [DodagMembership.asksP2p, rooted, temporary, origin, sought, decide_eq_true rfl]
    rfl

/-! ## An OrigNode -/

/-- fe80::2 and 2001:db8::1 on interface 1. -/
def seekerIpv6 : Ipv6L3Protocol :=
  .ofInterfaces
    [{},
      { addresses :=
          [{ address := 0xfe800000000000000000000000000002#128, scope := .linkLocal },
            { address := 0x20010db8000000000000000000000001#128, scope := .global }] }]

/-- A node that looks for 2001:db8::9. -/
def seeking : Node :=
  (started seekerIpv6).apply (.discoverRoute 0x20010db8000000000000000000000009#128 false)

/-- An answer to its RREQ-Instance 0x80, in the name of a TargNode. -/
def answerOf (instanceId delta : UInt8) (targNode : Ipv6Address)
    (addressVector : List Ipv6Address) : DioHeader :=
  { instanceId := instanceId
    rank := 256
    mop := mopP2pRouteDiscovery
    dodagId := targNode
    rrep := some { lifetime := 2, delta := delta, addressVector := addressVector }
    arts := [{ target := 0x20010db8000000000000000000000001#128 }] }

/-- The reply to it, by unicast, over 2001:db8::5. -/
def soughtReply : Event :=
  .receive
    { sender := 0xfe800000000000000000000000000005#128, interface := 1, toMulticast := false }
    (.dio (answerOf 0x80 0 0x20010db8000000000000000000000009#128
      [0x20010db8000000000000000000000005#128, 0x20010db8000000000000000000000009#128]))

/-- The DIO of an RREP-Instance nobody has asked for. -/
def unsought : Event := hears (answerOf 0x81 1 0x20010db8000000000000000000000066#128 [])

theorem seeking_answersAsked : seeking.AnswersAsked soughtReply := by
  have asks : (seeking.dodags[(⟨0x80, 0x20010db8000000000000000000000001#128⟩ : DodagKey)]?).any
      (·.asksAodv 0x20010db8000000000000000000000009#128) = true := by decide +kernel
  intro target stores
  cases stores with
  | reply event _ _ _ _ _ _ _ _ last =>
    cases event
    cases last
    obtain ⟨dodag, held, asked⟩ := (Option.any_eq_true _ _).mp asks
    exact ⟨_, dodag, held, asked⟩
  | rrepInstance takes =>
    have unicast := takes.takes
    cases takes.event
    exact absurd unicast (by decide +kernel)

theorem seeking_reachable : nodeSystem.Reachable seeking := by
  have enabled : (started seekerIpv6).Enabled
      (.discoverRoute 0x20010db8000000000000000000000009#128 false) := trivial
  exact run_apply (started_run seekerIpv6) enabled trivial

/-- The reply is stored for the target that was asked for. -/
theorem seeking_asks :
    seeking.AsksAodv 0x20010db8000000000000000000000009#128 :=
  (asks_of_changed seeking_reachable (by change 1 ∈ seeking.sockets; decide +kernel)
    seeking_answersAsked _).1 (by decide +kernel)

/-- A node that has asked for nothing gets a route to whoever answers it. -/
theorem started_stores_unsought :
    nodeSystem.Reachable (started seekerIpv6) ∧ (started seekerIpv6).Enabled unsought ∧
      ((started seekerIpv6).apply unsought).aodvRoutes[
          (0x20010db8000000000000000000000066#128 : Ipv6Address)]? ≠
        (started seekerIpv6).aodvRoutes[(0x20010db8000000000000000000000066#128 : Ipv6Address)]? ∧
      ¬(started seekerIpv6).AsksAodv 0x20010db8000000000000000000000066#128 ∧
      ¬(started seekerIpv6).AsksP2p 0x20010db8000000000000000000000066#128 := by
  refine ⟨started_run seekerIpv6, started_listens _,
    by decide +kernel, ?_, ?_⟩
  · rintro ⟨key, dodag, held, -⟩
    cases held
  · rintro ⟨key, dodag, held, -⟩
    cases held

end Node

end Rpl
