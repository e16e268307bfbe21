import Rpl.Step

/-!
# The freshness of hop-by-hop routes

What `StoreHopByHopRoute` does to a live route of the same instance, DODAG and
destination.  A sequence number that is older than the one held is refused, and one
that is equal moves a next hop only where it is not pinned.  A number too far from the
one held to be compared with it is not refused, though, and replaces the route.
-/

namespace Rpl

namespace Node

variable {n : Node} {key : DodagKey} {destination nextHop : Ipv6Address} {lifetime : Time}
  {seqNo : Option UInt8} {pinNextHop : Bool} {held : HopByHopRoute}

/-- The table after a call of `StoreHopByHopRoute`. -/
def routesAfter (n : Node) (key : DodagKey) (destination nextHop : Ipv6Address) (lifetime : Time)
    (seqNo : Option UInt8) (pinNextHop : Bool) : Std.ExtTreeMap Ipv6Address HopByHopRoute :=
  (n.storeHopByHopRoute key destination nextHop lifetime seqNo pinNextHop).2.hopByHopRoutes

/-- A call respects the freshness of the live route it meets. -/
structure RespectsRoute (n : Node) (key : DodagKey) (destination nextHop : Ipv6Address)
    (lifetime : Time) (seqNo : Option UInt8) (pinNextHop : Bool) (held : HopByHopRoute) : Prop where
  /-- Only a number as new as the one held replaces the route. -/
  fresh : ∀ number, seqNo = some number →
    n.routesAfter key destination nextHop lifetime seqNo pinNextHop ≠ n.hopByHopRoutes →
      sequenceCompare number held.seqNo = .equal ∨ sequenceCompare number held.seqNo = .greater
  /-- At an equal number, the next hop changes only where it is not pinned. -/
  pinned : ∀ number after, seqNo = some number → sequenceCompare number held.seqNo = .equal →
    (n.routesAfter key destination nextHop lifetime seqNo pinNextHop)[destination]? = some after →
      after.nextHop ≠ held.nextHop → pinNextHop = false
  /-- Without a number, the next hop does not change. -/
  unnumbered : ∀ after, seqNo = none →
    (n.routesAfter key destination nextHop lifetime seqNo pinNextHop)[destination]? = some after →
      after.nextHop = held.nextHop
  /-- A refused call changes nothing. -/
  refused : (n.storeHopByHopRoute key destination nextHop lifetime seqNo pinNextHop).1 = false →
    n.routesAfter key destination nextHop lifetime seqNo pinNextHop = n.hopByHopRoutes

/-- A live route is in the table. -/
theorem held_of_live (live : n.findHopByHopRouteIn key destination = some held) :
    n.hopByHopRoutes[destination]? = some held :=
  (Option.filter_eq_some_iff.mp (Option.filter_eq_some_iff.mp live).1).1

theorem routesAfter_of_refused
    (refuses : n.refusesHopByHopRoute key destination nextHop seqNo pinNextHop = true) :
    n.routesAfter key destination nextHop lifetime seqNo pinNextHop = n.hopByHopRoutes := by
  rw [routesAfter, storeHopByHopRoute, if_pos refuses]

theorem routesAfter_of_accepted
    (accepts : n.refusesHopByHopRoute key destination nextHop seqNo pinNextHop = false) :
    (n.routesAfter key destination nextHop lifetime seqNo pinNextHop)[destination]? =
      some
        { instanceId := key.instanceId
          dodagId := key.dodagId
          nextHop := nextHop
          expire := n.now + lifetime
          seqNo := seqNo.getD 0 } := by
  rw [routesAfter, storeHopByHopRoute, if_neg (by rw [accepts]; exact Bool.false_ne_true)]
  exact Std.ExtTreeMap.getElem?_insert_self

theorem refuses_of_live (live : n.findHopByHopRouteIn key destination = some held) :
    n.refusesHopByHopRoute key destination nextHop seqNo pinNextHop =
      match seqNo with
      | some number => sequenceNewer held.seqNo number ||
          (pinNextHop && held.seqNo = number && held.nextHop ≠ nextHop)
      | none => held.nextHop ≠ nextHop := by
  rw [refusesHopByHopRoute, live]
  rfl

/-- The route after a call that is not refused is the one the call brings. -/
theorem accepted_of_changed {after : HopByHopRoute}
    (live : n.findHopByHopRouteIn key destination = some held)
    (found : (n.routesAfter key destination nextHop lifetime seqNo pinNextHop)[destination]? =
      some after) (changed : after.nextHop ≠ held.nextHop) :
    n.refusesHopByHopRoute key destination nextHop seqNo pinNextHop = false ∧
      after.nextHop = nextHop := by
  cases refuses : n.refusesHopByHopRoute key destination nextHop seqNo pinNextHop with
  | true =>
    rw [routesAfter_of_refused refuses, held_of_live live] at found
    cases found
    exact absurd rfl changed
  | false =>
    rw [routesAfter_of_accepted refuses] at found
    cases found
    exact ⟨rfl, rfl⟩

/-- A numbered call is refused exactly when its number is older than the one held, or equal to
it with another next hop while next hops are pinned. -/
theorem refuses_numbered_iff {number : UInt8}
    (live : n.findHopByHopRouteIn key destination = some held) :
    n.refusesHopByHopRoute key destination nextHop (some number) pinNextHop = true ↔
      sequenceCompare number held.seqNo = .less ∨
        (pinNextHop = true ∧ held.seqNo = number ∧ held.nextHop ≠ nextHop) := by
  have older : sequenceNewer held.seqNo number = true ↔
      sequenceCompare number held.seqNo = .less :=
    ⟨fun newer => sequenceCompare_less_of_greater (of_decide_eq_true newer),
      fun less => decide_eq_true (sequenceCompare_greater_of_less less)⟩
  simp only [refuses_of_live live, Bool.or_eq_true, Bool.and_eq_true, decide_eq_true_eq, older,
    and_assoc]

/-- A call that replaces the route with a number leaves that number in the table. -/
theorem accepts_of_replaced
    (replaced : n.routesAfter key destination nextHop lifetime seqNo pinNextHop ≠
      n.hopByHopRoutes) :
    n.refusesHopByHopRoute key destination nextHop seqNo pinNextHop = false :=
  Bool.eq_false_iff.mpr fun refuses => replaced (routesAfter_of_refused refuses)

/-- A number that differs from the one held and is not refused replaces the route. -/
theorem replaced_of_accepted {number : UInt8}
    (live : n.findHopByHopRouteIn key destination = some held) (different : held.seqNo ≠ number)
    (accepts : n.refusesHopByHopRoute key destination nextHop (some number) pinNextHop = false) :
    n.routesAfter key destination nextHop lifetime (some number) pinNextHop ≠
      n.hopByHopRoutes := by
  intro same
  have found : (n.routesAfter key destination nextHop lifetime (some number)
      pinNextHop)[destination]? = some _ := routesAfter_of_accepted accepts
  rw [same, held_of_live live] at found
  exact different (congrArg HopByHopRoute.seqNo (Option.some.inj found))

/-- A number that cannot be compared with the one held is not refused. -/
theorem accepts_of_notComparable {number : UInt8}
    (live : n.findHopByHopRouteIn key destination = some held)
    (apart : sequenceCompare number held.seqNo = .notComparable) :
    n.refusesHopByHopRoute key destination nextHop (some number) pinNextHop = false := by
  refine Bool.eq_false_iff.mpr fun refuses => ?_
  rcases (refuses_numbered_iff live).mp refuses with less | ⟨_, equal, _⟩
  · exact absurd (apart.symm.trans less) nofun
  · rw [equal, sequenceCompare_self] at apart
    exact absurd apart nofun

/-- A call respects the live route it meets exactly when it brings no sequence number that
cannot be compared with the one held. -/
theorem respectsRoute_iff (live : n.findHopByHopRouteIn key destination = some held) :
    n.RespectsRoute key destination nextHop lifetime seqNo pinNextHop held ↔
      ∀ number, seqNo = some number → sequenceCompare number held.seqNo ≠ .notComparable := by
  constructor
  · rintro respects number rfl apart
    have different : held.seqNo ≠ number := by
      rintro rfl
      rw [sequenceCompare_self] at apart
      exact absurd apart (by decide)
    have replaced : n.routesAfter key destination nextHop lifetime (some number) pinNextHop ≠
        n.hopByHopRoutes :=
      replaced_of_accepted live different (accepts_of_notComparable live apart)
    rcases respects.fresh number rfl replaced with equal | greater
    · exact absurd (apart.symm.trans equal) (by decide)
    · exact absurd (apart.symm.trans greater) (by decide)
  · intro comparable
    refine ⟨?fresh, ?pinned, ?unnumbered, ?refused⟩
    case fresh =>
      rintro number rfl replaced
      have accepts := accepts_of_replaced replaced
      have notLess : sequenceCompare number held.seqNo ≠ .less := fun less =>
        absurd ((refuses_numbered_iff live).mpr (.inl less)) (Bool.eq_false_iff.mp accepts)
      cases order : sequenceCompare number held.seqNo with
      | equal => exact .inl rfl
      | greater => exact .inr rfl
      | less => exact absurd order notLess
      | notComparable => exact absurd order (comparable number rfl)
    case pinned =>
      rintro number after rfl equal found changed
      obtain ⟨accepts, named⟩ := accepted_of_changed live found changed
      refine Bool.eq_false_iff.mpr fun pins => ?_
      have refuses : n.refusesHopByHopRoute key destination nextHop (some number) pinNextHop =
          true :=
        (refuses_numbered_iff live).mpr
          (.inr ⟨pins, (sequenceCompare_eq_equal.mp equal).symm, named ▸ changed.symm⟩)
      exact absurd refuses (Bool.eq_false_iff.mp accepts)
    case unnumbered =>
      rintro after rfl found
      by_contra changed
      obtain ⟨accepts, named⟩ := accepted_of_changed live found changed
      rw [refuses_of_live live] at accepts
      exact of_decide_eq_false accepts (named ▸ Ne.symm changed)
    case refused =>
      intro refusal
      cases refuses : n.refusesHopByHopRoute key destination nextHop seqNo pinNextHop with
      | true => exact routesAfter_of_refused refuses
      | false =>
        rw [storeHopByHopRoute, if_neg (by rw [refuses]; exact Bool.false_ne_true)] at refusal
        exact Bool.noConfusion refusal

/-- A hop-by-hop route whose sequence number is 50. -/
def routeAtFifty : HopByHopRoute :=
  { instanceId := 0x80
    dodagId := 0x20010db8000000000000000000000001#128
    nextHop := 0xfe800000000000000000000000000002#128
    expire := 1000
    seqNo := 50 }

/-- A node that holds the route, to `2001:db8::9`. -/
def holdsRouteAtFifty : Node :=
  { ipv6 := leafIpv6
    hopByHopRoutes := (∅ : Std.ExtTreeMap Ipv6Address HopByHopRoute).insert
      0x20010db8000000000000000000000009#128 routeAtFifty }

/-- The instance and DODAG of the route. -/
def keyOfFifty : DodagKey := ⟨0x80, 0x20010db8000000000000000000000001#128⟩

theorem routeAtFifty_live : holdsRouteAtFifty.findHopByHopRouteIn keyOfFifty
    0x20010db8000000000000000000000009#128 = some routeAtFifty := by
  have held : holdsRouteAtFifty.hopByHopRoutes[(0x20010db8000000000000000000000009#128 :
      Ipv6Address)]? = some routeAtFifty :=
    Std.ExtTreeMap.getElem?_insert_self
  rw [findHopByHopRouteIn, findHopByHopRoute, held]
  rfl

/-- A call with number 100, which cannot be compared with 50, moves the pinned next hop. -/
theorem routeAtFifty_not_respected :
    holdsRouteAtFifty.findHopByHopRouteIn keyOfFifty 0x20010db8000000000000000000000009#128 =
      some routeAtFifty ∧
    ¬ holdsRouteAtFifty.RespectsRoute keyOfFifty 0x20010db8000000000000000000000009#128
      0xfe800000000000000000000000000003#128 500 (some 100) true routeAtFifty := by
  refine ⟨routeAtFifty_live, fun respects => ?_⟩
  have apart : sequenceCompare 100 routeAtFifty.seqNo = .notComparable := by decide
  have replaced : holdsRouteAtFifty.routesAfter keyOfFifty 0x20010db8000000000000000000000009#128
      0xfe800000000000000000000000000003#128 500 (some 100) true ≠
        holdsRouteAtFifty.hopByHopRoutes :=
    replaced_of_accepted routeAtFifty_live (by decide)
      (accepts_of_notComparable routeAtFifty_live apart)
  rcases respects.fresh 100 rfl replaced with equal | greater
  · exact absurd (apart.symm.trans equal) nofun
  · exact absurd (apart.symm.trans greater) nofun

/-- Number 51, which is newer than 50, is respected. -/
theorem routeAtFifty_respected :
    holdsRouteAtFifty.RespectsRoute keyOfFifty 0x20010db8000000000000000000000009#128
      0xfe800000000000000000000000000003#128 500 (some 51) true routeAtFifty :=
  (respectsRoute_iff routeAtFifty_live).mpr fun number named apart => by
    cases named
    exact absurd apart (by decide)

end Node

end Rpl
