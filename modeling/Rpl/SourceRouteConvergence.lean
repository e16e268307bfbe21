import Rpl.SourceRouteLearning

/-!
# Source routes under delayed DAOs

Routers change their preferred parents, each time under a newer Path Sequence, and their DAOs
overtake each other on the way to the root.  As long as nothing expires, the root ends up with
the tree of preferred parents that the routers have come to, whatever it hears late.
-/

namespace Rpl

open Std

namespace NonStoringDodag

variable {ι : Type} {history : Nat → NonStoringDodag ι} {net latest : NonStoringDodag ι}
  {root : Node} {dodag : DodagMembership} {i : ι} {at_ now : Time}

/-- The router says the same of itself in both states. -/
structure SaysSame (net latest : NonStoringDodag ι) (i : ι) : Prop where
  pathSequence : (net.member i).pathSequence = (latest.member i).pathSequence
  parent : net.parentAddress i = latest.parentAddress i
  pathLifetime :
    (net.node i).attributes.pathLifetime = (latest.node i).attributes.pathLifetime

/-- What the router says in the latter state is newer. -/
def Supersedes (latest net : NonStoringDodag ι) (i : ι) : Prop :=
  sequenceCompare (latest.member i).pathSequence (net.member i).pathSequence = .greater

/-- The states the routers go through: the DODAG and the addresses stay, and a router that says
something else than in the end says it under an older Path Sequence. -/
structure Succession (history : Nat → NonStoringDodag ι) (latest : NonStoringDodag ι) : Prop where
  settled : ∀ k, (history k).Settled
  key : ∀ k, (history k).key = latest.key
  address : ∀ k, (history k).address = latest.address
  sequenced : ∀ k i, SaysSame (history k) latest i ∨ Supersedes latest (history k) i

/-- A DAO that arrives is from some state of its router's. -/
structure Delivery (ι : Type) extends Arrival ι where
  state : Nat

/-- One DAO after the other arrives. -/
def hearMixed (history : Nat → NonStoringDodag ι) (root : Node)
    (deliveries : List (Delivery ι)) : Node :=
  deliveries.foldl (fun root delivery => (history delivery.state).hear root delivery.toArrival)
    root

/-- What the root holds of a router: nothing that is newer than what the router has come to say,
and, when that has been heard, just that. -/
structure UpToDate (latest : NonStoringDodag ι) (i : ι) (at_ : Option Time)
    (held : Option TopologyEntry) : Prop where
  current : (pathOrder (held.map TopologyEntry.pathSequence)
    (latest.member i).pathSequence).stale = false
  heard : ∀ time, at_ = some time → held = some (latest.link i time)

/-! ## One DAO -/

theorem SaysSame.link (same : SaysSame net latest i) (at_ : Time) :
    net.link i at_ = latest.link i at_ := by
  rw [NonStoringDodag.link, NonStoringDodag.link, same.pathSequence, same.parent,
    same.pathLifetime]

theorem SaysSame.absorb (same : SaysSame net latest i) (at_ : Time)
    (held : Option TopologyEntry) : net.absorb i at_ held = latest.absorb i at_ held := by
  rw [NonStoringDodag.absorb, NonStoringDodag.absorb, same.pathSequence, same.link]

/-- What the router has come to say is up to date. -/
theorem upToDate_link (latest : NonStoringDodag ι) (i : ι) (at_ : Time) :
    latest.UpToDate i (some at_) (some (latest.link i at_)) where
  current := by
    rw [Option.map_some, NonStoringDodag.link, pathOrder, sequenceCompare_self]
    rfl
  heard time same := by
    cases same
    rfl

/-- An older DAO leaves it so, until it expires. -/
theorem UpToDate.absorb {heardAt : Option Time} {held : Option TopologyEntry}
    (upToDate : latest.UpToDate i heardAt held) (supersedes : Supersedes latest net i)
    (live : ∀ time, heardAt = some time →
      at_ < pathExpiry time (latest.node i).attributes.pathLifetime) :
    latest.UpToDate i heardAt (net.absorb i at_ held) := by
  cases heardAt with
  | some time =>
    have isHeld := upToDate.heard time rfl
    have stays : net.absorb i at_ held = some (latest.link i time) := by
      have alive : DodagMembership.liveLink at_ (some (latest.link i time)) =
          some (latest.link i time) :=
        DodagMembership.liveLink_of_lt (live time rfl)
      have older : (pathOrder (some (latest.link i time).pathSequence)
          (net.member i).pathSequence).stale = true := by
        have less := sequenceCompare_less_of_greater supersedes
        rw [NonStoringDodag.link, pathOrder, less]
        rfl
      rw [NonStoringDodag.absorb, isHeld, alive, Option.map_some, older, if_pos rfl]
    rw [stays]
    exact latest.upToDate_link i time
  | none =>
    refine ⟨?_, fun time heard => by cases heard⟩
    rw [NonStoringDodag.absorb]
    split
    · rw [DodagMembership.liveLink]
      cases filtered : held.filter fun link => at_ < link.expire with
      | none => rfl
      | some link =>
        have isHeld : held = some link := (Option.filter_eq_some_iff.mp filtered).1
        have current := upToDate.current
        rwa [isHeld] at current
    · rw [Option.map_some, NonStoringDodag.link, pathOrder, supersedes]
      rfl

/-! ## The states of a run -/

theorem Hosts.of_same (hosts : net.Hosts root dodag) (key : latest.key = net.key)
    (address : latest.address = net.address) : latest.Hosts root dodag where
  held := key ▸ hosts.held
  keyed := key ▸ hosts.keyed
  nonStoring := hosts.nonStoring
  isRoot := hosts.isRoot
  apart j := by
    rw [address]
    exact hosts.apart j

variable [DecidableEq ι]

/-- When the router was last heard to say what it has come to say. -/
def lastLatest (history : Nat → NonStoringDodag ι) (latest : NonStoringDodag ι)
    (deliveries : List (Delivery ι)) (i : ι) : Option Time :=
  (deliveries.filter fun delivery => delivery.origin = i &&
    ((history delivery.state).member i).pathSequence =
      (latest.member i).pathSequence).getLast?.map fun delivery => delivery.at_

theorem mem_of_lastLatest {deliveries : List (Delivery ι)} {time : Time}
    (heard : lastLatest history latest deliveries i = some time) :
    ∃ delivery ∈ deliveries, delivery.origin = i ∧ delivery.at_ = time := by
  obtain ⟨delivery, isLast, same⟩ := Option.map_eq_some_iff.mp heard
  obtain ⟨mem, saysIt⟩ := List.mem_filter.mp (List.mem_of_getLast? isLast)
  rw [Bool.and_eq_true] at saysIt
  exact ⟨delivery, mem, of_decide_eq_true saysIt.1, same⟩

theorem lastLatest_concat (deliveries : List (Delivery ι)) (delivery : Delivery ι) (i : ι) :
    lastLatest history latest (deliveries ++ [delivery]) i =
      if delivery.origin = i && ((history delivery.state).member i).pathSequence =
          (latest.member i).pathSequence then some delivery.at_
      else lastLatest history latest deliveries i := by
  rw [lastLatest, List.filter_append, List.getLast?_append, List.filter_singleton]
  split
  · next saysIt =>
    rw [saysIt]
    rfl
  · next other =>
    rw [Bool.not_eq_true] at other
    rw [other]
    rfl

/-- Nothing that is heard of a router expires while DAOs of the router's still arrive. -/
def Lasting (latest : NonStoringDodag ι) (deliveries : List (Delivery ι)) : Prop :=
  ∀ first ∈ deliveries, ∀ second ∈ deliveries, first.origin = second.origin →
    second.at_ < pathExpiry first.at_ (latest.node first.origin).attributes.pathLifetime

/-- Whatever order the DAOs arrive in, the root is up to date with every router all along. -/
theorem Collects.hearMixed (collects : latest.Collects root dodag)
    (succession : Succession history latest) (deliveries : List (Delivery ι))
    (lasting : latest.Lasting deliveries) :
    ∃ after, latest.Hosts (NonStoringDodag.hearMixed history root deliveries) after ∧
      ∀ i, latest.UpToDate i (lastLatest history latest deliveries i)
        after.topology[latest.address i]? := by
  induction deliveries using List.reverseRecOn with
  | nil =>
    refine ⟨dodag, collects.toHosts, fun i => ⟨collects.current i, fun time heard => ?_⟩⟩
    cases heard
  | append_singleton deliveries delivery ih =>
    obtain ⟨before, hosts, upToDate⟩ := ih fun first memFirst second memSecond =>
      lasting first (List.mem_append_left _ memFirst) second (List.mem_append_left _ memSecond)
    have key := succession.key delivery.state
    have address := succession.address delivery.state
    obtain ⟨after, hostsAfter, topology⟩ := (hosts.of_same key address).hear
      (succession.settled delivery.state) delivery.toArrival
    refine ⟨after, ?_, fun i => ?_⟩
    · rw [NonStoringDodag.hearMixed, List.foldl_concat]
      exact hostsAfter.of_same key.symm address.symm
    · rw [topology, address, lastLatest_concat]
      by_cases isOrigin : delivery.origin = i
      · subst isOrigin
        rw [if_pos rfl, decide_eq_true rfl, Bool.true_and]
        rcases succession.sequenced delivery.state delivery.origin with same | newer
        · rw [decide_eq_true same.pathSequence, if_pos rfl, same.absorb,
            absorb_of_current (upToDate delivery.origin).current]
          exact latest.upToDate_link _ _
        · have differs : ((history delivery.state).member delivery.origin).pathSequence ≠
              (latest.member delivery.origin).pathSequence := by
            intro same
            rw [Supersedes, same, sequenceCompare_self] at newer
            cases newer
          rw [decide_eq_false differs, if_neg Bool.false_ne_true]
          refine (upToDate delivery.origin).absorb newer fun time heard => ?_
          obtain ⟨first, mem, origin, isTime⟩ := mem_of_lastLatest heard
          have lives := lasting first (List.mem_append_left _ mem) delivery
            (List.mem_append_right _ (List.mem_singleton_self _)) origin
          rw [isTime, origin] at lives
          exact lives
      · have apart : latest.address i ≠ latest.address delivery.origin := fun same =>
          isOrigin ((succession.settled delivery.state).distinct (by rw [address, same])).symm
        rw [if_neg apart, decide_eq_false isOrigin, Bool.false_and, if_neg Bool.false_ne_true]
        exact upToDate i

/-- Once the root has heard what every router on the way to a destination has come to say, the
source route it computes is the way down the latest preferred parents, however many older DAOs
it has heard before, in between and since. -/
theorem sourceRoute_converges (collects : latest.Collects root dodag) (settled : latest.Settled)
    (succession : Succession history latest) (deliveries : List (Delivery ι))
    (lasting : latest.Lasting deliveries) (now : Time) :
    ∃ after, (NonStoringDodag.hearMixed history root deliveries).dodags[latest.key]? =
        some after ∧
      ∀ i routers, latest.Way i routers →
        (∀ j ∈ routers, ∃ at_, lastLatest history latest deliveries j = some at_ ∧
          now < pathExpiry at_ (latest.node j).attributes.pathLifetime) →
        after.computeSourceRoute now (latest.address i) =
          some ((routers.reverse.map latest.address).map linkLocalOf) := by
  obtain ⟨after, hosts, upToDate⟩ := collects.hearMixed succession deliveries lasting
  refine ⟨after, hosts.held, fun i routers way heard => ?_⟩
  have dodagId : after.dodagId = latest.key.dodagId := congrArg DodagKey.dodagId hosts.keyed
  have holds : ∀ j ∈ routers, latest.Holds after now j := by
    intro j mem
    obtain ⟨at_, isLast, unexpired⟩ := heard j mem
    exact ⟨at_, (upToDate j).heard at_ isLast, unexpired⟩
  refine DodagMembership.computeSourceRoute_eq_some.mpr ⟨hosts.isRoot, _,
    way.chain settled dodagId holds, ?_⟩
  rw [List.map_reverse]

/-! ## A router that has moved below another -/

/-- The lower router was directly under the root, under the Path Sequence before. -/
def earlierMember : Twig → DodagMembership
  | .upper => twigMember .upper
  | .lower =>
    { twigMember .lower with
      preferredParent := linkLocalOf twigRootAddress
      pathSequence := 0 }

def earlier : NonStoringDodag Twig where
  key := twigRootMember.key
  node i := .inDodag (twigNode i).ipv6 (earlierMember i)
  member := earlierMember
  address := twigAddress
  parent _ := none

def twigHistory (k : Nat) : NonStoringDodag Twig := if k = 0 then earlier else twig

theorem earlier_advertises (i : Twig) : earlier.Advertises i := by
  cases i with
  | upper =>
    refine ⟨Node.inDodag_dodags_self _ _, rfl, rfl, rfl, rfl, ?_, ?_, ?_, ?_, ⟨1, ?_⟩, ?_⟩
    all_goals decide +kernel
  | lower =>
    refine ⟨Node.inDodag_dodags_self _ _, rfl, rfl, rfl, rfl, ?_, ?_, ?_, ?_, ⟨1, ?_⟩, ?_⟩
    all_goals decide +kernel

theorem earlier_settled : earlier.Settled where
  advertises := earlier_advertises
  distinct := twig_settled.distinct
  named := twig_settled.named
  notRoot := twig_settled.notRoot

theorem twig_succession : Succession twigHistory twig where
  settled k := by
    unfold twigHistory
    split
    · exact earlier_settled
    · exact twig_settled
  key k := by
    unfold twigHistory
    split
    · rfl
    · rfl
  address k := by
    unfold twigHistory
    split
    · rfl
    · rfl
  sequenced k i := by
    unfold twigHistory
    split
    · cases i with
      | upper => exact .inl ⟨rfl, rfl, rfl⟩
      | lower => exact .inr (by unfold Supersedes; decide)
    · exact .inl ⟨rfl, rfl, rfl⟩

/-- What the lower router said before it moved arrives again after all else. -/
def twigDeliveries : List (Delivery Twig) :=
  [{ origin := .lower, at_ := seconds 1, sender := twigAddress .lower, interface := 1, state := 0 },
   { origin := .lower, at_ := seconds 2, sender := twigAddress .lower, interface := 1, state := 1 },
   { origin := .upper, at_ := seconds 3, sender := twigAddress .upper, interface := 1, state := 1 },
   { origin := .lower, at_ := seconds 4, sender := twigAddress .lower, interface := 1, state := 0 }]

theorem twigDeliveries_lasting : twig.Lasting twigDeliveries := by
  unfold Lasting
  decide +kernel

/-- The way to the lower router is over the upper one all the same. -/
theorem twig_converges :
    ∃ after, (hearMixed twigHistory twigRoot twigDeliveries).dodags[twig.key]? = some after ∧
      after.computeSourceRoute (seconds 9) (twigAddress .lower) =
        some [linkLocalOf (twigAddress .upper), linkLocalOf (twigAddress .lower)] := by
  obtain ⟨after, held, leads⟩ := sourceRoute_converges twigRoot_collects twig_settled
    twig_succession twigDeliveries twigDeliveries_lasting (seconds 9)
  refine ⟨after, held, leads .lower [.lower, .upper] (.on rfl (.top rfl)) fun j _ => ?_⟩
  cases j with
  | upper => exact ⟨seconds 3, rfl, by decide +kernel⟩
  | lower => exact ⟨seconds 2, rfl, by decide +kernel⟩

end NonStoringDodag

end Rpl
