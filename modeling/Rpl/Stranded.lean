import Rpl.BaseDodag
import Rpl.LinkMetric
import Rpl.Solicitation
import Rpl.Turns

/-!
# Which nodes are stranded

A node that is no root should solicit until it has a base DODAG, and have a preferred parent
in every ordinary DODAG it is in.  `JoinDodag` ends the search before a parent has been
selected, though, and a selection that finds nobody acceptable for a membership without a
parent changes nothing: the membership stays, without a parent, and nothing is solicited any
more.  While every DIO by which the node joins comes from an acceptable parent, and no
discovery names an ordinary DODAG that is held, no node is stranded.
-/

namespace Rpl

open Std

/-! ## The only neighbour -/

namespace DodagPlace

/-- Where there is no parent to keep, a neighbour that passes the tests is enough. -/
theorem found_of_admits {place : DodagPlace} {address : Ipv6Address} {parent : Parent}
    (unset : place.preferredEntry = none)
    (admits : place.Admits place.admitted Named false address parent) :
    place.chooseParent.address.isAny = false := by
  have ends := place.searched
  have split : place.searchParents = (place.searchParents.1, place.searchParents.2) := rfl
  rw [split] at ends
  rw [chooseParent_eq, unset]
  cases ends with
  | nobody _ nobody =>
    by_cases first :
      ∃ other neighbour, place.Admits place.admitted Named place.haveFresh other neighbour
    · obtain ⟨_, _, first⟩ := first
      exact absurd (.first first) (nobody _)
    · have nothing (other : Ipv6Address) (neighbour : Parent) :
          ¬place.Admits place.admitted Named place.haveFresh other neighbour :=
        fun admits => first ⟨other, neighbour, admits⟩
      exact absurd (.second nothing admits) (nobody _)
  | found _ foremost _ => exact foremost.counted

end DodagPlace

namespace Node

variable {n before : Node} {e : Event} {key : DodagKey} {dio : DioHeader} {heard : Reception}

/-- The entry the sender of a DIO has when nothing has been heard of it before. -/
def firstEntry (n : Node) (dio : DioHeader) (heard : Reception) : Parent :=
  heardParent n.now dio heard { address := anyAddress }

/-- The sender of the DIO is an acceptable parent in the DODAG as the DIO describes it: it has an
address, the rank it gives is finite, and under MRHOF its path cost is below MAX_PATH_COST. -/
structure Offers (n : Node) (dio : DioHeader) (heard : Reception) : Prop where
  named : heard.sender.isAny = false
  rank : (n.joinedMembership dio).rankViaParent (n.firstEntry dio heard) ≠ infiniteRank
  pathCost : (n.joinedMembership dio).ocp = ocpMrhof →
    (n.firstEntry dio heard).pathCost < mrhofMaxPathCost

/-- The objective function of a DODAG is the DIO's, whatever the node held before. -/
theorem joinedMembership_objective (n m : Node) (dio : DioHeader) :
    (n.joinedMembership dio).ocp = (m.joinedMembership dio).ocp ∧
      (n.joinedMembership dio).minHopRankIncrease =
        (m.joinedMembership dio).minHopRankIncrease := by
  unfold joinedMembership withParameters
  dsimp only
  split
  · exact ⟨rfl, rfl⟩
  · split
    · exact ⟨rfl, rfl⟩
    · exact ⟨rfl, rfl⟩

theorem maxInterval_joinedMembership_nonneg (n : Node) (dio : DioHeader) :
    0 ≤ (n.joinedMembership dio).maxInterval := by
  have nonneg (ms : Nat) : 0 ≤ milliSeconds ms := by
    unfold milliSeconds
    positivity
  have least : 0 ≤ (n.joinedMembership dio).dioIntervalMin := by
    unfold joinedMembership withParameters
    dsimp only
    split
    · exact nonneg _
    · split
      · exact nonneg _
      · exact nonneg _
  unfold DodagPlace.maxInterval
  positivity

/-- What has just been heard is not stale. -/
theorem stale_firstEntry {place : DodagPlace} (interval : 0 ≤ place.maxInterval) :
    place.stale n.now (n.firstEntry dio heard) = false := by
  have lastHeard : (n.firstEntry dio heard).lastHeard = n.now := by
    unfold firstEntry heardParent
    dsimp only
    split
    · rfl
    · rfl
  have notLater : ¬n.now < n.now - 2 * place.maxInterval :=
    Int.not_lt.mpr (Int.sub_le_self n.now (Int.mul_nonneg (by decide) interval))
  rw [DodagPlace.stale, lastHeard, decide_eq_false notLater, Bool.and_false]

/-- An acceptable sender is chosen as parent in the DODAG just joined. -/
theorem found_of_offers (offers : n.Offers dio heard) {s : Standing} (now : s.now = n.now)
    {member : Member} (joined : member.place = (before.joinedMembership dio).toDodagPlace) :
    (s.table member (hear n.now dio heard)).chooseParent.address.isAny = false := by
  have fresh := before.joinedMembership_fresh dio
  obtain ⟨ocp, increase⟩ := before.joinedMembership_objective n dio
  have heardOnly : hear n.now dio heard member.place.parents =
      (∅ : ExtTreeMap Ipv6Address Parent).insert heard.sender (n.firstEntry dio heard) := by
    rw [joined, fresh.parents, hear, ExtTreeMap.getElem?_empty]
    rfl
  let place := s.table member (hear n.now dio heard)
  have lately : place.stale n.now (n.firstEntry dio heard) = false := by
    refine stale_firstEntry ?_
    change 0 ≤ member.place.maxInterval
    rw [joined]
    exact before.maxInterval_joinedMembership_nonneg dio
  have parents (address : Ipv6Address) : place.parents[address]? =
      if address = heard.sender then some (n.firstEntry dio heard) else none := by
    change (OrderedMap.eraseIf (fun address parent => true && _)
      (hear n.now dio heard member.place.parents))[address]? = _
    rw [OrderedMap.getElem?_eraseIf, heardOnly, OrderedMap.getElem?_insert_eq]
    split
    · rw [now]
      change (some _).filter (fun parent => !(true && place.stale n.now parent)) = _
      rw [Option.filter_some, lately]
      rfl
    · rw [ExtTreeMap.getElem?_empty]
      rfl
  have unset : place.preferredEntry = none := by
    have nobody : place.preferredParent = anyAddress := by
      change member.place.preferredParent = anyAddress
      rw [joined, fresh.preferredParent]
    have other : anyAddress ≠ heard.sender := fun same => by
      have named := offers.named
      rw [← same] at named
      cases named
    rw [DodagPlace.preferredEntry, nobody, parents, if_neg other]
  have unbounded : place.rankBound = infiniteRank := by
    have infinite : place.rank = infiniteRank := by
      change member.place.rank = infiniteRank
      rw [joined, fresh.rank]
    unfold DodagPlace.rankBound
    split
    · rw [infinite, clampRank, if_pos (Nat.le_add_right _ _)]
    · exact infinite
  have admits : place.Admits place.admitted DodagPlace.Named false heard.sender
      (n.firstEntry dio heard) := by
    have sameOcp : place.ocp = (n.joinedMembership dio).ocp := by
      change member.place.ocp = _
      rw [joined, ocp]
    have sameRank : place.rankViaParent (n.firstEntry dio heard) =
        (n.joinedMembership dio).rankViaParent (n.firstEntry dio heard) := by
      have sameIncrease : place.minHopRankIncrease =
          (n.joinedMembership dio).minHopRankIncrease := by
        change member.place.minHopRankIncrease = _
        rw [joined, increase]
      unfold DodagPlace.rankViaParent
      rw [sameOcp, sameIncrease]
    have metric : (n.firstEntry dio heard).etx ≤ mrhofMaxLinkMetric :=
      heardParent_etx_le n.now dio heard (by decide)
    refine ⟨by rw [parents, if_pos rfl], offers.named, ?_⟩
    simp only [DodagPlace.admitted, DodagPlace.closer, unbounded, sameOcp, sameRank, metric,
      offers.rank, Bool.not_false, Bool.true_or, decide_true, Bool.or_true, Bool.true_and, ne_eq,
      not_false_eq_true, Bool.or_eq_true, decide_eq_true_eq]
    exact not_or_of_imp offers.pathCost
  exact DodagPlace.found_of_admits unset admits

end Node

/-! ## A preferred parent everywhere -/

/-- A membership in an ordinary DODAG that this node does not root has a preferred parent, and
the parent is one of its neighbours. -/
def Member.Parented (member : Member) : Prop :=
  member.place.isRoot = false → member.place.isTemporary = false →
    member.place.preferredParent.isAny = false ∧
      ∃ parent, member.place.parents[member.place.preferredParent]? = some parent

/-- Every membership held has one. -/
def Standing.Parented (s : Standing) : Prop :=
  ∀ (key : DodagKey) (member : Member), s.held[key]? = some member → member.Parented

/-- Every edit but the joining of a DODAG. -/
def stayingPolicy : Policy where
  discovers _ := True
  discoversTemporary := trivial
  enters _ := False
  moves _ _ := True

/-- A parent that has just been taken is one of the neighbours. -/
theorem Member.parented_of_taken {member : Member} {place : DodagPlace}
    (found : place.chooseParent.address.isAny = false) :
    ({ member with place := place.adoptParent place.chooseParent } : Member).Parented := by
  intro _ _
  obtain ⟨parent, held, -⟩ := DodagPlace.chooseParent_stands found
  exact ⟨found, parent, held⟩

theorem Became.parented {s : Standing} {key : DodagKey} {member : Member}
    (became : Became stayingPolicy s key member) (parented : s.Parented) : member.Parented := by
  cases became with
  | same held => exact parented _ _ held
  | created absent root keyed expires =>
    exact fun notRoot => absurd (notRoot.symm.trans root) Bool.false_ne_true
  | configured held stillRoot keyed stillTemporary =>
    exact fun notRoot => absurd (notRoot.symm.trans stillRoot) Bool.false_ne_true
  | repaired held repairs =>
    have before := parented _ _ held
    exact before
  | heard held root => exact fun notRoot => absurd (notRoot.symm.trans root) Bool.false_ne_true
  | @kept before f held notRoot same =>
    intro _ lasting
    have preferred := (parented _ _ held notRoot lasting).1
    simp only [DodagPlace.selectionChanged, Bool.or_eq_false_iff, decide_eq_false_iff_not,
      not_not] at same
    have chosen : (s.table before f).chooseParent.address = before.place.preferredParent :=
      same.1.1
    have found : (s.table before f).chooseParent.address.isAny = false := by
      rw [chosen]
      exact preferred
    obtain ⟨parent, heldParent, -⟩ := DodagPlace.chooseParent_stands found
    exact ⟨preferred, parent, chosen ▸ heldParent⟩
  | taken held notRoot found => exact Member.parented_of_taken found
  | joined fresh enters => exact absurd enters id
  | adopted held notRoot temporary =>
    exact fun _ lasting => absurd (lasting.symm.trans temporary) Bool.false_ne_true
  | armed held discovers rooted =>
    have before := parented _ _ held
    exact before

theorem keeps_parented : TransitionSystem.Keeps (Edit stayingPolicy) Standing.Parented :=
  fun _ _ edit parented _ _ held => (edit.became held).parented parented

namespace Node

variable {n entered : Node} {e : Event} {key : DodagKey} {dio : DioHeader} {heard : Reception}

/-! ## Joining -/

/-- A DIO by which the node joins an ordinary DODAG, for the first time or in another Version,
comes from an acceptable parent. -/
def JoinsWithParent (n : Node) (e : Event) : Prop :=
  ∀ heard dio, e = .receive heard (.dio dio) → n.takesDio dio heard = true →
    n.joinsBy dio = true → dio.mop ≠ mopP2pRouteDiscovery → n.Offers dio heard

/-- Every membership but the one just joined. -/
def ParentedElsewhere (key : DodagKey) (s : Standing) : Prop :=
  ∀ (other : DodagKey) (member : Member), other ≠ key → s.held[other]? = some member →
    member.Parented

/-- An ordinary DODAG just joined gets its parent from the selection that follows. -/
theorem parented_selectAfterJoin {before : Node} (offers : n.Offers dio heard)
    (now : entered.now = n.now)
    (joined : entered.standing.held[dio.key]? = some (before.joinedMembership dio).member)
    (elsewhere : ParentedElsewhere dio.key entered.standing) :
    ((entered.updateParent dio heard).selectAfterDio dio heard.sender).standing.Parented := by
  rw [standing_selectAfterDio, standing_updateParent, now]
  have place : (before.joinedMembership dio).member.place =
      (before.joinedMembership dio).toDodagPlace := DodagMembership.member_place _
  have fresh := before.joinedMembership_fresh dio
  have settled := entered.standing.settled dio.key (hear n.now dio heard)
  generalize (entered.standing.withParents dio.key (hear n.now dio heard)).select dio.key = after
    at settled
  have found {member : Member} (held : entered.standing.held[dio.key]? = some member) :
      (entered.standing.table member (hear n.now dio heard)).chooseParent.address.isAny =
        false := by
    rw [joined] at held
    cases held
    exact found_of_offers offers now place
  cases settled with
  | absent absent =>
    rw [absent] at joined
    cases joined
  | root held root =>
    rw [joined] at held
    cases held
    rw [place, fresh.notRoot] at root
    cases root
  | @kept member held notRoot same =>
    have chosen := found held
    rw [joined] at held
    cases held
    simp only [DodagPlace.selectionChanged, Bool.or_eq_false_iff, decide_eq_false_iff_not,
      not_not] at same
    have preferred : (entered.standing.table (before.joinedMembership dio).member
        (hear n.now dio heard)).preferredParent = anyAddress := by
      change (before.joinedMembership dio).member.place.preferredParent = anyAddress
      rw [place, fresh.preferredParent]
    rw [same.1.1, preferred] at chosen
    cases chosen
  | lost held notRoot gone => exact absurd (gone.symm.trans (found held)) Bool.noConfusion
  | taken held notRoot chosen =>
    intro other member heldAfter
    rw [Standing.mark_held, Standing.held_put] at heldAfter
    split at heldAfter
    · cases heldAfter
      exact Member.parented_of_taken chosen
    · next apart => exact elsewhere other member apart heldAfter

/-- What a DIO by which the node joins makes of the memberships. -/
theorem parented_of_joins (takes : n.Takes e dio heard) (joins : n.joinsBy dio = true)
    (offers : dio.mop ≠ mopP2pRouteDiscovery → n.Offers dio heard)
    (parented : n.standing.Parented) : (n.apply e).standing.Parented := by
  obtain ⟨before, enters, origin⟩ := enterVersion_of_joins joins heard.interface
  have now : before.standing.now = n.standing.now := by
    rcases origin with rfl | ⟨-, rfl⟩
    · rfl
    · rw [standing_leaveDodag, Standing.leave_now]
  have still : ParentedElsewhere dio.key before.standing := by
    intro other member apart held
    rcases origin with rfl | ⟨-, rfl⟩
    · exact parented other member held
    · rw [standing_leaveDodag, Standing.held_leave, if_neg apart] at held
      exact parented other member held
  have joined : (before.joinDodag dio heard.interface).standing.held[dio.key]? =
      some (before.joinedMembership dio).member := by
    rw [standing_joinDodag, Standing.held_join, if_pos rfl, joinedMembership_member]
  have elsewhere : ParentedElsewhere dio.key (before.joinDodag dio heard.interface).standing := by
    intro other member apart held
    rw [standing_joinDodag, Standing.held_join, if_neg apart] at held
    exact still other member apart held
  rw [takes.apply_eq, enters]
  dsimp only
  by_cases mop : dio.mop = mopP2pRouteDiscovery
  · have fresh := before.joinedMembership_fresh dio
    have sameMop := (before.joinedMembership_version_mop dio).2
    have everywhere : (before.joinDodag dio heard.interface).standing.Parented := by
      intro other member held
      by_cases same : other = dio.key
      · subst same
        rw [joined] at held
        cases held
        intro _ lasting
        rw [DodagMembership.member_place] at lasting
        exact absurd (sameMop.trans mop) (of_decide_eq_false lasting)
      · exact elsewhere other member same held
    refine keeps_parented.star (edits_acceptDio heard takes.fits ?_) everywhere
    rw [standing_joinDodag]
    exact joinable_join fresh.notRoot sameMop
  · unfold acceptDio
    rw [handleDiscovery_of_none takes.fits mop]
    refine parented_selectAfterJoin (offers mop) ?_ joined elsewhere
    change (before.joinDodag dio heard.interface).standing.now = n.standing.now
    rw [standing_joinDodag, Standing.join, Standing.claimBase_now, Standing.mark_now,
      Standing.put_now, now]

/-- Every event keeps every membership parented. -/
theorem parented_apply (enabled : n.Enabled e) (condition : n.JoinsWithParent e)
    (parented : n.standing.Parented) : (n.apply e).standing.Parented := by
  by_cases joins : ∃ heard dio, n.Takes e dio heard ∧ n.joinsBy dio = true
  · obtain ⟨heard, dio, takes, joins⟩ := joins
    exact parented_of_joins takes joins (condition heard dio takes.event takes.takes joins) parented
  · have complies : n.Complies stayingPolicy e := fun heard dio received takes =>
      { discovers := fun _ _ _ => trivial
        enters := fun joining => absurd ⟨heard, dio, ⟨received, takes⟩, joining⟩ joins
        moves := fun _ _ _ => trivial }
    exact keeps_parented.star (edits_apply n e enabled complies) parented

/-! ## From the start-up on -/

/-- `DoInitialize` has run: a node that is no root has its first solicitation scheduled, and
nothing else is on its way. -/
structure Booted (n : Node) : Prop extends n.Initial where
  scheduled : n.isRoot = false → n.firstSolicitation.isSome = true
  idle : n.disRefreshPending = false

/-- A node that is no root solicits until it is in a base DODAG, and where no solicitation is
running it has a preferred parent among its neighbours in every ordinary DODAG it does not
root. -/
def NotStranded (n : Node) : Prop :=
  n.isRoot = false →
    (n.isJoined = false → n.disTimer.isSome = true ∨ n.firstSolicitation.isSome = true) ∧
    (n.disTimer.isSome = true ∨ ∀ (key : DodagKey) (dodag : DodagMembership),
      n.dodags[key]? = some dodag → dodag.isRoot = false → dodag.mop ≠ mopP2pRouteDiscovery →
        dodag.preferredParent.isAny = false ∧
          ∃ parent, dodag.parents[dodag.preferredParent]? = some parent)

end Node

/-- The routing protocol of one node from its start-up on. -/
def bootedSystem : TransitionSystem Node Event := { nodeSystem with initial := Node.Booted }

namespace Node

variable {n : Node}

theorem run_of_booted {good : Node → Event → Prop} (run : bootedSystem.Run good n) :
    nodeSystem.Run good n := by
  induction run with
  | start booted => exact .start booted.toInitial
  | step _ enabled condition ih => exact ih.step enabled condition

theorem searches_of_run {good : Node → Event → Prop} (run : bootedSystem.Run good n) :
    n.solicitation.Searches :=
  TransitionSystem.Run.invariant (I := fun n => n.solicitation.Searches)
    (fun _ booted => ⟨fun _ pending => absurd (booted.idle.symm.trans pending) Bool.noConfusion,
      fun notRoot _ => .inr (booted.scheduled notRoot)⟩)
    (fun n e searches _ _ => searches_apply n e searches) run

/-- While every DIO by which the node joins an ordinary DODAG comes from an acceptable parent, and
no discovery names an ordinary DODAG that is held, the node is not stranded. -/
theorem notStranded_of_run
    (run : bootedSystem.Run (fun n e => n.JoinsWithParent e ∧ n.DiscoversTemporary e) n) :
    n.NotStranded := by
  have onNode := run_of_booted run
  have searches := searches_of_run run
  have anchored : n.standing.Anchored :=
    invariant_of_edits (fun _ initial => initial.anchored) keeps_anchored
      (onNode.mono fun n e condition => complies_of_discoversTemporary n e condition.2)
  have parented : n.standing.Parented :=
    TransitionSystem.Run.invariant (I := fun n => n.standing.Parented)
      (fun _ initial => Initial.members initial _)
      (fun _ _ parented enabled condition => parented_apply enabled condition.1 parented) onNode
  refine fun notRoot => ⟨fun unjoined => searches.solicits notRoot ?_,
    .inr fun key dodag held notRoots lasting => ?_⟩
  · refine Bool.eq_false_iff.mpr fun has => ?_
    change n.hasBaseDodag = true at has
    obtain ⟨member, held, -⟩ := anchored.base n.baseDodagKey (by rw [standing, has, if_pos rfl])
    rw [standing_held, Option.map_eq_some_iff] at held
    obtain ⟨dodag, heldDodag, -⟩ := held
    rw [isJoined, getBaseDodag, has, if_pos rfl, heldDodag] at unjoined
    cases unjoined
  · exact parented key dodag.member (held_member held) notRoots (decide_eq_false lasting)

/-! ## A neighbour at the end of the ranks -/

/-- A leaf on fe80::2 whose first solicitation is due. -/
def booting : Node := { started leafIpv6 with firstSolicitation := some 0 }

/-- It has sent the solicitation. -/
def soliciting : Node := booting.apply (.fire .firstSolicitation)

/-- The DODAG of 2001:db8::1, heard from a neighbour so far from the root that the rank through it
is infinite. -/
def distantDio : DioHeader := { baseDio with rank := 65500 }

/-- It has heard the DIO of a neighbour it can use. -/
def found : Node := soliciting.apply (hears baseDio)

/-- It has heard the one of the distant neighbour. -/
def stranded : Node := soliciting.apply (hears distantDio)

theorem booting_booted : booting.Booted :=
  { started_initial leafIpv6 with
    scheduled := fun _ => rfl
    idle := rfl }

theorem soliciting_run {good : Node → Event → Prop} {dio : DioHeader}
    (solicits : good booting (.fire .firstSolicitation)) (condition : good soliciting (hears dio)) :
    bootedSystem.Run good (soliciting.apply (hears dio)) := by
  have listens : bootedSystem.enabled soliciting (hears dio) := by
    change 1 ∈ soliciting.sockets
    decide +kernel
  have run : bootedSystem.Run good soliciting := .step (.start booting_booted) rfl solicits
  exact run.step listens condition

/-- The leaf that has heard a DIO it can use no longer solicits, and is not stranded. -/
theorem found_notStranded : found.disTimer = none ∧ found.NotStranded := by
  have facts : found.disTimer = none ∧
      (soliciting.joinedMembership baseDio).ocp ≠ ocpMrhof ∧
      (soliciting.joinedMembership baseDio).rankViaParent (soliciting.firstEntry baseDio
        { sender := 0xfe800000000000000000000000000001#128, interface := 1 }) ≠ infiniteRank := by
    decide +kernel
  obtain ⟨silent, objective, rank⟩ := facts
  refine ⟨silent, notStranded_of_run (soliciting_run ⟨?_, ?_⟩ ⟨?_, ?_⟩)⟩
  · intro heard dio event
    cases event
  · intro heard dio event
    cases event
  · intro heard dio event _ _ _
    cases event
    exact
      { named := rfl
        rank := rank
        pathCost := fun mrhof => absurd mrhof objective }
  · exact discoversTemporary_baseDio soliciting

/-- By the DIO of the distant neighbour the leaf joins, ends its search and gets no parent. -/
theorem stranded_not_notStranded :
    bootedSystem.Reachable stranded ∧ ¬stranded.NotStranded := by
  have facts : stranded.isRoot = false ∧ stranded.disTimer = none ∧
      (stranded.dodags[distantDio.key]?).map (fun dodag =>
        (dodag.isRoot, dodag.mop, dodag.preferredParent.isAny)) = some (false, 1, true) := by
    decide +kernel
  obtain ⟨notRoot, silent, outcome⟩ := facts
  refine ⟨soliciting_run trivial trivial, fun rescued => ?_⟩
  obtain ⟨dodag, held, fields⟩ := Option.map_eq_some_iff.mp outcome
  simp only [Prod.mk.injEq] at fields
  obtain ⟨notRoots, mop, nobody⟩ := fields
  rcases (rescued notRoot).2 with running | parented
  · rw [silent] at running
    cases running
  · have chosen := (parented distantDio.key dodag held notRoots (by rw [mop]; decide)).1
    rw [nobody] at chosen
    cases chosen

end Node

end Rpl
