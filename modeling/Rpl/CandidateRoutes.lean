import Rpl.Docket
import Rpl.LinkMetric

/-!
# The candidate routes of a temporary DAG

A candidate route is tied to the neighbour it was heard from, whose entry other code sweeps,
ranks anew or replaces.  `PruneP2pCandidateRoutes` and `RecordP2pCandidateRoute` bring the
candidates back in line with the neighbours each time they are called.
-/

namespace Rpl

open Std

/-! ## The least rank of a list -/

theorem foldl_min {α : Type} (rank : α → UInt16) (items : List α) (start : UInt16) :
    let best := items.foldl (fun best item => min best (rank item)) start
    best ≤ start ∧ (∀ item ∈ items, best ≤ rank item) ∧
      (best = start ∨ ∃ item ∈ items, rank item = best) := by
  have least (a b : UInt16) : min a b ≤ a ∧ min a b ≤ b ∧ (min a b = a ∨ min a b = b) := by
    change (if a ≤ b then a else b) ≤ a ∧ (if a ≤ b then a else b) ≤ b ∧
      ((if a ≤ b then a else b) = a ∨ (if a ≤ b then a else b) = b)
    split
    · next le => exact ⟨UInt16.le_refl a, le, .inl rfl⟩
    · next more => exact ⟨(UInt16.le_total a b).resolve_left more, UInt16.le_refl b, .inr rfl⟩
  induction items generalizing start with
  | nil => exact ⟨UInt16.le_refl start, fun _ mem => absurd mem List.not_mem_nil, .inl rfl⟩
  | cons item rest ih =>
    obtain ⟨below, each, attained⟩ := ih (min start (rank item))
    obtain ⟨leStart, leItem, either⟩ := least start (rank item)
    refine ⟨UInt16.le_trans below leStart, fun other mem => ?_, ?_⟩
    · rcases List.mem_cons.mp mem with rfl | later
      · exact UInt16.le_trans below leItem
      · exact each other later
    · rcases attained with first | ⟨other, mem, same⟩
      · rcases either with isStart | isItem
        · exact .inl (first.trans isStart)
        · exact .inr ⟨item, List.mem_cons_self, (first.trans isItem).symm⟩
      · exact .inr ⟨other, List.mem_cons_of_mem _ mem, same⟩

/-! ## Candidates in line with the neighbours -/

namespace DodagMembership

variable {dodag other : DodagMembership} {n : Node} {rdo : P2pRdoOption} {heard : Reception}
  {parent : Parent}

/-- Whatever has become of the neighbours, the candidates are of different routes, and no more
than there is room for. -/
structure Diverse (dodag : DodagMembership) : Prop where
  distinct : (dodag.p2p.candidateRoutes.map P2pCandidate.route).Nodup
  bounded : dodag.p2p.candidateRoutes.length ≤ p2pMaxCandidateRoutes

/-- Each candidate comes from a neighbour, by which the node would have the candidates' rank. -/
structure Settled (dodag : DodagMembership) : Prop extends dodag.Diverse where
  live : ∀ candidate ∈ dodag.p2p.candidateRoutes, ∃ parent,
    dodag.parents[candidate.sender]? = some parent ∧
      dodag.rankViaParent parent = dodag.p2p.candidateRank

/-- There are none exactly when they have no rank. -/
structure Pruned (dodag : DodagMembership) : Prop extends dodag.Settled where
  infinite_iff : dodag.p2p.candidateRank = infiniteRank ↔ dodag.p2p.candidateRoutes = []

/-- What can have happened to the candidates of a membership: it began without, routes were
recorded and pruned, and between that anything else happened to its neighbours and ranks. -/
inductive CandidateHistory : DodagMembership → Prop
  | begins {dodag : DodagMembership} (none : dodag.p2p.candidateRoutes = [])
      (unranked : dodag.p2p.candidateRank = infiniteRank) : CandidateHistory dodag
  | drifts {dodag other : DodagMembership} (history : CandidateHistory dodag)
      (routes : other.p2p.candidateRoutes = dodag.p2p.candidateRoutes)
      (rank : other.p2p.candidateRank = dodag.p2p.candidateRank) : CandidateHistory other
  | pruned {dodag : DodagMembership} (history : CandidateHistory dodag) :
      CandidateHistory dodag.pruneP2pCandidateRoutes
  | recorded {dodag : DodagMembership} (history : CandidateHistory dodag) (n : Node)
      (rdo : P2pRdoOption) (heard : Reception) :
      CandidateHistory (n.recordP2pCandidateRoute dodag rdo heard)

/-! ## Pruning -/

theorem candidateRankVia_ne_infinite {candidate : P2pCandidate}
    (finite : dodag.candidateRankVia candidate ≠ infiniteRank) :
    ∃ parent, dodag.parents[candidate.sender]? = some parent ∧
      dodag.rankViaParent parent = dodag.candidateRankVia candidate := by
  unfold candidateRankVia at finite ⊢
  split at finite
  · exact absurd rfl finite
  · next parent entry =>
    rw [entry]
    exact ⟨parent, rfl, rfl⟩

theorem sublist_prune : dodag.pruneP2pCandidateRoutes.p2p.candidateRoutes.Sublist
    dodag.p2p.candidateRoutes :=
  List.filter_sublist.trans List.filter_sublist

theorem diverse_prune (diverse : dodag.Diverse) : dodag.pruneP2pCandidateRoutes.Diverse where
  distinct := diverse.distinct.sublist (sublist_prune.map P2pCandidate.route)
  bounded := sublist_prune.length_le.trans diverse.bounded

/-- The candidates left by a prune come from neighbours, and tie. -/
theorem settled_prune (diverse : dodag.Diverse) : dodag.pruneP2pCandidateRoutes.Settled where
  toDiverse := diverse_prune diverse
  live candidate mem := by
    obtain ⟨live, ties⟩ := List.mem_filter.mp mem
    have finite := (List.mem_filter.mp live).2
    rw [decide_eq_true_eq] at finite ties
    obtain ⟨parent, entry, same⟩ := candidateRankVia_ne_infinite finite
    exact ⟨parent, entry, same.trans ties⟩

/-- A prune leaves no rank exactly when it leaves no candidate. -/
theorem infinite_prune_iff : dodag.pruneP2pCandidateRoutes.p2p.candidateRank = infiniteRank ↔
    dodag.pruneP2pCandidateRoutes.p2p.candidateRoutes = [] := by
  have best := foldl_min dodag.candidateRankVia
    (dodag.p2p.candidateRoutes.filter fun candidate =>
      dodag.candidateRankVia candidate ≠ infiniteRank) infiniteRank
  unfold pruneP2pCandidateRoutes
  dsimp only at best ⊢
  revert best
  generalize (dodag.p2p.candidateRoutes.filter fun candidate =>
    dodag.candidateRankVia candidate ≠ infiniteRank).foldl _ infiniteRank = best
  rintro ⟨below, each, attained⟩
  rw [List.filter_eq_nil_iff]
  constructor
  · intro infinite candidate live ties
    have finite := (List.mem_filter.mp live).2
    rw [decide_eq_true_eq] at finite ties
    exact finite (ties.trans infinite)
  · intro none
    rcases attained with infinite | ⟨candidate, live, ties⟩
    · exact infinite
    · exact absurd (decide_eq_true ties) (none candidate live)

theorem pruned_prune (diverse : dodag.Diverse) : dodag.pruneP2pCandidateRoutes.Pruned :=
  ⟨settled_prune diverse, infinite_prune_iff⟩

/-! ## Recording -/

/-- A route among candidates of its own rank joins them while it is new and there is room. -/
theorem settled_join {candidate : P2pCandidate} {p2p : P2pState}
    (settled : { dodag with p2p := p2p }.Settled)
    (entry : dodag.parents[candidate.sender]? = some parent)
    (ties : dodag.rankViaParent parent = p2p.candidateRank) :
    ({ dodag with
      p2p := if p2p.candidateRoutes.any (·.route = candidate.route) ||
          p2pMaxCandidateRoutes ≤ p2p.candidateRoutes.length then p2p
        else { p2p with candidateRoutes := p2p.candidateRoutes ++ [candidate] } } :
        DodagMembership).Settled := by
  split
  · exact settled
  · next joins =>
    rw [Bool.or_eq_true, not_or, decide_eq_true_eq, Nat.not_le, Bool.not_eq_true,
      List.any_eq_false] at joins
    obtain ⟨fresh, room⟩ := joins
    refine ⟨⟨?_, ?_⟩, fun other mem => ?_⟩
    · rw [List.map_append, List.map_singleton, List.nodup_append]
      refine ⟨settled.distinct, List.nodup_singleton _, fun route known added mem same => ?_⟩
      obtain ⟨other, inRoutes, rfl⟩ := List.mem_map.mp known
      rw [List.mem_singleton.mp mem] at same
      exact fresh other inRoutes (decide_eq_true same)
    · rw [List.length_append, List.length_singleton]
      exact room
    · rcases List.mem_append.mp mem with before | added
      · exact settled.live other before
      · rw [List.mem_singleton.mp added]
        exact ⟨parent, entry, ties⟩

/-- A route joins the candidates it ties with, or supersedes worse ones. -/
theorem settled_addCandidate {candidate : P2pCandidate} (settled : dodag.Settled)
    (entry : dodag.parents[candidate.sender]? = some parent)
    (notWorse : ¬dodag.p2p.candidateRank < dodag.rankViaParent parent) :
    ({ dodag with
      p2p := Node.addCandidate dodag.p2p (dodag.rankViaParent parent) candidate } :
        DodagMembership).Settled := by
  unfold Node.addCandidate
  dsimp only
  refine settled_join ?_ entry ?_
  · split
    · exact ⟨⟨List.nodup_nil, Nat.zero_le _⟩, fun _ mem => absurd mem List.not_mem_nil⟩
    · exact settled
  · split
    · rfl
    · next notBetter =>
      exact UInt16.le_antisymm (UInt16.not_lt.mp notWorse) (UInt16.not_lt.mp notBetter)

/-- A route recorded from a neighbour of finite rank leaves the candidates in line. -/
theorem settled_record (diverse : dodag.Diverse)
    (entry : dodag.parents[heard.sender]? = some parent)
    (finite : dodag.rankViaParent parent ≠ infiniteRank) :
    (n.recordP2pCandidateRoute dodag rdo heard).Settled := by
  have pruned := settled_prune diverse
  unfold Node.recordP2pCandidateRoute
  rw [entry]
  dsimp only
  rw [if_neg finite]
  split
  · exact pruned
  · next notWorse =>
    split
    · exact pruned
    · exact settled_addCandidate pruned entry notWorse

/-! ## Histories -/

theorem diverse_record (diverse : dodag.Diverse) :
    (n.recordP2pCandidateRoute dodag rdo heard).Diverse := by
  cases entry : dodag.parents[heard.sender]? with
  | none =>
    unfold Node.recordP2pCandidateRoute
    rw [entry]
    exact diverse
  | some parent =>
    by_cases infinite : dodag.rankViaParent parent = infiniteRank
    · unfold Node.recordP2pCandidateRoute
      rw [entry]
      dsimp only
      rw [if_pos infinite]
      exact diverse
    · exact (settled_record diverse entry infinite).toDiverse

theorem CandidateHistory.diverse (history : dodag.CandidateHistory) : dodag.Diverse := by
  induction history with
  | begins none => exact ⟨by rw [none]; exact List.nodup_nil, by rw [none]; exact Nat.zero_le _⟩
  | drifts _ routes _ ih =>
    exact ⟨by rw [routes]; exact ih.distinct, by rw [routes]; exact ih.bounded⟩
  | pruned _ ih => exact diverse_prune ih
  | recorded _ n rdo heard ih => exact diverse_record ih

/-- The alternate route of a Target is no candidate. -/
theorem CandidateHistory.recordP2pRoutes (history : dodag.CandidateHistory) :
    (n.recordP2pRoutes dodag rdo heard).CandidateHistory := by
  have recorded := history.recorded n rdo heard
  unfold Node.recordP2pRoutes
  dsimp only
  generalize n.recordP2pCandidateRoute dodag rdo heard = after at recorded ⊢
  split
  · unfold Node.recordP2pAlternateRoute
    split
    · exact recorded
    · dsimp only
      split
      · exact recorded
      · exact recorded.drifts rfl rfl
  · exact recorded

end DodagMembership

/-! ## Runs -/

/-- The candidates noted are those of a membership with a history. -/
def Docket.Historic (docket : Docket) : Prop :=
  ∀ notes, docket.held = some notes → ∃ dodag : DodagMembership, dodag.CandidateHistory ∧
    dodag.p2p.candidateRoutes = notes.candidateRoutes ∧
    dodag.p2p.candidateRank = notes.candidateRank

namespace Node

variable {n m : Node} {e : Event} {key : DodagKey} {dodag : DodagMembership}

theorem historic_noting {before docket : Docket} (noting : Noting n e key before docket)
    (historic : before.Historic) : docket.Historic := by
  intro notes held
  cases noting with
  | ends => cases held
  | @begins ended noted routeless =>
    cases held
    have empty : ({ aodv := {}, p2p := {} } : DodagMembership).CandidateHistory := .begins rfl rfl
    exact ⟨_, empty, routeless.candidateRoutes.symm, routeless.candidateRank.symm⟩
  | recorded m other rdo heard =>
    cases held
    obtain ⟨dodag, history, routes, rank⟩ := historic _ rfl
    have same : other.CandidateHistory := history.drifts routes.symm rank.symm
    exact ⟨_, same.recordP2pRoutes, rfl, rfl⟩
  | pruned other =>
    cases held
    obtain ⟨dodag, history, routes, rank⟩ := historic _ rfl
    have same : other.CandidateHistory := history.drifts routes.symm rank.symm
    exact ⟨_, same.pruned, rfl, rfl⟩
  | _ =>
    -- the targets, the address vector and the alternate routes are no candidates
    cases held
    obtain ⟨dodag, history, routes, rank⟩ := historic _ rfl
    exact ⟨dodag, history, routes, rank⟩

theorem historic_notings {before docket : Docket} (notings : Notings n e key before docket)
    (historic : before.Historic) : docket.Historic := by
  induction notings with
  | refl => exact historic
  | tail _ noting ih => exact historic_noting noting ih

theorem historic_of_reachable (reachable : nodeSystem.Reachable n) : (n.docket key).Historic :=
  reachable.invariant (I := fun n => (n.docket key).Historic)
    (fun n initial notes noted => by
      rw [docket, initial.dodags, ExtTreeMap.getElem?_empty] at noted
      cases noted)
    fun n e before _ _ => historic_notings (notings_apply n e key) before

/-! ## The calls -/

/-- The node at a call of `SendDio` in the course of an event, and the DODAG the call is for. -/
inductive Sends (n : Node) : Event → Node → DodagKey → Prop
  /-- The Trickle timer transmits. -/
  | transmits {key : DodagKey} :
      Sends n (.fire (.trickleTransmit key))
        ((n.modifyDodag key fun dodag =>
          { dodag with dioTrickle := dodag.dioTrickle.transmitEvent }).selectPreferredParent key).2
        key
  /-- `SelectPreferredParent` has no neighbour left to choose, and poisons on the way out. -/
  | poisons {e : Event} {s : Node} {key : DodagKey} (calls : n.Calls e s key)
      (parent : Ipv6Address) :
      Sends n e
        (((s.sweepParents key).withdrawThrough key parent).modifyPlace key fun place =>
          { place with rank := infiniteRank, pathEtx := UInt16.ofNat mrhofMaxPathCost }) key
  /-- A DIS has come in, and the memberships with the keys before have answered it. -/
  | answers {heard : Reception} {toMulticast : Bool} {done rest : List DodagKey} {key : DodagKey}
      (keys : n.dodags.keys = done ++ key :: rest) :
      Sends n (.receive heard .dis)
        (done.foldl (answerDis heard.sender heard.interface toMulticast) n) key

theorem Calls.notings (calls : n.Calls e m key) :
    Notings n e key (n.docket key) (m.docket key) := by
  have heard {dio : DioHeader} {entered : Node} {reception : Reception}
      (enters : n.enterVersion dio reception.interface = some entered) :
      Notings n e key (n.docket key) ((entered.updateParent dio reception).docket key) := by
    rw [(docket_sees key).updateParent]
    exact (notesFrame n e key).enterVersion enters
  cases calls with
  | taken _ enters => exact heard enters
  | consistent _ enters =>
    exact (heard enters).trans (notings_of_eq (docket_modifyDodag fun _ => rfl))
  | poisoned _ withdraws =>
    rw [docket_modifyPlace]
    rcases withdraws with rfl | rfl
    · exact .refl
    · exact notings_of_eq ((docket_sees _).quiet.sendNoPathDao ..)
  | trickle => exact notings_of_eq (docket_modifyDodag fun _ => rfl)
  | @stopped interface done _ _ =>
    rw [docket_modifyPlace]
    exact (notesFrame n _ _).foldl ((notesFrame n _ _).stopInterfaceIn interface)
      done { n with sockets := n.sockets.erase interface }

theorem Sends.notings (sends : n.Sends e m key) :
    Notings n e key (n.docket key) (m.docket key) := by
  cases sends with
  | transmits =>
    have counted : (n.modifyDodag key fun dodag =>
        { dodag with dioTrickle := dodag.dioTrickle.transmitEvent }).docket key = n.docket key :=
      docket_modifyDodag fun _ => rfl
    exact (notings_of_eq counted).trans ((notesFrame n _ key).selectPreferredParent key)
  | poisons calls parent =>
    rw [docket_modifyPlace, (docket_sees key).quiet.withdrawThrough, (docket_sees key).sweepParents]
    exact calls.notings
  | @answers heard toMulticast done _ _ =>
    exact (notesFrame n _ key).foldl
      ((notesFrame n _ key).answerDis heard.sender heard.interface toMulticast) done n

/-- A membership found in the course of an event has come by its candidates in some such way. -/
theorem history_of_notings {before : Docket} (historic : before.Historic)
    (notings : Notings n e key before (m.docket key)) (held : m.dodags[key]? = some dodag) :
    dodag.CandidateHistory := by
  obtain ⟨before, history, routes, rank⟩ := historic_notings notings historic _
    (congrArg Docket.held (docket_of_held held))
  exact history.drifts routes.symm rank.symm

/-! ## The main result -/

/-- However the candidates have come about, a prune brings them in line with the neighbours, and
so does recording a route from a neighbour of finite rank.  In a run, every draw and every
recording finds candidates that have come about so. -/
theorem candidateRoutes_settled :
    (∀ dodag : DodagMembership, dodag.CandidateHistory → dodag.pruneP2pCandidateRoutes.Pruned ∧
      ∀ (n : Node) (rdo : P2pRdoOption) (heard : Reception) (parent : Parent),
        dodag.parents[heard.sender]? = some parent →
        dodag.rankViaParent parent ≠ infiniteRank →
        (n.recordP2pCandidateRoute dodag rdo heard).Settled) ∧
    ∀ n : Node, nodeSystem.Reachable n → ∀ (e : Event) (m : Node),
      (∀ key dodag, n.Sends e m key → m.dodags[key]? = some dodag →
        dodag.CandidateHistory ∧
          ∃ drawnFrom, (m.drawP2pRoute key dodag).2.dodags[key]? = some drawnFrom ∧
            drawnFrom.Pruned) ∧
      ∀ dio heard dodag, n.Takes e dio heard → n.beforeDiscovery dio heard = some m →
        m.dodags[dio.key]? = some dodag →
        dodag.CandidateHistory ∧ ∀ parent, dodag.parents[heard.sender]? = some parent →
          dodag.rankViaParent parent ≠ infiniteRank →
          (m.recordP2pCandidateRoute dodag dio.getP2pRdo heard).Settled := by
  refine ⟨fun dodag history => ⟨DodagMembership.pruned_prune history.diverse,
    fun n rdo heard parent entry finite =>
      DodagMembership.settled_record history.diverse entry finite⟩, ?_⟩
  intro n reachable e m
  constructor
  · intro key dodag sends held
    have history := history_of_notings (historic_of_reachable reachable) sends.notings held
    refine ⟨history, _, ?_, DodagMembership.pruned_prune history.diverse⟩
    unfold drawP2pRoute
    dsimp only
    split
    · exact ExtTreeMap.getElem?_insert_self
    · exact ExtTreeMap.getElem?_insert_self
  · intro dio heard dodag takes handles held
    have history := history_of_notings (e := e) (historic_of_reachable reachable)
      ((notesFrame n e dio.key).beforeDiscovery handles) held
    exact ⟨history, fun parent entry finite =>
      DodagMembership.settled_record history.diverse entry finite⟩

/-! ## A candidate drawn -/

/-- A router with the addresses fe80::2 and 2001:db8::2. -/
def forwarderIpv6 : Ipv6L3Protocol :=
  .ofInterfaces
    [{}, { addresses :=
        [{ address := 0xfe800000000000000000000000000002#128, scope := .linkLocal },
          { address := 0x20010db8000000000000000000000002#128, scope := .global }] }]

/-- 2001:db8::1 looks for 2001:db8::9, over the router in between. -/
def relayedDio (router : Ipv6Address) : DioHeader :=
  { instanceId := 0x80
    version := 0
    rank := 512
    grounded := true
    mop := mopP2pRouteDiscovery
    dodagId := 0x20010db8000000000000000000000001#128
    p2pRdo := some
      { maxRankOrNh := 6
        addressVector := [router]
        target := 0x20010db8000000000000000000000009#128 } }

/-- The DIO of 2001:db8::5, from fe80::1. -/
def firstRelayedDio : DioHeader := relayedDio 0x20010db8000000000000000000000005#128

/-- The DIO of 2001:db8::6, from fe80::3. -/
def hearsSecond : Event :=
  .receive { sender := 0xfe800000000000000000000000000003#128, interface := 1 }
    (.dio (relayedDio 0x20010db8000000000000000000000006#128))

/-- The router has taken both DIOs in. -/
def forwarderJoined : Node :=
  ((started forwarderIpv6).apply (hears firstRelayedDio)).apply hearsSecond

/-- The router as its Trickle timer transmits. -/
def forwarderTransmits : Node :=
  ((forwarderJoined.modifyDodag firstRelayedDio.key fun dodag =>
    { dodag with dioTrickle := dodag.dioTrickle.transmitEvent }).selectPreferredParent
      firstRelayedDio.key).2

theorem forwarderTransmits_facts :
    1 ∈ ((started forwarderIpv6).apply (hears firstRelayedDio)).sockets ∧
    (forwarderTransmits.dodags[firstRelayedDio.key]?).any (fun dodag =>
      dodag.pruneP2pCandidateRoutes.p2p.candidateRoutes.map P2pCandidate.route =
        [[0x20010db8000000000000000000000005#128, 0x20010db8000000000000000000000002#128],
          [0x20010db8000000000000000000000006#128, 0x20010db8000000000000000000000002#128]]) =
      true := by
  decide +kernel

/-- The two routes tie, and are the ones it draws from. -/
theorem forwarderTransmits_settled :
    ∃ dodag, forwarderTransmits.dodags[firstRelayedDio.key]? = some dodag ∧
    dodag.pruneP2pCandidateRoutes.p2p.candidateRoutes.map P2pCandidate.route =
      [[0x20010db8000000000000000000000005#128, 0x20010db8000000000000000000000002#128],
        [0x20010db8000000000000000000000006#128, 0x20010db8000000000000000000000002#128]] ∧
    ∃ drawnFrom, (forwarderTransmits.drawP2pRoute firstRelayedDio.key dodag).2.dodags[
      firstRelayedDio.key]? = some drawnFrom ∧ drawnFrom.Pruned := by
  obtain ⟨listens, holds⟩ := forwarderTransmits_facts
  obtain ⟨dodag, held, routes⟩ := (Option.any_eq_true _ _).mp holds
  have reachable : nodeSystem.Reachable forwarderJoined :=
    run_apply (run_hears (started_run _) (started_listens _) trivial) listens trivial
  have draws := candidateRoutes_settled.2 forwarderJoined reachable
    (.fire (.trickleTransmit firstRelayedDio.key)) forwarderTransmits
  exact ⟨dodag, held, of_decide_eq_true routes,
    (draws.1 firstRelayedDio.key dodag .transmits held).2⟩

end Node

end Rpl
