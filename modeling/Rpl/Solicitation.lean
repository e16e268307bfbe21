import Rpl.DaoFrame

/-!
# The search for a DODAG

A node that is no root and has no base DODAG solicits DIOs: a solicitation is running
or the first one is still to come, and one that is said to be pending is running.  Every
step keeps it so: joining ends the search only where it fills the base DODAG, and a
selection that gives the base DODAG up starts the search again.
-/

namespace Rpl

open Std

/-- A node that is not a root is in a base DODAG or solicits, and the solicitation said to be
pending is running. -/
structure Node.Solicitation.Searches (s : Node.Solicitation) : Prop where
  pending : s.isRoot = false → s.disRefreshPending = true → s.disTimer.isSome = true
  solicits : s.isRoot = false → s.hasBaseDodag = false →
    s.disTimer.isSome = true ∨ s.firstSolicitation.isSome = true

namespace Node

variable {n m after : Node} {key : DodagKey}

/-! ## What leaves the search alone -/

theorem solicitation_aside : Aside solicitation where
  replies _ _ _ := rfl
  findings _ _ := rfl
  alike _ _ _ _ _ _ := rfl

theorem solicitation_quiet : Quiet solicitation where
  emit _ _ _ _ := rfl
  drawJitter _ := rfl
  dao _ _ _ _ _ _ := rfl

theorem solicitation_eraseDodag (dodag : DodagMembership) :
    (n.eraseDodag key dodag).solicitation = n.solicitation := by
  unfold eraseDodag
  dsimp only
  split
  · split
    · rfl
    · rfl
  · split
    · rfl
    · rfl

theorem solicitation_updateParent (dio : DioHeader) (heard : Reception) :
    (n.updateParent dio heard).solicitation = n.solicitation := by
  unfold updateParent
  split
  · rfl
  · dsimp only
    split
    · exact solicitation_quiet.scheduleDaoRefresh _
    · rfl

theorem solicitation_adoptVersion (dio : DioHeader) (dodag : DodagMembership) :
    (n.adoptVersion dio dodag).solicitation = n.solicitation := by
  unfold adoptVersion
  split
  · rfl
  · rfl

theorem solicitation_sweepParents : (n.sweepParents key).solicitation = n.solicitation := by
  unfold sweepParents
  split
  · rfl
  · dsimp only
    split
    · exact solicitation_quiet.sendNoPathDao ..
    · rfl

theorem solicitation_takeParent (dodag : DodagMembership) (best : Candidate) :
    (n.takeParent key dodag best).solicitation = n.solicitation := by
  unfold takeParent
  dsimp only
  split
  · exact solicitation_quiet.switchParent ..
  · rfl

/-! ## Leaving, joining and selecting -/

/-- A leave that does not poison keeps the base DODAG. -/
theorem solicitation_leaveDodag : (n.leaveDodag key false).solicitation = n.solicitation := by
  unfold leaveDodag
  split
  · rfl
  · exact solicitation_eraseDodag _

/-- A poisoning leave touches nothing of the search but the base DODAG. -/
theorem leaveDodag_search (n : Node) (key : DodagKey) (poison : Bool) :
    ∃ has base, (n.leaveDodag key poison).solicitation =
      { n.solicitation with hasBaseDodag := has, baseDodagKey := base } := by
  cases held : n.dodags[key]? with
  | none => exact ⟨n.hasBaseDodag, n.baseDodagKey, by rw [leaveDodag, held]; rfl⟩
  | some dodag =>
    obtain ⟨has, base, left⟩ := leaveDodag_eq held poison
    have poisoned : (if poison then n.poisonDodag key else n).solicitation = n.solicitation := by
      split
      · exact solicitation_aside.sendDio ..
      · rfl
    have erased : ((if poison then n.poisonDodag key else n).eraseDodag key dodag).solicitation =
        n.solicitation := (solicitation_eraseDodag dodag).trans poisoned
    refine ⟨has, base, ?_⟩
    rw [left, ← erased]
    rfl

theorem searches_joinDodag (dio : DioHeader) (interface : Nat)
    (searches : n.solicitation.Searches) : (n.joinDodag dio interface).solicitation.Searches := by
  unfold joinDodag
  extract_lets _ temporary joined marked located based
  have same : located.solicitation = n.solicitation := by
    unfold located autoconfigure
    split
    · rfl
    · split
      · rfl
      · rfl
  cases kind : temporary with
  | true =>
    have kept : based = located := if_neg (by rw [kind, Bool.not_true, Bool.and_false]; decide)
    rw [if_pos rfl, kept, same]
    exact searches
  | false =>
    have based_ : based.hasBaseDodag = true := by
      unfold based
      split
      · rfl
      · next has =>
        rw [kind, Bool.not_false, Bool.and_true, Bool.not_eq_true', Bool.not_eq_false] at has
        exact has
    exact ⟨fun _ pending => absurd pending Bool.false_ne_true, fun _ gone =>
      absurd (based_.symm.trans gone) Bool.noConfusion⟩

/-- Whatever the base DODAG has become, the search goes on once a solicitation is scheduled. -/
theorem searches_scheduleSolicitation
    (pending : n.solicitation.isRoot = false → n.solicitation.disRefreshPending = true →
      n.solicitation.disTimer.isSome = true) :
    n.scheduleSolicitation.solicitation.Searches := by
  unfold scheduleSolicitation
  split
  · next waits => exact ⟨pending, fun notRoot _ => .inl (pending notRoot waits)⟩
  · exact ⟨fun _ _ => rfl, fun _ _ => .inl rfl⟩

theorem searches_loseLastParent (dodag : DodagMembership) (searches : n.solicitation.Searches) :
    (n.loseLastParent key dodag).solicitation.Searches := by
  obtain ⟨has, base, left⟩ := (n.withdrawThrough key dodag.preferredParent).leaveDodag_search key
    true
  rw [solicitation_quiet.withdrawThrough] at left
  refine searches_scheduleSolicitation ?_
  rw [left]
  exact searches.pending

theorem searches_selectPreferredParent (searches : n.solicitation.Searches) :
    (n.selectPreferredParent key).2.solicitation.Searches := by
  have swept : (n.sweepParents key).solicitation.Searches := by
    rw [solicitation_sweepParents]
    exact searches
  unfold selectPreferredParent
  split
  · exact searches
  · split
    · exact searches
    · dsimp only
      split
      · exact swept
      · split
        · exact swept
        split
        · exact searches_loseLastParent _ swept
        · rw [solicitation_takeParent]
          exact swept

theorem searches_selectAndReset (searches : n.solicitation.Searches) :
    (n.selectAndReset key).solicitation.Searches := by
  unfold selectAndReset
  dsimp only
  split
  · exact searches_selectPreferredParent searches
  · exact searches_selectPreferredParent searches

theorem searches_handlePoison (sender : Ipv6Address) (searches : n.solicitation.Searches) :
    (n.handlePoison key sender).solicitation.Searches := by
  unfold handlePoison
  split
  · exact searches
  · refine searches_selectAndReset ?_
    change (if _ then _ else n).solicitation.Searches
    split
    · rw [solicitation_quiet.sendNoPathDao]
      exact searches
    · exact searches

theorem searches_createDodagMembership {created : Node} {mop : UInt8}
    (creates : n.createDodagMembership key mop = some created)
    (searches : n.solicitation.Searches) : created.solicitation.Searches := by
  unfold createDodagMembership at creates
  split at creates
  · cases creates
  · dsimp only at creates
    split at creates
    · cases creates
      exact ⟨searches.pending, fun _ gone => absurd gone Bool.noConfusion⟩
    · cases creates
      exact searches

/-! ## The search itself -/

theorem hasBaseDodag_of_isJoined (joined : n.isJoined = true) : n.hasBaseDodag = true := by
  unfold isJoined getBaseDodag at joined
  split at joined
  · assumption
  · cases joined

/-- A solicitation that is due goes on to the next one unless the node is in its base DODAG. -/
theorem searches_disTimerExpire (n : Node) : n.disTimerExpire.solicitation.Searches := by
  unfold disTimerExpire
  dsimp only
  split
  · next joined =>
    have has : n.hasBaseDodag = true := hasBaseDodag_of_isJoined joined
    exact ⟨fun _ pending => absurd pending Bool.false_ne_true, fun _ gone =>
      absurd (has.symm.trans gone) Bool.noConfusion⟩
  · exact ⟨fun _ _ => rfl, fun _ _ => .inl rfl⟩

theorem searches_solicits {e : Event} (solicits : e.Solicits) :
    (n.apply e).solicitation.Searches := by
  cases solicits with
  | dis => exact searches_disTimerExpire _
  | firstSolicitation => exact searches_disTimerExpire _
  | setAsRoot =>
    exact ⟨fun notRoot => absurd notRoot Bool.noConfusion, fun notRoot =>
      absurd notRoot Bool.noConfusion⟩

/-! ## Every step -/

/-- The search is kept up through every part of a step but DAOs and the DAO timers. -/
theorem searches_frame (key : DodagKey) : DaoFrame key solicitation fun _ n m =>
    n.solicitation.Searches → m.solicitation.Searches where
  aside := solicitation_aside
  same same searches := same ▸ searches
  trans first second searches := second (first searches)
  mono goes _ := goes
  leave _ _ searches := by
    rw [solicitation_leaveDodag]
    exact searches
  join _ dio interface _ := searches_joinDodag dio interface
  adopt _ _ _ _ searches := by
    rw [solicitation_adoptVersion]
    exact searches
  update _ _ _ searches := by
    rw [solicitation_updateParent]
    exact searches
  select _ _ := searches_selectPreferredParent
  poison _ _ sender := searches_handlePoison sender
  stop _ _ _ searches := searches_selectAndReset searches
  daoAck _ _ searches := by
    rw [solicitation_quiet.handleDaoAck]
    exact searches
  solicits _ _ solicits _ := searches_solicits solicits

/-- The events that are not ordinary have no part in the search. -/
theorem solicitation_apply_of_exchange (n : Node) {e : Event} (exchange : ¬DaoFrame.Ordinary e) :
    (n.apply e).solicitation = n.solicitation := by
  cases e with
  | receive heard message =>
    cases message with
    | dao dao =>
      unfold apply recvRpl
      dsimp only
      split
      · rfl
      · exact solicitation_quiet.handleDao ..
    | _ => exact absurd trivial exchange
  | fire timer =>
    cases timer with
    | dao key => exact solicitation_quiet.daoEventFire key
    | daoRetry key => exact solicitation_quiet.daoRetry key
    | _ => exact absurd trivial exchange
  | tick later => rfl
  | _ => exact absurd trivial exchange

/-- Every event keeps the search up. -/
theorem searches_apply (n : Node) (e : Event) (searches : n.solicitation.Searches) :
    (n.apply e).solicitation.Searches := by
  by_cases ordinary : DaoFrame.Ordinary e
  · cases (searches_frame ⟨0, 0⟩).apply n ordinary with
    | plain goes => exact goes searches
    | forms goes creates same =>
      rw [same]
      exact searches_createDodagMembership creates (goes searches)
  · rw [n.solicitation_apply_of_exchange ordinary]
    exact searches

end Node

end Rpl
