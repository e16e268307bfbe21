import Rpl.DiscoveryFrame

/-!
# What becomes of the notes of a discovery

A docket is what a node has under one RPLInstanceID and DODAGID: how often a membership
there has ended, and what the one held has noted of the targets and routes of a
discovery.  Every event comes down to a few kinds of entries in it.
-/

namespace Rpl

open Std

/-! ## Dockets -/

/-- How often a membership under a key has ended, and the notes of the one held. -/
structure Docket where
  ended : ℕ
  held : Option Notes

/-- The notes with the AODV-RPL side rewritten. -/
def Notes.withAodv (notes : Notes) (aodv : AodvRreqState) : Notes :=
  { notes with
    targets := aodv.targets
    targetsSeeded := aodv.targetsSeeded
    addressVector := aodv.addressVector }

namespace Node

def docket (key : DodagKey) (n : Node) : Docket :=
  ⟨n.departures key, (n.dodags[key]?).map DodagMembership.notes⟩

/-- An entry of an event `e` that happens to the node `n`. -/
inductive Noting (n : Node) (e : Event) (key : DodagKey) : Docket → Docket → Prop
  | ends {docket : Docket} : Noting n e key docket ⟨docket.ended + 1, none⟩
  | begins {ended : ℕ} {notes : Notes} (routeless : notes.Routeless) :
      Noting n e key ⟨ended, none⟩ ⟨ended, some notes⟩
  /-- An RREQ is taken in. -/
  | rreq {m : Node} {dio : DioHeader} {heard : Reception} {dodag : DodagMembership}
      (takes : n.Takes e dio heard) (handles : n.beforeDiscovery dio heard = some m)
      (rreq : dio.rreq.isSome = true) (keyed : dio.key = key)
      (held : m.dodags[key]? = some dodag) (attends : m.ignoresRreq dodag dio heard = false) :
      Noting n e key ⟨m.departures key, some dodag.notes⟩
        ⟨m.departures key, some (dodag.notes.withAodv (m.takeRreq dodag dio).2)⟩
  /-- The address vector of an RREQ or an RREP, with the node's own address. -/
  | appended {ended : ℕ} {notes : Notes} {addressVector : List Ipv6Address}
      (nonempty : addressVector ≠ []) :
      Noting n e key ⟨ended, some notes⟩ ⟨ended, some { notes with addressVector := addressVector }⟩
  /-- The RREQ has gone on along a cached route to the target. -/
  | relayed {ended : ℕ} {notes : Notes} (target : Ipv6Address) :
      Noting n e key ⟨ended, some notes⟩
        ⟨ended, some { notes with targets := notes.targets.erase target }⟩
  /-- The route of a P2P mode DIO is recorded. -/
  | recorded {ended : ℕ} (m : Node) (dodag : DodagMembership) (rdo : P2pRdoOption)
      (heard : Reception) :
      Noting n e key ⟨ended, some dodag.notes⟩
        ⟨ended, some (m.recordP2pRoutes dodag rdo heard).notes⟩
  | pruned {ended : ℕ} (dodag : DodagMembership) :
      Noting n e key ⟨ended, some dodag.notes⟩
        ⟨ended, some dodag.pruneP2pCandidateRoutes.notes⟩
  /-- Alternate routes are given up. -/
  | shed {ended : ℕ} {notes : Notes} {alternateRoutes : List (List Ipv6Address)}
      (fewer : alternateRoutes.Sublist notes.alternateRoutes) :
      Noting n e key ⟨ended, some notes⟩
        ⟨ended, some { notes with alternateRoutes := alternateRoutes }⟩

/-- Any number of entries. -/
abbrev Notings (n : Node) (e : Event) (key : DodagKey) : Docket → Docket → Prop :=
  Relation.ReflTransGen (Noting n e key)

variable {n m created : Node} {e : Event} {key other : DodagKey} {dodag changed : DodagMembership}

theorem notings_of_eq {before after : Docket} (same : after = before) :
    Notings n e key before after :=
  same ▸ .refl

/-! ## What leaves the docket alone -/

theorem docket_setDodag :
    (m.setDodag other dodag).docket key =
      ⟨m.departures key, if key = other then some dodag.notes else (m.docket key).held⟩ := by
  unfold docket setDodag
  rw [OrderedMap.getElem?_insert_eq]
  split
  · rfl
  · rfl

theorem docket_of_held (held : m.dodags[key]? = some dodag) :
    m.docket key = ⟨m.departures key, some dodag.notes⟩ := by
  rw [docket, held, Option.map_some]

theorem docket_of_absent (absent : m.dodags[key]? = none) :
    m.docket key = ⟨m.departures key, none⟩ := by
  rw [docket, absent, Option.map_none]

theorem docket_setDodag_same (held : m.dodags[other]? = some dodag)
    (same : changed.notes = dodag.notes) :
    (m.setDodag other changed).docket key = m.docket key := by
  rw [docket_setDodag]
  split
  · next keyed =>
    rw [docket_of_held (keyed ▸ held), same]
  · rfl

theorem docket_modifyDodag {f : DodagMembership → DodagMembership}
    (same : ∀ dodag, (f dodag).notes = dodag.notes) :
    (m.modifyDodag other f).docket key = m.docket key := by
  cases held : m.dodags[other]? with
  | none => rw [modifyDodag_of_absent held]
  | some dodag =>
    rw [setDodag_of_held held]
    exact docket_setDodag_same held (same dodag)

theorem docket_modifyPlace {f : DodagPlace → DodagPlace} :
    (m.modifyPlace other f).docket key = m.docket key :=
  docket_modifyDodag fun _ => rfl

theorem docket_offhand (key : DodagKey) : Offhand (docket key) where
  replies _ _ _ := rfl
  findings _ _ := rfl
  noted _ _ _ _ held _ same := docket_setDodag_same held same

theorem docket_sees (key : DodagKey) : NotesView (docket key) where
  emit _ _ _ := rfl
  findings _ _ := rfl
  unseen _ _ := rfl
  clock _ _ := rfl
  marks m milestone stays := by
    unfold docket departures
    rw [stakes_mark m stays]
    rfl
  keeps _ _ _ _ held same _ := docket_setDodag_same held same
  puts other dodag same := by
    have departures : Node.departures _ key = Node.departures _ key := congrArg Docket.ended same
    rw [docket_setDodag, docket_setDodag, departures, same]

/-- A membership rewritten is an entry in its docket and no other. -/
theorem notings_setDodag (held : m.dodags[other]? = some dodag)
    (noting : other = key → Noting n e key ⟨m.departures key, some dodag.notes⟩
      ⟨m.departures key, some changed.notes⟩) :
    Notings n e key (m.docket key) ((m.setDodag other changed).docket key) := by
  rw [docket_setDodag]
  split
  · next keyed =>
    rw [docket_of_held (keyed ▸ held)]
    exact .single (noting keyed.symm)
  · exact .refl

theorem notings_modifyDodag {f : DodagMembership → DodagMembership}
    (noting : ∀ dodag, other = key → Noting n e key ⟨m.departures key, some dodag.notes⟩
      ⟨m.departures key, some (f dodag).notes⟩) :
    Notings n e key (m.docket key) ((m.modifyDodag other f).docket key) := by
  cases held : m.dodags[other]? with
  | none => rw [modifyDodag_of_absent held]
  | some dodag =>
    rw [setDodag_of_held held]
    exact notings_setDodag held (noting dodag)

/-! ## What makes an entry -/

theorem docket_eraseDodag :
    (m.eraseDodag other dodag).docket key =
      if key = other then ⟨m.departures key + 1, none⟩ else m.docket key := by
  unfold docket departures
  rw [stakes_eraseDodag, dodags_eraseDodag, OrderedMap.getElem?_erase_eq]
  change (⟨(other :: m.stakes.ended).count key, _⟩ : Docket) = _
  split
  · next keyed =>
    rw [keyed, List.count_cons_self]
    rfl
  · next distinct => rw [List.count_cons_of_ne (Ne.symm distinct)]

theorem notings_eraseDodag :
    Notings n e key (m.docket key) ((m.eraseDodag other dodag).docket key) := by
  rw [docket_eraseDodag]
  split
  · exact .single .ends
  · exact .refl

theorem notesFrame (n : Node) (e : Event) (key : DodagKey) :
    NotesFrame (docket key) fun m after => Notings n e key (m.docket key) (after.docket key) where
  sees := docket_sees key
  same := notings_of_eq
  trans := .trans
  ends _ _ _ := notings_eraseDodag
  begins m other dodag absent unnoted := by
    rw [docket_setDodag]
    split
    · next keyed =>
      rw [docket_of_absent (keyed ▸ absent)]
      exact .single (.begins unnoted.routeless)
    · exact .refl
  prunes _ _ dodag held := notings_setDodag held fun _ => .pruned dodag
  appends _ _ _ nonempty := notings_modifyDodag fun _ _ => .appended nonempty
  relays _ _ := notings_modifyDodag fun dodag _ => .relayed dodag.aodv.target

/-! ## Answering as Target -/

theorem notings_takeP2pVector (rdo : P2pRdoOption) (interface : Nat) :
    Notings n e key (m.docket key) ((m.takeP2pVector other rdo interface).2.docket key) := by
  unfold takeP2pVector
  split
  · exact .refl
  · dsimp only
    split
    · exact .refl
    split
    · exact (notesFrame n e key).leaveDodag other false
    · exact notings_modifyDodag fun _ _ => .shed List.filter_sublist

theorem notings_handleP2pRdo (dio : DioHeader) (heard : Reception) :
    Notings n e key (m.docket key) ((m.handleP2pRdo dio heard).docket key) := by
  unfold handleP2pRdo
  extract_lets other rdo
  split
  · exact .refl
  · next dodag held =>
    split
    · exact .refl
    · have recorded : Notings n e key (m.docket key)
          ((m.setDodag other (m.recordP2pRoutes dodag rdo heard)).docket key) :=
        notings_setDodag held fun _ => .recorded m dodag rdo heard
      have heldAfter : (m.setDodag other (m.recordP2pRoutes dodag rdo heard)).dodags[other]? =
          some (m.recordP2pRoutes dodag rdo heard) := ExtTreeMap.getElem?_insert_self
      dsimp only
      generalize m.recordP2pRoutes dodag rdo heard = after at recorded heldAfter ⊢
      generalize m.setDodag other after = noted at recorded heldAfter ⊢
      refine recorded.trans ?_
      split
      · exact .refl
      · have taken : ((noted.modifyP2p other fun _ => noted.withP2pRdo dio after.p2p).armP2pExpiry
            other).docket key = noted.docket key := by
          rw [(docket_offhand key).armP2pExpiry, modifyP2p, setDodag_of_held heldAfter]
          exact docket_setDodag_same heldAfter rfl
        rw [← taken]
        generalize (noted.modifyP2p other fun _ =>
          noted.withP2pRdo dio after.p2p).armP2pExpiry other = armed
        have answered (armed : Node) : Notings n e key (armed.docket key)
            (docket key (if (armed.takeP2pVector other rdo heard.interface).1 then
              ((armed.takeP2pVector other rdo heard.interface).2.armP2pExpiry other).replyAsTarget
                other
              else (armed.takeP2pVector other rdo heard.interface).2)) := by
          split
          · rw [(docket_offhand key).replyAsTarget, (docket_offhand key).armP2pExpiry]
            exact notings_takeP2pVector rdo heard.interface
          · exact notings_takeP2pVector rdo heard.interface
        split
        · exact answered (armed.log (.discoveryTargetReached other))
        · exact answered armed

theorem notings_p2pDroCollectExpire :
    Notings n e key (m.docket key) ((m.p2pDroCollectExpire other).docket key) := by
  have collected : (m.modifyP2p other fun p2p => { p2p with droCollecting := false }).docket key =
      m.docket key := docket_modifyDodag fun _ => rfl
  have shed (m : Node) : Notings n e key (m.docket key)
      ((m.modifyP2p other fun p2p => { p2p with alternateRoutes := [] }).docket key) :=
    notings_modifyDodag fun _ _ => .shed (List.nil_sublist _)
  unfold p2pDroCollectExpire
  dsimp only
  split
  · exact notings_of_eq collected
  split
  · rw [← collected]
    exact shed _
  split
  · exact notings_of_eq collected
  · refine Relation.ReflTransGen.trans (notings_of_eq ?_) (shed _)
    rw [Onlooker.foldl fun _ _ => (docket_offhand key).sendP2pDroRoute ..,
      (docket_offhand key).sendP2pDroRoute, collected]

/-! ## Every event -/

theorem discoveryFrame (n : Node) (e : Event) (key : DodagKey) :
    DiscoveryFrame (docket key) n e
      fun m after => Notings n e key (m.docket key) (after.docket key) where
  toNotesFrame := notesFrame n e key
  takesRreq takes handles rreq held attends :=
    notings_setDodag held fun keyed => .rreq takes handles rreq keyed (keyed ▸ held) attends
  takesRdo _ _ _ _ := notings_handleP2pRdo ..
  retries other _ := notings_of_eq
    ((docket_offhand key).p2pDroRetry.trans (docket_modifyDodag fun _ => rfl))
  collects other _ := by
    have collected : Notings n e key _ ((n.fire (.droCollect other)).docket key) :=
      notings_p2pDroCollectExpire
    rw [modifyP2p, docket_modifyDodag] at collected
    · exact collected
    · exact fun _ => rfl
  relaysDro _ dro _ := notings_of_eq ((docket_offhand key).handleP2pDro dro)
  acknowledged _ ack _ := notings_of_eq ((docket_offhand key).handleP2pDroAck ack)

/-- Every event comes down to entries in each docket. -/
theorem notings_apply (n : Node) (e : Event) (key : DodagKey) :
    Notings n e key (n.docket key) ((n.apply e).docket key) :=
  (discoveryFrame n e key).apply

end Node

end Rpl
