import Rpl.ParentSet

/-!
# What a parent selection guarantees

Whatever the neighbour table holds, a parent that is chosen is one of its entries,
it passed the tests of a candidate, and the rank taken is the rank it gives.
-/

namespace Rpl

open Std

/-! ## Ranks -/

theorem toNat_lt_infinite {rank : UInt16} (finite : rank ≠ infiniteRank) :
    rank.toNat < infiniteRank.toNat := by
  have below : rank.toNat < 65536 := rank.toNat_lt
  have other : rank.toNat ≠ infiniteRank.toNat := fun same => finite (UInt16.toNat_inj.mp same)
  have top : infiniteRank.toNat = 65535 := rfl
  omega

theorem toNat_le_infinite (rank : UInt16) : rank.toNat ≤ infiniteRank.toNat := by
  have below : rank.toNat < 65536 := rank.toNat_lt
  have top : infiniteRank.toNat = 65535 := rfl
  omega

/-- A rank that survives the clamping is the rank that went in. -/
theorem toNat_clampRank {rank : Nat} (finite : clampRank rank ≠ infiniteRank) :
    (clampRank rank).toNat = rank := by
  unfold clampRank at finite ⊢
  split
  · next over_ =>
    rw [if_pos over_] at finite
    exact absurd rfl finite
  · next under =>
    have top : infiniteRank.toNat = 65535 := rfl
    rw [UInt16.toNat_ofNat']
    exact Nat.mod_eq_of_lt (by omega)

theorem toNat_clampRank_le (rank : Nat) : (clampRank rank).toNat ≤ rank := by
  unfold clampRank
  split
  · next over_ => exact over_
  · rw [UInt16.toNat_ofNat']
    exact Nat.mod_le ..

namespace DodagPlace

variable {place : DodagPlace} {parent : Parent} {requireFresh : Bool}

/-- A rank is at least one MinHopRankIncrease above that of the parent it is taken through. -/
theorem rank_add_le_rankViaParent (finite : place.rankViaParent parent ≠ infiniteRank) :
    parent.rank.toNat + place.minHopRankIncrease.toNat ≤ (place.rankViaParent parent).toNat := by
  unfold rankViaParent at finite ⊢
  split
  · exact absurd (if_pos ‹_›) finite
  · next finiteParent =>
    rw [if_neg finiteParent] at finite
    dsimp only at finite ⊢
    split
    · next mrhof =>
      rw [if_pos mrhof] at finite
      rw [toNat_clampRank finite]
      exact le_max_left ..
    · next of0 =>
      rw [if_neg of0] at finite
      rw [toNat_clampRank finite]

theorem rank_ne_infinite (finite : place.rankViaParent parent ≠ infiniteRank) :
    parent.rank ≠ infiniteRank := fun infinite => finite (if_pos infinite)

/-! ## Candidates -/

theorem admitted_false (admitted : place.admitted requireFresh parent = true) :
    place.admitted false parent = true := by
  simp only [DodagPlace.admitted, Bool.and_eq_true] at admitted ⊢
  obtain ⟨⟨⟨⟨-, close⟩, metric⟩, finite⟩, cost⟩ := admitted
  exact ⟨⟨⟨⟨rfl, close⟩, metric⟩, finite⟩, cost⟩

theorem closer_of_admitted (admitted : place.admitted requireFresh parent = true) :
    place.closer parent = true := by
  simp only [DodagPlace.admitted, Bool.and_eq_true] at admitted
  exact admitted.1.1.1.2

theorem finite_of_admitted (admitted : place.admitted requireFresh parent = true) :
    place.rankViaParent parent ≠ infiniteRank := by
  simp only [DodagPlace.admitted, Bool.and_eq_true, decide_eq_true_eq] at admitted
  exact admitted.1.2

/-- The candidate is a neighbour that passes the tests, with the rank that neighbour gives. -/
def Stands (place : DodagPlace) (best : Candidate) : Prop :=
  ∃ parent, place.parents[best.address]? = some parent ∧
    best.rank = place.rankViaParent parent ∧ place.admitted false parent = true

/-- Nothing has been chosen yet, or the candidate stands. -/
def Settles (place : DodagPlace) (best : Candidate) : Prop :=
  best.address.isAny = false → place.Stands best

theorem consider_settles {best : Candidate} {entry : Ipv6Address × Parent}
    (settles : place.Settles best) (mem : entry ∈ place.parents.toList) :
    place.Settles (place.consider requireFresh best entry) := by
  unfold consider
  split
  · next taken =>
    have admitted := (Bool.and_eq_true_iff.mp taken).1
    exact fun _ => ⟨entry.2, ExtTreeMap.mem_toList_iff_getElem?_eq_some.mp mem, rfl,
      admitted_false admitted⟩
  · exact settles

theorem candidatePass_settles {best : Candidate} (settles : place.Settles best) :
    place.Settles (place.candidatePass requireFresh best) :=
  List.foldlRecOn place.parents.toList (place.consider requireFresh) settles
    fun _ settles _ mem => consider_settles settles mem

theorem searchParents_settles : place.Settles place.searchParents.2 := by
  have start : place.Settles {} := fun taken => absurd taken (by decide)
  unfold searchParents
  dsimp only
  split
  · exact candidatePass_settles (candidatePass_settles start)
  · exact candidatePass_settles start

/-- The parent that is chosen stands. -/
theorem chooseParent_stands (found : place.chooseParent.address.isAny = false) :
    place.Stands place.chooseParent := by
  revert found
  change place.Settles place.chooseParent
  unfold chooseParent
  dsimp only
  split
  · next current held =>
    split
    · next keeps =>
      simp only [keepsCurrent, Bool.and_eq_true] at keeps
      exact fun _ => ⟨current, held, rfl, admitted_false keeps.1.2⟩
    · exact searchParents_settles
  · exact searchParents_settles

/-! ## The rank taken -/

/-- A rank that survives the ceiling is the rank that went in, and is not above the ceiling. -/
theorem ceiled_eq {rank : UInt16} (finite : place.ceiled rank ≠ infiniteRank) :
    place.ceiled rank = rank ∧ rank.toNat ≤ place.rankCeiling := by
  unfold ceiled at finite ⊢
  split
  · next above =>
    rw [if_pos above] at finite
    exact absurd rfl finite
  · next within_ => exact ⟨rfl, Nat.le_of_not_lt within_⟩

end DodagPlace

end Rpl
