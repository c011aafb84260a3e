import Mathlib
import EconomicImpact.Proofs.Feasibility.Attainable
import EconomicImpact.Proofs.Feasibility.Clipping

set_option autoImplicit false

namespace EconomicImpact

variable {K : Type} [Field K] [LinearOrder K] {n : Nat}

namespace Clipping

theorem passes_perm {α : Type} (bounds : List (Bound α n)) : (passes bounds).Perm bounds := by
  have split (kept : Bound α n → Bool) (some : List (Bound α n)) :
      (some.filter kept ++ some.filter (!kept ·)).Perm some := List.filter_append_perm _ _
  have parts : (bounds.filter (!·.isHard) ++ bounds.filter (·.isHard)).Perm bounds :=
    List.perm_append_comm.trans (split _ _)
  rw [passes, List.append_assoc]
  exact ((split (·.isSingle) _).append (split (·.isSingle) _)).trans parts

variable [IsStrictOrderedRing K] {sense : Sense} (turns : List (Bound K n)) (y : Vector K n)
  (sound : ∀ b ∈ turns, b.Sound)

include sound

theorem fold_uncovered (i : Fin n) (uncovered : ∀ b ∈ turns, i ∉ b.sectors) :
    (turns.foldl apply y).get i = y.get i :=
  List.foldlRecOn (motive := fun z => z.get i = y.get i) turns apply rfl fun z same b turn =>
    (apply_uncovered b z (sound b turn) i (uncovered b turn)).trans same

variable (oneSided : ∀ b ∈ turns, b.sense = sense)

include oneSided

theorem fold_within (i : Fin n) : sense.Within (y.get i) ((turns.foldl apply y).get i) := by
  refine List.foldlRecOn (motive := fun z => sense.Within (y.get i) (z.get i)) turns apply
    (.refl sense _) fun z within b turn => ?_
  have moved := apply_within b z (sound b turn) i
  rw [oneSided b turn] at moved
  exact within.trans moved

theorem fold_meets_one_sided : ∀ b ∈ turns, b.violation (turns.foldl apply y) = 0 := by
  refine clip_in_turn_meets y turns sound ?_
  refine List.pairwise_of_forall_mem_list fun c earlier b later z met => ?_
  refine apply_keeps_same_sense b z c (sound b later) (sound c earlier) ?_ met
  rw [oneSided b later, oneSided c earlier]

end Clipping

open Clipping in
theorem clip_meets_one_sided [IsStrictOrderedRing K] (sense : Sense) (u : Vector K n)
    (bounds : List (Bound K n)) (sound : ∀ b ∈ bounds, b.Sound)
    (oneSided : ∀ b ∈ bounds, b.sense = sense) :
    (∀ b ∈ bounds, b.violation (clip u bounds) = 0) ∧
      (∀ i, sense.Within (u.get i) ((clip u bounds).get i)) ∧
      (∀ i, (∀ b ∈ bounds, i ∉ b.sectors) → (clip u bounds).get i = u.get i) ∧
      ∀ b ∈ bounds, ∀ y, 0 < b.weightedBasis y := by
  have turn (b : Bound K n) : b ∈ passes bounds ↔ b ∈ bounds := (passes_perm bounds).mem_iff
  have soundTurns : ∀ b ∈ passes bounds, b.Sound := fun b listed => sound b ((turn b).mp listed)
  have oneSidedTurns : ∀ b ∈ passes bounds, b.sense = sense := fun b listed =>
    oneSided b ((turn b).mp listed)
  refine ⟨fun b listed => ?_, fun i => ?_, fun i uncovered => ?_, fun b listed y => ?_⟩
  · exact fold_meets_one_sided _ u soundTurns oneSidedTurns b ((turn b).mpr listed)
  · exact fold_within _ u soundTurns oneSidedTurns i
  · exact fold_uncovered _ u soundTurns i fun b listed => uncovered b ((turn b).mp listed)
  · exact b.weighted_basis_pos y (sound b listed)

def overlappingCaps : List (Bound ℚ 5) :=
  [.standing .hard .upper [(0, 2), (1, 1)] (-10), .standing .estimated .upper [(1, 3)] 6,
    .standing .assumed .upper [(0, 1), (1, 1), (2, 4)] 0, .standing .hard .upper [(2, 1)] 4]

theorem overlapping_caps_met :
    (∀ b ∈ overlappingCaps, b.Sound) ∧ (∀ b ∈ overlappingCaps, b.sense = .upper) ∧
      (∀ b ∈ overlappingCaps, b.violation (clip #v[60, -5, 7, 9, 0] overlappingCaps) = 0) ∧
      (clip #v[60, -5, 7, 9, 0] overlappingCaps).get 3 = 9 := by
  have sound : ∀ b ∈ overlappingCaps, b.Sound := by
    intro b listed
    exact ⟨by revert b; decide, by revert b; decide +kernel, by revert b; decide⟩
  have oneSided : ∀ b ∈ overlappingCaps, b.sense = .upper := by decide
  obtain ⟨met, -, kept, -⟩ :=
    clip_meets_one_sided .upper #v[60, -5, 7, 9, 0] overlappingCaps sound oneSided
  exact ⟨sound, oneSided, met, kept 3 (by decide)⟩

end EconomicImpact
