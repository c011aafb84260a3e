import Mathlib
import EconomicImpact.Proofs.Outcome
import EconomicImpact.Satellite
import EconomicImpact.Shock.Phased

set_option autoImplicit false

namespace EconomicImpact

variable {α : Type}

namespace Fault

inductive Misaligned : Fault α → Prop
  | dimension (context : String) (expected actual : Nat) :
      Misaligned (.dimensionMismatch context expected actual)
  | sector (code : String) : Misaligned (.unknownSector code)

def Blocks (fault : Fault α) : Prop := fault.blocksModel = true

theorem Misaligned.spares {fault : Fault α} (misaligned : fault.Misaligned) : ¬fault.Blocks := by
  cases misaligned with
  | dimension => exact Bool.false_ne_true
  | sector => exact Bool.false_ne_true

end Fault

open Outcome

theorem free_of_misaligned {β : Type} {x : Except (Fault α) β}
    (misaligned : Free (fun fault => ¬fault.Misaligned) x) : Free Fault.Blocks x :=
  fun fault failed blocks => misaligned fault failed fun refused => refused.spares blocks

variable [Scalar α] {n : Nat}

section misaligned

theorem SectorVector.align_sparse_misaligned (v : SectorVector α) (order : Vector String n) :
    Free (fun fault => ¬fault.Misaligned) (v.alignSparse order) := by
  refine free_foldlM (fun aligned entry => ?_) v.entries _
  obtain ⟨code, value⟩ := entry
  dsimp only
  cases position? order code with
  | some i => exact free_ok _
  | none => exact free_error (not_not_intro (.sector code))

theorem SectorVector.align_exact_misaligned (v : SectorVector α) (order : Vector String n)
    (context : String) : Free (fun fault => ¬fault.Misaligned) (v.alignExact order context) := by
  unfold alignExact
  split
  · exact v.align_sparse_misaligned order
  · exact free_error (not_not_intro (.dimension context n v.size))

theorem Coefficients.align_misaligned (c : Coefficients α) (order : Vector String n) :
    Free (fun fault => ¬fault.Misaligned) (c.align order) := by
  refine free_bind (c.jobs.align_exact_misaligned order _) fun jobs => ?_
  refine free_bind (c.imports.align_exact_misaligned order _) fun imports => ?_
  exact free_bind (c.valueAdded.align_exact_misaligned order _) fun valueAdded => free_ok _

end misaligned

section blocks

theorem Coefficients.accounts_free (c : Coefficients α) (deltaX : SectorVector α) :
    Free Fault.Blocks (c.accounts deltaX) :=
  free_bind (free_of_misaligned (c.align_misaligned deltaX.codes)) fun _ => free_ok _

theorem SquareTable.impact_free (inverse : SquareTable α) (codes : List String) (shock : List α) :
    Free Fault.Blocks (inverse.impact codes shock) := by
  unfold impact
  split
  · exact free_ok _
  · exact free_error Bool.false_ne_true

theorem Shock.resolve_free (shock : Shock α) (order : Vector String n) :
    Free Fault.Blocks (shock.resolve order) := by
  have aligned : Free Fault.Blocks (shock.align order) := by
    cases shock with
    | positional values =>
        rw [align]
        split
        · exact free_ok _
        · exact free_error Bool.false_ne_true
    | keyed vector => exact free_of_misaligned (vector.align_sparse_misaligned order)
  refine free_bind aligned fun values => ?_
  by_cases refused : (values.toList.any fun v => !Scalar.isFinite v) = true
  · simp only [if_pos refused]
    exact free_error Bool.false_ne_true
  · simp only [if_neg refused]
    exact free_ok values

theorem Schedule.effective_shocks_free (schedule : Schedule α) (order : Vector String n)
    (mode : ShockMode) : Free Fault.Blocks (schedule.effectiveShocks order mode) := by
  have real (year : Int) (shock : Shock α) :
      Free Fault.Blocks (schedule.realShock order year shock) := by
    unfold realShock
    dsimp only
    split
    · exact free_bind (shock.resolve_free order) fun values => free_ok _
    · exact free_error Bool.false_ne_true
  refine free_bind (free_mapM (fun entry => ?_) _) fun shocks => ?_
  · exact free_bind (real entry.1 entry.2) fun values => free_ok (entry.1, values)
  · cases mode with
    | perYear => exact free_ok shocks
    | cumulative => exact free_ok _

theorem Phased.solve_free (inverse : SquareTable α) (codes : Vector String n) (mode : ShockMode)
    (shocks : List (Int × Vector α n)) :
    Free Fault.Blocks (Phased.solve inverse codes mode shocks) := by
  refine free_bind (free_mapM (fun entry => ?_) _) fun annual => free_ok _
  exact free_bind (inverse.impact_free codes.toList entry.2.toList) fun impact => free_ok _

end blocks

end EconomicImpact
