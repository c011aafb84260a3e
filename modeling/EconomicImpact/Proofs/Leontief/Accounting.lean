import Mathlib
import EconomicImpact.Feasibility.Simplex
import EconomicImpact.Proofs.Economy.Model
import EconomicImpact.Proofs.Leontief.Inverse
import EconomicImpact.Proofs.Run.Session

set_option autoImplicit false

namespace EconomicImpact

variable {K : Type} [Field K] [LinearOrder K] [IsStrictOrderedRing K] {n : Nat}

theorem impact_of_inverse {a : Table K n n} {limit : K} {inverse : Table K n n}
    (found : leontiefInverse a limit = .ok inverse) (codes : Vector String n)
    (shock : Vector K n) :
    (SquareTable.mk n inverse).impact codes.toList shock.toList = .ok {
      deltaX := .ofAligned codes (inverse.apply shock)
      direct := .ofAligned codes shock
      indirect := .ofAligned codes (a.apply (inverse.apply shock)) } := by
  have balanced := (balance_iff found shock (inverse.apply shock)).mpr rfl
  have ripple : (inverse.apply shock).zipWith (· - ·) shock = a.apply (inverse.apply shock) := by
    refine vector_ext_get fun i => ?_
    have here := congrFun balanced i
    rw [Table.apply_get]
    simp only [Pi.add_apply] at here
    simp only [Vector.get_eq_getElem, Vector.getElem_zipWith] at here ⊢
    rw [here, add_sub_cancel_right]
  rw [SquareTable.impact_eq, ripple]

theorem session_solve_accounts [SpectralRoutine K] [BitImage K] (s : Session K) (sound : s.Sound)
    (optimise : Optimiser K) (id : Uuid) (model : RegisteredModel K)
    (found : s.registry.get id = .ok model)
    (inverse : Table K model.economy.size model.economy.size)
    (inverted : leontiefInverse model.economy.coefficients
      s.settings.solver.maxConditionNumber = .ok inverse)
    (shock : Vector K model.economy.size) :
    (s.perform optimise (.solve id shock.toList)).1 = .ok (.impact {
      deltaX := .ofAligned model.economy.sectors (inverse.apply shock)
      direct := .ofAligned model.economy.sectors shock
      indirect := .ofAligned model.economy.sectors
        (model.economy.coefficients.apply (inverse.apply shock)) }) := by
  have own : model.ownInverse s.settings.solver.maxConditionNumber = .ok ⟨_, inverse⟩ := by
    rw [RegisteredModel.ownInverse, inverted]
    rfl
  rw [Session.perform_solve sound optimise id model found, own]
  exact congrArg (Except.map Session.Answer.impact)
    (impact_of_inverse inverted model.economy.sectors shock)

theorem leontief_inverse_and_accounting [SpectralRoutine K] [BitImage K] :
    (∀ (n : Nat) (a : Table K n n) (limit : K),
      ((∃ inverse, leontiefInverse a limit = .ok inverse) ↔
        (1 - a.matrix).det ≠ 0 ∧
          columnNorm (1 - a.matrix) * columnNorm (1 - a.matrix)⁻¹ ≤ limit) ∧
      ∀ inverse, leontiefInverse a limit = .ok inverse →
        (1 - a.matrix) * inverse.matrix = 1 ∧ inverse.matrix * (1 - a.matrix) = 1) ∧
    ∀ (settings : Settings K) (optimise : Optimiser K) (commands : List (Session.Command K))
      (s : Session K) (id : Uuid) (model : RegisteredModel K)
      (shock : Vector K model.economy.size),
      ((Session.start settings).performAll optimise commands).2 = s →
      s.registry.get id = .ok model →
      (∃ inverse, leontiefInverse model.economy.coefficients
        settings.solver.maxConditionNumber = .ok inverse) →
      ∃ deltaX : Vector K model.economy.size,
        (s.perform optimise (.solve id shock.toList)).1 = .ok (.impact {
          deltaX := .ofAligned model.economy.sectors deltaX
          direct := .ofAligned model.economy.sectors shock
          indirect := .ofAligned model.economy.sectors
            (model.economy.coefficients.apply deltaX) }) ∧
        (∀ output : Vector K model.economy.size,
          output.get = model.economy.coefficients.matrix.mulVec output.get + shock.get ↔
            output = deltaX) ∧
        (shock = model.economy.finalDemand → deltaX = model.economy.output) := by
  constructor
  · intro n a limit
    exact ⟨leontief_inverse_exists_iff a limit, fun inverse found => leontief_inverse_two_sided found⟩
  · rintro settings optimise commands s id model shock rfl found ⟨inverse, inverted⟩
    have sound := Session.perform_all_sound (Session.start_sound settings) optimise commands
    have kept := (Session.start settings).perform_all_settings optimise commands
    obtain ⟨snapshot, registered⟩ :=
      sound.accepted model (Registry.get_ok _ id model found).1
    have accepted := Economy.of_snapshot_accepted snapshot model.economy registered
    have unique := balance_iff inverted shock
    refine ⟨inverse.apply shock, ?_, unique, ?_⟩
    · refine session_solve_accounts _ sound optimise id model found inverse ?_ shock
      rw [kept]
      exact inverted
    · rintro rfl
      have balanced := model.economy.base_output_balanced accepted.output_pos
      exact ((unique _).mp balanced).symm

def twoSectorSnapshot : Snapshot ℚ where
  sectorCodes := ["A", "B"]
  flows := [[10, 20], [30, 40]]
  output := [100, 200]
  baseYear := 2023
  denomination := defaultDenomination

theorem two_sector_session_accounts :
    ∃ (s : Session ℚ) (model : RegisteredModel ℚ) (deltaX : Vector ℚ model.economy.size),
      ((Session.start Settings.standard).performAll simplex
        [.register .nil "" twoSectorSnapshot "test"]).2 = s ∧
      s.registry.get .nil = .ok model ∧
      (s.perform simplex (.solve .nil model.economy.finalDemand.toList)).1 = .ok (.impact {
        deltaX := .ofAligned model.economy.sectors deltaX
        direct := .ofAligned model.economy.sectors model.economy.finalDemand
        indirect := .ofAligned model.economy.sectors
          (model.economy.coefficients.apply deltaX) }) ∧
      deltaX = model.economy.output := by
  have facts : (((Session.start (α := ℚ) Settings.standard).performAll simplex
      [.register .nil "" twoSectorSnapshot "test"]).2.registry.get .nil).toOption.any
        (fun model => (leontiefInverse model.economy.coefficients
          Settings.standard.solver.maxConditionNumber).toOption.any fun _ => true) = true := by
    decide +kernel
  obtain ⟨model, found, inverted⟩ := (Outcome.any_ok_iff _ _).mp facts
  obtain ⟨inverse, inverted, -⟩ := (Outcome.any_ok_iff _ _).mp inverted
  obtain ⟨deltaX, answered, -, base⟩ := leontief_inverse_and_accounting.2 Settings.standard simplex
    [.register .nil "" twoSectorSnapshot "test"] _ .nil model model.economy.finalDemand rfl found
    ⟨inverse, inverted⟩
  exact ⟨_, model, deltaX, rfl, found, answered, base rfl⟩

end EconomicImpact
