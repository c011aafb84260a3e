import Mathlib
import EconomicImpact.Proofs.Caching
import EconomicImpact.Run.Basic

set_option autoImplicit false

namespace EconomicImpact

variable {α β γ : Type}

namespace Solving

def alone (computation : Solving α β) : Except (Fault α) β := Caching.alone computation

def Transparent (valid : Uuid → SquareTable α → Prop) (computation : Solving α β) : Prop :=
  Caching.Transparent valid computation

variable {valid : Uuid → SquareTable α → Prop}

theorem alone_bind (computation : Solving α β) (next : β → Solving α γ) :
    (computation >>= next).alone = computation.alone >>= fun b => (next b).alone := by
  have both := Caching.alone_bind computation
    (ExceptT.bindCont next : Except (Fault α) β → Caching Uuid (SquareTable α) _)
  refine Eq.trans both ?_
  rw [alone]
  cases Caching.alone computation <;> rfl

theorem alone_of_except (result : Except (Fault α) β) : (ofExcept result).alone = result := rfl

theorem transparent_of_except (result : Except (Fault α) β) :
    (ofExcept result).Transparent valid := rfl

theorem transparent_bind (computation : Solving α β) (next : β → Solving α γ)
    (first : computation.Transparent valid) (later : ∀ b, (next b).Transparent valid) :
    (computation >>= next).Transparent valid := by
  refine Caching.transparent_bind computation _ first ?_
  cases Caching.alone computation with
  | ok b => exact later b
  | error fault => exact transparent_of_except (.error fault)

theorem transparent_mapM {δ : Type} (f : δ → Solving α β) (items : List δ)
    (each : ∀ a, (f a).Transparent valid) : (items.mapM f).Transparent valid := by
  induction items with
  | nil => exact transparent_of_except (.ok [])
  | cons a rest ih =>
      rw [List.mapM_cons]
      refine transparent_bind _ _ (each a) fun b => ?_
      exact transparent_bind _ _ ih fun bs => transparent_of_except (.ok (b :: bs))

end Solving

namespace RegisteredModel

variable [Scalar α]

def ownInverse (model : RegisteredModel α) (limit : α) : Except (Fault α) (SquareTable α) :=
  (leontiefInverse model.economy.coefficients limit).map fun table => ⟨_, table⟩

variable (model : RegisteredModel α) (limit : α) (valid : Uuid → SquareTable α → Prop)

theorem inverse_alone : (model.inverse limit).alone = model.ownInverse limit :=
  Caching.load_alone _ _

theorem solve_alone (shock : List α) :
    (model.solve limit shock).alone = model.ownInverse limit >>= fun inverse =>
      inverse.impact model.economy.sectors.toList shock := by
  rw [solve, Solving.alone_bind, inverse_alone]
  rfl

theorem solve_shock_alone (shock : Shock α) :
    (model.solveShock limit shock).alone =
      shock.resolve model.economy.sectors >>= fun values =>
        model.ownInverse limit >>= fun inverse =>
          inverse.impact model.economy.sectors.toList values.toList := by
  simp only [solveShock, Solving.alone_bind, Solving.alone_of_except, solve_alone]

theorem solve_schedule_alone (schedule : Schedule α) (mode : ShockMode) :
    (model.solveSchedule limit schedule mode).alone =
      schedule.effectiveShocks model.economy.sectors mode >>= fun shocks =>
        model.ownInverse limit >>= fun inverse =>
          Phased.solve inverse model.economy.sectors mode shocks := by
  simp only [solveSchedule, Solving.alone_bind, Solving.alone_of_except, inverse_alone]

theorem output_multipliers_alone :
    (model.outputMultipliers limit).alone = model.ownInverse limit >>= fun inverse =>
      .ok (inverse.outputMultipliers model.economy.sectors.toList) := by
  rw [outputMultipliers, Solving.alone_bind, inverse_alone]
  rfl

variable (own : ∀ value, valid model.version.id value ↔ model.ownInverse limit = .ok value)

include own

theorem inverse_transparent : (model.inverse limit).Transparent valid :=
  Caching.load_transparent _ _ own

theorem solve_transparent (shock : List α) : (model.solve limit shock).Transparent valid :=
  Solving.transparent_bind _ _ (model.inverse_transparent limit valid own) fun _ =>
    Solving.transparent_of_except _

theorem solve_shock_transparent (shock : Shock α) :
    (model.solveShock limit shock).Transparent valid :=
  Solving.transparent_bind _ _ (Solving.transparent_of_except _) fun _ =>
    model.solve_transparent limit valid own _

theorem solve_schedule_transparent (schedule : Schedule α) (mode : ShockMode) :
    (model.solveSchedule limit schedule mode).Transparent valid :=
  Solving.transparent_bind _ _ (Solving.transparent_of_except _) fun _ =>
    Solving.transparent_bind _ _ (model.inverse_transparent limit valid own) fun _ =>
      Solving.transparent_of_except _

theorem output_multipliers_transparent : (model.outputMultipliers limit).Transparent valid :=
  Solving.transparent_bind _ _ (model.inverse_transparent limit valid own) fun _ =>
    Solving.transparent_of_except (.ok _)

theorem sensitivity_run_transparent (schedule : Schedule α) (mode : ShockMode)
    (coefficients : Coefficients α) (multiplier : α) (runId : Uuid) :
    (Run.sensitivityRun model limit schedule mode coefficients multiplier runId).Transparent
      valid := by
  unfold Run.sensitivityRun
  by_cases refused : (!Scalar.isFinite multiplier) = true
  · rw [if_pos refused]
    exact Solving.transparent_of_except (.error _)
  · rw [if_neg refused]
    exact Solving.transparent_bind _ _
      (model.solve_schedule_transparent limit valid own _ mode) fun _ =>
        Solving.transparent_of_except _

omit own in
theorem run_transparent (optimise : Optimiser α) (settings : Settings α) (stamp : RunStamp)
    (request : RunRequest α)
    (own : ∀ value, valid model.version.id value ↔
      model.ownInverse settings.solver.maxConditionNumber = .ok value) :
    (model.run optimise settings stamp request).Transparent valid := by
  unfold run
  refine Solving.transparent_bind _ _
    (model.solve_schedule_transparent _ valid own _ _) fun phased => ?_
  refine Solving.transparent_bind _ _ (Solving.transparent_of_except _) fun sets => ?_
  refine Solving.transparent_bind _ _ (Solving.transparent_of_except _) fun feasible => ?_
  refine Solving.transparent_bind _ _ (Solving.transparent_of_except _) fun workforce => ?_
  refine Solving.transparent_bind _ _ (Solving.transparent_mapM _ _ ?_) fun sensitivity => ?_
  · rintro ⟨multiplier, i⟩
    exact model.sensitivity_run_transparent _ valid own _ _ _ multiplier _
  · exact Solving.transparent_of_except (.ok _)

end RegisteredModel

end EconomicImpact
