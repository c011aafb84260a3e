import Mathlib
import EconomicImpact.Proofs.Run.History
import EconomicImpact.Proofs.WorkerPool
import EconomicImpact.Run.Batch

set_option autoImplicit false

namespace EconomicImpact

variable {α : Type}

namespace Caching

variable {κ ν β : Type} [BEq κ] [Hashable κ] [LawfulBEq κ] [LawfulHashable κ]

theorem run_consistent (computation : Caching κ ν β) (c : LruCache κ ν)
    (consistent : c.Consistent) :
    (computation.run c).2.Consistent ∧ (computation.run c).2.capacity = c.capacity := by
  induction computation generalizing c with
  | done result => exact ⟨consistent, rfl⟩
  | lookup key next ih =>
      obtain ⟨kept, same⟩ := ih _ _ (LruCache.lookup_consistent consistent key)
      exact ⟨kept, same.trans (c.lookup_capacity key)⟩
  | insert key value next ih =>
      obtain ⟨kept, same⟩ := ih _ (LruCache.insert_consistent consistent key value)
      exact ⟨kept, same.trans (c.insert_kept key value).1⟩

end Caching

namespace Session

theorem perform_consistent [Scalar α] [SpectralRoutine α] [BitImage α] (s : Session α)
    (consistent : s.cache.Consistent) (optimise : Optimiser α) (command : Command α) :
    (s.perform optimise command).2.cache.Consistent ∧
      (s.perform optimise command).2.cache.capacity = s.cache.capacity := by
  rcases s.perform_cases optimise command with
    ⟨registration, id, time, rfl⟩ | ⟨β, computation, leads⟩
  · rw [perform_registration]
    cases registration.model id time <;> exact ⟨consistent, rfl⟩
  · rw [leads]
    exact computation.run_consistent s.cache consistent

end Session

namespace Batch

variable [Scalar α]

def tasks (s : Session α) (optimise : Optimiser α) (requests : List (RunStamp × RunRequest α)) :
    List (Solving α (RunResult α)) :=
  requests.map fun given => task s.registry s.settings optimise given.1 given.2

def pool (s : Session α) (optimise : Optimiser α) (requests : List (RunStamp × RunRequest α)) :
    WorkerPool Uuid (SquareTable α) (Except (Fault α) (RunResult α)) :=
  .start s.cache (tasks s optimise requests)

def outcomes? (requests : List (RunStamp × RunRequest α))
    (p : WorkerPool Uuid (SquareTable α) (Except (Fault α) (RunResult α))) :
    Option (List (BatchOutcome α)) :=
  p.results?.map fun results => (requests.map (·.2)).zipWith outcome results

variable (s : Session α) (optimise : Optimiser α)

theorem task_transparent (stamp : RunStamp) (request : RunRequest α) :
    (task s.registry s.settings optimise stamp request).Transparent s.Keeps := by
  unfold task
  cases found : s.registry.get request.scenario.modelVersionId with
  | ok model =>
      exact model.run_transparent _ optimise s.settings stamp request (s.keeps_own _ model found)
  | error fault => exact Solving.transparent_of_except (.error fault)

theorem tasks_transparent (requests : List (RunStamp × RunRequest α)) :
    ∀ task ∈ tasks s optimise requests, Caching.Transparent s.Keeps task := by
  intro task member
  obtain ⟨given, -, rfl⟩ := List.mem_map.mp member
  exact task_transparent s optimise given.1 given.2

theorem task_labelled (stamp again : RunStamp) (request : RunRequest α) :
    (task s.registry s.settings optimise again request).alone =
      (task s.registry s.settings optimise stamp request).alone.map
        (·.labelled request.scenario.modelVersionId again) := by
  unfold task
  cases found : s.registry.get request.scenario.modelVersionId with
  | error fault => rfl
  | ok model =>
      obtain ⟨-, own⟩ := s.registry.get_ok _ model found
      rw [← own]
      exact RegisteredModel.run_labelled model.version model.version model.economy rfl optimise
        s.settings stamp again request request.scenario.modelVersionId

theorem run_alone [SpectralRoutine α] (sound : s.Sound) (capacity : Nat) (stamp : RunStamp)
    (request : RunRequest α) :
    (Session.run { s with cache := .empty capacity } optimise stamp request).1 =
      (task s.registry s.settings optimise stamp request).alone := by
  have fresh : Session.Sound { s with cache := .empty capacity } :=
    ⟨sound.accepted, LruCache.empty_faithful capacity⟩
  unfold task
  cases found : s.registry.get request.scenario.modelVersionId with
  | error fault =>
      simp only [Session.run, Session.onModel, found]
      rfl
  | ok model =>
      exact Session.on_model_alone fresh _ model found _
        (model.run_transparent _ optimise s.settings stamp request
          (Session.keeps_own { s with cache := .empty capacity } _ model found))

omit [Scalar α] in
theorem succeeded_failed (outcomes : List (BatchOutcome α)) :
    succeeded outcomes + failed outcomes = outcomes.length :=
  Nat.add_sub_cancel' List.countP_le_length

end Batch

namespace Session

variable [Scalar α] [SpectralRoutine α] [BitImage α]

inductive Reached (settings : Settings α) (optimise : Optimiser α) : Session α → Prop
  | start : Reached settings @optimise (start settings)
  | perform {s : Session α} (earlier : Reached settings @optimise s) (command : Command α) :
    Reached settings @optimise (s.perform optimise command).2
  | batch {s : Session α} (earlier : Reached settings @optimise s)
    (requests : List (RunStamp × RunRequest α)) (workers : Nat)
    (p : WorkerPool Uuid (SquareTable α) (Except (Fault α) (RunResult α)))
    (run : Relation.ReflTransGen (WorkerPool.Step workers) (Batch.pool s optimise requests) p) :
    Reached settings @optimise { s with cache := p.cache }

theorem Reached.invariant {settings : Settings α} {optimise : Optimiser α} {s : Session α}
    (reached : Reached settings optimise s) :
    s.settings = settings ∧ s.Sound ∧
      Caching.Shared s.Keeps settings.solver.cacheCapacity s.cache := by
  induction reached with
  | start =>
      exact ⟨rfl, start_sound settings, (start_sound settings).faithful,
        LruCache.empty_consistent _, rfl⟩
  | @perform s earlier command ih =>
      obtain ⟨kept, sound, shared⟩ := ih
      obtain ⟨consistent, capacity⟩ := s.perform_consistent shared.consistent optimise command
      have later := perform_sound sound optimise command
      exact ⟨(s.perform_settings optimise command).trans kept, later, later.faithful, consistent,
        capacity.trans shared.capacity⟩
  | @batch s earlier requests workers p run ih =>
      obtain ⟨kept, sound, shared⟩ := ih
      obtain ⟨after, -⟩ := WorkerPool.run_spec shared _
        (Batch.tasks_transparent s optimise requests) run
      exact ⟨kept, ⟨sound.accepted, after.faithful⟩, after⟩

end Session

theorem batch_runs_each_request_alone [Scalar α] [SpectralRoutine α] [BitImage α]
    (settings : Settings α) (optimise : Optimiser α) (s : Session α)
    (reached : Session.Reached settings optimise s) (requests : List (RunStamp × RunRequest α))
    (workers : Nat) (available : 0 < workers) :
    (WellFounded fun later earlier :
      WorkerPool Uuid (SquareTable α) (Except (Fault α) (RunResult α)) =>
        WorkerPool.Step workers earlier later) ∧
    ∀ p, Relation.ReflTransGen (WorkerPool.Step workers) (Batch.pool s optimise requests) p →
      p.cache.order.Nodup ∧ p.cache.order.length ≤ settings.solver.cacheCapacity ∧
      p.cache.size ≤ settings.solver.cacheCapacity ∧
      ((∃ next, WorkerPool.Step workers p next) ∨
        ∃ outcomes, Batch.outcomes? requests p = some outcomes ∧
          outcomes = (Batch.run s optimise requests).1 ∧
          List.Forall₂ (fun given outcome =>
            outcome.scenarioId = given.2.scenario.id ∧
            outcome.scenarioName = given.2.scenario.name ∧
            ∀ again, (Session.run
                { s with cache := .empty settings.solver.cacheCapacity } optimise again given.2).1 =
              outcome.result.map (·.labelled given.2.scenario.modelVersionId again))
            requests outcomes ∧
          Batch.succeeded outcomes + Batch.failed outcomes = requests.length) := by
  refine ⟨WorkerPool.step_well_founded, fun p run => ?_⟩
  obtain ⟨-, sound, shared⟩ := reached.invariant
  have transparent := Batch.tasks_transparent s optimise requests
  obtain ⟨after, alone⟩ := WorkerPool.run_spec shared _ transparent run
  have bounded := after.consistent.bounded
  have size := after.consistent.size_eq
  rw [after.capacity] at bounded
  refine ⟨after.consistent.distinct, bounded, size ▸ bounded, ?_⟩
  rcases WorkerPool.step_or_finished available p with next | ⟨results, finished⟩
  · exact .inl next
  obtain rfl := alone results finished
  have answered := WorkerPool.results_of_finished p _ finished
  have every : (requests.map (·.2)).zipWith Batch.outcome
      ((Batch.tasks s optimise requests).map Caching.alone) =
        requests.map fun given => Batch.outcome given.2
          (Batch.task s.registry s.settings optimise given.1 given.2).alone := by
    simp only [Batch.tasks, List.map_map, List.zipWith_map, List.zipWith_self]
    rfl
  refine .inr ⟨_, (congrArg _ answered).trans (congrArg some every), ?_, ?_, ?_⟩
  · rw [← every, ← Caching.run_all_alone _ s.cache sound.faithful transparent]
    rfl
  · rw [List.forall₂_map_right_iff, List.forall₂_same]
    rintro ⟨stamp, request⟩ -
    refine ⟨rfl, rfl, fun again => ?_⟩
    rw [Batch.run_alone s optimise sound]
    exact Batch.task_labelled s optimise stamp again request
  · rw [Batch.succeeded_failed, List.length_map]

def twoSectorRequest (name : String) (shock : List ℚ) : RunStamp × RunRequest ℚ :=
  (⟨.nil, fun _ => .nil, name⟩,
    { scenario := {
        id := .nil
        name
        modelVersionId := firstId
        schedule := Schedule.empty.withYear 2026 (.positional shock)
        shockMode := none
        sensitivityMultipliers := [1, 2] }
      coefficients := none
      constraints := none
      workforce := none })

def mixedRequests : List (RunStamp × RunRequest ℚ) :=
  [twoSectorRequest "first" [50, 0], twoSectorRequest "short" [50], twoSectorRequest "last" [0, 50]]

theorem mixed_batch_isolates_failure :
    ∃ (s : Session ℚ) (p : WorkerPool Uuid (SquareTable ℚ) (Except (Fault ℚ) (RunResult ℚ)))
      (outcomes : List (BatchOutcome ℚ)),
      ((Session.start crowdedSettings).perform simplex
        (.register firstId "" twoSectorSnapshot "test")).2 = s ∧
      Relation.ReflTransGen (WorkerPool.Step 2) (Batch.pool s simplex mixedRequests) p ∧
      Batch.outcomes? mixedRequests p = some outcomes ∧
      outcomes.map (·.scenarioName) = ["first", "short", "last"] ∧
      outcomes.map (·.result.isOk) = [true, false, true] ∧
      Batch.succeeded outcomes + Batch.failed outcomes = 3 ∧ p.cache.size ≤ 1 := by
  let s := ((Session.start crowdedSettings).perform simplex
    (.register firstId "" twoSectorSnapshot "test")).2
  have reached : Session.Reached crowdedSettings simplex s := .perform .start _
  obtain ⟨ends, every⟩ := batch_runs_each_request_alone crowdedSettings simplex s reached
    mixedRequests 2 (by decide)
  -- A pool that can go no further exists, since no run goes on for ever.
  obtain ⟨p, run, stuck⟩ := ends.has_min
    {p | Relation.ReflTransGen (WorkerPool.Step 2) (Batch.pool s simplex mixedRequests) p}
    ⟨_, .refl⟩
  obtain ⟨-, -, size, ⟨next, step⟩ | ⟨outcomes, answered, -, each, counted⟩⟩ := every p run
  · exact absurd step (stuck next (.tail run step))
  have names := Outcome.map_eq_of_related (each.imp fun given outcome own =>
    (own.2.1.symm : given.2.scenario.name = outcome.scenarioName))
  have marks := Outcome.map_eq_of_related (each.imp fun given outcome own =>
    show (Batch.task s.registry s.settings simplex given.1 given.2).alone.isOk =
        outcome.result.isOk by
      rw [← Batch.run_alone s simplex reached.invariant.2.1 _ given.1, own.2.2]
      cases outcome.result <;> rfl)
  refine ⟨s, p, outcomes, rfl, run, answered, names.symm, marks.symm.trans ?_, counted, size⟩
  decide +kernel

end EconomicImpact
