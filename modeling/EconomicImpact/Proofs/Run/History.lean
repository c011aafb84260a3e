import Mathlib
import EconomicImpact.Proofs.Leontief.Accounting
import EconomicImpact.Proofs.Run.Label

set_option autoImplicit false

namespace EconomicImpact

variable {α : Type}

def RegisteredModel.labelled (id : Uuid) (time : String) (model : RegisteredModel α) :
    RegisteredModel α :=
  { model with version := { model.version with id, registeredAt := time } }

namespace Registry

theorem get_added (r : Registry α) (model : RegisteredModel α)
    (fresh : model.version.id ∉ r.models.map (·.version.id)) :
    (Registry.mk (r.models ++ [model])).get model.version.id = .ok model := by
  have absent : r.models.find? (·.version.id == model.version.id) = none := by
    refine List.find?_eq_none.mpr fun other member same => fresh ?_
    rw [← eq_of_beq same]
    exact List.mem_map_of_mem member
  simp only [get, List.find?_append, absent, Option.none_or, List.find?_cons, beq_self_eq_true]

end Registry

namespace Session

inductive Registration (α : Type)
  | snapshot (given : Snapshot α) (source : String)
  | nowcast (request : NowcastRequest α)

def Registration.command (id : Uuid) (time : String) : Registration α → Command α
  | snapshot given source => .register id time given source
  | nowcast request => .nowcast id time request

inductive Question (α : Type)
  | version
  | inverse
  | solve (shock : List α)
  | solveShock (shock : Shock α)
  | schedule (given : Schedule α) (mode : ShockMode)
  | multipliers
  | run (request : RunRequest α)

def Question.command (id : Uuid) (stamp : RunStamp) : Question α → Command α
  | version => .version id
  | inverse => .inverse id
  | solve shock => .solve id shock
  | solveShock shock => .solveShock id shock
  | schedule given mode => .schedule id given mode
  | multipliers => .multipliers id
  | run request =>
    .run stamp { request with scenario := { request.scenario with modelVersionId := id } }

def Command.newId? : Command α → Option Uuid
  | .register id _ _ _ => some id
  | .nowcast id _ _ => some id
  | _ => none

def Answer.labelled (id : Uuid) (time : String) (stamp : RunStamp) : Answer α → Answer α
  | .version given => .version { given with id, registeredAt := time }
  | .run result => .run (result.labelled id stamp)
  | other => other

variable [Scalar α]

section question

variable (optimise : Optimiser α) (settings : Settings α)

def Question.answer (model : RegisteredModel α) (stamp : RunStamp) :
    Question α → Except (Fault α) (Answer α)
  | version => .ok (.version model.version)
  | inverse => (model.inverse settings.solver.maxConditionNumber).alone.map .inverse
  | solve shock => (model.solve settings.solver.maxConditionNumber shock).alone.map .impact
  | solveShock shock =>
    (model.solveShock settings.solver.maxConditionNumber shock).alone.map .impact
  | schedule given mode =>
    (model.solveSchedule settings.solver.maxConditionNumber given mode).alone.map .phased
  | multipliers =>
    (model.outputMultipliers settings.solver.maxConditionNumber).alone.map .multipliers
  | run request =>
    (model.run optimise settings stamp { request with
      scenario := { request.scenario with modelVersionId := model.version.id } }).alone.map .run

-- The answer takes nothing but its labels from the version.
theorem question_labelled (question : Question α) (model : RegisteredModel α) (id : Uuid)
    (time : String) (stamp again : RunStamp) :
    question.answer optimise settings (model.labelled id time) again =
      (question.answer optimise settings model stamp).map (·.labelled id time again) := by
  have same {β : Type} (x : Except (Fault α) β) (wrap : β → Answer α)
      (plain : ∀ b, (wrap b).labelled id time again = wrap b) :
      x.map wrap = (x.map wrap).map (·.labelled id time again) := by
    cases x with
    | error fault => rfl
    | ok b => exact congrArg Except.ok (plain b).symm
  cases question with
  | version => rfl
  | inverse =>
      simp only [Question.answer, RegisteredModel.inverse_alone]
      exact same _ _ fun _ => rfl
  | solve shock =>
      simp only [Question.answer, RegisteredModel.solve_alone]
      exact same _ _ fun _ => rfl
  | solveShock shock =>
      simp only [Question.answer, RegisteredModel.solve_shock_alone]
      exact same _ _ fun _ => rfl
  | schedule given mode =>
      simp only [Question.answer, RegisteredModel.solve_schedule_alone]
      exact same _ _ fun _ => rfl
  | multipliers =>
      simp only [Question.answer, RegisteredModel.output_multipliers_alone]
      exact same _ _ fun _ => rfl
  | run request =>
      have runs := RegisteredModel.run_labelled model.version (model.labelled id time).version
        model.economy rfl optimise settings stamp again
        { request with scenario := { request.scenario with modelVersionId := model.version.id } } id
      refine (congrArg (Except.map Answer.run) runs).trans ?_
      dsimp only [Question.answer]
      cases (model.run optimise settings stamp _).alone <;> rfl

end question

variable [SpectralRoutine α] [BitImage α] {s : Session α} (optimise : Optimiser α)

theorem perform_question (sound : s.Sound) (id : Uuid) (model : RegisteredModel α)
    (found : s.registry.get id = .ok model) (question : Question α) (stamp : RunStamp) :
    (s.perform optimise (question.command id stamp)).1 =
      question.answer optimise s.settings model stamp := by
  have own := s.keeps_own id model found
  obtain ⟨-, rfl⟩ := s.registry.get_ok id model found
  cases question with
  | version =>
      simp only [Question.command, perform, found]
      rfl
  | inverse =>
      exact answer_alone sound _ model found .inverse _ (model.inverse_transparent _ _ own)
  | solve shock =>
      exact answer_alone sound _ model found .impact _ (model.solve_transparent _ _ own shock)
  | solveShock shock =>
      exact answer_alone sound _ model found .impact _ (model.solve_shock_transparent _ _ own shock)
  | schedule given mode =>
      exact answer_alone sound _ model found .phased _
        (model.solve_schedule_transparent _ _ own given mode)
  | multipliers =>
      exact answer_alone sound _ model found .multipliers _
        (model.output_multipliers_transparent _ _ own)
  | run request =>
      exact answer_alone sound _ model found .run _
        (model.run_transparent _ optimise s.settings stamp _ own)

def Registration.model (id : Uuid) (time : String) :
    Registration α → Except (Fault α) (RegisteredModel α)
  | snapshot given source => (Economy.ofSnapshot given).map (entered source)
  | nowcast request =>
    request.balancing.balance request.start request.rows request.columns >>= fun balanced =>
      (Economy.ofSnapshot (balanced.nowcast request.output request.sectorCodes
        request.baseYear)).map (entered nowcastSource)
where
  entered (source : String) (economy : Economy α) : RegisteredModel α :=
    ⟨⟨id, economy.baseYear, source, economy.size, economy.checksum, economy.denomination, time⟩,
      economy⟩

theorem registration_labelled (registration : Registration α) (id other : Uuid)
    (time later : String) :
    registration.model other later = (registration.model id time).map (·.labelled other later) := by
  cases registration with
  | snapshot given source =>
      dsimp only [Registration.model]
      cases Economy.ofSnapshot given <;> rfl
  | nowcast request =>
      dsimp only [Registration.model]
      cases request.balancing.balance request.start request.rows request.columns with
      | error fault => rfl
      | ok balanced =>
          dsimp only [bind, Except.bind]
          cases Economy.ofSnapshot (balanced.nowcast request.output request.sectorCodes
            request.baseYear) <;> rfl

theorem registration_id (registration : Registration α) (id : Uuid) (time : String)
    (model : RegisteredModel α) (entered : registration.model id time = .ok model) :
    model.version.id = id := by
  have again := registration_labelled registration id id time time
  rw [entered] at again
  exact congrArg (·.version.id) (Except.ok.inj again)

variable (s)

theorem perform_registration (registration : Registration α) (id : Uuid) (time : String) :
    s.perform optimise (registration.command id time) =
      match registration.model id time with
      | .ok model =>
        (.ok (.version model.version), { s with registry := ⟨s.registry.models ++ [model]⟩ })
      | .error fault => (.error fault, s) := by
  have register (snapshot : Snapshot α) (source : String) :
      answer .version (s.register id time snapshot source) =
        match (Economy.ofSnapshot snapshot).map (Registration.model.entered id time source) with
        | .ok model =>
          (.ok (.version model.version), { s with registry := ⟨s.registry.models ++ [model]⟩ })
        | .error fault => (.error fault, s) := by
    unfold Session.register Registry.register
    cases Economy.ofSnapshot snapshot <;> rfl
  cases registration with
  | snapshot given source => exact register given source
  | nowcast request =>
      dsimp only [Registration.command, perform, nowcast, Registration.model]
      cases request.balancing.balance request.start request.rows request.columns with
      | error fault => rfl
      | ok balanced => exact register _ _

def UsesCache (s after : Session α) : Prop :=
  ∃ (β : Type) (computation : Caching Uuid (SquareTable α) β),
    after = { s with cache := (computation.run s.cache).2 }

omit [Scalar α] [SpectralRoutine α] [BitImage α] in
theorem answer_uses_cache {β : Type} (wrap : β → Answer α) (id : Uuid)
    (use : RegisteredModel α → Solving α β) :
    s.UsesCache (answer wrap (s.onModel id use)).2 := by
  unfold onModel
  cases s.registry.get id with
  | ok model => exact ⟨_, use model, rfl⟩
  | error fault => exact ⟨Unit, .done (), rfl⟩

theorem perform_cases (command : Command α) :
    (∃ registration id time, command = Registration.command id time registration) ∨
      s.UsesCache (s.perform optimise command).2 := by
  have nothing : s.UsesCache s := ⟨Unit, .done (), rfl⟩
  cases command with
  | register id time given source => exact .inl ⟨.snapshot given source, id, time, rfl⟩
  | nowcast id time request => exact .inl ⟨.nowcast request, id, time, rfl⟩
  | version model => exact .inr nothing
  | versions => exact .inr nothing
  | size => exact .inr nothing
  | cacheCounts => exact .inr nothing
  | inverse id => exact .inr (s.answer_uses_cache _ id _)
  | solve id shock => exact .inr (s.answer_uses_cache _ id _)
  | solveShock id shock => exact .inr (s.answer_uses_cache _ id _)
  | schedule id given mode => exact .inr (s.answer_uses_cache _ id _)
  | multipliers id => exact .inr (s.answer_uses_cache _ id _)
  | run stamp request => exact .inr (s.answer_uses_cache _ _ _)

-- What a command adds stands at the end, under an identifier that came with the command.
theorem perform_models (command : Command α) :
    ∃ added, (s.perform optimise command).2.registry.models = s.registry.models ++ added ∧
      (added.map (·.version.id)).Sublist command.newId?.toList := by
  rcases s.perform_cases optimise command with
    ⟨registration, id, time, rfl⟩ | ⟨β, computation, leads⟩
  · rw [perform_registration]
    cases entered : registration.model id time with
    | error fault => exact ⟨[], (List.append_nil _).symm, List.nil_sublist _⟩
    | ok model =>
        have same := registration_id registration id time model entered
        refine ⟨[model], rfl, ?_⟩
        cases registration <;> simp [Registration.command, Command.newId?, same]
  · exact ⟨[], by rw [leads, List.append_nil], List.nil_sublist _⟩

theorem perform_all_models (commands : List (Command α)) :
    ∃ added, (s.performAll optimise commands).2.registry.models = s.registry.models ++ added ∧
      (added.map (·.version.id)).Sublist (commands.filterMap Command.newId?) := by
  induction commands generalizing s with
  | nil => exact ⟨[], (List.append_nil _).symm, List.nil_sublist _⟩
  | cons command rest ih =>
      obtain ⟨first, grown, firstIds⟩ := s.perform_models optimise command
      obtain ⟨later, further, laterIds⟩ := ih (s.perform optimise command).2
      refine ⟨first ++ later, ?_, ?_⟩
      · rw [← List.append_assoc, ← grown]
        exact further
      · rw [List.map_append, List.filterMap_cons]
        have both := firstIds.append laterIds
        cases new : command.newId? <;> rw [new] at both <;> exact both

theorem perform_all_append (earlier later : List (Command α)) :
    (s.performAll optimise (earlier ++ later)).2 =
      ((s.performAll optimise earlier).2.performAll optimise later).2 := by
  induction earlier generalizing s with
  | nil => rfl
  | cons command rest ih => exact ih _

theorem perform_all_grown (commands : List (Command α)) :
    s.registry.models <+: (s.performAll optimise commands).2.registry.models := by
  obtain ⟨added, grown, -⟩ := s.perform_all_models optimise commands
  exact ⟨added, grown.symm⟩

theorem registered_found (settings : Settings α) (earlier later : List (Command α))
    (registration : Registration α) (id : Uuid) (time : String) (model : RegisteredModel α)
    (entered : registration.model id time = .ok model)
    (fresh : id ∉ earlier.filterMap Command.newId?) :
    ((start settings).performAll optimise
      (earlier ++ registration.command id time :: later)).2.registry.get id = .ok model := by
  obtain rfl := registration_id registration id time model entered
  rw [perform_all_append]
  generalize before : ((start settings).performAll optimise earlier).2 = s
  obtain ⟨added, models, ids⟩ := (start settings).perform_all_models optimise earlier
  have absent : model.version.id ∉ s.registry.models.map (·.version.id) := by
    rw [← before, models]
    exact fun member => fresh (ids.subset member)
  have there : (s.perform optimise (registration.command model.version.id time)).2.registry.get
      model.version.id = .ok model := by
    rw [perform_registration, entered]
    exact s.registry.get_added model absent
  exact Registry.get_extended _ _ (perform_all_grown _ optimise later) _ _ there

omit [Scalar α] [SpectralRoutine α] [BitImage α] in
theorem fresh_of_distinct {commands earlier later : List (Command α)}
    (distinct : (commands.filterMap Command.newId?).Nodup) (registration : Registration α)
    (id : Uuid) (time : String)
    (parts : commands = earlier ++ registration.command id time :: later) :
    id ∉ earlier.filterMap Command.newId? := by
  rw [parts, List.filterMap_append, List.filterMap_cons] at distinct
  intro taken
  refine (List.nodup_append.mp distinct).2.2 id taken id ?_ rfl
  cases registration <;> exact List.mem_cons_self

theorem question_as_alone {settings : Settings α} {commands : List (Command α)} {s : Session α}
    (reached : ((start settings).performAll optimise commands).2 = s)
    (registration : Registration α) (id : Uuid) (time : String) (model : RegisteredModel α)
    (entered : registration.model id time = .ok model) (found : s.registry.get id = .ok model)
    (other : Uuid) (again : String) (question : Question α) (stamp fresh : RunStamp) :
    (((start settings).perform optimise (registration.command other again)).2.perform optimise
      (question.command other fresh)).1 =
        (s.perform optimise (question.command id stamp)).1.map (·.labelled other again fresh) := by
  have enteredOther : registration.model other again = .ok (model.labelled other again) := by
    rw [registration_labelled registration id, entered]
    rfl
  have there := registered_found optimise settings [] [] registration other again _ enteredOther
    List.not_mem_nil
  obtain ⟨sound, kept⟩ := reached_sound reached
  obtain ⟨soundAlone, keptAlone⟩ := reached_sound
    (rfl : ((start settings).performAll optimise [registration.command other again]).2 = _)
  have asked := perform_question optimise sound id model found question stamp
  have askedAlone := perform_question optimise soundAlone other _ there question fresh
  rw [kept] at asked
  rw [keptAlone] at askedAlone
  rw [asked, ← question_labelled optimise settings question model other again stamp fresh]
  exact askedAlone

theorem models_answer_as_registered_alone (settings : Settings α) (commands : List (Command α))
    (s : Session α) (reached : ((start settings).performAll optimise commands).2 = s)
    (distinct : (commands.filterMap Command.newId?).Nodup) :
    (∀ more, s.registry.versions <+: (s.performAll optimise more).2.registry.versions ∧
      ∀ id model, s.registry.get id = .ok model →
        (s.performAll optimise more).2.registry.get id = .ok model) ∧
    (∀ (registration : Registration α) (id : Uuid) (time : String) (fault : Fault α),
      (s.perform optimise (registration.command id time)).1 = .error fault →
        (s.perform optimise (registration.command id time)).2 = s) ∧
    (∀ id value, s.cache.entries[id]? = some value →
      ∃ model inverse, s.registry.get id = .ok model ∧
        leontiefInverse model.economy.coefficients settings.solver.maxConditionNumber =
          .ok inverse ∧ value = ⟨_, inverse⟩) ∧
    ∀ (earlier later : List (Command α)) (registration : Registration α) (id : Uuid)
      (time : String) (answered : Answer α),
      commands = earlier ++ registration.command id time :: later →
      (((start settings).performAll optimise earlier).2.perform optimise
        (registration.command id time)).1 = .ok answered →
      (s.perform optimise (.version id)).1 = .ok answered ∧
      ∀ (other : Uuid) (again : String) (alone : Session α),
        ((start settings).perform optimise (registration.command other again)).2 = alone →
        ∀ (question : Question α) (stamp fresh : RunStamp),
          (alone.perform optimise (question.command other fresh)).1 =
            (s.perform optimise (question.command id stamp)).1.map
              (·.labelled other again fresh) := by
  obtain ⟨sound, kept⟩ := reached_sound reached
  refine ⟨fun more => ⟨?_, fun id model found => ?_⟩, ?_, fun id value cached => ?_, ?_⟩
  · exact (perform_all_grown s optimise more).map _
  · exact Registry.get_extended _ _ (perform_all_grown s optimise more) id model found
  · intro registration id time fault stopped
    rw [perform_registration] at stopped ⊢
    cases entered : registration.model id time with
    | error other => rfl
    | ok model =>
        rw [entered] at stopped
        cases stopped
  · obtain ⟨model, found, own⟩ := sound.faithful id value cached
    obtain ⟨inverse, inverted, rfl⟩ := (Outcome.map_ok_iff _ _ _).mp own
    rw [kept] at inverted
    exact ⟨model, inverse, found, inverted, rfl⟩
  · intro earlier later registration id time answered parts accepted
    rw [perform_registration] at accepted
    cases entered : registration.model id time with
    | error fault =>
        rw [entered] at accepted
        cases accepted
    | ok model =>
        rw [entered] at accepted
        cases accepted
        have fresh := fresh_of_distinct distinct registration id time parts
        have found : s.registry.get id = .ok model := by
          rw [← reached, parts]
          exact registered_found optimise settings earlier later registration id time model entered
            fresh
        refine ⟨?_, ?_⟩
        · simp only [perform, found]
          rfl
        · rintro other again alone rfl question stamp fresh
          exact question_as_alone optimise reached registration id time model entered found other
            again question stamp fresh

end Session

def crowdedSettings : Settings ℚ :=
  { (Settings.standard : Settings ℚ) with solver := ⟨1000, 1, .perYear⟩ }

def firstId : Uuid := ⟨Vector.replicate 16 1⟩

def secondId : Uuid := ⟨Vector.replicate 16 2⟩

def crowdedCommands : List (Session.Command ℚ) :=
  [.register .nil "0" { twoSectorSnapshot with output := [0, 200] } "refused",
    .register firstId "1" twoSectorSnapshot "test",
    .multipliers firstId,
    .register secondId "2" { twoSectorSnapshot with flows := [[0, 0], [0, 0]] } "test",
    .solve secondId [1], .multipliers secondId, .inverse .nil]

theorem crowded_session_answers :
    ∃ s alone : Session ℚ,
      ((Session.start crowdedSettings).performAll simplex crowdedCommands).2 = s ∧
      (crowdedCommands.filterMap Session.Command.newId?).Nodup ∧
      ((Session.start crowdedSettings).perform simplex
        (.register .nil "" twoSectorSnapshot "test")).2 = alone ∧
      (s.perform simplex (.multipliers firstId)).1 =
        .ok (.multipliers ⟨[("A", 110 / 69), ("B", 100 / 69)]⟩) ∧
      (alone.perform simplex (.multipliers .nil)).1 =
        .ok (.multipliers ⟨[("A", 110 / 69), ("B", 100 / 69)]⟩) := by
  let registration := Session.Registration.snapshot twoSectorSnapshot "test"
  have facts : (registration.model firstId "1").toOption.any (fun model =>
      (model.ownInverse crowdedSettings.solver.maxConditionNumber).toOption.any fun inverse =>
        decide (inverse.outputMultipliers model.economy.sectors.toList =
          ⟨[("A", 110 / 69), ("B", 100 / 69)]⟩)) = true := by
    decide +kernel
  obtain ⟨model, entered, inverted⟩ := (Outcome.any_ok_iff _ _).mp facts
  obtain ⟨inverse, inverted, multipliers⟩ := (Outcome.any_ok_iff _ _).mp inverted
  have distinct : (crowdedCommands.filterMap Session.Command.newId?).Nodup := by decide
  obtain ⟨-, -, -, alone⟩ := Session.models_answer_as_registered_alone simplex crowdedSettings
    crowdedCommands _ rfl distinct
  have accepted : (((Session.start crowdedSettings).performAll simplex
      (crowdedCommands.take 1)).2.perform simplex (registration.command firstId "1")).1 =
        .ok (.version model.version) := by
    rw [Session.perform_registration, entered]
  obtain ⟨-, alone⟩ := alone (crowdedCommands.take 1) (crowdedCommands.drop 2) registration firstId
    "1" (.version model.version) rfl accepted
  have same := alone .nil "" _ rfl .multipliers ⟨.nil, fun _ => .nil, ""⟩ ⟨.nil, fun _ => .nil, ""⟩
  obtain ⟨sound, kept⟩ := Session.reached_sound
    (rfl : ((Session.start crowdedSettings).performAll simplex crowdedCommands).2 = _)
  have asked := Session.perform_question simplex sound firstId model
    (Session.registered_found simplex crowdedSettings (crowdedCommands.take 1)
      (crowdedCommands.drop 2) registration firstId "1" model entered (by decide))
    .multipliers ⟨.nil, fun _ => .nil, ""⟩
  rw [kept, Session.Question.answer, RegisteredModel.output_multipliers_alone, inverted] at asked
  have value : inverse.outputMultipliers model.economy.sectors.toList = _ := of_decide_eq_true multipliers
  rw [asked] at same
  simp only [bind, Except.bind, Except.map, value] at asked same
  exact ⟨_, _, rfl, distinct, rfl, asked, same⟩

end EconomicImpact
