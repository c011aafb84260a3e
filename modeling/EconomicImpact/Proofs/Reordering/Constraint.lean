import Mathlib
import EconomicImpact.Proofs.Constraint.Conflict
import EconomicImpact.Proofs.Reordering.Accounts

set_option autoImplicit false

namespace EconomicImpact

variable {α : Type} {n m : Nat} {order : Vector String n} {other : Vector String m}

structure Scope.Alike (s t : Scope) : Prop where
  whole : s = .all ↔ t = .all
  codes : ∀ code, code ∈ s.codes ↔ code ∈ t.codes

inductive Constraint.Alike : Constraint α → Constraint α → Prop
  | scope (c : Constraint α) {t : Scope} (alike : c.scope.Alike t) :
    Constraint.Alike c { c with scope := t }

namespace Constraint.Alike

variable {c d : Constraint α} (alike : c.Alike d)

include alike

theorem id_eq : c.id = d.id := by
  cases alike
  rfl

theorem kind_eq : c.kind = d.kind := by
  cases alike
  rfl

theorem value_eq : c.value = d.value := by
  cases alike
  rfl

theorem confidence_eq : c.confidence = d.confidence := by
  cases alike
  rfl

end Constraint.Alike

structure ConstraintSet.Alike (set other : ConstraintSet α) : Prop where
  id : set.id = other.id
  version : set.version = other.version
  constraints : List.Forall₂ Constraint.Alike set.constraints other.constraints

variable (r : Reordering order other)

structure Bound.Moved (b : Bound α n) (d : Bound α m) : Prop where
  source : b.source.Alike d.source
  sense : b.sense = d.sense
  terms : (d.terms.map fun t => (r.place t.1, t.2)).Perm b.terms
  limit : b.limit = d.limit

structure ShareTarget.Moved (t : ShareTarget α n) (u : ShareTarget α m) : Prop where
  source : t.source.Alike u.source
  sectors : (u.sectors.map r.place).Perm t.sectors

inductive Resolved.Moved : Resolved α n → Resolved α m → Prop
  | active {b : Bound α n} {d : Bound α m} (moved : b.Moved r d) : Moved (.active b) (.active d)
  | inactive (id : Uuid) : Moved (.inactive id) (.inactive id)
  | diagnostic {t : ShareTarget α n} {u : ShareTarget α m} (moved : t.Moved r u) :
    Moved (.diagnostic t) (.diagnostic u)

structure Resolution.Moved (x : Resolution α n) (y : Resolution α m) : Prop where
  active : List.Forall₂ (Bound.Moved r) x.active y.active
  inactive : x.inactive = y.inactive
  diagnostics : List.Forall₂ (ShareTarget.Moved r) x.diagnostics y.diagnostics

variable {r}

theorem empty_of_moved {γ δ : Type} (f : γ → δ) {items : List δ} {others : List γ}
    (moved : (others.map f).Perm items) : others.isEmpty = items.isEmpty := by
  rw [Bool.eq_iff_iff, List.isEmpty_iff_length_eq_zero, List.isEmpty_iff_length_eq_zero,
    ← moved.length_eq, List.length_map]

namespace Scope

variable {s t : Scope}

theorem Alike.covers (alike : s.Alike t) (r : Reordering order other) (j : Fin m) :
    t.covers other j = s.covers order (r.place j) := by
  by_cases all : s = .all
  · rw [all, alike.whole.mp all]
    rfl
  · have proper : t ≠ .all := fun whole => all (alike.whole.mpr whole)
    rw [Bool.eq_iff_iff, covers_iff t proper, covers_iff s all]
    simp only [alike.codes, r.position_eq]

theorem Alike.covered_perm (alike : s.Alike t) (r : Reordering order other) :
    (((List.finRange m).filter (t.covers other)).map r.place).Perm
      ((List.finRange n).filter (s.covers order)) := by
  refine (List.perm_ext_iff_of_nodup (((List.nodup_finRange m).filter _).map r.place.injective)
    ((List.nodup_finRange n).filter _)).mpr fun i => ?_
  simp only [List.mem_map, List.mem_filter, List.mem_finRange, true_and, alike.covers r]
  constructor
  · rintro ⟨j, covered, rfl⟩
    exact covered
  · intro covered
    exact ⟨r.place.symm i, by rwa [r.place.apply_symm_apply], r.place.apply_symm_apply i⟩

theorem Alike.indices (alike : s.Alike t) (r : Reordering order other) :
    Outcome.Matched (fun sectors others => (others.map r.place).Perm sectors)
      (s.indices order) (t.indices other) := by
  have covered := alike.covered_perm r
  by_cases all : s = .all
  · rw [all, alike.whole.mp all] at covered ⊢
    exact .ok covered
  have proper : t ≠ .all := fun whole => all (alike.whole.mpr whole)
  have known : (∀ code ∈ t.codes, ∃ j, position? other code = some j) ↔
      ∀ code ∈ s.codes, ∃ i, position? order code = some i := by
    simp only [← alike.codes, r.position_eq]
    exact forall₂_congr fun code _ =>
      (r.place.surjective.exists (p := fun i => position? order code = some i)).symm
  cases first : s.indices order with
  | ok sectors =>
      obtain ⟨named, rfl⟩ := (s.indices_ok_iff all sectors).mp first
      rw [(t.indices_ok_iff proper _).mpr ⟨known.mpr named, rfl⟩]
      exact .ok covered
  | error code =>
      cases second : t.indices other with
      | error later => exact .error _ _
      | ok sectors =>
          obtain ⟨named, -⟩ := (t.indices_ok_iff proper sectors).mp second
          rw [(s.indices_ok_iff all _).mpr ⟨known.mp named, rfl⟩] at first
          cases first

end Scope

namespace Constraint

section weigh

variable [Scalar α]

def weigh (c : Constraint α) (coefficients : Option (AlignedCoefficients α n)) :
    Except (ConstraintDefect α) (Fin n → α) :=
  match c.kind with
  | .labor =>
    match coefficients with
    | some aligned => .ok aligned.jobs.get
    | none => .error (.coefficientsRequired .labor)
  | .imports =>
    match coefficients with
    | some aligned => .ok aligned.imports.get
    | none => .error (.coefficientsRequired .imports)
  | _ => .ok fun _ => 1

theorem weights_eq (c : Constraint α) (coefficients : Option (AlignedCoefficients α n))
    (sectors : List (Fin n)) :
    c.weights coefficients sectors = (c.weigh coefficients).map (sectors.map ·) := by
  unfold weights weigh
  cases c.kind <;> cases coefficients <;> rfl

theorem weigh_moved (c : Constraint α) {t : Scope} {first : Option (AlignedCoefficients α n)}
    {second : Option (AlignedCoefficients α m)}
    (carried : Option.Rel (AlignedCoefficients.Carried r) first second) :
    Outcome.Matched (fun (f : Fin n → α) (g : Fin m → α) => ∀ j, g j = f (r.place j))
      (c.weigh first) ({ c with scope := t }.weigh second) := by
  unfold weigh
  cases carried with
  | none => cases c.kind <;> first | exact .error _ _ | exact .ok fun _ => rfl
  | some carried =>
      cases c.kind <;> first | exact .ok carried.jobs | exact .ok carried.imports | exact .ok fun _ => rfl

end weigh

variable {K : Type} [Field K] [LinearOrder K]

theorem sum_moved {terms : List (Fin n × K)} {others : List (Fin m × K)}
    (moved : (others.map fun t => (r.place t.1, t.2)).Perm terms) {y : Vector K n} {z : Vector K m}
    (carries : r.Carries y z) :
    Scalar.total (others.map fun (i, w) => w * z.get i) =
      Scalar.total (terms.map fun (i, w) => w * y.get i) := by
  rw [Scalar.total_eq_sum, Scalar.total_eq_sum, ← (moved.map _).sum_eq, List.map_map]
  exact congrArg List.sum (List.map_congr_left fun t _ => by
    simp only [Function.comp_apply, carries t.1])

theorem limit_moved (c : Constraint K) {t : Scope} {base : Option (Vector K n)}
    {again : Option (Vector K m)} (carried : Option.Rel r.Carries base again)
    {terms : List (Fin n × K)} {others : List (Fin m × K)}
    (moved : (others.map fun t => (r.place t.1, t.2)).Perm terms) :
    Outcome.Matched Eq (c.limit base terms) ({ c with scope := t }.limit again others) := by
  unfold limit
  cases carried with
  | none => cases c.kind <;> cases c.boundScope <;> first | exact .error _ _ | exact .ok rfl
  | some carries =>
      have sums := (sum_moved moved carries).symm
      cases c.kind <;> cases c.boundScope <;>
        first
        | exact .ok rfl
        | exact .ok (congrArg (c.value * ·) sums)
        | exact .ok (congrArg (c.value - ·) sums)

theorem terms_moved (f : Fin n → K) (g : Fin m → K) (weights : ∀ j, g j = f (r.place j))
    {sectors : List (Fin n)} {others : List (Fin m)} (moved : (others.map r.place).Perm sectors) :
    (((others.zip (others.map g)).filter fun (_, w) => decide (0 < w)).map
      fun t => (r.place t.1, t.2)).Perm
        ((sectors.zip (sectors.map f)).filter fun (_, w) => decide (0 < w)) := by
  have beside {k : Nat} (places : List (Fin k)) (h : Fin k → K) :
      places.zip (places.map h) = places.map fun i => (i, h i) :=
    List.map_prod_left_eq_zip.symm
  rw [beside, beside]
  refine List.Perm.trans (.of_eq ?_) ((moved.map fun i => (i, f i)).filter _)
  have places : (others.map r.place).map (fun i => (i, f i)) =
      (others.map fun j => (j, g j)).map fun t => (r.place t.1, t.2) := by
    rw [List.map_map, List.map_map]
    exact List.map_congr_left fun j _ => by simp only [Function.comp_apply, weights]
  rw [places, List.filter_map (f := fun t : Fin m × K => (r.place t.1, t.2))]
  rfl

theorem Alike.resolve_in_force {c d : Constraint K} (alike : c.Alike d)
    {base : Option (Vector K n)} {again : Option (Vector K m)}
    (carried : Option.Rel r.Carries base again) {first : Option (AlignedCoefficients K n)}
    {second : Option (AlignedCoefficients K m)}
    (weighed : Option.Rel (AlignedCoefficients.Carried r) first second) :
    Outcome.Matched (Resolved.Moved r) (c.resolveInForce order base first)
      (d.resolveInForce other again second) := by
  cases alike with
  | @scope t alike =>
      unfold resolveInForce
      simp only [Scalar.is_finite_exact, Bool.not_true, Bool.false_eq_true, if_false]
      refine (alike.indices r).mapError.bind fun sectors others moved => ?_
      rw [empty_of_moved _ moved]
      by_cases nothing : sectors.isEmpty = true
      · rw [if_pos nothing, if_pos nothing]
        exact .error _ _
      rw [if_neg nothing, if_neg nothing]
      cases c.kind.sense with
      | none => exact .ok (.diagnostic ⟨.scope c alike, moved⟩)
      | some sense =>
          dsimp only
          rw [weights_eq, weights_eq, Outcome.bind_map, Outcome.bind_map]
          refine (weigh_moved c weighed).bind fun f g weights => ?_
          have terms := terms_moved f g weights moved
          rw [empty_of_moved _ terms]
          by_cases weightless : ((sectors.zip (sectors.map f)).filter fun (_, w) =>
              decide (0 < w)).isEmpty = true
          · rw [if_pos weightless, if_pos weightless]
            exact .ok (.inactive c.id)
          · rw [if_neg weightless, if_neg weightless]
            exact (limit_moved c carried terms).bind fun limit _ same =>
              .ok (.active ⟨.scope c alike, rfl, terms, same⟩)

theorem Alike.resolve {c d : Constraint K} (alike : c.Alike d) (year : Option Int)
    {base : Option (Vector K n)} {again : Option (Vector K m)}
    (carried : Option.Rel r.Carries base again) {first : Option (AlignedCoefficients K n)}
    {second : Option (AlignedCoefficients K m)}
    (weighed : Option.Rel (AlignedCoefficients.Carried r) first second) :
    Outcome.Matched (Resolved.Moved r) (c.resolve order year base first)
      (d.resolve other year again second) := by
  have inForce := alike.resolve_in_force carried weighed
  cases alike with
  | @scope t alike =>
      have same : ({ c with scope := t } : Constraint K).appliesIn year = c.appliesIn year := rfl
      rw [Constraint.resolve, Constraint.resolve, same]
      by_cases applies : c.appliesIn year = true
      · rw [if_pos applies, if_pos applies]
        exact inForce.mapError
      · rw [if_neg applies, if_neg applies]
        exact .ok (.inactive c.id)

end Constraint

structure ResolutionContext.Alike (x y : ResolutionContext α) : Prop where
  year : x.year = y.year
  baseOutput : Option.Rel SectorVector.Alike x.baseOutput y.baseOutput
  coefficients : Option.Rel Coefficients.Alike x.coefficients y.coefficients

theorem Resolution.of_list_moved {outcomes : List (Resolved α n)} {others : List (Resolved α m)}
    (moved : List.Forall₂ (Resolved.Moved r) outcomes others) :
    (Resolution.ofList outcomes).Moved r (Resolution.ofList others) := by
  induction moved with
  | nil => exact ⟨.nil, rfl, .nil⟩
  | cons head _ ih =>
      cases head with
      | active moved => exact ⟨.cons moved ih.active, ih.inactive, ih.diagnostics⟩
      | inactive id => exact ⟨ih.active, congrArg (id :: ·) ih.inactive, ih.diagnostics⟩
      | diagnostic moved => exact ⟨ih.active, ih.inactive, .cons moved ih.diagnostics⟩

theorem ConstraintSet.Alike.kinds {set again : ConstraintSet α} (alike : set.Alike again) :
    set.constraints.map (·.kind) = again.constraints.map (·.kind) :=
  Outcome.map_eq_of_related (alike.constraints.imp fun _ _ same => same.kind_eq)

theorem ConstraintSet.Alike.resolve {K : Type} [Field K] [LinearOrder K]
    {set again : ConstraintSet K} (alike : set.Alike again) (r : Reordering order other)
    {context context' : ResolutionContext K} (contexts : context.Alike context') :
    Outcome.Matched (Resolution.Moved r) (set.resolve order context)
      (again.resolve other context') := by
  have weighted : again.constraints.any (·.kind.isWeighted) =
      set.constraints.any (·.kind.isWeighted) := by
    have same := congrArg (List.any · ConstraintKind.isWeighted) alike.kinds
    simp only [List.any_map] at same
    exact same.symm
  have each {base : Option (Vector K n)} {base' : Option (Vector K m)}
      (carried : Option.Rel r.Carries base base') {first : Option (AlignedCoefficients K n)}
      {second : Option (AlignedCoefficients K m)}
      (weighed : Option.Rel (AlignedCoefficients.Carried r) first second) :
      Outcome.Matched (Resolution.Moved r)
        (set.constraints.mapM (·.resolve order context.year base first) >>= fun resolved =>
          .ok (.ofList resolved))
        (again.constraints.mapM (·.resolve other context'.year base' second) >>= fun resolved =>
          .ok (.ofList resolved)) := by
    rw [contexts.year]
    exact (Outcome.Matched.mapM (fun c d same => same.resolve _ carried weighed)
      alike.constraints).bind fun _ _ moved => .ok (Resolution.of_list_moved moved)
  unfold ConstraintSet.resolve
  refine (Outcome.Matched.mapM_option (fun _ _ same => same.align_exact r _)
    contexts.baseOutput).bind fun base base' carried => ?_
  rw [weighted]
  by_cases needed : set.constraints.any (·.kind.isWeighted) = true
  · rw [if_pos needed, if_pos needed]
    exact (Outcome.Matched.mapM_option (fun _ _ same => same.align r)
      contexts.coefficients).bind fun first second weighed => each carried weighed
  · rw [if_neg needed, if_neg needed]
    exact each carried .none

theorem Scope.same_codes_alike {s t s' t' : Scope} (first : s.Alike s') (second : t.Alike t') :
    s.sameCodes t = s'.sameCodes t' := by
  rw [Bool.eq_iff_iff]
  simp only [sameCodes, Bool.and_eq_true, List.all_eq_true, decide_eq_true_eq, first.codes,
    second.codes]

theorem opposing_pairs_alike {constraints others : List (Constraint α)}
    (alike : List.Forall₂ Constraint.Alike constraints others) :
    List.Forall₂ (fun pair pair' => Constraint.Alike pair.1 pair'.1 ∧ Constraint.Alike pair.2 pair'.2)
      (ConstraintSet.opposingPairs constraints) (ConstraintSet.opposingPairs others) := by
  have ofKind (kind : ConstraintKind) :
      List.Forall₂ Constraint.Alike (constraints.filter (·.kind == kind))
        (others.filter (·.kind == kind)) :=
    List.rel_filter (fun c d same => by cases same; rfl) alike
  refine List.rel_flatMap (ofKind .floor) fun floor floor' sameFloor => ?_
  refine List.rel_map (fun cap cap' sameCap => ⟨sameFloor, sameCap⟩) ?_
  refine List.rel_filter (fun cap cap' sameCap => ?_) (ofKind .capacityCap)
  cases sameFloor with
  | scope first =>
      cases sameCap with
      | scope second =>
          dsimp only
          rw [Scope.same_codes_alike first second]
          rfl

theorem ConstraintSet.Alike.hard_conflicts [Scalar α] {set again : ConstraintSet α}
    (alike : set.Alike again) (year : Option Int) :
    set.hardConflicts year = again.hardConflicts year := by
  have inForce := opposing_pairs_alike (List.rel_filter (p := fun c => c.isHard && c.appliesIn year)
    (q := fun c => c.isHard && c.appliesIn year) (fun c d same => by cases same; rfl)
    alike.constraints)
  refine Outcome.map_eq_of_related (List.Forall₂.imp (fun pair pair' same => ?_)
    (List.rel_filter (fun pair pair' same => ?_) inForce))
  · obtain ⟨floor, cap⟩ := pair
    obtain ⟨floor', cap'⟩ := pair'
    obtain ⟨⟨sameFloor⟩, ⟨sameCap⟩⟩ := same
    rfl
  · obtain ⟨floor, cap⟩ := pair
    obtain ⟨floor', cap'⟩ := pair'
    obtain ⟨⟨sameFloor⟩, ⟨sameCap⟩⟩ := same
    rfl

end EconomicImpact
