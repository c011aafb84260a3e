import Mathlib.Data.List.Nodup
import EconomicImpact.Constraint.Resolution
import EconomicImpact.Proofs.Outcome

set_option autoImplicit false

namespace EconomicImpact

variable {α : Type} [Scalar α] {n : Nat}

structure Constraint.Enforced (c : Constraint α) (order : Vector String n)
    (base : Option (Vector α n)) (coefficients : Option (AlignedCoefficients α n))
    (b : Bound α n) : Prop where
  source : b.source = c
  sense : c.kind.sense = some b.sense
  terms : ∃ sectors weights, c.scope.indices order = .ok sectors ∧
    c.weights coefficients sectors = .ok weights ∧
    b.terms = (sectors.zip weights).filter fun (_, w) => decide (0 < w)
  nonempty : b.terms ≠ []
  limit : c.limit base b.terms = .ok b.limit

structure Bound.Sound (b : Bound α n) : Prop where
  nonempty : b.terms ≠ []
  positive : ∀ t ∈ b.terms, 0 < t.2
  distinct : b.sectors.Nodup

namespace Constraint

variable (c : Constraint α) (order : Vector String n) (base : Option (Vector α n))
  (coefficients : Option (AlignedCoefficients α n))

-- A constraint that is enforced becomes a bound, or nothing if none of its weights is positive.
theorem resolve_in_force_cases (sense : Sense) (direction : c.kind.sense = some sense)
    (outcome : Resolved α n)
    (resolved : c.resolveInForce order base coefficients = .ok outcome) :
    ∃ sectors weights terms, sectors ≠ [] ∧ c.scope.indices order = .ok sectors ∧
      c.weights coefficients sectors = .ok weights ∧
      terms = ((sectors.zip weights).filter fun (_, w) => decide (0 < w)) ∧
      ((terms = [] ∧ outcome = .inactive c.id) ∨
        (terms ≠ [] ∧ ∃ limit, c.limit base terms = .ok limit ∧
          outcome = .active ⟨c, sense, terms, limit⟩)) := by
  unfold resolveInForce at resolved
  obtain ⟨-, resolved⟩ := (Outcome.guard_ok_iff _ _ _ _ _).mp resolved
  obtain ⟨sectors, found, resolved⟩ := (Outcome.bind_ok_iff _ _ _).mp resolved
  obtain ⟨covering, resolved⟩ := (Outcome.guard_ok_iff _ _ _ _ _).mp resolved
  rw [Outcome.map_error_ok_iff] at found
  simp only [direction] at resolved
  obtain ⟨weights, weighted, resolved⟩ := (Outcome.bind_ok_iff _ _ _).mp resolved
  refine ⟨sectors, weights, _, by simpa using covering, found, weighted, rfl, ?_⟩
  by_cases empty : ((sectors.zip weights).filter fun (_, w) => decide (0 < w)).isEmpty
  · rw [if_pos empty, Outcome.pure_ok_iff] at resolved
    exact .inl ⟨by simpa using empty, resolved.symm⟩
  · rw [if_neg empty] at resolved
    obtain ⟨limit, limited, resolved⟩ := (Outcome.bind_ok_iff _ _ _).mp resolved
    rw [Outcome.pure_ok_iff] at resolved
    exact .inr ⟨by simpa using empty, limit, limited, resolved.symm⟩

theorem resolve_in_force_reported (direction : c.kind.sense = none) (outcome : Resolved α n)
    (resolved : c.resolveInForce order base coefficients = .ok outcome) :
    ∃ sectors, sectors ≠ [] ∧ c.scope.indices order = .ok sectors ∧
      outcome = .diagnostic ⟨c, sectors⟩ := by
  unfold resolveInForce at resolved
  obtain ⟨-, resolved⟩ := (Outcome.guard_ok_iff _ _ _ _ _).mp resolved
  obtain ⟨sectors, found, resolved⟩ := (Outcome.bind_ok_iff _ _ _).mp resolved
  obtain ⟨covering, resolved⟩ := (Outcome.guard_ok_iff _ _ _ _ _).mp resolved
  rw [Outcome.map_error_ok_iff] at found
  simp only [direction] at resolved
  rw [Outcome.pure_ok_iff] at resolved
  exact ⟨sectors, by simpa using covering, found, resolved.symm⟩

theorem resolve_in_force_active (b : Bound α n)
    (resolved : c.resolveInForce order base coefficients = .ok (.active b)) :
    c.Enforced order base coefficients b := by
  cases direction : c.kind.sense with
  | none =>
      obtain ⟨sectors, -, -, reported⟩ :=
        c.resolve_in_force_reported order base coefficients direction _ resolved
      cases reported
  | some sense =>
      obtain ⟨sectors, weights, terms, -, found, weighted, rfl, cases⟩ :=
        c.resolve_in_force_cases order base coefficients sense direction _ resolved
      rcases cases with ⟨-, inactive⟩ | ⟨nonempty, limit, limited, same⟩
      · cases inactive
      · cases same
        exact ⟨rfl, direction, ⟨sectors, weights, found, weighted, rfl⟩, nonempty, limited⟩

theorem resolve_in_force (year : Option Int) (inForce : c.appliesIn year = true)
    (outcome : Resolved α n) :
    c.resolve order year base coefficients = .ok outcome ↔
      c.resolveInForce order base coefficients = .ok outcome := by
  rw [resolve, if_pos inForce, Outcome.map_error_ok_iff]

theorem resolve_active (year : Option Int) (b : Bound α n)
    (resolved : c.resolve order year base coefficients = .ok (.active b)) :
    c.appliesIn year = true ∧ c.Enforced order base coefficients b := by
  by_cases inForce : c.appliesIn year = true
  · rw [c.resolve_in_force order base coefficients year inForce] at resolved
    exact ⟨inForce, c.resolve_in_force_active order base coefficients b resolved⟩
  · rw [resolve, if_neg inForce] at resolved
    cases resolved

theorem indices_eq_covered (scope : Scope) (sectors : List (Fin n))
    (found : scope.indices order = .ok sectors) :
    sectors = (List.finRange n).filter (scope.covers order) := by
  unfold Scope.indices at found
  cases unknown : scope.firstUnknown? order with
  | some code =>
      rw [unknown] at found
      cases found
  | none =>
      rw [unknown] at found
      cases found
      rfl

theorem indices_nodup (scope : Scope) (sectors : List (Fin n))
    (found : scope.indices order = .ok sectors) : sectors.Nodup := by
  rw [indices_eq_covered order scope sectors found]
  exact (List.nodup_finRange n).filter _

theorem weights_length (sectors : List (Fin n)) (weights : List α)
    (weighted : c.weights coefficients sectors = .ok weights) :
    weights.length = sectors.length := by
  unfold Constraint.weights at weighted
  cases kind : c.kind <;> cases coefficients <;> simp only [kind] at weighted <;>
    cases weighted <;> simp

theorem Enforced.sound {c : Constraint α} {order : Vector String n} {base : Option (Vector α n)}
    {coefficients : Option (AlignedCoefficients α n)} {b : Bound α n}
    (enforced : c.Enforced order base coefficients b) : b.Sound := by
  obtain ⟨sectors, weights, found, weighted, terms⟩ := enforced.terms
  have length := c.weights_length coefficients sectors weights weighted
  have all : (sectors.zip weights).map (·.1) = sectors := List.map_fst_zip (Nat.le_of_eq length.symm)
  refine ⟨enforced.nonempty, ?_, ?_⟩
  · intro t member
    rw [terms, List.mem_filter] at member
    exact of_decide_eq_true member.2
  · have sublist := (List.filter_sublist (l := sectors.zip weights)
      (p := fun (_, w) => decide (0 < w))).map (·.1)
    rw [all, ← terms] at sublist
    exact (indices_nodup order c.scope sectors found).sublist sublist

end Constraint

omit [Scalar α] in
theorem Resolution.mem_active_iff (outcomes : List (Resolved α n)) (b : Bound α n) :
    b ∈ (Resolution.ofList outcomes).active ↔ .active b ∈ outcomes := by
  simp only [ofList, List.mem_filterMap]
  constructor
  · rintro ⟨outcome, listed, kept⟩
    cases outcome with
    | active bound =>
        cases kept
        exact listed
    | inactive id => cases kept
    | diagnostic target => cases kept
  · intro listed
    exact ⟨_, listed, rfl⟩

namespace ConstraintSet

variable (set : ConstraintSet α) (order : Vector String n) (context : ResolutionContext α)
  (resolution : Resolution α n)

def weighs : Bool := set.constraints.any (·.kind.isWeighted)

def weighedWith : Except (Fault α) (Option (AlignedCoefficients α n)) :=
  if set.weighs then context.coefficients.mapM (·.align order) else pure none

theorem resolve_eq :
    set.resolve order context =
      context.baseOutput.mapM (·.alignExact order "base output") >>= fun base =>
        set.weighedWith order context >>= fun coefficients =>
          set.constraints.mapM (·.resolve order context.year base coefficients) >>= fun outcomes =>
            pure (.ofList outcomes) := by
  refine congrArg (context.baseOutput.mapM _ >>= ·) (funext fun base => ?_)
  dsimp only
  by_cases weighted : set.constraints.any (·.kind.isWeighted) = true
  · rw [if_pos weighted, weighedWith, weighs, if_pos weighted]
  · rw [if_neg weighted, weighedWith, weighs, if_neg weighted]

-- What the constraints of a set are resolved with: coefficients count only if a constraint needs them.
structure Prepared (base : Option (Vector α n)) (coefficients : Option (AlignedCoefficients α n)) :
    Prop where
  base : context.baseOutput.mapM (·.alignExact order "base output") = .ok base
  coefficients : (if set.constraints.any (·.kind.isWeighted) then
    context.coefficients.mapM (·.align order) else pure none) = .ok coefficients

theorem resolve_prepared (resolved : set.resolve order context = .ok resolution) :
    ∃ base coefficients outcomes, set.Prepared order context base coefficients ∧
      set.constraints.mapM (·.resolve order context.year base coefficients) = .ok outcomes ∧
        Resolution.ofList outcomes = resolution := by
  rw [resolve_eq] at resolved
  obtain ⟨base, aligned, resolved⟩ := (Outcome.bind_ok_iff _ _ _).mp resolved
  obtain ⟨coefficients, needed, resolved⟩ := (Outcome.bind_ok_iff _ _ _).mp resolved
  obtain ⟨outcomes, mapped, resolved⟩ := (Outcome.bind_ok_iff _ _ _).mp resolved
  exact ⟨base, coefficients, outcomes, ⟨aligned, needed⟩, mapped,
    (Outcome.pure_ok_iff _ _).mp resolved⟩

theorem resolve_of_prepared {base : Option (Vector α n)}
    {coefficients : Option (AlignedCoefficients α n)} {outcomes : List (Resolved α n)}
    (prepared : set.Prepared order context base coefficients)
    (mapped : set.constraints.mapM (·.resolve order context.year base coefficients) =
      .ok outcomes) : set.resolve order context = .ok (.ofList outcomes) := by
  rw [resolve_eq]
  refine (Outcome.bind_ok_iff _ _ _).mpr ⟨base, prepared.base, ?_⟩
  refine (Outcome.bind_ok_iff _ _ _).mpr ⟨coefficients, prepared.coefficients, ?_⟩
  exact (Outcome.bind_ok_iff _ _ _).mpr ⟨outcomes, mapped, rfl⟩

theorem resolve_each (resolved : set.resolve order context = .ok resolution) :
    ∃ base coefficients outcomes,
      set.constraints.mapM (·.resolve order context.year base coefficients) = .ok outcomes ∧
        Resolution.ofList outcomes = resolution := by
  obtain ⟨base, coefficients, outcomes, -, mapped, same⟩ :=
    set.resolve_prepared order context resolution resolved
  exact ⟨base, coefficients, outcomes, mapped, same⟩

theorem active_enforced (resolved : set.resolve order context = .ok resolution) (b : Bound α n)
    (active : b ∈ resolution.active) :
    ∃ c ∈ set.constraints, c.appliesIn context.year = true ∧
      ∃ base coefficients, c.Enforced order base coefficients b := by
  obtain ⟨base, coefficients, outcomes, mapped, rfl⟩ :=
    set.resolve_each order context resolution resolved
  rw [Resolution.mem_active_iff] at active
  obtain ⟨c, member, single⟩ := Outcome.mapM_ok_output _ _ _ mapped _ active
  obtain ⟨inForce, enforced⟩ := c.resolve_active order base coefficients _ b single
  exact ⟨c, member, inForce, base, coefficients, enforced⟩

theorem active_sound (resolved : set.resolve order context = .ok resolution) (b : Bound α n)
    (active : b ∈ resolution.active) : b.Sound := by
  obtain ⟨c, -, -, base, coefficients, enforced⟩ :=
    set.active_enforced order context resolution resolved b active
  exact enforced.sound

theorem active_sense (resolved : set.resolve order context = .ok resolution) (b : Bound α n)
    (active : b ∈ resolution.active) : b.source.kind.sense = some b.sense := by
  obtain ⟨c, -, -, base, coefficients, enforced⟩ :=
    set.active_enforced order context resolution resolved b active
  rw [enforced.source]
  exact enforced.sense

end ConstraintSet

end EconomicImpact
