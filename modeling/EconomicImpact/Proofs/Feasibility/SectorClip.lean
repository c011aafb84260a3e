import Mathlib
import EconomicImpact.Proofs.Feasibility.Clipping

set_option autoImplicit false

namespace EconomicImpact

section limits

variable {K : Type} [LinearOrder K] (sense : Sense) (limits : List K) (value : K)

theorem Sense.clamp_left_comm (a b : K) :
    sense.clamp a (sense.clamp b value) = sense.clamp b (sense.clamp a value) := by
  cases sense with
  | upper => exact min_right_comm value b a
  | lower => exact max_right_comm value b a

theorem Sense.clamp_fold (a : K) :
    limits.foldr sense.clamp (sense.clamp a value) =
      sense.clamp a (limits.foldr sense.clamp value) := by
  induction limits with
  | nil => rfl
  | cons limit rest ih => rw [List.foldr_cons, ih, sense.clamp_left_comm, List.foldr_cons]

theorem Sense.within_clamp (limit : K) : sense.Within limit (sense.clamp limit value) := by
  cases sense with
  | upper => exact min_le_right value limit
  | lower => exact le_max_right value limit

theorem Sense.clamp_moves (limit : K) : sense.Within value (sense.clamp limit value) := by
  cases sense with
  | upper => exact min_le_left value limit
  | lower => exact le_max_left value limit

theorem Sense.within_fold (limit : K) (listed : limit ∈ limits) :
    sense.Within limit (limits.foldr sense.clamp value) := by
  induction limits with
  | nil => cases listed
  | cons first rest ih =>
      rcases List.mem_cons.mp listed with rfl | later
      · exact sense.within_clamp _ limit
      · exact (ih later).trans (sense.clamp_moves _ first)

theorem Sense.fold_moves : sense.Within value (limits.foldr sense.clamp value) := by
  induction limits with
  | nil => cases sense <;> exact le_refl value
  | cons first rest ih => exact ih.trans (sense.clamp_moves _ first)

-- A fold of clamps moves a value to one of the limits that it was not within.
theorem Sense.fold_cases :
    limits.foldr sense.clamp value = value ∨
      limits.foldr sense.clamp value ∈ limits ∧
        ¬sense.Within (limits.foldr sense.clamp value) value := by
  induction limits with
  | nil => exact .inl rfl
  | cons first rest ih =>
      by_cases within : sense.Within first (rest.foldr sense.clamp value)
      · rw [List.foldr_cons, Sense.clamp_of_within within]
        exact ih.imp_right fun ⟨listed, moved⟩ => ⟨List.mem_cons_of_mem _ listed, moved⟩
      · rw [List.foldr_cons, Sense.clamp_of_not_within within]
        refine .inr ⟨List.mem_cons_self, fun start => within ?_⟩
        exact start.trans (sense.fold_moves rest value)

end limits

section interval

variable {K : Type} [LinearOrder K]

def clampBetween (limits : Sense → List K) (value : K) : K :=
  (limits .upper).foldr Sense.upper.clamp ((limits .lower).foldr Sense.lower.clamp value)

def OrderedLimits (limits : Sense → List K) : Prop :=
  ∀ floor ∈ limits .lower, ∀ cap ∈ limits .upper, floor ≤ cap

instance (limits : Sense → List K) : Decidable (OrderedLimits limits) :=
  inferInstanceAs (Decidable (∀ floor ∈ limits .lower, ∀ cap ∈ limits .upper, floor ≤ cap))

variable {limits : Sense → List K} (ordered : OrderedLimits limits) (value : K)

include ordered

theorem within_clamp_between (sense : Sense) (limit : K) (listed : limit ∈ limits sense) :
    sense.Within limit (clampBetween limits value) := by
  have lowered := Sense.upper.fold_cases (limits .upper)
    ((limits .lower).foldr Sense.lower.clamp value)
  cases sense with
  | upper => exact Sense.upper.within_fold _ _ limit listed
  | lower =>
      rcases lowered with same | ⟨capped, -⟩
      · rw [clampBetween, same]
        exact Sense.lower.within_fold _ _ limit listed
      · exact ordered limit listed _ capped

-- A value that is moved comes to rest on a limit that was in its way.
theorem clamp_between_cases :
    clampBetween limits value = value ∨
      ∃ sense, clampBetween limits value ∈ limits sense ∧
        ¬sense.Within (clampBetween limits value) value := by
  have raised := Sense.lower.fold_cases (limits .lower) value
  rcases Sense.upper.fold_cases (limits .upper)
    ((limits .lower).foldr Sense.lower.clamp value) with uncapped | ⟨capped, lowered⟩
  · rw [clampBetween, uncapped]
    exact raised.imp_right fun moved => ⟨.lower, moved⟩
  · refine .inr ⟨.upper, capped, fun start => ?_⟩
    rcases raised with same | ⟨listed, -⟩
    · rw [same] at lowered
      exact lowered (by rwa [clampBetween, same] at start)
    · exact lowered (ordered _ listed _ capped)

theorem clamp_between_mem_uIcc (other : K)
    (within : ∀ sense, ∀ limit ∈ limits sense, sense.Within limit other) :
    clampBetween limits value ∈ Set.uIcc value other := by
  rcases clamp_between_cases ordered value with same | ⟨sense, listed, moved⟩
  · rw [same]
    exact Set.left_mem_uIcc
  · exact Sense.mem_uIcc_of_not_within moved (within sense _ listed)

omit ordered in
theorem raise_below_cap (floors : List K) (cap : K) (below : ∀ floor ∈ floors, floor ≤ cap) :
    floors.foldr Sense.lower.clamp (Sense.upper.clamp cap value) =
      Sense.upper.clamp cap (floors.foldr Sense.lower.clamp value) := by
  induction floors with
  | nil => rfl
  | cons floor rest ih =>
      obtain ⟨first, later⟩ := List.forall_mem_cons.mp below
      rw [List.foldr_cons, ih later, List.foldr_cons]
      change max (min _ cap) floor = min (max _ floor) cap
      rw [max_min_distrib_right, max_eq_left first]

theorem clamp_between_cons {fewer : Sense → List K} (sense : Sense) (limit : K)
    (here : limits sense = limit :: fewer sense)
    (there : ∀ other, other ≠ sense → limits other = fewer other) :
    clampBetween limits value = clampBetween fewer (sense.clamp limit value) := by
  cases sense with
  | upper =>
      have floors := there .lower (by decide)
      have below : ∀ floor ∈ fewer .lower, floor ≤ limit := by
        intro floor listed
        rw [← floors] at listed
        refine ordered floor listed limit ?_
        rw [here]
        exact List.mem_cons_self
      rw [clampBetween, clampBetween, here, floors, raise_below_cap value _ limit below,
        Sense.clamp_fold, List.foldr_cons]
  | lower =>
      rw [clampBetween, clampBetween, here, there .upper (by decide), Sense.clamp_fold,
        List.foldr_cons]

end interval

variable {K : Type} [Field K] [LinearOrder K] {n : Nat}

def Bound.limitAt? (b : Bound K n) (i : Fin n) : Option K :=
  b.single?.bind fun (j, w) => if j = i then some (b.limit / w) else none

def limitsOn (bounds : List (Bound K n)) (i : Fin n) (sense : Sense) : List K :=
  bounds.filterMap fun b => if b.sense = sense then b.limitAt? i else none

theorem limit_at_eq_some_iff (b : Bound K n) (i : Fin n) (limit : K) :
    b.limitAt? i = some limit ↔ ∃ w, b.single? = some (i, w) ∧ limit = b.limit / w := by
  cases single : b.single? with
  | none => simp [Bound.limitAt?, single]
  | some term =>
      obtain ⟨j, w⟩ := term
      simp only [Bound.limitAt?, single, Option.bind_some]
      by_cases same : j = i
      · simp [same, eq_comm]
      · simp [same]

theorem mem_limits_on_iff (bounds : List (Bound K n)) (i : Fin n) (sense : Sense) (limit : K) :
    limit ∈ limitsOn bounds i sense ↔
      ∃ b ∈ bounds, b.sense = sense ∧ ∃ w, b.single? = some (i, w) ∧ limit = b.limit / w := by
  simp only [limitsOn, List.mem_filterMap, ← limit_at_eq_some_iff]
  refine exists_congr fun b => and_congr_right fun _ => ?_
  by_cases same : b.sense = sense
  · simp [same]
  · simp [same]

namespace Clipping

variable [IsStrictOrderedRing K]

def OnSectors (bounds : List (Bound K n)) : Prop :=
  ∀ b ∈ bounds, ∃ j w, b.single? = some (j, w) ∧ 0 < w

theorem fold_get (bounds : List (Bound K n)) (onSectors : OnSectors bounds) (i : Fin n)
    (ordered : OrderedLimits (limitsOn bounds i)) (y : Vector K n) :
    (bounds.foldl apply y).get i = clampBetween (limitsOn bounds i) (y.get i) := by
  induction bounds generalizing y with
  | nil => rfl
  | cons b rest ih =>
      obtain ⟨⟨j, w, term, weight⟩, restOnSectors⟩ := List.forall_mem_cons.mp onSectors
      have fewer (sense : Sense) (limit : K) (listed : limit ∈ limitsOn rest i sense) :
          limit ∈ limitsOn (b :: rest) i sense := by
        rw [mem_limits_on_iff] at listed ⊢
        obtain ⟨c, member, facts⟩ := listed
        exact ⟨c, List.mem_cons_of_mem b member, facts⟩
      have restOrdered : OrderedLimits (limitsOn rest i) := fun floor low cap high =>
        ordered floor (fewer .lower floor low) cap (fewer .upper cap high)
      rw [List.foldl_cons, ih restOnSectors restOrdered, apply_single_get term weight]
      by_cases same : j = i
      · have here : b.limitAt? i = some (b.limit / w) := by
          simp [Bound.limitAt?, term, same]
        rw [if_pos same]
        refine (clamp_between_cons ordered _ b.sense (b.limit / w) ?_ ?_).symm
        · simp [limitsOn, here]
        · intro other apart
          simp [limitsOn, apart.symm]
      · have absent : b.limitAt? i = none := by simp [Bound.limitAt?, term, same]
        have limits : limitsOn (b :: rest) i = limitsOn rest i := by
          funext sense
          simp [limitsOn, absent]
        rw [if_neg same, limits]

theorem fold_meets (bounds : List (Bound K n)) (onSectors : OnSectors bounds)
    (ordered : ∀ i, OrderedLimits (limitsOn bounds i)) (y : Vector K n) (b : Bound K n)
    (listed : b ∈ bounds) : b.violation (bounds.foldl apply y) = 0 := by
  obtain ⟨j, w, term, weight⟩ := onSectors b listed
  rw [b.single_met_iff term weight, fold_get bounds onSectors j (ordered j)]
  refine within_clamp_between (ordered j) _ b.sense _ ?_
  exact (mem_limits_on_iff bounds j _ _).mpr ⟨b, listed, rfl, w, term, rfl⟩

end Clipping

def softened (u : Vector K n) (bounds : List (Bound K n)) : Vector K n :=
  (bounds.filter (!·.isHard)).foldl Clipping.apply u

theorem clip_of_single (u : Vector K n) (bounds : List (Bound K n))
    (single : ∀ b ∈ bounds, b.isSingle = true) :
    clip u bounds = (bounds.filter (·.isHard)).foldl Clipping.apply (softened u bounds) := by
  have all (kept : Bound K n → Bool) :
      ((bounds.filter kept).filter (·.isSingle)) = bounds.filter kept :=
    List.filter_eq_self.mpr fun b listed => single b (List.mem_filter.mp listed).1
  have none (kept : Bound K n → Bool) : ((bounds.filter kept).filter (!·.isSingle)) = [] :=
    List.filter_eq_nil_iff.mpr fun b listed => by
      simp [single b (List.mem_filter.mp listed).1]
  simp only [clip, Clipping.passes, all, none, List.append_nil, List.foldl_append, softened]

end EconomicImpact
