import Mathlib
import EconomicImpact.Proofs.Feasibility.Composition
import EconomicImpact.Proofs.Feasibility.Snapping
import EconomicImpact.Proofs.Reordering.Constraint

set_option autoImplicit false

namespace EconomicImpact

variable {n m : Nat} {order : Vector String n} {other : Vector String m}
  {r : Reordering order other}

namespace Bound.Moved

section places

variable {α : Type} {b : Bound α n} {d : Bound α m} (moved : b.Moved r d)

include moved

theorem hard_eq : b.isHard = d.isHard :=
  congrArg (· == Confidence.hard) moved.source.confidence_eq

theorem sectors_perm : (d.sectors.map r.place).Perm b.sectors := by
  have listed := moved.terms.map (·.1)
  rw [List.map_map] at listed
  rwa [Bound.sectors, List.map_map]

theorem mem_sectors (j : Fin m) : j ∈ d.sectors ↔ r.place j ∈ b.sectors := by
  rw [← moved.sectors_perm.mem_iff, List.mem_map_of_injective r.place.injective]

theorem covers_eq (j : Fin m) : d.covers j = b.covers (r.place j) := by
  rw [Bool.eq_iff_iff, ← mem_sectors_iff, ← mem_sectors_iff, moved.mem_sectors]

theorem single_eq : b.single? = d.single?.map fun t => (r.place t.1, t.2) := by
  have terms := moved.terms
  unfold Bound.single?
  generalize b.terms = first at terms ⊢
  generalize d.terms = second at terms ⊢
  rcases second with _ | ⟨t, _ | ⟨next, rest⟩⟩
  · rw [List.nil_perm.mp terms]
    rfl
  · rw [← List.singleton_perm.mp terms]
    rfl
  · have several := terms.length_eq
    rcases first with _ | ⟨s, _ | ⟨later, others⟩⟩
    · cases several
    · cases several
    · rfl

theorem is_single_eq : b.isSingle = d.isSingle := by
  rw [Bound.isSingle, Bound.isSingle, moved.single_eq, Option.isSome_map]

theorem sound_other [Scalar α] (sound : b.Sound) : d.Sound where
  nonempty nothing := sound.nonempty (by simpa [nothing] using moved.terms.length_eq.symm)
  positive t member :=
    sound.positive (r.place t.1, t.2) (moved.terms.mem_iff.mp (List.mem_map_of_mem member))
  distinct := (moved.sectors_perm.nodup_iff.mpr sound.distinct).of_map

end places

variable {K : Type} [Field K] [LinearOrder K] {b : Bound K n} {d : Bound K m}
  (moved : b.Moved r d) {y : Vector K n} {z : Vector K m} (carries : r.Carries y z)

include moved

theorem amount_eq (j : Fin m) : amountAt d.terms j = amountAt b.terms (r.place j) := by
  rw [amountAt, amountAt, Scalar.total_eq_sum, Scalar.total_eq_sum,
    ← ((moved.terms.filter _).map _).sum_eq, List.filter_map, List.map_map]
  have here : ((fun t : Fin n × K => t.1 == r.place j) ∘ fun t => (r.place t.1, t.2)) =
      fun t : Fin m × K => t.1 == j := by
    funext t
    rw [Bool.eq_iff_iff]
    simp
  rw [here]
  rfl

include carries

theorem lhs_eq : d.lhs z = b.lhs y := Constraint.sum_moved moved.terms carries

theorem violation_eq : d.violation z = b.violation y := by
  rw [Bound.violation, Bound.violation, moved.lhs_eq carries, moved.sense, moved.limit]

variable (sound : b.Sound)

include sound

theorem share_eq (j : Fin m) : d.share z j = b.share y (r.place j) := by
  have soundOther := moved.sound_other sound
  by_cases covered : j ∈ d.sectors
  · have active : (∃ i ∈ d.sectors, 0 < z.get i) ↔ ∃ i ∈ b.sectors, 0 < y.get i := by
      rw [r.place.surjective.exists]
      simp only [moved.mem_sectors, carries _]
    rw [d.share_covered z soundOther.distinct j covered,
      b.share_covered y sound.distinct _ ((moved.mem_sectors j).mp covered), carries j]
    simp only [active]
  · rw [d.share_absent z j covered, b.share_absent y _ (covered ∘ (moved.mem_sectors j).mpr)]

theorem weighted_basis_eq : d.weightedBasis z = b.weightedBasis y := by
  rw [d.weighted_basis_eq z (moved.sound_other sound).distinct,
    b.weighted_basis_eq y sound.distinct]
  simp only [moved.amount_eq, moved.share_eq carries sound]
  exact Equiv.sum_comp r.place fun i => amountAt b.terms i * b.share y i

variable [IsStrictOrderedRing K]

theorem apply_carries : r.Carries (Clipping.apply y b) (Clipping.apply z d) := by
  have soundOther := moved.sound_other sound
  have same := moved.violation_eq carries
  intro j
  by_cases met : b.violation y = 0
  · rw [Clipping.apply_of_met b y met, Clipping.apply_of_met d z (same.trans met), carries j]
  · rw [Clipping.apply_get b y sound met, Clipping.apply_get d z soundOther (same ▸ met), carries j,
      moved.share_eq carries sound, moved.lhs_eq carries, moved.weighted_basis_eq carries sound,
      moved.limit]

end Bound.Moved

def MovedBounds {K : Type} [Scalar K] (r : Reordering order other) (bounds : List (Bound K n))
    (others : List (Bound K m)) : Prop :=
  List.Forall₂ (fun b d => b.Sound ∧ b.Moved r d) bounds others

namespace MovedBounds

section lists

variable {α : Type} [Scalar α] {bounds : List (Bound α n)} {others : List (Bound α m)}
  (moved : MovedBounds r bounds others)

include moved

theorem filter {p : Bound α n → Bool} {q : Bound α m → Bool}
    (same : ∀ b d, b.Moved r d → p b = q d) :
    MovedBounds r (bounds.filter p) (others.filter q) :=
  List.rel_filter (fun b d here => Bool.eq_iff_iff.mp (same b d here.2)) moved

theorem map_eq {β : Type} {f : Bound α n → β} {g : Bound α m → β}
    (same : ∀ b d, b.Moved r d → f b = g d) : bounds.map f = others.map g :=
  Outcome.map_eq_of_related (List.Forall₂.imp (fun b d here => same b d here.2) moved)

theorem passes : MovedBounds r (Clipping.passes bounds) (Clipping.passes others) := by
  have singles {bounds : List (Bound α n)} {others : List (Bound α m)}
      (moved : MovedBounds r bounds others) :
      MovedBounds r (bounds.filter (·.isSingle)) (others.filter (·.isSingle)) :=
    moved.filter fun b d here => here.is_single_eq
  have groups {bounds : List (Bound α n)} {others : List (Bound α m)}
      (moved : MovedBounds r bounds others) :
      MovedBounds r (bounds.filter (!·.isSingle)) (others.filter (!·.isSingle)) :=
    moved.filter fun b d here => congrArg (!·) here.is_single_eq
  have soft : MovedBounds r (bounds.filter (!·.isHard)) (others.filter (!·.isHard)) :=
    moved.filter fun b d here => congrArg (!·) here.hard_eq
  have hard : MovedBounds r (bounds.filter (·.isHard)) (others.filter (·.isHard)) :=
    moved.filter fun b d here => here.hard_eq
  exact List.rel_append (List.rel_append (List.rel_append (singles soft) (groups soft))
    (singles hard)) (groups hard)

theorem movable_eq (sense : Sense) (j : Fin m) :
    movable sense others j = movable sense bounds (r.place j) := by
  have each := moved.map_eq (f := fun b => b.sense == sense && b.covers (r.place j))
    (g := fun d => d.sense == sense && d.covers j) fun b d here => by
      rw [here.sense, here.covers_eq]
  have some := congrArg (List.any · id) each
  simp only [List.any_map] at some
  exact some.symm

theorem landing_eq (tolerance : α) (j : Fin m) (v : α) :
    Feasibility.landing tolerance others j v =
      Feasibility.landing tolerance bounds (r.place j) v := by
  refine (List.rel_foldl (P := Eq) (fun v _ same b d here => ?_) rfl moved).symm
  rw [same, Feasibility.landOn, Feasibility.landOn, here.2.single_eq]
  cases d.single? with
  | none => rfl
  | some term => simp only [Option.map_some, r.place.injective.eq_iff, here.2.limit]

end lists

variable {K : Type} [Field K] [LinearOrder K] {bounds : List (Bound K n)} {others : List (Bound K m)}
  (moved : MovedBounds r bounds others) {u y : Vector K n} {v z : Vector K m}

include moved

theorem clip_carries [IsStrictOrderedRing K] (start : r.Carries u v) :
    r.Carries (clip u bounds) (clip v others) :=
  List.rel_foldl (fun _ _ carries _ _ here => here.2.apply_carries carries here.1) start moved.passes

theorem tidy_carries (tolerance : K) (start : r.Carries u v) (carries : r.Carries y z) :
    r.Carries (Feasibility.tidy tolerance u bounds y) (Feasibility.tidy tolerance v others z) := by
  intro j
  simp only [Feasibility.tidy_get, Feasibility.settledAt, moved.landing_eq, moved.movable_eq,
    start j, carries j]

theorem hard_violations_eq (tolerance : K) (carries : r.Carries y z) :
    Feasibility.hardViolations tolerance y bounds = Feasibility.hardViolations tolerance z others :=
  map_eq (moved.filter fun b d here => by
    rw [here.hard_eq, here.limit, here.violation_eq carries]) fun b d here => here.source.id_eq

end MovedBounds

end EconomicImpact
