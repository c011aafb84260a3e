import Mathlib
import EconomicImpact.Feasibility.Simplex
import EconomicImpact.Proofs.Feasibility.Report
import EconomicImpact.Proofs.Scalar.Ordered

set_option autoImplicit false

namespace EconomicImpact

-- Sorting leaves what the order does not tell apart as it stood. The library sorts stably in the sense that
-- indices may be compared last without a change; among entries that ascend, so may positions.
theorem sorted_stably {β : Type} (le : β → β → Bool)
    (trans : ∀ a b c, le a b = true → le b c = true → le a c = true)
    (total : ∀ a b, (le a b || le b a) = true) (position : β → Nat) (entries : List β)
    (ascending : entries.Pairwise fun a b => position a < position b) :
    (entries.mergeSort le).Pairwise fun a b =>
      le a b = true ∧ (le b a = true → position a < position b) := by
  have sorted := List.pairwise_mergeSort (List.zipIdxLE_trans trans) (List.zipIdxLE_total total)
    entries.zipIdx
  have permuted := List.mergeSort_perm entries.zipIdx (List.zipIdxLE le)
  have distinct : (entries.zipIdx.mergeSort (List.zipIdxLE le)).Pairwise fun a b => a.2 ≠ b.2 := by
    rw [← List.pairwise_map (f := Prod.snd), ← List.Nodup, (permuted.map Prod.snd).nodup_iff,
      List.zipIdx_map_snd]
    exact List.nodup_range'
  rw [← List.mergeSort_zipIdx, List.pairwise_map]
  refine (sorted.and distinct).imp_of_mem ?_
  rintro ⟨a, i⟩ ⟨b, j⟩ memberA memberB ⟨before, apart⟩
  rw [permuted.mem_iff, List.mk_mem_zipIdx_iff_getElem?, List.getElem?_eq_some_iff]
    at memberA memberB
  obtain ⟨insideA, rfl⟩ := memberA
  obtain ⟨insideB, rfl⟩ := memberB
  by_cases ab : le entries[i] entries[j] = true
  · refine ⟨ab, fun ba => List.pairwise_iff_getElem.mp ascending i j insideA insideB ?_⟩
    have notAfter : i ≤ j := by simpa [List.zipIdxLE, ab, ba] using before
    exact Nat.lt_of_le_of_ne notAfter apart
  · simp [List.zipIdxLE, ab] at before

theorem ConstraintKind.sense_upper_iff (kind : ConstraintKind) :
    kind.sense = some .upper ↔ kind ∈ [capacityCap, ramp, labor, imports] := by
  cases kind <;> decide

namespace Feasibility

variable {α : Type} [Scalar α] {n : Nat}

def outputChange (u y : Vector α n) (b : Bound α n) : α :=
  Scalar.total (b.sectors.map fun i => y.get i - u.get i)

def heldBack (u y : Vector α n) (b : Bound α n) : α := -outputChange u y b

structure Ranked (tolerance : α) (u y : Vector α n) (order : Vector String n)
    (places : List (Place α n)) (ranking : List (Nat × Bound α n)) (enablers : List (Enabler α)) :
    Prop where
  once : (ranking.map (·.1)).Nodup
  exactly : ∀ i b, (i, b) ∈ ranking ↔ places[i]? = some (.binding b) ∧
    b.source.kind ∈ [.capacityCap, .ramp, .labor, .imports] ∧ tolerance < heldBack u y b
  falling : ranking.Pairwise fun (_, b) (_, d) => heldBack u y d ≤ heldBack u y b
  tied : ranking.Pairwise fun (i, b) (j, d) => heldBack u y b ≤ heldBack u y d → i < j
  records : enablers = ranking.mapIdx fun k (_, b) =>
    ⟨k + 1, b.source, b.sectors.map order.get, heldBack u y b⟩

section ranking

variable (tolerance : α) (u y : Vector α n)

def holdsBack (b : Bound α n) : Bool :=
  b.source.kind.sense == some .upper && decide (tolerance < heldBack u y b)

def Place.holding? : Place α n → Option (Bound α n)
  | binding b => if holdsBack tolerance u y b then some b else none
  | _ => none

theorem Place.holding_some_iff (p : Place α n) (b : Bound α n) :
    p.holding? tolerance u y = some b ↔ p = .binding b ∧
      b.source.kind ∈ [.capacityCap, .ramp, .labor, .imports] ∧ tolerance < heldBack u y b := by
  have holds : holdsBack tolerance u y b = true ↔
      b.source.kind ∈ [.capacityCap, .ramp, .labor, .imports] ∧ tolerance < heldBack u y b := by
    rw [holdsBack, Bool.and_eq_true, beq_iff_eq, decide_eq_true_iff, b.source.kind.sense_upper_iff]
  rw [← holds]
  cases p with
  | binding c =>
      rw [holding?, Option.ite_none_right_eq_some, Option.some_inj, binding.injEq]
      constructor
      · rintro ⟨held, rfl⟩
        exact ⟨rfl, held⟩
      · rintro ⟨rfl, held⟩
        exact ⟨held, rfl⟩
  | slack c => simp [holding?]
  | inactive => simp [holding?]
  | diagnostic sectors => simp [holding?]

def holding (places : List (Place α n)) : List (Nat × Bound α n) :=
  places.zipIdx.filterMap fun (p, i) => (p.holding? tolerance u y).map fun b => (i, b)

theorem mem_holding_iff (places : List (Place α n)) (i : Nat) (b : Bound α n) :
    (i, b) ∈ holding tolerance u y places ↔ places[i]? = some (.binding b) ∧
      b.source.kind ∈ [.capacityCap, .ramp, .labor, .imports] ∧ tolerance < heldBack u y b := by
  rw [holding, List.mem_filterMap]
  constructor
  · rintro ⟨⟨p, j⟩, member, found⟩
    obtain ⟨c, held, same⟩ := Option.map_eq_some_iff.mp found
    cases same
    obtain ⟨rfl, holds⟩ := (p.holding_some_iff tolerance u y b).mp held
    exact ⟨List.mk_mem_zipIdx_iff_getElem?.mp member, holds⟩
  · rintro ⟨listed, holds⟩
    have held := (Place.holding_some_iff tolerance u y _ b).mpr ⟨rfl, holds⟩
    exact ⟨(.binding b, i), List.mk_mem_zipIdx_iff_getElem?.mpr listed,
      Option.map_eq_some_iff.mpr ⟨b, held, rfl⟩⟩

theorem holding_ascending (places : List (Place α n)) :
    (holding tolerance u y places).Pairwise fun a b => a.1 < b.1 := by
  have indices : places.zipIdx.Pairwise fun a b => a.2 < b.2 := by
    rw [← List.pairwise_map (f := Prod.snd), List.zipIdx_map_snd]
    exact List.pairwise_lt_range'
  rw [holding, List.pairwise_filterMap]
  refine indices.imp ?_
  rintro ⟨p, i⟩ ⟨q, j⟩ less _ foundA _ foundB
  obtain ⟨a, -, rfl⟩ := Option.map_eq_some_iff.mp foundA
  obtain ⟨b, -, rfl⟩ := Option.map_eq_some_iff.mp foundB
  exact less

theorem holding_bounds (places : List (Place α n)) :
    (holding tolerance u y places).map (·.2) = places.filterMap (·.holding? tolerance u y) := by
  rw [holding, List.map_filterMap]
  conv_rhs => rw [← List.zipIdx_map_fst 0 places, List.filterMap_map]
  congr 1
  funext ⟨p, i⟩
  simp

theorem holding_entries (order : Vector String n) (outcomes : List (Resolved α n)) :
    ((holding tolerance u y (outcomes.map (place tolerance y))).map (·.2)).map
        (bindingEntry tolerance order u y) =
      (((Resolution.ofList outcomes).active.filter (isBinding tolerance y)).map
        (bindingEntry tolerance order u y)).filter fun b =>
          b.source.kind.sense == some .upper && decide (tolerance < -b.outputGap) := by
  have kept (b : Bound α n) : ((bindingEntry tolerance order u y b).source.kind.sense ==
      some .upper && decide (tolerance < -(bindingEntry tolerance order u y b).outputGap)) =
      holdsBack tolerance u y b := rfl
  rw [holding_bounds, List.filter_map, List.filter_filter, active_flat_map, List.filterMap_map,
    List.map_filterMap, List.filterMap_eq_flatMap_toList]
  congr 1
  funext outcome
  cases outcome with
  | active b =>
      cases binding : isBinding tolerance y b <;> cases held : holdsBack tolerance u y b <;>
        simp [place, Place.holding?, binding, kept, held]
  | inactive id => rfl
  | diagnostic target => rfl

def sooner (a b : Nat × Bound α n) : Bool :=
  Scalar.precedes (outputChange u y a.2) (outputChange u y b.2)

def ranking (places : List (Place α n)) : List (Nat × Bound α n) :=
  (holding tolerance u y places).mergeSort (sooner u y)

theorem mem_ranking_iff (places : List (Place α n)) (i : Nat) (b : Bound α n) :
    (i, b) ∈ ranking tolerance u y places ↔ places[i]? = some (.binding b) ∧
      b.source.kind ∈ [.capacityCap, .ramp, .labor, .imports] ∧ tolerance < heldBack u y b := by
  rw [ranking, List.mem_mergeSort, mem_holding_iff]

theorem ranking_positions_nodup (places : List (Place α n)) :
    ((ranking tolerance u y places).map (·.1)).Nodup := by
  have permuted := List.mergeSort_perm (holding tolerance u y places) (sooner u y)
  rw [ranking, (permuted.map (·.1)).nodup_iff]
  exact (List.pairwise_map.mpr (holding_ascending tolerance u y places)).imp Nat.ne_of_lt

-- The entries are sorted before they are numbered, and sorting them is sorting the bounds they come from.
theorem enablers_of_ranking (order : Vector String n) (outcomes : List (Resolved α n)) :
    enablers tolerance (((Resolution.ofList outcomes).active.filter (isBinding tolerance y)).map
        (bindingEntry tolerance order u y)) =
      (ranking tolerance u y (outcomes.map (place tolerance y))).mapIdx fun k a =>
        ⟨k + 1, a.2.source, a.2.sectors.map order.get, heldBack u y a.2⟩ := by
  rw [enablers, ← holding_entries, List.map_map, ranking,
    ← List.map_mergeSort (s := fun a b : BindingConstraint α =>
      Scalar.precedes a.outputGap b.outputGap) (fun _ _ _ _ => rfl), List.mapIdx_eq_iff]
  intro k
  rw [List.getElem?_mapIdx, List.getElem?_map, Option.map_map]
  rfl

variable [SortedScalar α]

-- A tolerance that is not negative keeps the changes away from zero, where the sorting order and the usual
-- one may differ.
theorem ranking_ordered (nonneg : 0 ≤ tolerance) (places : List (Place α n)) :
    (ranking tolerance u y places).Pairwise fun a b =>
      heldBack u y b.2 ≤ heldBack u y a.2 ∧
        (heldBack u y a.2 ≤ heldBack u y b.2 → a.1 < b.1) := by
  have sorted := sorted_stably (sooner u y) (fun _ _ _ => SortedScalar.trans _ _ _)
    (fun _ _ => SortedScalar.total _ _) (·.1) _ (holding_ascending tolerance u y places)
  have negative : ∀ a ∈ ranking tolerance u y places, outputChange u y a.2 < 0 := by
    rintro ⟨i, b⟩ member
    obtain ⟨-, -, held⟩ := (mem_ranking_iff tolerance u y places i b).mp member
    exact SortedScalar.negative tolerance _ nonneg held
  refine sorted.imp_of_mem ?_
  rintro a b memberA memberB ⟨before, stable⟩
  have ab := SortedScalar.precedes_iff _ _ (negative a memberA) (negative b memberB)
  have ba := SortedScalar.precedes_iff _ _ (negative b memberB) (negative a memberA)
  refine ⟨(SortedScalar.neg_le_neg_iff _ _).mpr (ab.mp before), fun tied => stable (ba.mpr ?_)⟩
  exact (SortedScalar.neg_le_neg_iff _ _).mp tied

theorem ranking_ranked (nonneg : 0 ≤ tolerance) (order : Vector String n)
    (outcomes : List (Resolved α n)) :
    Ranked tolerance u y order (outcomes.map (place tolerance y))
      (ranking tolerance u y (outcomes.map (place tolerance y)))
      (enablers tolerance (((Resolution.ofList outcomes).active.filter
        (isBinding tolerance y)).map (bindingEntry tolerance order u y))) where
  once := ranking_positions_nodup tolerance u y _
  exactly := mem_ranking_iff tolerance u y _
  falling := (ranking_ordered tolerance u y nonneg _).imp And.left
  tied := (ranking_ordered tolerance u y nonneg _).imp And.right
  records := enablers_of_ranking tolerance u y order outcomes

end ranking

theorem solve_ranks_enablers [SortedScalar α] {optimise : Optimiser α}
    {settings : FeasibilitySettings α} {u : SectorVector α} {set : ConstraintSet α}
    {context : SolveContext α} (r : FeasibilityResult α) (nonneg : 0 ≤ settings.bindingTolerance)
    (solved : solve optimise settings u set context = .ok r) :
    ∃ (y : Vector α u.size) (places : List (Place α u.size))
      (ranking : List (Nat × Bound α u.size)),
      r.feasible = .ofAligned u.codes y ∧
      (∃ base coefficients, set.Prepared u.codes context.resolution base coefficients ∧
        List.Forall₂
          (fun c place =>
            place.Fits settings.bindingTolerance y u.codes context.year base coefficients c)
          set.constraints places) ∧
      r.binding.map (fun entry => (entry.source, entry.relaxed)) =
        inOrder set.constraints places (Place.asBinding settings.bindingTolerance y) ∧
      Ranked settings.bindingTolerance u.values y u.codes places ranking r.enablers := by
  obtain ⟨resolution, found, y, stages, rfl⟩ := (solve_ok_iff _ _ _ _ _ _).mp solved
  obtain ⟨base, coefficients, outcomes, prepared, mapped, rfl⟩ :=
    set.resolve_prepared u.codes _ resolution stages.resolved
  have each := (Outcome.mapM_ok_iff _ _ _).mp mapped
  refine ⟨y, outcomes.map (place settings.bindingTolerance y), _, rfl,
    ⟨base, coefficients, prepared, ?_⟩, report_binding each,
    ranking_ranked settings.bindingTolerance u.values y nonneg u.codes outcomes⟩
  rw [List.forall₂_map_right_iff]
  exact each.imp fun _ _ resolved => place_fits resolved

-- Two caps that cost equal output, a floor, a cap that is loose and a bound of twenty jobs at two a unit. The
-- last one costs more jobs than output.
def tightOutput : SectorVector ℚ := ⟨[("A", 60), ("B", 50), ("C", 45)]⟩

def tightSet : ConstraintSet ℚ :=
  .ofConstraints [.strictOn .capacityCap "B" 30, .strictOn .floor "A" 40,
    .strictOn .capacityCap "A" 40, .strictOn .capacityCap "C" 90, .strictOn .labor "C" 20]

def tightContext : SolveContext ℚ :=
  .bare (some { Coefficients.zeros ["A", "B", "C"] with jobs := ⟨[("A", 1), ("B", 1), ("C", 2)]⟩ })

theorem tight_set_ranked :
    ∃ (r : FeasibilityResult ℚ) (y : Vector ℚ tightOutput.size)
      (places : List (Place ℚ tightOutput.size)) (ranking : List (Nat × Bound ℚ tightOutput.size)),
      solve simplex Settings.standard.feasibility tightOutput tightSet tightContext = .ok r ∧
      r.binding.map (fun b => (b.source.kind, b.gap, b.outputGap)) =
        [(.capacityCap, -20, -20), (.floor, -20, -20), (.capacityCap, -20, -20),
          (.labor, -70, -35)] ∧
      Ranked Settings.standard.feasibility.bindingTolerance tightOutput.values y tightOutput.codes
        places ranking r.enablers := by
  have facts : (solve simplex Settings.standard.feasibility tightOutput tightSet
      tightContext).toOption.any (fun r => decide (
        r.binding.map (fun b => (b.source.kind, b.gap, b.outputGap)) =
          [(.capacityCap, -20, -20), (.floor, -20, -20), (.capacityCap, -20, -20),
            (.labor, -70, -35)])) = true := by
    decide +kernel
  obtain ⟨r, solved, listed⟩ := (Outcome.any_ok_iff _ _).mp facts
  obtain ⟨y, places, ranking, -, -, -, ranked⟩ :=
    solve_ranks_enablers r (by decide +kernel) solved
  exact ⟨r, y, places, ranking, solved, of_decide_eq_true listed, ranked⟩

end Feasibility

end EconomicImpact
