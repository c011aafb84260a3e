import Mathlib
import EconomicImpact.Proofs.Alignment
import EconomicImpact.Record.Vector

set_option autoImplicit false

namespace EconomicImpact.SectorVector

variable {α : Type}

def totalByCode [Scalar α] (v : SectorVector α) : α :=
  Scalar.total ((v.entries.map (·.1)).dedup.map fun code => (v.get? code).getD 0)

structure Regular [Scalar α] (v : SectorVector α) : Prop where
  distinct : (v.entries.map (·.1)).Nodup
  one_value : ∀ code ∈ v.entries.map (·.1), ∃! value, (code, value) ∈ v.entries
  total : v.total = v.totalByCode

theorem total_by_code_eq [Scalar α] {v : SectorVector α} (once : (v.entries.map (·.1)).Nodup) :
    v.total = v.totalByCode := by
  have found : ∀ entry ∈ v.entries, (v.get? entry.1).getD 0 = entry.2 := fun entry listed => by
    rw [(get_eq_some_iff once entry.1 entry.2).mpr listed, Option.getD_some]
  rw [total, totalByCode, once.dedup, List.map_map]
  exact congrArg Scalar.total (List.map_congr_left fun entry listed => (found entry listed).symm)

theorem regular_of_distinct [Scalar α] {v : SectorVector α}
    (once : (v.entries.map (·.1)).Nodup) : v.Regular where
  distinct := once
  one_value code listed := by
    obtain ⟨entry, member, rfl⟩ := List.mem_map.mp listed
    refine ⟨entry.2, member, fun other otherMember => ?_⟩
    exact congrArg Prod.snd (List.inj_on_of_nodup_map once otherMember member rfl)
  total := total_by_code_eq once

theorem distinct_of_accepted {ε β : Type} {codes : List String} {refused : String → ε} {made v : β}
    (accepted : (match firstRepeat? codes with
      | some code => .error (refused code)
      | none => .ok made) = Except.ok v) : codes.Nodup ∧ made = v := by
  cases repeated : firstRepeat? codes with
  | some code =>
      rw [repeated] at accepted
      cases accepted
  | none =>
      rw [repeated] at accepted
      exact ⟨(first_repeat_none_iff _).mp repeated, Except.ok.inj accepted⟩

theorem of_pairs_distinct {pairs : List (String × α)} {v : SectorVector α}
    (made : ofPairs pairs = .ok v) : (v.entries.map (·.1)).Nodup := by
  obtain ⟨distinct, rfl⟩ := distinct_of_accepted made
  exact distinct

theorem of_lists_distinct {codes : List String} {values : List α} {v : SectorVector α}
    (made : ofLists codes values = .ok v) : (v.entries.map (·.1)).Nodup := by
  unfold ofLists at made
  by_cases length : codes.length = values.length
  · rw [if_pos length] at made
    exact of_pairs_distinct made
  · rw [if_neg length] at made
    cases made

theorem of_json_distinct {j : Json} {v : SectorVector Float} (read : ofJson j = .ok v) :
    (v.entries.map (·.1)).Nodup := by
  obtain ⟨members, -, read⟩ := (Outcome.bind_ok_iff _ _ _).mp read
  obtain ⟨entries, -, read⟩ := (Outcome.bind_ok_iff _ _ _).mp read
  obtain ⟨distinct, rfl⟩ := distinct_of_accepted read
  exact distinct

theorem zeros_codes [Zero α] (codes : List String) :
    ((zeros codes : SectorVector α).entries.map (·.1)) = codes := by
  simp [zeros, Function.comp_def]

theorem scale_codes [Scalar α] (v : SectorVector α) (factor : α) :
    (v.scale factor).entries.map (·.1) = v.entries.map (·.1) := by
  simp [scale, map, Function.comp_def]

-- The vectors that any sequence of constructors and operations makes, where zeros are asked for on
-- some lists of codes only.
inductive Made (asked : List String → Prop) : SectorVector Float → Prop
  | lists {codes : List String} {values : List Float} {v : SectorVector Float}
      (made : ofLists codes values = .ok v) : Made asked v
  | pairs {pairs : List (String × Float)} {v : SectorVector Float}
      (made : ofPairs pairs = .ok v) : Made asked v
  | zeros {codes : List String} (accepted : asked codes) : Made asked (.zeros codes)
  | record {j : Json} {v : SectorVector Float} (read : ofJson j = .ok v) : Made asked v
  | combined {f : Float → Float → Float} {v w r : SectorVector Float} (first : Made asked v)
      (second : Made asked w) (combined : zipWith f v w = .ok r) : Made asked r
  | scaled {v : SectorVector Float} (factor : Float) (start : Made asked v) :
      Made asked (v.scale factor)

theorem made_distinct {asked : List String → Prop} (proper : ∀ codes, asked codes → codes.Nodup)
    {v : SectorVector Float} (made : Made asked v) : (v.entries.map (·.1)).Nodup := by
  induction made with
  | lists made => exact of_lists_distinct made
  | pairs made => exact of_pairs_distinct made
  | zeros accepted =>
      rw [zeros_codes]
      exact proper _ accepted
  | record read => exact of_json_distinct read
  | combined first second combined distinct _ =>
      rw [combined_codes combined]
      exact distinct
  | scaled factor start distinct =>
      rw [scale_codes]
      exact distinct

theorem made_regular_iff (asked : List String → Prop) :
    (∀ v, Made asked v → v.Regular) ↔ ∀ codes, asked codes → codes.Nodup := by
  constructor
  · intro regular codes accepted
    have distinct := (regular _ (.zeros accepted)).distinct
    rwa [zeros_codes] at distinct
  · intro proper v made
    exact regular_of_distinct (made_distinct proper made)

theorem repeated_zeros_counted_twice :
    Made (fun _ => True) (zeros ["A", "A"]) ∧
      ¬((zeros ["A", "A"] : SectorVector Float).entries.map (·.1)).Nodup ∧
      ∃ w, zipWith (fun _ _ => 1) (zeros ["A", "A"]) (zeros ["A", "A"]) = .ok w ∧
        Made (fun _ => True) w ∧ w.total ≠ w.totalByCode := by
  have facts : (zipWith (fun _ _ => 1) (zeros ["A", "A"]) (zeros ["A", "A"]) :
      Except (Fault Float) (SectorVector Float)).toOption.any
        (fun w => decide (w.total.toBits ≠ w.totalByCode.toBits)) = true := by decide +kernel
  obtain ⟨w, combined, apart⟩ := (Outcome.any_ok_iff _ _).mp facts
  have zeroed : Made (fun _ => True) (zeros ["A", "A"]) := .zeros trivial
  refine ⟨zeroed, by decide +kernel, w, combined, .combined zeroed zeroed combined, fun same => ?_⟩
  exact of_decide_eq_true apart (congrArg Float.toBits same)

end EconomicImpact.SectorVector
