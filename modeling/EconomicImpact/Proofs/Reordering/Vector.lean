import Mathlib
import EconomicImpact.Proofs.Outcome
import EconomicImpact.Proofs.Scalar.Exact
import EconomicImpact.Proofs.SectorVector

set_option autoImplicit false

namespace EconomicImpact

variable {α : Type} {n m : Nat}

structure Reordering (order : Vector String n) (other : Vector String m) where
  place : Fin m ≃ Fin n
  codes : ∀ j, other.get j = order.get (place j)
  distinct : Function.Injective order.get

namespace Reordering

variable {order : Vector String n} {other : Vector String m} (r : Reordering order other)

def Carries (v : Vector α n) (w : Vector α m) : Prop := ∀ j, w.get j = v.get (r.place j)

section places

include r

theorem other_distinct : Function.Injective other.get := by
  intro i j same
  rw [r.codes, r.codes] at same
  exact r.place.injective (r.distinct same)

theorem size_eq : m = n := Fin.equiv_iff_eq.mp ⟨r.place⟩

theorem position_eq (code : String) (j : Fin m) :
    position? other code = some j ↔ position? order code = some (r.place j) := by
  rw [position_iff r.other_distinct, position_iff r.distinct, r.codes]

end places

variable {r}

theorem Carries.map {β : Type} (f : α → β) {v : Vector α n} {w : Vector α m}
    (carries : r.Carries v w) : r.Carries (v.map f) (w.map f) := by
  intro j
  have here := congrArg f (carries j)
  simpa only [Vector.get_eq_getElem, Vector.getElem_map] using here

theorem Carries.zipWith {β γ : Type} (f : α → β → γ) {v : Vector α n} {w : Vector α m}
    {x : Vector β n} {y : Vector β m} (first : r.Carries v w) (second : r.Carries x y) :
    r.Carries (v.zipWith f x) (w.zipWith f y) := by
  intro j
  have here := congrArg₂ f (first j) (second j)
  simpa only [Vector.get_eq_getElem, Vector.getElem_zipWith] using here

theorem Carries.total_eq {K : Type} [Field K] [LinearOrder K] {v : Vector K n} {w : Vector K m}
    (carries : r.Carries v w) : Scalar.total w.toList = Scalar.total v.toList := by
  have listed {k : Nat} (x : Vector K k) : Scalar.total x.toList = ∑ i, x.get i := by
    rw [Scalar.total_eq_sum, to_list_eq_of_fn, List.sum_ofFn]
  rw [listed, listed, ← Equiv.sum_comp r.place v.get]
  exact Finset.sum_congr rfl fun j _ => carries j

end Reordering

namespace SectorVector

structure Alike (v w : SectorVector α) : Prop where
  distinct : (v.entries.map (·.1)).Nodup
  perm : v.entries.Perm w.entries

variable {v w : SectorVector α}

theorem get_eq_some_iff (distinct : (v.entries.map (·.1)).Nodup) (code : String) (a : α) :
    v.get? code = some a ↔ (code, a) ∈ v.entries :=
  find_value_iff distinct code a

theorem Alike.other_distinct (alike : v.Alike w) : (w.entries.map (·.1)).Nodup :=
  (alike.perm.map _).nodup_iff.mp alike.distinct

theorem Alike.get_eq (alike : v.Alike w) (code : String) : v.get? code = w.get? code := by
  refine Option.ext fun a => ?_
  rw [get_eq_some_iff alike.distinct, get_eq_some_iff alike.other_distinct, alike.perm.mem_iff]

theorem Alike.total_eq {K : Type} [Field K] [LinearOrder K] {v w : SectorVector K}
    (alike : v.Alike w) : v.total = w.total := by
  rw [total, total, Scalar.total_eq_sum, Scalar.total_eq_sum]
  exact (alike.perm.map _).sum_eq

theorem codes_get (v : SectorVector α) (i : Fin v.size) :
    v.codes.get i = (v.entries.get i).1 := by
  change (v.entries.map (·.1)).get ⟨i.val, _⟩ = _
  rw [List.get_eq_getElem, List.getElem_map]
  rfl

theorem values_get (v : SectorVector α) (i : Fin v.size) :
    v.values.get i = (v.entries.get i).2 := by
  change (v.entries.map (·.2)).get ⟨i.val, _⟩ = _
  rw [List.get_eq_getElem, List.getElem_map]
  rfl

theorem codes_injective (distinct : (v.entries.map (·.1)).Nodup) :
    Function.Injective v.codes.get := by
  intro i j same
  rw [codes_get, codes_get] at same
  have entries := List.inj_on_of_nodup_map distinct (List.get_mem _ i) (List.get_mem _ j) same
  exact List.nodup_iff_injective_get.mp distinct.of_map entries

theorem Alike.reordering (alike : v.Alike w) :
    ∃ r : Reordering v.codes w.codes, r.Carries v.values w.values := by
  classical
  have members (entry : String × α) : entry ∈ w.entries ↔ entry ∈ v.entries :=
    alike.perm.mem_iff.symm
  let place : Fin w.size ≃ Fin v.size :=
    (alike.other_distinct.of_map.getEquiv w.entries).trans
      ((Equiv.subtypeEquivRight members).trans (alike.distinct.of_map.getEquiv v.entries).symm)
  have moved (j : Fin w.size) : w.entries.get j = v.entries.get (place j) := by
    have there := (alike.distinct.of_map.getEquiv v.entries).apply_symm_apply
      ⟨w.entries.get j, (members _).mp (List.get_mem _ j)⟩
    exact (congrArg Subtype.val there).symm
  refine ⟨⟨place, fun j => ?_, codes_injective alike.distinct⟩, fun j => ?_⟩
  · rw [codes_get, codes_get, moved]
  · rw [values_get, values_get, moved]

theorem of_aligned_alike {order : Vector String n} {other : Vector String m}
    (r : Reordering order other) {a : Vector α n} {b : Vector α m} (carries : r.Carries a b) :
    (ofAligned order a).Alike (ofAligned other b) := by
  have once {k : Nat} (order : Vector String k) (distinct : Function.Injective order.get)
      (values : Vector α k) : ((ofAligned order values).entries.map (·.1)).Nodup := by
    rw [codes_of_aligned, to_list_eq_of_fn, List.nodup_ofFn]
    exact distinct
  refine ⟨once order r.distinct a, ?_⟩
  refine (List.perm_ext_iff_of_nodup (once order r.distinct a).of_map
    (once other r.other_distinct b).of_map).mpr fun entry => ?_
  rw [mem_of_aligned_iff, mem_of_aligned_iff]
  simp only [r.codes, carries _]
  constructor
  · rintro ⟨i, same⟩
    exact ⟨r.place.symm i, by rwa [r.place.apply_symm_apply]⟩
  · rintro ⟨j, same⟩
    exact ⟨r.place j, same⟩

section align

variable {order : Vector String n} {other : Vector String m}

def alignOnto (v : SectorVector α) (order : Vector String n) (start : Vector α n) :
    Except (Fault α) (Vector α n) :=
  v.entries.foldlM (fun aligned (code, value) =>
    match position? order code with
    | some i => .ok (aligned.set i value i.isLt)
    | none => .error (.unknownSector code)) start

theorem align_onto_cons (code : String) (value : α) (rest : List (String × α))
    (order : Vector String n) (start : Vector α n) :
    alignOnto ⟨(code, value) :: rest⟩ order start =
      match position? order code with
      | some i => alignOnto ⟨rest⟩ order (start.set i value i.isLt)
      | none => .error (.unknownSector code) := by
  rw [alignOnto, List.foldlM_cons]
  dsimp only
  cases position? order code <;> rfl

theorem align_onto_known (v : SectorVector α) (injective : Function.Injective order.get)
    (distinct : (v.entries.map (·.1)).Nodup)
    (known : ∀ entry ∈ v.entries, ∃ i, order.get i = entry.1) (start : Vector α n) :
    ∃ a, v.alignOnto order start = .ok a ∧
      ∀ i, a.get i = (v.get? (order.get i)).getD (start.get i) := by
  obtain ⟨entries⟩ := v
  induction entries generalizing start with
  | nil => exact ⟨start, rfl, fun i => rfl⟩
  | cons entry rest ih =>
      obtain ⟨code, value⟩ := entry
      obtain ⟨fresh, restDistinct⟩ := List.nodup_cons.mp distinct
      obtain ⟨⟨i, here⟩, later⟩ := List.forall_mem_cons.mp known
      change order.get i = code at here
      have place := (position_iff injective code i).mpr here
      obtain ⟨a, aligned, values⟩ := ih (start.set i value i.isLt) restDistinct later
      refine ⟨a, ?_, fun j => ?_⟩
      · rw [align_onto_cons, place]
        exact aligned
      · rw [values, get_set]
        unfold get?
        rw [List.find?_cons]
        by_cases same : i = j
        · subst same
          have absent : rest.find? (·.1 == order.get i) = none := by
            refine List.find?_eq_none.mpr fun entry member equal => fresh ?_
            change code ∈ rest.map (·.1)
            rw [← here, ← eq_of_beq equal]
            exact List.mem_map_of_mem member
          rw [absent, here]
          simp
        · have apart : (code == order.get j) = false := by
            rw [← here]
            exact beq_false_of_ne fun equal => same (injective equal)
          simp only [apart, if_neg same]

theorem align_onto_unknown (v : SectorVector α) (entry : String × α) (listed : entry ∈ v.entries)
    (unknown : ∀ i, order.get i ≠ entry.1) (start : Vector α n) :
    ∃ fault, v.alignOnto order start = .error fault := by
  obtain ⟨entries⟩ := v
  induction entries generalizing start with
  | nil => cases listed
  | cons first rest ih =>
      obtain ⟨code, value⟩ := first
      rw [align_onto_cons]
      cases place : position? order code with
      | none => exact ⟨_, rfl⟩
      | some i =>
          rcases List.mem_cons.mp listed with rfl | later
          · exact absurd (get_of_position _ i place) (unknown i)
          · exact ih _ later

variable [Scalar α]

theorem Alike.align_sparse (alike : v.Alike w) (r : Reordering order other) :
    Outcome.Matched r.Carries (v.alignSparse order) (w.alignSparse other) := by
  by_cases known : ∀ entry ∈ v.entries, ∃ i, order.get i = entry.1
  · have knownOther : ∀ entry ∈ w.entries, ∃ j, other.get j = entry.1 := by
      intro entry member
      obtain ⟨i, here⟩ := known entry (alike.perm.mem_iff.mpr member)
      exact ⟨r.place.symm i, by rw [r.codes, r.place.apply_symm_apply, here]⟩
    obtain ⟨a, aligned, values⟩ := v.align_onto_known r.distinct alike.distinct known
      (Vector.replicate n 0)
    obtain ⟨b, alignedOther, valuesOther⟩ := w.align_onto_known r.other_distinct
      alike.other_distinct knownOther (Vector.replicate m 0)
    change Outcome.Matched r.Carries (v.alignOnto order _) (w.alignOnto other _)
    rw [aligned, alignedOther]
    refine .ok fun j => ?_
    rw [values, valuesOther, r.codes, alike.get_eq]
    simp [Vector.get_eq_getElem]
  · obtain ⟨entry, listed, unknown⟩ : ∃ entry ∈ v.entries, ∀ i, order.get i ≠ entry.1 := by
      simpa using known
    obtain ⟨fault, failed⟩ := v.align_onto_unknown entry listed unknown
      (Vector.replicate n 0)
    obtain ⟨faultOther, failedOther⟩ := w.align_onto_unknown entry (alike.perm.mem_iff.mp listed)
      (fun j => by rw [r.codes]; exact unknown _) (Vector.replicate m 0)
    change Outcome.Matched r.Carries (v.alignOnto order _) (w.alignOnto other _)
    rw [failed, failedOther]
    exact .error _ _

theorem Alike.align_exact (alike : v.Alike w) (r : Reordering order other) (context : String) :
    Outcome.Matched r.Carries (v.alignExact order context) (w.alignExact other context) := by
  have length : w.size = v.size := alike.perm.length_eq.symm
  unfold alignExact
  by_cases whole : v.size = n
  · rw [if_pos whole, if_pos (by rw [length, whole, r.size_eq])]
    exact alike.align_sparse r
  · rw [if_neg whole, if_neg (by rwa [length, r.size_eq])]
    exact .error _ _

end align

end SectorVector

end EconomicImpact
