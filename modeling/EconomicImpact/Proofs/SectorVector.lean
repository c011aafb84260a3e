import Mathlib
import EconomicImpact.SectorVector

set_option autoImplicit false

namespace EconomicImpact

variable {α β : Type} {n : Nat}

theorem find_value_iff {κ : Type} [BEq κ] [LawfulBEq κ] {pairs : List (κ × β)}
    (distinct : (pairs.map (·.1)).Nodup) (name : κ) (value : β) :
    (pairs.find? (·.1 == name)).map (·.2) = some value ↔ (name, value) ∈ pairs := by
  constructor
  · intro found
    obtain ⟨pair, first, rfl⟩ := Option.map_eq_some_iff.mp found
    have same := List.find?_some first
    exact eq_of_beq same ▸ List.mem_of_find?_eq_some first
  · intro member
    cases first : pairs.find? (·.1 == name) with
    | none => exact absurd (List.find?_eq_none.mp first _ member) (by simp)
    | some pair =>
        have same := List.find?_some first
        have only := List.inj_on_of_nodup_map distinct (List.mem_of_find?_eq_some first) member
          (eq_of_beq same)
        rw [only]
        rfl

theorem forall₂_to_list_iff (related : α → β → Prop) (v : Vector α n) (w : Vector β n) :
    List.Forall₂ related v.toList w.toList ↔ ∀ i, related (v.get i) (w.get i) := by
  rw [List.forall₂_iff_get]
  constructor
  · rintro ⟨-, each⟩ i
    exact each i (by simp) (by simp)
  · intro each
    refine ⟨by simp, ?_⟩
    intro i left right
    have bound : i < n := by simpa using left
    exact each ⟨i, bound⟩

theorem forall_mem_to_list_iff (p : α → Prop) (v : Vector α n) :
    (∀ a ∈ v.toList, p a) ↔ ∀ i, p (v.get i) := by
  constructor
  · intro each i
    exact each _ (Vector.mem_toList_iff.mpr (Vector.getElem_mem i.isLt))
  · intro each a member
    obtain ⟨i, bound, rfl⟩ := Vector.getElem_of_mem (Vector.mem_toList_iff.mp member)
    exact each ⟨i, bound⟩

theorem vector_ext_get {v w : Vector α n} (same : ∀ i, v.get i = w.get i) : v = w :=
  Vector.ext fun i inside => same ⟨i, inside⟩

theorem to_list_eq_of_fn (v : Vector α n) : v.toList = List.ofFn v.get := by
  rw [← Vector.toList_ofFn]
  exact congrArg Vector.toList (vector_ext_get fun i => by simp)

theorem get_zip_with {γ : Type} (f : α → β → γ) (v : Vector α n) (w : Vector β n) (i : Fin n) :
    (v.zipWith f w).get i = f (v.get i) (w.get i) := by
  simp only [Vector.get_eq_getElem, Vector.getElem_zipWith]

theorem get_set (v : Vector α n) (i j : Fin n) (a : α) :
    (v.set i a i.isLt).get j = if i = j then a else v.get j := by
  simp only [Vector.get_eq_getElem, Vector.getElem_set, Fin.ext_iff]

theorem first_repeat_none_iff (codes : List String) : firstRepeat? codes = none ↔ codes.Nodup := by
  have go (seen : List String) :
      firstRepeat?.go seen codes = none ↔ codes.Nodup ∧ ∀ code ∈ codes, code ∉ seen := by
    induction codes generalizing seen with
    | nil => simp [firstRepeat?.go]
    | cons code rest ih =>
        rw [firstRepeat?.go]
        by_cases known : code ∈ seen
        · simp [known]
        · rw [if_neg known, ih, List.nodup_cons, List.forall_mem_cons]
          simp only [List.mem_cons, not_or]
          constructor
          · rintro ⟨distinct, apart⟩
            exact ⟨⟨fun repeated => (apart code repeated).1 rfl, distinct⟩, known,
              fun other member => (apart other member).2⟩
          · rintro ⟨⟨fresh, distinct⟩, -, apart⟩
            exact ⟨distinct, fun other member =>
              ⟨fun same => fresh (same ▸ member), apart other member⟩⟩
  rw [firstRepeat?, go]
  simp

theorem get_of_position {order : Vector String n} (code : String) (i : Fin n)
    (found : position? order code = some i) : order.get i = code := by
  have same := List.find?_some found
  exact eq_of_beq same

theorem position_iff {order : Vector String n} (distinct : Function.Injective order.get)
    (code : String) (i : Fin n) : position? order code = some i ↔ order.get i = code := by
  refine ⟨get_of_position code i, ?_⟩
  rintro rfl
  cases found : position? order (order.get i) with
  | none =>
      have absent := List.find?_eq_none.mp found i (List.mem_finRange i)
      simp at absent
  | some j => rw [distinct (get_of_position _ j found)]

namespace SectorVector

theorem mem_of_aligned_iff (codes : Vector String n) (v : Vector α n) (entry : String × α) :
    entry ∈ (ofAligned codes v).entries ↔ ∃ i, entry = (codes.get i, v.get i) := by
  simp only [ofAligned, ofZip]
  constructor
  · intro member
    obtain ⟨i, bound, value⟩ := List.getElem_of_mem member
    have inside : i < n := by simpa using bound
    refine ⟨⟨i, inside⟩, ?_⟩
    rw [← value]
    simp [Vector.get_eq_getElem]
  · rintro ⟨i, rfl⟩
    refine List.mem_iff_getElem.mpr ⟨i, by simp, ?_⟩
    simp [Vector.get_eq_getElem]

theorem entries_of_aligned (codes : Vector String n) (v : Vector α n) :
    (ofAligned codes v).entries = List.ofFn fun i => (codes.get i, v.get i) := by
  refine List.ext_getElem (by simp [ofAligned, ofZip]) fun i inZip inList => ?_
  simp [ofAligned, ofZip, Vector.get_eq_getElem]

theorem values_of_aligned (codes : Vector String n) (v : Vector α n) :
    (ofAligned codes v).entries.map (·.2) = v.toList := by
  rw [ofAligned, ofZip, List.map_snd_zip (by simp)]

theorem codes_of_aligned (codes : Vector String n) (v : Vector α n) :
    (ofAligned codes v).entries.map (·.1) = codes.toList := by
  rw [ofAligned, ofZip, List.map_fst_zip (by simp)]

theorem of_aligned_self (v : SectorVector α) : ofAligned v.codes v.values = v := by
  obtain ⟨entries⟩ := v
  exact congrArg SectorVector.mk (List.zip_of_prod rfl rfl).symm

theorem of_aligned_injective (codes : Vector String n) (v w : Vector α n)
    (same : ofAligned codes v = ofAligned codes w) : v = w := by
  have entries := congrArg (fun aligned => aligned.entries.map (·.2)) same
  simp only [values_of_aligned] at entries
  exact Vector.toList_inj.mp entries

end SectorVector

end EconomicImpact
