import Mathlib
import EconomicImpact.Json.Decode
import EconomicImpact.Proofs.Outcome
import EconomicImpact.Proofs.SectorVector
import EconomicImpact.Proofs.Uuid

set_option autoImplicit false

namespace EconomicImpact.Json

variable {α β : Type}

theorem as_list_of_list {encode : α → Json} {decode : Json → Decoded β} {image : α → β}
    {items : List α} (each : ∀ a ∈ items, decode (encode a) = .ok (image a)) :
    (ofList encode items).asList decode = .ok (items.map image) := by
  rw [ofList, asList]
  induction items with
  | nil => rfl
  | cons a rest ih =>
      rw [List.map_cons, List.mapM_cons, each a List.mem_cons_self,
        ih fun b member => each b (List.mem_cons_of_mem a member)]
      rfl

theorem as_list_kept {encode : α → Json} {decode : Json → Decoded α} {items : List α}
    (each : ∀ a ∈ items, decode (encode a) = .ok a) :
    (ofList encode items).asList decode = .ok items := by
  have read : (ofList encode items).asList decode = .ok (items.map id) := as_list_of_list each
  rwa [List.map_id] at read

theorem as_strings (texts : List String) : (ofList .str texts).asList asString = .ok texts :=
  as_list_kept fun _ _ => rfl

theorem as_floats (values : List Float) : (ofList .float values).asList asFloat = .ok values :=
  as_list_kept fun _ _ => rfl

theorem members_kept {κ : Type} (name : κ → String) {encode : α → Json} {decode : Json → Decoded α}
    {entries : List (κ × α)} (each : ∀ entry ∈ entries, decode (encode entry.2) = .ok entry.2) :
    ((entries.map fun entry => (name entry.1, encode entry.2)).mapM fun member => do
      return (member.1, ← decode member.2)) = .ok (entries.map fun entry => (name entry.1, entry.2)) := by
  induction entries with
  | nil => rfl
  | cons entry rest ih =>
      rw [List.map_cons, List.mapM_cons, ih fun later member => each later (List.mem_cons_of_mem _ member)]
      simp only [each entry List.mem_cons_self]
      rfl

theorem as_string_iff {j : Json} {text : String} : asString j = .ok text ↔ j = .str text := by
  cases j <;> simp [asString]

theorem as_list_ok_iff {decode : Json → Decoded α} {j : Json} {values : List α} :
    j.asList decode = .ok values ↔
      ∃ items, j = .arr items ∧ List.Forall₂ (fun item a => decode item = .ok a) items values := by
  cases j with
  | arr items =>
      rw [asList, Outcome.mapM_ok_iff]
      simp
  | _ => simp [asList]

theorem as_uuid_text (id : Uuid) : asUuid (.str id.toText) = .ok id := by
  rw [asUuid, Uuid.of_text]

theorem as_option_uuid_text (id : Uuid) :
    asOption asUuid (.str id.toText) = .ok (some id) := by
  rw [asOption, as_uuid_text]
  · rfl
  · exact fun same => nomatch same

theorem as_int_within_iff {least greatest n : Int} {j : Json} :
    asIntWithin least greatest j = .ok n ↔ j = .int n ∧ least ≤ n ∧ n ≤ greatest := by
  cases j with
  | int m =>
      by_cases inside : least ≤ m ∧ m ≤ greatest
      · rw [asIntWithin, if_pos inside]
        constructor
        · intro read
          cases read
          exact ⟨rfl, inside⟩
        · rintro ⟨same, -⟩
          cases same
          rfl
      · rw [asIntWithin, if_neg inside]
        refine iff_of_false (fun read => nomatch read) ?_
        rintro ⟨same, bounds⟩
        cases same
        exact inside bounds
  | _ => simp [asIntWithin]

theorem as_year_again {j : Json} {year : Int} (read : j.asYear = .ok year) :
    (Json.int year).asYear = .ok year := by
  obtain ⟨rfl, -⟩ := as_int_within_iff.mp read
  exact read

theorem as_option_some {decode : Json → Decoded α} {j : Json} {a : α}
    (read : asOption decode j = .ok (some a)) : decode j = .ok a := by
  unfold asOption at read
  split at read
  · cases read
  · obtain ⟨b, inner, same⟩ := (Outcome.map_ok_iff _ _ _).mp read
    cases same
    exact inner

theorem as_object_ok {names : List String} {members : List (String × Json)} {fields : Fields}
    (read : (obj members).asObject names = .ok fields) : fields = ⟨members⟩ := by
  unfold asObject at read
  dsimp only at read
  split at read
  · cases read
  · cases read
    rfl

theorem as_object_member {j : Json} {names : List String} {fields : Fields}
    (read : j.asObject names = .ok fields) (name : String) : fields.get? name = j.member? name := by
  cases j with
  | obj members =>
      obtain rfl := as_object_ok read
      rfl
  | _ => cases read

section distinct

variable {members : List (String × Json)} (distinct : (members.map (·.1)).Nodup)

include distinct

theorem as_object_distinct (names : List String) :
    (obj members).asObject names = .ok ⟨members⟩ := by
  have once (name : String) : (members.filter (·.1 == name)).length ≤ 1 := by
    have counted := List.nodup_iff_count_le_one.mp distinct name
    rw [List.count, List.countP_map, List.countP_eq_length_filter] at counted
    exact counted
  have repeated : (names.any fun name => decide (1 < (members.filter (·.1 == name)).length)) = false :=
    List.any_eq_false.mpr fun name _ => by simpa using once name
  rw [asObject, repeated]
  rfl

theorem Fields.get_iff (name : String) (j : Json) :
    Fields.get? ⟨members⟩ name = some j ↔ (name, j) ∈ members :=
  find_value_iff distinct name j

end distinct

section inserted

variable {front back members : List (String × Json)} {name : String} {given : Json}

theorem named_otherwise (absent : name ∉ members.map (·.1)) :
    ∀ member ∈ members, ¬(member.1 == name) = true := by
  intro member listed same
  exact absent (beq_iff_eq.mp same ▸ List.mem_map_of_mem listed)

theorem Fields.get_absent (absent : name ∉ members.map (·.1)) : Fields.get? ⟨members⟩ name = none := by
  rw [Fields.get?, List.find?_eq_none.mpr (named_otherwise absent)]
  rfl

theorem Fields.get_inserted (absent : name ∉ (front ++ back).map (·.1)) :
    Fields.get? ⟨front ++ (name, given) :: back⟩ name = some given := by
  have before : front.find? (·.1 == name) = none := List.find?_eq_none.mpr fun member listed =>
    named_otherwise absent member (List.mem_append_left back listed)
  simp [Fields.get?, before]

theorem Fields.get_inserted_of_ne {other : String} (differ : name ≠ other) :
    Fields.get? ⟨front ++ (name, given) :: back⟩ other = Fields.get? ⟨front ++ back⟩ other := by
  have skipped : (name == other) = false := beq_false_of_ne differ
  simp only [Fields.get?, List.find?_append, List.find?_cons, skipped]

theorem as_object_inserted (absent : name ∉ (front ++ back).map (·.1)) (names : List String) :
    (obj (front ++ (name, given) :: back)).asObject names =
      ((obj (front ++ back)).asObject names).map
        fun _ => ⟨front ++ (name, given) :: back⟩ := by
  have repeated (other : String) :
      decide (1 < ((front ++ (name, given) :: back).filter (·.1 == other)).length) =
        decide (1 < ((front ++ back).filter (·.1 == other)).length) := by
    by_cases same : name = other
    · subst same
      rw [List.filter_append, List.filter_cons_of_pos (by simp), List.length_append,
        List.length_cons, ← Nat.add_assoc, ← List.length_append, ← List.filter_append,
        List.filter_eq_nil_iff.mpr (named_otherwise absent)]
      rfl
    · rw [List.filter_append, List.filter_cons_of_neg (by simpa using same), ← List.filter_append]
  simp only [asObject, repeated]
  split <;> rfl

end inserted

theorem Fields.required_ok {fields : Fields} {name : String} {decode : Json → Decoded α} {a : α}
    (read : fields.required name decode = .ok a) : ∃ j, fields.get? name = some j ∧ decode j = .ok a := by
  unfold required at read
  split at read
  · exact ⟨_, ‹_›, read⟩
  · cases read

theorem Fields.with_default_ok {fields : Fields} {name : String} {fallback : α}
    {decode : Json → Decoded α} {a : α} (read : fields.withDefault name fallback decode = .ok a) :
    a = fallback ∨ ∃ j, decode j = .ok a := by
  unfold withDefault at read
  split at read
  · exact .inr ⟨_, read⟩
  · cases read
    exact .inl rfl

theorem Fields.optional_some {fields : Fields} {name : String} {decode : Json → Decoded α} {a : α}
    (read : fields.optional name decode = .ok (some a)) : ∃ j, decode j = .ok a := by
  unfold optional at read
  split at read
  · exact ⟨_, as_option_some read⟩
  · cases read

theorem as_nat_below_int {bound n : Nat} (below : n < bound) :
    asNatBelow bound (.int n) = .ok n := by
  have whole : asIntWithin 0 (bound - 1) (.int n) = .ok (n : Int) :=
    as_int_within_iff.mpr ⟨rfl, by omega, by omega⟩
  rw [asNatBelow, whole]
  rfl

theorem as_nat_below_bound {bound n : Nat} {j : Json} (read : asNatBelow bound j = .ok n) :
    n < bound := by
  obtain ⟨whole, inside, rfl⟩ := (Outcome.map_ok_iff _ _ _).mp read
  obtain ⟨-, least, greatest⟩ := as_int_within_iff.mp inside
  omega

end EconomicImpact.Json
