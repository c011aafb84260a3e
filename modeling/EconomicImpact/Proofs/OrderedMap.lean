import Mathlib
import EconomicImpact.OrderedMap
import EconomicImpact.Proofs.Outcome
import EconomicImpact.Proofs.SectorVector
import EconomicImpact.Record.Vector

set_option autoImplicit false

namespace EconomicImpact

namespace OrderedMap

variable {κ β γ : Type}

section

variable [LT κ]

theorem ext_entries {m other : OrderedMap κ β} (same : m.entries = other.entries) : m = other := by
  cases m
  cases other
  exact mk.congr_simp _ _ same _

theorem is_empty_iff_keys (m : OrderedMap κ β) : m.isEmpty = true ↔ m.keys = [] := by
  rw [isEmpty, List.isEmpty_iff, keys, List.map_eq_nil_iff]

theorem map_keys (f : β → γ) (m : OrderedMap κ β) : (m.map f).keys = m.keys := by
  simp only [map, keys, List.map_map]
  rfl

theorem get_map [BEq κ] (f : β → γ) (m : OrderedMap κ β) (key : κ) :
    (m.map f).get? key = (m.get? key).map f := by
  simp only [map, get?, List.find?_map, Option.map_map]
  rfl

end

variable [LinearOrder κ]

instance (priority := low) : KeyOrder κ where
  trans := lt_trans
  eq_of_not_lt notLess notMore := le_antisymm (not_lt.mp notMore) (not_lt.mp notLess)

theorem keys_nodup (m : OrderedMap κ β) : m.keys.Nodup := m.ascending.nodup

theorem insert_entries (m : OrderedMap κ β) (key : κ) (value : β) :
    (m.insert key value).entries = place key value m.entries := rfl

theorem of_list_append (pairs : List (κ × β)) (pair : κ × β) :
    ofList (pairs ++ [pair]) = (ofList pairs).insert pair.1 pair.2 := by
  rw [ofList, List.foldl_append]
  rfl

theorem place_last (key : κ) (value : β) (pairs : List (κ × β))
    (below : ∀ k ∈ pairs.map (·.1), k < key) : place key value pairs = pairs ++ [(key, value)] := by
  induction pairs with
  | nil => rfl
  | cons pair rest ih =>
      have first : pair.1 < key := below _ List.mem_cons_self
      rw [place, if_neg first.asymm, if_pos first, ih fun k member => below k (.tail _ member),
        List.cons_append]

theorem of_list_entries (pairs : List (κ × β)) (ascending : (pairs.map (·.1)).Pairwise (· < ·)) :
    (ofList pairs).entries = pairs := by
  induction pairs using List.reverseRecOn with
  | nil => rfl
  | append_singleton pairs pair ih =>
      rw [List.map_append, List.pairwise_append] at ascending
      obtain ⟨early, -, below⟩ := ascending
      rw [of_list_append, insert_entries, ih early]
      exact place_last _ _ _ fun k member => below k member pair.1 (List.mem_singleton_self _)

theorem of_list_self (m : OrderedMap κ β) : ofList m.entries = m :=
  ext_entries (of_list_entries m.entries m.ascending)

theorem of_list_keyed {m : OrderedMap κ β} {pairs : List (κ × γ)}
    (keyed : pairs.map (·.1) = m.keys) : (ofList pairs).entries = pairs :=
  of_list_entries pairs (keyed ▸ m.ascending)

theorem place_map (f : β → γ) (key : κ) (value : β) (pairs : List (κ × β)) :
    place key (f value) (pairs.map fun (k, v) => (k, f v)) =
      (place key value pairs).map fun (k, v) => (k, f v) := by
  induction pairs with
  | nil => rfl
  | cons pair rest ih =>
      simp only [List.map_cons, place, ih]
      split_ifs <;> rfl

theorem of_list_map (f : β → γ) (pairs : List (κ × β)) :
    ofList (pairs.map fun (k, v) => (k, f v)) = (ofList pairs).map f := by
  induction pairs using List.reverseRecOn with
  | nil => rfl
  | append_singleton pairs pair ih =>
      rw [List.map_append, List.map_singleton, of_list_append, of_list_append, ih]
      exact ext_entries (place_map f pair.1 pair.2 (ofList pairs).entries)

def upTo (last : κ) (m : OrderedMap κ β) : OrderedMap κ β where
  entries := m.entries.filter (·.1 ≤ last)
  ascending := m.ascending.sublist (List.filter_sublist.map _)

section get

variable [BEq κ] [LawfulBEq κ]

theorem get_eq_some_iff {m : OrderedMap κ β} (key : κ) (value : β) :
    m.get? key = some value ↔ (key, value) ∈ m.entries :=
  find_value_iff m.keys_nodup key value

theorem ext_get {m other : OrderedMap κ β} (same : ∀ key, m.get? key = other.get? key) :
    m = other := by
  have members : ∀ entry, entry ∈ m.entries ↔ entry ∈ other.entries := fun (key, value) => by
    rw [← get_eq_some_iff, ← get_eq_some_iff, same]
  have perm := (List.perm_ext_iff_of_nodup (List.Nodup.of_map _ m.keys_nodup)
    (List.Nodup.of_map _ other.keys_nodup)).mpr members
  refine ext_entries (perm.eq_of_pairwise ?_ (List.pairwise_map.mp m.ascending)
    (List.pairwise_map.mp other.ascending))
  exact fun a b _ _ before after => absurd after before.asymm

theorem get_up_to (m : OrderedMap κ β) (last key : κ) :
    (m.upTo last).get? key = if key ≤ last then m.get? key else none := by
  simp only [upTo, get?, List.find?_filter]
  by_cases counted : key ≤ last
  · rw [if_pos counted]
    congr 2
    funext entry
    grind
  · rw [if_neg counted, Option.map_eq_none_iff, List.find?_eq_none]
    intro entry member
    grind

theorem get_of_up_to {m other : OrderedMap κ β} {last : κ} (same : m.upTo last = other.upTo last)
    (key : κ) (counted : key ≤ last) : m.get? key = other.get? key := by
  have here := congrArg (·.get? key) same
  simpa only [get_up_to, if_pos counted] using here

theorem up_to_of_get {m other : OrderedMap κ β} (last : κ)
    (same : ∀ key ≤ last, m.get? key = other.get? key) : m.upTo last = other.upTo last := by
  refine ext_get fun key => ?_
  rw [get_up_to, get_up_to]
  exact ite_congr rfl (same key) fun _ => rfl

theorem get_is_some_iff (m : OrderedMap κ β) (key : κ) :
    (m.get? key).isSome = true ↔ key ∈ m.keys := by
  rw [get?, Option.isSome_map, List.find?_isSome, keys, List.mem_map]
  simp only [beq_iff_eq]

theorem contains_iff (m : OrderedMap κ β) (key : κ) :
    m.contains key = true ↔ key ∈ m.keys := by
  rw [contains, List.any_eq_true, keys, List.mem_map]
  simp only [beq_iff_eq]

theorem find_place (key : κ) (value : β) (pairs : List (κ × β)) (k : κ) :
    (place key value pairs).find? (·.1 == k) =
      if k = key then some (key, value) else pairs.find? (·.1 == k) := by
  induction pairs with
  | nil =>
      by_cases same : k = key
      · simp [place, same]
      · simp [place, same, Ne.symm same]
  | cons pair rest ih =>
      obtain ⟨first, v⟩ := pair
      rw [place]
      by_cases before : key < first
      · rw [if_pos before, List.find?_cons]
        grind
      by_cases after : first < key
      · rw [if_neg before, if_pos after, List.find?_cons, ih, List.find?_cons]
        grind
      · have same : first = key := le_antisymm (not_lt.mp before) (not_lt.mp after)
        rw [if_neg before, if_neg after, List.find?_cons, List.find?_cons]
        grind

theorem get_insert (m : OrderedMap κ β) (key : κ) (value : β) (k : κ) :
    (m.insert key value).get? k = if k = key then some value else m.get? k := by
  rw [get?, insert, find_place]
  split <;> rfl

theorem get_of_list (pairs : List (κ × β)) (key : κ) :
    (ofList pairs).get? key = (pairs.reverse.find? (·.1 == key)).map (·.2) := by
  induction pairs using List.reverseRecOn with
  | nil => rfl
  | append_singleton pairs pair ih =>
      rw [of_list_append, get_insert, ih, List.reverse_append, List.reverse_singleton,
        List.singleton_append, List.find?_cons]
      by_cases same : key = pair.1
      · simp [same]
      · have other : (pair.1 == key) = false := by simpa using Ne.symm same
        simp [same, other]

theorem mem_of_list_keys (pairs : List (κ × β)) (key : κ) :
    key ∈ (ofList pairs).keys ↔ key ∈ pairs.map (·.1) := by
  rw [← get_is_some_iff, get_of_list, Option.isSome_map, List.find?_isSome]
  simp only [List.mem_reverse, List.mem_map, beq_iff_eq]

theorem get_of_list_distinct {pairs : List (κ × β)} (distinct : (pairs.map (·.1)).Nodup) (key : κ)
    (value : β) : (ofList pairs).get? key = some value ↔ (key, value) ∈ pairs := by
  have backward : (pairs.reverse.map (·.1)).Nodup := by
    rw [List.map_reverse, List.nodup_reverse]
    exact distinct
  rw [get_of_list, find_value_iff backward, List.mem_reverse]

theorem of_list_perm {pairs others : List (κ × β)} (distinct : (pairs.map (·.1)).Nodup)
    (perm : pairs.Perm others) : ofList pairs = ofList others := by
  refine ext_get fun key => ?_
  have alike : (others.map (·.1)).Nodup := (perm.map _).nodup_iff.mp distinct
  refine Option.ext fun value => ?_
  rw [get_of_list_distinct distinct, get_of_list_distinct alike, perm.mem_iff]

end get

end OrderedMap

end EconomicImpact
