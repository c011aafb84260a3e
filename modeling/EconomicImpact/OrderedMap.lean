set_option autoImplicit false

namespace EconomicImpact

class KeyOrder (κ : Type) [LT κ] : Prop where
  trans : ∀ {a b c : κ}, a < b → b < c → a < c
  eq_of_not_lt : ∀ {a b : κ}, ¬a < b → ¬b < a → a = b

instance : KeyOrder Int where
  trans := Int.lt_trans
  eq_of_not_lt notLess notMore := Int.le_antisymm (Int.not_lt.mp notMore) (Int.not_lt.mp notLess)

instance : KeyOrder String where
  trans := String.lt_trans
  eq_of_not_lt notLess notMore :=
    String.le_antisymm (String.not_lt.mp notMore) (String.not_lt.mp notLess)

structure OrderedMap (κ β : Type) [LT κ] where
  entries : List (κ × β)
  ascending : (entries.map (·.1)).Pairwise (· < ·)
  deriving DecidableEq, Repr

instance {κ β : Type} [LT κ] [BEq κ] [BEq β] : BEq (OrderedMap κ β) where
  beq m other := m.entries == other.entries

namespace OrderedMap

variable {κ β γ : Type} [LT κ]

def empty : OrderedMap κ β := ⟨[], .nil⟩

def isEmpty (m : OrderedMap κ β) : Bool := m.entries.isEmpty

def size (m : OrderedMap κ β) : Nat := m.entries.length

def keys (m : OrderedMap κ β) : List κ := m.entries.map (·.1)

def values (m : OrderedMap κ β) : List β := m.entries.map (·.2)

def map (f : β → γ) (m : OrderedMap κ β) : OrderedMap κ γ where
  entries := m.entries.map fun (key, value) => (key, f value)
  ascending := by simpa [Function.comp_def] using m.ascending

section place

variable [DecidableRel (α := κ) (· < ·)]

def place (key : κ) (value : β) : List (κ × β) → List (κ × β)
  | [] => [(key, value)]
  | (k, v) :: rest =>
    if key < k then (key, value) :: (k, v) :: rest
    else if k < key then (k, v) :: place key value rest
    else (key, value) :: rest

variable [KeyOrder κ]

theorem mem_place_keys (key : κ) (value : β) (pairs : List (κ × β)) (k : κ) :
    k ∈ (place key value pairs).map (·.1) ↔ k = key ∨ k ∈ pairs.map (·.1) := by
  induction pairs with
  | nil => simp [place]
  | cons pair rest ih =>
      obtain ⟨first, v⟩ := pair
      rw [place]
      by_cases before : key < first
      · simp [if_pos before]
      by_cases after : first < key
      · rw [if_neg before, if_pos after, List.map_cons, List.mem_cons, ih, List.map_cons,
          List.mem_cons]
        exact or_left_comm
      · have same : first = key := KeyOrder.eq_of_not_lt after before
        rw [if_neg before, if_neg after]
        simp [same]

theorem place_ascending (key : κ) (value : β) (pairs : List (κ × β))
    (ascending : (pairs.map (·.1)).Pairwise (· < ·)) :
    ((place key value pairs).map (·.1)).Pairwise (· < ·) := by
  induction pairs with
  | nil => simp [place]
  | cons pair rest ih =>
      obtain ⟨first, v⟩ := pair
      obtain ⟨above, later⟩ := List.pairwise_cons.mp ascending
      rw [place]
      by_cases before : key < first
      · rw [if_pos before]
        refine List.pairwise_cons.mpr ⟨fun k member => ?_, ascending⟩
        rcases List.mem_cons.mp member with rfl | member
        · exact before
        · exact KeyOrder.trans before (above k member)
      by_cases after : first < key
      · rw [if_neg before, if_pos after]
        refine List.pairwise_cons.mpr ⟨fun k member => ?_, ih later⟩
        rcases (mem_place_keys key value rest k).mp member with rfl | member
        · exact after
        · exact above k member
      · have same : first = key := KeyOrder.eq_of_not_lt after before
        rw [if_neg before, if_neg after, ← same]
        exact ascending

def insert (m : OrderedMap κ β) (key : κ) (value : β) : OrderedMap κ β :=
  ⟨place key value m.entries, place_ascending key value m.entries m.ascending⟩

def ofList (pairs : List (κ × β)) : OrderedMap κ β :=
  pairs.foldl (fun m (key, value) => m.insert key value) empty

end place

variable [BEq κ]

def get? (m : OrderedMap κ β) (key : κ) : Option β :=
  (m.entries.find? (·.1 == key)).map (·.2)

def contains (m : OrderedMap κ β) (key : κ) : Bool :=
  m.entries.any (·.1 == key)

end OrderedMap

end EconomicImpact
