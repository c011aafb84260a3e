import EconomicImpact.Fault
import EconomicImpact.Scalar

set_option autoImplicit false

namespace EconomicImpact

def position? {n : Nat} (order : Vector String n) (code : String) : Option (Fin n) :=
  (List.finRange n).find? fun i => order.get i == code

def firstRepeat? : List String → Option String :=
  go []
where
  go (seen : List String) : List String → Option String
    | [] => none
    | code :: rest => if code ∈ seen then some code else go (code :: seen) rest

structure SectorVector (α : Type) where
  entries : List (String × α)
  deriving BEq, DecidableEq, Repr

namespace SectorVector

variable {α β : Type}

def size (v : SectorVector α) : Nat := v.entries.length

def isEmpty (v : SectorVector α) : Bool := v.entries.isEmpty

def codes (v : SectorVector α) : Vector String v.size :=
  ⟨(v.entries.map (·.1)).toArray, by simp [size]⟩

def values (v : SectorVector α) : Vector α v.size :=
  ⟨(v.entries.map (·.2)).toArray, by simp [size]⟩

def ofZip (codes : List String) (values : List α) : SectorVector α := ⟨codes.zip values⟩

def ofAligned {n : Nat} (codes : Vector String n) (values : Vector α n) : SectorVector α :=
  ofZip codes.toList values.toList

def zeros [Zero α] (codes : List String) : SectorVector α := ⟨codes.map fun code => (code, 0)⟩

def map (f : α → β) (v : SectorVector α) : SectorVector β :=
  ⟨v.entries.map fun (code, value) => (code, f value)⟩

def ofPairs (pairs : List (String × α)) : Except (Fault α) (SectorVector α) :=
  match firstRepeat? (pairs.map (·.1)) with
  | some code => .error (.invalidModel (.duplicateVectorSector code))
  | none => .ok ⟨pairs⟩

def ofLists (codes : List String) (values : List α) : Except (Fault α) (SectorVector α) :=
  if codes.length = values.length then ofPairs (codes.zip values)
  else .error (.dimensionMismatch "sector vector values" codes.length values.length)

def get? (v : SectorVector α) (code : String) : Option α :=
  (v.entries.find? (·.1 == code)).map (·.2)

section scalar

variable [Scalar α] {n : Nat}

def total (v : SectorVector α) : α := Scalar.total (v.entries.map (·.2))

def scale (v : SectorVector α) (factor : α) : SectorVector α := v.map (· * factor)

def alignSparse (v : SectorVector α) (order : Vector String n) : Except (Fault α) (Vector α n) :=
  v.entries.foldlM (fun aligned (code, value) =>
    match position? order code with
    | some i => .ok (aligned.set i value i.isLt)
    | none => .error (.unknownSector code)) (Vector.replicate n 0)

def alignExact (v : SectorVector α) (order : Vector String n) (context : String) :
    Except (Fault α) (Vector α n) :=
  if v.size = n then v.alignSparse order else .error (.dimensionMismatch context n v.size)

def zipWith (f : α → α → α) (v w : SectorVector α) : Except (Fault α) (SectorVector α) := do
  let operand ← w.alignExact v.codes "sector vector operand"
  return ofAligned v.codes (v.values.zipWith f operand)

end scalar

end SectorVector

end EconomicImpact
