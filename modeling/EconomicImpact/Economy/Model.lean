import EconomicImpact.Digest.Sha256
import EconomicImpact.SectorVector
import EconomicImpact.Table.Spectrum

/-!
Input-output models: the flows between sectors, their gross output, and the technical coefficients
that follow. A model is accepted only if it is productive, which a largest column sum below one
settles at once and the spectral radius settles otherwise.
-/

set_option autoImplicit false

namespace EconomicImpact

class BitImage (α : Type) where
  bits : α → UInt64

instance : BitImage Float := ⟨Float.toBits⟩

structure Snapshot (α : Type) where
  sectorCodes : List String
  flows : List (List α)
  output : List α
  baseYear : Int
  denomination : String

def defaultDenomination : String := "SAR_MILLIONS"

structure Economy (α : Type) where
  size : Nat
  sectors : Vector String size
  flows : Table α size size
  output : Vector α size
  baseYear : Int
  denomination : String

def technicalCoefficients {α : Type} [Scalar α] {m n : Nat} (flows : Table α m n)
    (output : Vector α n) : Table α m n :=
  Table.ofFn fun i j => if Scalar.isZero (output.get j) then 0 else flows.get i j / output.get j

namespace Economy

variable {α : Type}

section

variable [Scalar α]

def coefficients (e : Economy α) : Table α e.size e.size := technicalCoefficients e.flows e.output

def maxColumnSum (e : Economy α) : α :=
  Scalar.greatest (List.ofFn fun j => e.coefficients.columnSum j)

def outputVector (e : Economy α) : SectorVector α := .ofAligned e.sectors e.output

def unusableFlow (v : α) : Bool := !Scalar.isFinite v || decide (v < 0)

def unusableOutput (v : α) : Bool := !Scalar.isFinite v || decide (v ≤ 0)

variable [SpectralRoutine α]

def spectralRadius (e : Economy α) : α := SpectralRoutine.radius e.coefficients

def isProductive (e : Economy α) : Bool :=
  decide (e.maxColumnSum < 1) || decide (e.spectralRadius < 1)

def ofSnapshot (s : Snapshot α) : Except (Fault α) (Economy α) :=
  let n := s.output.length
  if n = 0 then .error (.invalidModel .noSectors)
  else if sameLength : s.sectorCodes.length = n then
    if s.flows.length ≠ n then .error (.dimensionMismatch "Z rows" n s.flows.length)
    else
      match s.flows.find? (·.length ≠ n) with
      | some row => .error (.dimensionMismatch "Z columns" n row.length)
      | none =>
        match firstRepeat? s.sectorCodes with
        | some code => .error (.invalidModel (.duplicateSector code))
        | none =>
          if s.flows.any (·.any unusableFlow) then .error (.invalidModel .unusableFlows)
          else
            match (s.sectorCodes.zip s.output).find? fun (_, v) => unusableOutput v with
            | some (code, v) => .error (.invalidModel (.unusableOutput code v))
            | none =>
              let economy : Economy α := {
                size := n
                sectors := ⟨s.sectorCodes.toArray, by simpa using sameLength⟩
                flows := Table.ofLists n n s.flows
                output := ⟨s.output.toArray, rfl⟩
                baseYear := s.baseYear
                denomination := s.denomination }
              if economy.isProductive then .ok economy
              else .error (.singularSystem (.unproductive economy.spectralRadius))
  else .error (.dimensionMismatch "sector_codes" n s.sectorCodes.length)

end

def sectorIndex (e : Economy α) (code : String) : Except (Fault α) Nat :=
  match position? e.sectors code with
  | some i => .ok i
  | none => .error (.unknownSector code)

def bytesLittleEndian (bits : UInt64) : List UInt8 :=
  (List.range 8).map fun i => UInt8.ofNat (bits.toNat / Nat.pow 256 i)

/-- The flows by rows and then the output, eight bytes each. -/
def image [BitImage α] (e : Economy α) : List UInt8 :=
  (e.flows.toLists.flatten ++ e.output.toList).flatMap fun v => bytesLittleEndian (BitImage.bits v)

def checksum [BitImage α] (e : Economy α) : String :=
  "sha256:" ++ Uuid.hexText (Sha256.digest e.image)

end Economy

end EconomicImpact
