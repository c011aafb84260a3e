import Mathlib
import EconomicImpact.Proofs.Reordering.Model
import EconomicImpact.Proofs.Uuid

set_option autoImplicit false

namespace EconomicImpact

section blocks

variable {β : Type} {width : Nat} {blocks others : List (List β)}

theorem flatten_length (even : ∀ block ∈ blocks, block.length = width) :
    blocks.flatten.length = blocks.length * width := by
  rw [List.length_flatten, List.map_eq_replicate_iff.mpr even, List.sum_replicate, smul_eq_mul]

theorem blocks_of_flatten (even : ∀ block ∈ blocks, block.length = width)
    (otherEven : ∀ block ∈ others, block.length = width) (count : blocks.length = others.length)
    (same : blocks.flatten = others.flatten) : blocks = others := by
  refine List.eq_iff_flatten_eq.mpr ⟨same, ?_⟩
  rw [List.map_eq_replicate_iff.mpr even, List.map_eq_replicate_iff.mpr otherEven, count]

end blocks

theorem square_with_margin_injective : Function.Injective fun n : Nat => n * n + n := by
  refine (strictMono_nat_of_lt_succ fun n => ?_).injective
  show n * n + n < (n + 1) * (n + 1) + (n + 1)
  nlinarith

namespace Economy

theorem bytes_little_endian_length (bits : UInt64) : (bytesLittleEndian bits).length = 8 := rfl

theorem bytes_little_endian_injective : Function.Injective bytesLittleEndian := by
  intro a b same
  have digit (i : Nat) (place : i < 8) :
      a.toNat / 256 ^ i % 256 = b.toNat / 256 ^ i % 256 := by
    have byte := List.map_inj_left.mp same i (List.mem_range.mpr place)
    simpa using congrArg UInt8.toNat byte
  -- From the lowest digit up, the numbers agree on one digit more.
  have low (count : Nat) (inside : count ≤ 8) : a.toNat % 256 ^ count = b.toNat % 256 ^ count := by
    induction count with
    | zero => rw [pow_zero, Nat.mod_one, Nat.mod_one]
    | succ count ih =>
        rw [Nat.mod_pow_succ, Nat.mod_pow_succ, ih (by omega), digit count (by omega)]
  have whole : a.toNat % 2 ^ 64 = b.toNat % 2 ^ 64 := low 8 le_rfl
  rw [Nat.mod_eq_of_lt a.toNat_lt, Nat.mod_eq_of_lt b.toNat_lt] at whole
  exact UInt64.toNat_inj.mp whole

theorem words_of_bytes {words others : List UInt64}
    (same : words.flatMap bytesLittleEndian = others.flatMap bytesLittleEndian) :
    words = others := by
  have even (words : List UInt64) : ∀ block ∈ words.map bytesLittleEndian, block.length = 8 := by
    intro block member
    obtain ⟨bits, -, rfl⟩ := List.mem_map.mp member
    exact bytes_little_endian_length bits
  rw [List.flatMap_def, List.flatMap_def] at same
  have count := congrArg List.length same
  rw [flatten_length (even words), flatten_length (even others), List.length_map,
    List.length_map] at count
  have blocks := blocks_of_flatten (even words) (even others)
    (by simpa using Nat.eq_of_mul_eq_mul_right (by decide) count) same
  exact List.map_injective_iff.mpr bytes_little_endian_injective blocks

end Economy

namespace Snapshot

variable {α : Type} [BitImage α]

def flowBits (s : Snapshot α) : List (List UInt64) := s.flows.map (·.map BitImage.bits)

def outputBits (s : Snapshot α) : List UInt64 := s.output.map BitImage.bits

section square

variable [Scalar α] {s t : Snapshot α}

theorem Checked.flow_bits_rows (checked : s.Checked) : s.flowBits.length = s.output.length :=
  (List.length_map _).trans checked.rows

theorem Checked.flow_bits_columns (checked : s.Checked) :
    ∀ row ∈ s.flowBits, row.length = s.output.length := by
  intro row member
  obtain ⟨flows, listed, rfl⟩ := List.mem_map.mp member
  exact (List.length_map _).trans (checked.columns flows listed)

theorem Checked.words_length (checked : s.Checked) :
    (s.flowBits.flatten ++ s.outputBits).length =
      s.output.length * s.output.length + s.output.length := by
  rw [List.length_append, flatten_length checked.flow_bits_columns, checked.flow_bits_rows,
    outputBits, List.length_map]

-- The words in a row tell the size, and the size where the rows and the output begin.
theorem Checked.parts_of_words (checked : s.Checked) (other : t.Checked)
    (same : s.flowBits.flatten ++ s.outputBits = t.flowBits.flatten ++ t.outputBits) :
    s.output.length = t.output.length ∧ s.flowBits = t.flowBits ∧ s.outputBits = t.outputBits := by
  have size : s.output.length = t.output.length := by
    have length := congrArg List.length same
    rw [checked.words_length, other.words_length] at length
    exact square_with_margin_injective length
  have margins : s.outputBits.length = t.outputBits.length := by
    simpa [outputBits] using size
  obtain ⟨flows, output⟩ := List.append_inj' same margins
  have rows : s.flowBits.length = t.flowBits.length := by
    rw [checked.flow_bits_rows, other.flow_bits_rows, size]
  refine ⟨size, ?_, output⟩
  exact blocks_of_flatten checked.flow_bits_columns (size ▸ other.flow_bits_columns) rows flows

end square

end Snapshot

namespace Economy

variable {α : Type} [Scalar α] [SpectralRoutine α] [BitImage α]

omit [BitImage α] in
theorem size_of_snapshot {s : Snapshot α} {e : Economy α} (accepted : ofSnapshot s = .ok e) :
    e.size = s.output.length := by
  obtain ⟨checked, rfl, -⟩ := checked_of_snapshot s e accepted
  rfl

theorem image_of_snapshot {s : Snapshot α} {e : Economy α} (accepted : ofSnapshot s = .ok e) :
    e.image = (s.flowBits.flatten ++ s.outputBits).flatMap bytesLittleEndian := by
  rw [eq_snapshot s e accepted, Snapshot.flowBits, Snapshot.outputBits, ← List.map_flatten,
    ← List.map_append, List.flatMap_map]
  rfl

omit [Scalar α] [SpectralRoutine α] in
theorem checksum_eq_iff {e f : Economy α} :
    e.checksum = f.checksum ↔ Sha256.digest e.image = Sha256.digest f.image := by
  rw [checksum, checksum, String.append_right_inj, Uuid.hex_text_injective.eq_iff]

-- The digest is only asked to tell these two images apart: no digest tells all images apart.
theorem checksums_tell_models_apart (s t : Snapshot α) (e f : Economy α)
    (first : ofSnapshot s = .ok e) (second : ofSnapshot t = .ok f)
    (collisionFree : Set.InjOn Sha256.digest {e.image, f.image}) :
    e.checksum = f.checksum ↔
      e.size = f.size ∧ s.flowBits = t.flowBits ∧ s.outputBits = t.outputBits := by
  obtain ⟨checked, -, -⟩ := checked_of_snapshot s e first
  obtain ⟨other, -, -⟩ := checked_of_snapshot t f second
  rw [checksum_eq_iff, collisionFree.eq_iff (by simp) (by simp), image_of_snapshot first,
    image_of_snapshot second, size_of_snapshot first, size_of_snapshot second]
  constructor
  · exact fun bytes => checked.parts_of_words other (words_of_bytes bytes)
  · rintro ⟨-, flows, output⟩
    rw [flows, output]

def oneSector (code : String) (flow : Float) : Snapshot Float where
  sectorCodes := [code]
  flows := [[flow]]
  output := [10]
  baseYear := 2020
  denomination := defaultDenomination

def twoSectors : Snapshot Float where
  sectorCodes := ["S1", "S2"]
  flows := [[0, 10], [0, 0]]
  output := [10, 20]
  baseYear := 2020
  denomination := defaultDenomination

theorem zero_signs_and_sizes_told_apart :
    ∃ plain renamed negative larger,
      ofSnapshot (oneSector "S1" 0) = .ok plain ∧ ofSnapshot (oneSector "S2" 0) = .ok renamed ∧
      ofSnapshot (oneSector "S1" (-0)) = .ok negative ∧ ofSnapshot twoSectors = .ok larger ∧
      plain.checksum = renamed.checksum ∧ plain.checksum ≠ negative.checksum ∧
      plain.checksum ≠ larger.checksum := by
  have accepted (s : Snapshot Float) (some : (ofSnapshot s).toOption.any (fun _ => true) = true) :
      ∃ e, ofSnapshot s = .ok e := by
    obtain ⟨e, made, -⟩ := (Outcome.any_ok_iff _ _).mp some
    exact ⟨e, made⟩
  obtain ⟨plain, first⟩ := accepted (oneSector "S1" 0) (by decide +kernel)
  obtain ⟨renamed, second⟩ := accepted (oneSector "S2" 0) (by decide +kernel)
  obtain ⟨negative, third⟩ := accepted (oneSector "S1" (-0)) (by decide +kernel)
  obtain ⟨larger, fourth⟩ := accepted twoSectors (by decide +kernel)
  have sameImage : plain.image = renamed.image := by
    rw [image_of_snapshot first, image_of_snapshot second]
    rfl
  have negativeDigest : Sha256.digest plain.image ≠ Sha256.digest negative.image := by
    rw [image_of_snapshot first, image_of_snapshot third]
    decide +kernel
  have largerDigest : Sha256.digest plain.image ≠ Sha256.digest larger.image := by
    rw [image_of_snapshot first, image_of_snapshot fourth]
    decide +kernel
  have sizes : plain.size = renamed.size ∧ plain.size ≠ larger.size := by
    rw [size_of_snapshot first, size_of_snapshot second, size_of_snapshot fourth]
    decide
  have names := checksums_tell_models_apart _ _ _ _ first second
    (Set.injOn_pair.mpr fun _ => sameImage)
  have signs := checksums_tell_models_apart _ _ _ _ first third
    (Set.injOn_pair.mpr fun same => absurd same negativeDigest)
  have lengths := checksums_tell_models_apart _ _ _ _ first fourth
    (Set.injOn_pair.mpr fun same => absurd same largerDigest)
  have signBits : (oneSector "S1" 0).flowBits ≠ (oneSector "S1" (-0)).flowBits := by decide +kernel
  exact ⟨plain, renamed, negative, larger, first, second, third, fourth,
    names.mpr ⟨sizes.1, rfl, rfl⟩, fun same => signBits (signs.mp same).2.1,
    fun same => sizes.2 (lengths.mp same).1⟩

end Economy

end EconomicImpact
