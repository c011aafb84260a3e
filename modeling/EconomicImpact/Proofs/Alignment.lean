import Mathlib
import EconomicImpact.Proofs.Reordering.Vector
import EconomicImpact.Satellite

set_option autoImplicit false

namespace EconomicImpact

variable {α : Type} {n : Nat} {order : Vector String n}

theorem codes_distinct (distinct : order.toList.Nodup) : Function.Injective order.get := by
  rwa [to_list_eq_of_fn, List.nodup_ofFn] at distinct

theorem mem_order_iff (code : String) : code ∈ order.toList ↔ ∃ i, order.get i = code := by
  rw [to_list_eq_of_fn, List.mem_ofFn]

theorem position_known_iff (code : String) :
    (∃ i, position? order code = some i) ↔ code ∈ order.toList := by
  rw [mem_order_iff]
  constructor
  · rintro ⟨i, found⟩
    exact ⟨i, get_of_position code i found⟩
  · rintro ⟨i, named⟩
    refine Option.ne_none_iff_exists'.mp fun absent => ?_
    exact List.find?_eq_none.mp absent i (List.mem_finRange i) (beq_iff_eq.mpr named)

namespace SectorVector

def Covers (v : SectorVector α) (codes : List String) : Prop := (v.entries.map (·.1)).Perm codes

instance (v : SectorVector α) (codes : List String) : Decidable (v.Covers codes) :=
  inferInstanceAs (Decidable (List.Perm _ _))

theorem Covers.get_some {v : SectorVector α} (covers : v.Covers order.toList) (i : Fin n) :
    ∃ a, v.get? (order.get i) = some a := by
  have named : order.get i ∈ v.entries.map (·.1) :=
    covers.mem_iff.mpr ((mem_order_iff _).mpr ⟨i, rfl⟩)
  obtain ⟨entry, listed, same⟩ := List.mem_map.mp named
  refine Option.ne_none_iff_exists'.mp fun absent => ?_
  have missing := List.find?_eq_none.mp (Option.map_eq_none_iff.mp absent) entry listed
  exact missing (beq_iff_eq.mpr same)

theorem Covers.align_exact [Scalar α] {v : SectorVector α} (covers : v.Covers order.toList)
    (distinct : order.toList.Nodup) (context : String) :
    ∃ a, v.alignExact order context = .ok a ∧ ∀ i, v.get? (order.get i) = some (a.get i) := by
  have size : v.size = n := by simpa [size] using covers.length_eq
  have known : ∀ entry ∈ v.entries, ∃ i, order.get i = entry.1 := fun entry listed =>
    (mem_order_iff _).mp (covers.mem_iff.mp (List.mem_map_of_mem listed))
  obtain ⟨a, aligned, values⟩ := v.align_onto_known (codes_distinct distinct)
    (covers.nodup_iff.mpr distinct) known (Vector.replicate n 0)
  refine ⟨a, ?_, fun i => ?_⟩
  · rw [alignExact, if_pos size]
    exact aligned
  · obtain ⟨value, found⟩ := covers.get_some i
    rw [values, found]
    rfl

theorem Covers.get_iff {v : SectorVector α} (covers : v.Covers order.toList) {values : Vector α n}
    (given : ∀ i, v.get? (order.get i) = some (values.get i)) (code : String) (value : α) :
    v.get? code = some value ↔ ∃ i, order.get i = code ∧ values.get i = value := by
  constructor
  · intro listed
    obtain ⟨entry, first, -⟩ := Option.map_eq_some_iff.mp listed
    have same := List.find?_some first
    have named := covers.mem_iff.mp (List.mem_map_of_mem (List.mem_of_find?_eq_some first))
    rw [eq_of_beq same] at named
    obtain ⟨i, here⟩ := (mem_order_iff code).mp named
    rw [← here, given] at listed
    exact ⟨i, here, Option.some.inj listed⟩
  · rintro ⟨i, rfl, rfl⟩
    exact given i

theorem covers_iff {v : SectorVector α} {codes : List String}
    (once : (v.entries.map (·.1)).Nodup) (distinct : codes.Nodup) :
    v.Covers codes ↔ ∀ code, code ∈ v.entries.map (·.1) ↔ code ∈ codes :=
  List.perm_ext_iff_of_nodup once distinct

-- As many distinct codes as the order has, all of them in it, leave no place of the order free.
theorem covers_of_size {v : SectorVector α} (once : (v.entries.map (·.1)).Nodup)
    (known : ∀ code ∈ v.entries.map (·.1), code ∈ order.toList) (size : v.size = n) :
    v.Covers order.toList := by
  refine (once.subperm known).perm_of_length_le ?_
  rw [Vector.length_toList, List.length_map]
  exact size.ge

def firstUnknown? (v : SectorVector α) (order : Vector String n) : Option String :=
  (v.entries.map (·.1)).find? (· ∉ order.toList)

theorem first_unknown_none_iff (v : SectorVector α) (order : Vector String n) :
    v.firstUnknown? order = none ↔ ∀ code ∈ v.entries.map (·.1), code ∈ order.toList := by
  rw [firstUnknown?, List.find?_eq_none]
  simp only [decide_not, Bool.not_eq_true', decide_eq_false_iff_not, not_not]

theorem align_onto_error_iff (v : SectorVector α) (start : Vector α n) (fault : Fault α) :
    v.alignOnto order start = .error fault ↔
      ∃ code, v.firstUnknown? order = some code ∧ fault = .unknownSector code := by
  obtain ⟨entries⟩ := v
  induction entries generalizing start with
  | nil =>
      constructor
      · intro failed
        cases failed
      · rintro ⟨code, unknown, -⟩
        cases unknown
  | cons entry rest ih =>
      obtain ⟨code, value⟩ := entry
      have here : (∃ i, position? order code = some i) ↔ code ∈ order.toList :=
        position_known_iff code
      rw [align_onto_cons]
      cases place : position? order code with
      | some i =>
          have skipped : firstUnknown? ⟨(code, value) :: rest⟩ order = firstUnknown? ⟨rest⟩ order :=
            List.find?_cons_of_neg (by simpa using here.mp ⟨i, place⟩)
          rw [skipped]
          exact ih _
      | none =>
          have absent : code ∉ order.toList := fun listed => by
            obtain ⟨i, found⟩ := here.mpr listed
            rw [place] at found
            cases found
          have first : firstUnknown? ⟨(code, value) :: rest⟩ order = some code :=
            List.find?_cons_of_pos (by simpa using absent)
          simp only [first, Option.some.injEq, Except.error.injEq]
          constructor
          · rintro rfl
            exact ⟨code, rfl, rfl⟩
          · rintro ⟨_, rfl, rfl⟩
            rfl

section align

variable [Scalar α] (v : SectorVector α)

theorem align_sparse_error_iff (fault : Fault α) :
    v.alignSparse order = .error fault ↔
      ∃ code, v.firstUnknown? order = some code ∧ fault = .unknownSector code :=
  v.align_onto_error_iff _ fault

theorem align_sparse_ok_iff :
    (∃ a, v.alignSparse order = .ok a) ↔
      ∀ code ∈ v.entries.map (·.1), code ∈ order.toList := by
  rw [← first_unknown_none_iff]
  cases aligned : v.alignSparse order with
  | ok a =>
      refine ⟨fun _ => Option.eq_none_iff_forall_ne_some.mpr fun code unknown => ?_, fun _ => ⟨a, rfl⟩⟩
      have failed := (v.align_sparse_error_iff _).mpr ⟨code, unknown, rfl⟩
      rw [aligned] at failed
      cases failed
  | error fault =>
      obtain ⟨code, unknown, -⟩ := (v.align_sparse_error_iff fault).mp aligned
      rw [unknown]
      constructor
      · rintro ⟨a, impossible⟩
        cases impossible
      · intro impossible
        cases impossible

theorem align_sparse_get (distinct : order.toList.Nodup) (once : (v.entries.map (·.1)).Nodup)
    {a : Vector α n} (aligned : v.alignSparse order = .ok a) (i : Fin n) :
    a.get i = (v.get? (order.get i)).getD 0 := by
  have known : ∀ entry ∈ v.entries, ∃ i, order.get i = entry.1 := fun entry listed =>
    (mem_order_iff _).mp (v.align_sparse_ok_iff.mp ⟨a, aligned⟩ _ (List.mem_map_of_mem listed))
  obtain ⟨b, same, values⟩ :=
    v.align_onto_known (codes_distinct distinct) once known (Vector.replicate n 0)
  cases aligned.symm.trans same
  rw [values]
  simp [Vector.get_eq_getElem]

theorem align_exact_covers (once : (v.entries.map (·.1)).Nodup) {context : String}
    {a : Vector α n} (aligned : v.alignExact order context = .ok a) : v.Covers order.toList := by
  unfold alignExact at aligned
  by_cases size : v.size = n
  · rw [if_pos size] at aligned
    exact covers_of_size once (v.align_sparse_ok_iff.mp ⟨a, aligned⟩) size
  · rw [if_neg size] at aligned
    cases aligned

theorem align_exact_ok_iff (distinct : order.toList.Nodup) (once : (v.entries.map (·.1)).Nodup)
    (context : String) : (∃ a, v.alignExact order context = .ok a) ↔ v.Covers order.toList := by
  constructor
  · rintro ⟨a, aligned⟩
    exact v.align_exact_covers once aligned
  · intro covers
    obtain ⟨a, aligned, -⟩ := covers.align_exact distinct context
    exact ⟨a, aligned⟩

theorem align_exact_error_iff (context : String) (fault : Fault α) :
    v.alignExact order context = .error fault ↔
      (v.size ≠ n ∧ fault = .dimensionMismatch context n v.size) ∨
        (v.size = n ∧ ∃ code, v.firstUnknown? order = some code ∧ fault = .unknownSector code) := by
  unfold alignExact
  by_cases size : v.size = n
  · rw [if_pos size, align_sparse_error_iff]
    simp only [size, ne_eq, not_true_eq_false, false_and, false_or, true_and]
  · rw [if_neg size]
    simp only [size, ne_eq, not_false_eq_true, true_and, false_and, or_false, Except.error.injEq]
    exact eq_comm

end align

section combination

variable [Scalar α] {v w r : SectorVector α} {f : α → α → α}

omit [Scalar α] in
theorem codes_to_list (v : SectorVector α) : v.codes.toList = v.entries.map (·.1) := rfl

omit [Scalar α] in
theorem mem_entries_iff (v : SectorVector α) (entry : String × α) :
    entry ∈ v.entries ↔ ∃ i, entry = (v.codes.get i, v.values.get i) := by
  have aligned := mem_of_aligned_iff v.codes v.values entry
  rwa [of_aligned_self] at aligned

theorem zip_with_ok_iff :
    zipWith f v w = .ok r ↔
      ∃ operand, w.alignExact v.codes "sector vector operand" = .ok operand ∧
        ofAligned v.codes (v.values.zipWith f operand) = r := by
  unfold zipWith
  simp only [Outcome.bind_ok_iff, Outcome.pure_ok_iff]

omit [Scalar α] in
theorem get_code (once : (v.entries.map (·.1)).Nodup) (i : Fin v.size) :
    v.get? (v.codes.get i) = some (v.values.get i) :=
  (get_eq_some_iff once _ _).mpr ((v.mem_entries_iff _).mpr ⟨i, rfl⟩)

theorem combined_codes (combined : zipWith f v w = .ok r) :
    r.entries.map (·.1) = v.entries.map (·.1) := by
  obtain ⟨operand, -, rfl⟩ := zip_with_ok_iff.mp combined
  rw [codes_of_aligned, codes_to_list]

theorem combined_operand (once : (v.entries.map (·.1)).Nodup)
    (covers : w.Covers (v.entries.map (·.1))) :
    ∃ operand, w.alignExact v.codes "sector vector operand" = .ok operand ∧
      ∀ i, w.get? (v.codes.get i) = some (operand.get i) := by
  rw [← codes_to_list] at once covers
  exact covers.align_exact once _

theorem combined_covers (onceOther : (w.entries.map (·.1)).Nodup)
    (combined : zipWith f v w = .ok r) : w.Covers (v.entries.map (·.1)) := by
  obtain ⟨operand, aligned, -⟩ := zip_with_ok_iff.mp combined
  rw [← codes_to_list]
  exact w.align_exact_covers onceOther aligned

theorem combined_get (once : (v.entries.map (·.1)).Nodup)
    (onceOther : (w.entries.map (·.1)).Nodup) (combined : zipWith f v w = .ok r) (code : String) :
    r.get? code = Option.map₂ f (v.get? code) (w.get? code) := by
  have onceResult : (r.entries.map (·.1)).Nodup := by rwa [combined_codes combined]
  obtain ⟨operand, aligned, values⟩ := combined_operand once (combined_covers onceOther combined)
  obtain ⟨other, same, rfl⟩ := zip_with_ok_iff.mp combined
  cases aligned.symm.trans same
  refine Option.ext fun c => ?_
  rw [get_eq_some_iff onceResult, mem_of_aligned_iff, Option.map₂_eq_some_iff]
  constructor
  · rintro ⟨i, entry⟩
    obtain ⟨rfl, rfl⟩ := Prod.mk.inj entry
    exact ⟨_, _, get_code once i, values i, (get_zip_with f _ _ i).symm⟩
  · rintro ⟨a, b, own, given, rfl⟩
    obtain ⟨i, entry⟩ := (v.mem_entries_iff _).mp ((get_eq_some_iff once code a).mp own)
    obtain ⟨rfl, rfl⟩ := Prod.mk.inj entry
    cases (values i).symm.trans given
    exact ⟨i, by rw [get_zip_with]⟩

omit [Scalar α] in
theorem alike_of_get_eq (once : (v.entries.map (·.1)).Nodup)
    (onceOther : (w.entries.map (·.1)).Nodup) (same : ∀ code, v.get? code = w.get? code) :
    v.Alike w := by
  refine ⟨once, (List.perm_ext_iff_of_nodup once.of_map onceOther.of_map).mpr fun entry => ?_⟩
  rw [← get_eq_some_iff once, ← get_eq_some_iff onceOther, same]

theorem Alike.combined {v' w' : SectorVector α} (first : v.Alike v') (second : w.Alike w')
    (combined : zipWith f v w = .ok r) : ∃ r', zipWith f v' w' = .ok r' ∧ r.Alike r' := by
  have covers : w'.Covers (v'.entries.map (·.1)) :=
    (second.perm.map _).symm.trans
      ((combined_covers second.distinct combined).trans (first.perm.map _))
  obtain ⟨operand, aligned, -⟩ := combined_operand first.other_distinct covers
  have again : zipWith f v' w' = .ok _ := zip_with_ok_iff.mpr ⟨operand, aligned, rfl⟩
  refine ⟨_, again, alike_of_get_eq ?_ ?_ fun code => ?_⟩
  · rw [combined_codes combined]
    exact first.distinct
  · rw [combined_codes again]
    exact first.other_distinct
  · rw [combined_get first.distinct second.distinct combined,
      combined_get first.other_distinct second.other_distinct again, first.get_eq, second.get_eq]

theorem Alike.combined_operand (once : (v.entries.map (·.1)).Nodup) {w' : SectorVector α}
    (alike : w.Alike w') (combined : zipWith f v w = .ok r) : zipWith f v w' = .ok r := by
  have covers := combined_covers alike.distinct combined
  obtain ⟨operand, aligned, values⟩ := SectorVector.combined_operand once covers
  obtain ⟨other, alignedOther, valuesOther⟩ :=
    SectorVector.combined_operand once ((alike.perm.map _).symm.trans covers)
  obtain ⟨used, same, rfl⟩ := zip_with_ok_iff.mp combined
  cases aligned.symm.trans same
  have equal : other = operand := vector_ext_get fun i =>
    Option.some.inj ((valuesOther i).symm.trans ((alike.get_eq _).symm.trans (values i)))
  exact zip_with_ok_iff.mpr ⟨other, alignedOther, by rw [equal]⟩

end combination

structure AlignsByCode [Scalar α] (v : SectorVector α) (order : Vector String n)
    (context : String) : Prop where
  exact_ok : (∃ a, v.alignExact order context = .ok a) ↔
    ∀ code, code ∈ v.entries.map (·.1) ↔ code ∈ order.toList
  exact_error : ∀ fault, v.alignExact order context = .error fault ↔
    (v.size ≠ n ∧ fault = .dimensionMismatch context n v.size) ∨
      (v.size = n ∧ ∃ code, v.firstUnknown? order = some code ∧ fault = .unknownSector code)
  exact_values : ∀ a, v.alignExact order context = .ok a →
    ∀ i, v.get? (order.get i) = some (a.get i)
  sparse_ok : (∃ a, v.alignSparse order = .ok a) ↔
    ∀ code ∈ v.entries.map (·.1), code ∈ order.toList
  sparse_error : ∀ fault, v.alignSparse order = .error fault ↔
    ∃ code, v.firstUnknown? order = some code ∧ fault = .unknownSector code
  sparse_values : ∀ a, v.alignSparse order = .ok a →
    ∀ i, a.get i = (v.get? (order.get i)).getD 0

structure CombinesByCode [Scalar α] (f : α → α → α) (v w r : SectorVector α) : Prop where
  values : ∀ code, r.get? code = Option.map₂ f (v.get? code) (w.get? code)
  operand_order : ∀ w', w.entries.Perm w'.entries → zipWith f v w' = .ok r
  own_order : ∀ v', v.entries.Perm v'.entries → ∃ r', zipWith f v' w = .ok r' ∧
    r'.entries.map (·.1) = v'.entries.map (·.1) ∧ r.entries.Perm r'.entries

theorem alignment_by_code [Scalar α] (f : α → α → α) (v w : SectorVector α)
    (order : Vector String n) (context : String) (distinct : order.toList.Nodup)
    (once : (v.entries.map (·.1)).Nodup) (onceOther : (w.entries.map (·.1)).Nodup) :
    v.AlignsByCode order context ∧
      ((∃ r, zipWith f v w = .ok r) ↔
        ∀ code, code ∈ v.entries.map (·.1) ↔ code ∈ w.entries.map (·.1)) ∧
      ∀ r, zipWith f v w = .ok r → CombinesByCode f v w r := by
  refine ⟨?_, ?_, fun r combined => ?_⟩
  · exact {
      exact_ok := (v.align_exact_ok_iff distinct once context).trans (covers_iff once distinct)
      exact_error := v.align_exact_error_iff context
      exact_values := fun a aligned i => by
        obtain ⟨b, same, values⟩ :=
          (v.align_exact_covers once aligned).align_exact distinct context
        cases aligned.symm.trans same
        exact values i
      sparse_ok := v.align_sparse_ok_iff
      sparse_error := v.align_sparse_error_iff
      sparse_values := fun a aligned => v.align_sparse_get distinct once aligned }
  · have covers : w.Covers (v.entries.map (·.1)) ↔
        ∀ code, code ∈ v.entries.map (·.1) ↔ code ∈ w.entries.map (·.1) :=
      (covers_iff onceOther once).trans (forall_congr' fun _ => Iff.comm)
    rw [← covers]
    constructor
    · rintro ⟨r, combined⟩
      exact combined_covers onceOther combined
    · intro covered
      obtain ⟨operand, aligned, -⟩ := combined_operand once covered
      exact ⟨_, zip_with_ok_iff.mpr ⟨operand, aligned, rfl⟩⟩
  · exact {
      values := combined_get once onceOther combined
      operand_order := fun w' perm => Alike.combined_operand once ⟨onceOther, perm⟩ combined
      own_order := fun v' perm => by
        obtain ⟨r', again, alike⟩ :=
          Alike.combined ⟨once, perm⟩ ⟨onceOther, List.Perm.refl _⟩ combined
        exact ⟨r', again, combined_codes again, alike.perm⟩ }

def northFirst : SectorVector ℚ := ⟨[("North", 1), ("South", 2)]⟩

def southFirst : SectorVector ℚ := ⟨[("South", 10), ("North", 20)]⟩

theorem opposite_orders_combine :
    (northFirst.entries.map (·.1)).Nodup ∧ (southFirst.entries.map (·.1)).Nodup ∧
      (#v["South", "North"] : Vector String 2).toList.Nodup ∧
      (∃ a, northFirst.alignExact #v["South", "North"] "sectors" = .ok a) ∧
      ∃ r, zipWith (· + ·) northFirst southFirst = .ok r ∧ r.get? "North" = some 21 ∧
        zipWith (· + ·) northFirst ⟨[("North", 20), ("South", 10)]⟩ = .ok r := by
  have once : (northFirst.entries.map (·.1)).Nodup := by decide
  have onceOther : (southFirst.entries.map (·.1)).Nodup := by decide
  have distinct : (#v["South", "North"] : Vector String 2).toList.Nodup := by decide
  obtain ⟨aligns, combines, each⟩ := alignment_by_code (· + ·) northFirst southFirst
    #v["South", "North"] "sectors" distinct once onceOther
  have same (code : String) :
      code ∈ northFirst.entries.map (·.1) ↔ code ∈ southFirst.entries.map (·.1) := by
    simp [northFirst, southFirst, or_comm]
  obtain ⟨r, combined⟩ := combines.mpr same
  refine ⟨once, onceOther, distinct, aligns.exact_ok.mpr same, r, combined, ?_, ?_⟩
  · rw [(each r combined).values]
    decide +kernel
  · exact (each r combined).operand_order _ (List.Perm.swap _ _ _)

end SectorVector

structure Coefficients.Covers (c : Coefficients α) (codes : List String) : Prop where
  jobs : c.jobs.Covers codes
  imports : c.imports.Covers codes
  valueAdded : c.valueAdded.Covers codes

instance (c : Coefficients α) (codes : List String) : Decidable (c.Covers codes) :=
  decidable_of_iff (c.jobs.Covers codes ∧ c.imports.Covers codes ∧ c.valueAdded.Covers codes)
    ⟨fun ⟨jobs, imports, valueAdded⟩ => ⟨jobs, imports, valueAdded⟩,
      fun covers => ⟨covers.jobs, covers.imports, covers.valueAdded⟩⟩

def Coefficients.ratio (c : Coefficients α) : Ratio → SectorVector α
  | .jobs => c.jobs
  | .imports => c.imports
  | .valueAdded => c.valueAdded

theorem Coefficients.Covers.ratio {c : Coefficients α} {codes : List String}
    (covers : c.Covers codes) (ratio : Ratio) : (c.ratio ratio).Covers codes := by
  cases ratio with
  | jobs => exact covers.jobs
  | imports => exact covers.imports
  | valueAdded => exact covers.valueAdded

def AlignedCoefficients.ofValues [Scalar α] (order : Vector String n)
    (values : Ratio → Vector α n) : AlignedCoefficients α n where
  jobs := (values .jobs).map Coefficients.sanitize
  imports := (values .imports).map Coefficients.sanitize
  valueAdded := (values .valueAdded).map Coefficients.sanitize
  findings := Coefficients.findings .jobs order (values .jobs) ++
    Coefficients.findings .imports order (values .imports) ++
      Coefficients.findings .valueAdded order (values .valueAdded)

theorem Coefficients.Covers.align_values [Scalar α] {c : Coefficients α}
    (covers : c.Covers order.toList) (distinct : order.toList.Nodup) :
    ∃ values : Ratio → Vector α n,
      (∀ ratio i, (c.ratio ratio).get? (order.get i) = some ((values ratio).get i)) ∧
        c.align order = .ok (.ofValues order values) := by
  have each (ratio : Ratio) := (covers.ratio ratio).align_exact distinct ratio.name
  choose values aligned found using each
  have jobs : c.jobs.alignExact order Ratio.jobs.name = .ok (values .jobs) := aligned .jobs
  have imports : c.imports.alignExact order Ratio.imports.name = .ok (values .imports) :=
    aligned .imports
  have valueAdded : c.valueAdded.alignExact order Ratio.valueAdded.name =
      .ok (values .valueAdded) := aligned .valueAdded
  refine ⟨values, found, ?_⟩
  unfold Coefficients.align
  rw [jobs, imports, valueAdded]
  rfl

theorem Coefficients.Covers.align [Scalar α] {c : Coefficients α}
    (covers : c.Covers order.toList) (distinct : order.toList.Nodup) :
    ∃ aligned, c.align order = .ok aligned ∧
      ∀ i, (c.jobs.get? (order.get i)).map sanitize = some (aligned.jobs.get i) := by
  obtain ⟨values, found, aligned⟩ := covers.align_values distinct
  refine ⟨_, aligned, fun i => ?_⟩
  have here : c.jobs.get? (order.get i) = some ((values .jobs).get i) := found .jobs i
  rw [here]
  simp [AlignedCoefficients.ofValues, Vector.get_eq_getElem]

end EconomicImpact
