import Mathlib
import EconomicImpact.Proofs.Alignment
import EconomicImpact.Proofs.Scalar.Extended

set_option autoImplicit false

namespace EconomicImpact

def Coefficients.Shuffled {α : Type} (c d : Coefficients α) : Prop :=
  ∀ ratio, (c.ratio ratio).entries.Perm (d.ratio ratio).entries

def CoefficientFinding.place {α : Type} : CoefficientFinding α → Ratio × String
  | nonFinite ratio sector _ => (ratio, sector)
  | outOfRange ratio sector _ => (ratio, sector)

def Ratio.all : List Ratio := [jobs, imports, valueAdded]

theorem Ratio.is_share_iff (ratio : Ratio) : ratio.isShare = true ↔ ratio ≠ .jobs := by
  cases ratio <;> decide

theorem filter_map_sublist {α β γ : Type} (f : α → Option β) (read : β → γ) (image : α → γ)
    (kept : ∀ a b, f a = some b → read b = image a) (l : List α) :
    ((l.filterMap f).map read).Sublist (l.map image) := by
  induction l with
  | nil => exact .slnil
  | cons a rest ih =>
      rw [List.filterMap_cons]
      cases made : f a with
      | none => exact ih.cons _
      | some b =>
          rw [List.map_cons, List.map_cons, kept a b made]
          exact ih.cons_cons _

namespace Coefficients

section findings

variable {α : Type} [Scalar α] {n : Nat} {order : Vector String n}

theorem finding_place {ratio : Ratio} {sector : String} {value : α} {f : CoefficientFinding α}
    (found : finding? ratio sector value = some f) : f.place = (ratio, sector) := by
  unfold finding? at found
  split at found
  · cases found
    rfl
  · split at found
    · cases found
      rfl
    · cases found

theorem finding_non_finite_iff (ratio r : Ratio) (sector s : String) (value v : α) :
    finding? ratio sector value = some (.nonFinite r s v) ↔
      (ratio = r ∧ sector = s ∧ value = v) ∧ Scalar.isFinite value = false := by
  unfold finding?
  cases finite : Scalar.isFinite value with
  | false => simp
  | true =>
      refine iff_of_false ?_ (by simp)
      split <;> simp_all

theorem finding_out_of_range_iff (ratio r : Ratio) (sector s : String) (value v : α) :
    finding? ratio sector value = some (.outOfRange r s v) ↔
      (ratio = r ∧ sector = s ∧ value = v) ∧ Scalar.isFinite value = true ∧ ratio ≠ .jobs ∧
        (value < 0 ∨ 1 < value) := by
  unfold finding?
  rw [← Ratio.is_share_iff]
  cases finite : Scalar.isFinite value with
  | false => simp
  | true =>
      by_cases odd : ratio.isShare = true ∧ (value < 0 ∨ 1 < value)
      · simp [odd]
      · simp [odd]

theorem mem_findings_iff (ratio : Ratio) (order : Vector String n) (values : Vector α n)
    (f : CoefficientFinding α) :
    f ∈ findings ratio order values ↔
      ∃ i, finding? ratio (order.get i) (values.get i) = some f := by
  unfold findings
  simp only [List.mem_filterMap]
  constructor
  · rintro ⟨entry, listed, found⟩
    obtain ⟨i, rfl⟩ := (SectorVector.mem_of_aligned_iff order values entry).mp listed
    exact ⟨i, found⟩
  · rintro ⟨i, found⟩
    exact ⟨_, (SectorVector.mem_of_aligned_iff order values _).mpr ⟨i, rfl⟩, found⟩

theorem findings_in_order (ratio : Ratio) (order : Vector String n) (values : Vector α n) :
    ((findings ratio order values).map (·.place)).Sublist (order.toList.map (ratio, ·)) := by
  have sublist := filter_map_sublist
    (fun entry : String × α => finding? ratio entry.1 entry.2) (·.place) (fun entry => (ratio, entry.1))
    (fun _ _ found => finding_place found) (order.toList.zip values.toList)
  have codes : (order.toList.zip values.toList).map (·.1) = order.toList :=
    SectorVector.codes_of_aligned order values
  rw [← codes, List.map_map]
  exact sublist

theorem findings_of_values_in_order (order : Vector String n) (values : Ratio → Vector α n) :
    ((AlignedCoefficients.ofValues order values).findings.map (·.place)).Sublist
      (Ratio.all ×ˢ order.toList) := by
  have product : Ratio.all ×ˢ order.toList = order.toList.map (Ratio.jobs, ·) ++
      order.toList.map (Ratio.imports, ·) ++ order.toList.map (Ratio.valueAdded, ·) := by
    simp [Ratio.all, SProd.sprod, List.product]
  rw [product, AlignedCoefficients.ofValues, List.map_append, List.map_append]
  exact ((findings_in_order _ _ _).append (findings_in_order _ _ _)).append
    (findings_in_order _ _ _)

theorem mem_findings_of_values_iff (order : Vector String n) (values : Ratio → Vector α n)
    (f : CoefficientFinding α) :
    f ∈ (AlignedCoefficients.ofValues order values).findings ↔
      ∃ ratio i, finding? ratio (order.get i) ((values ratio).get i) = some f := by
  simp only [AlignedCoefficients.ofValues, List.mem_append, mem_findings_iff]
  constructor
  · rintro ((found | found) | found)
    · exact ⟨_, found⟩
    · exact ⟨_, found⟩
    · exact ⟨_, found⟩
  · rintro ⟨ratio, found⟩
    cases ratio with
    | jobs => exact .inl (.inl found)
    | imports => exact .inl (.inr found)
    | valueAdded => exact .inr found

section found

variable {c : Coefficients α} {values : Ratio → Vector α n} (covers : c.Covers order.toList)
  (given : ∀ ratio i, (c.ratio ratio).get? (order.get i) = some ((values ratio).get i))

include covers given

theorem non_finite_found_iff (ratio : Ratio) (code : String) (value : α) :
    .nonFinite ratio code value ∈ (AlignedCoefficients.ofValues order values).findings ↔
      (c.ratio ratio).get? code = some value ∧ Scalar.isFinite value = false := by
  rw [mem_findings_of_values_iff, (covers.ratio ratio).get_iff (given ratio)]
  simp only [finding_non_finite_iff]
  constructor
  · rintro ⟨_, i, ⟨rfl, here, rfl⟩, undefined⟩
    exact ⟨⟨i, here, rfl⟩, undefined⟩
  · rintro ⟨⟨i, here, rfl⟩, undefined⟩
    exact ⟨ratio, i, ⟨rfl, here, rfl⟩, undefined⟩

theorem out_of_range_found_iff (ratio : Ratio) (code : String) (value : α) :
    .outOfRange ratio code value ∈ (AlignedCoefficients.ofValues order values).findings ↔
      (c.ratio ratio).get? code = some value ∧ Scalar.isFinite value = true ∧ ratio ≠ .jobs ∧
        (value < 0 ∨ 1 < value) := by
  rw [mem_findings_of_values_iff, (covers.ratio ratio).get_iff (given ratio)]
  simp only [finding_out_of_range_iff]
  constructor
  · rintro ⟨_, i, ⟨rfl, here, rfl⟩, odd⟩
    exact ⟨⟨i, here, rfl⟩, odd⟩
  · rintro ⟨⟨i, here, rfl⟩, odd⟩
    exact ⟨ratio, i, ⟨rfl, here, rfl⟩, odd⟩

end found

theorem Covers.align_shuffled {c d : Coefficients α} (covers : c.Covers order.toList)
    (distinct : order.toList.Nodup) (shuffled : c.Shuffled d) : d.align order = c.align order := by
  have coversRatio (ratio : Ratio) : (d.ratio ratio).Covers order.toList :=
    ((shuffled ratio).map _).symm.trans (covers.ratio ratio)
  have coversOther : d.Covers order.toList :=
    ⟨coversRatio .jobs, coversRatio .imports, coversRatio .valueAdded⟩
  obtain ⟨values, found, aligned⟩ := covers.align_values distinct
  obtain ⟨others, foundOther, alignedOther⟩ := coversOther.align_values distinct
  have equal : others = values := funext fun ratio => vector_ext_get fun i => by
    have alike : (c.ratio ratio).Alike (d.ratio ratio) :=
      ⟨(covers.ratio ratio).nodup_iff.mpr distinct, shuffled ratio⟩
    have here := (foundOther ratio i).symm.trans ((alike.get_eq _).symm.trans (found ratio i))
    exact Option.some.inj here
  rw [aligned, alignedOther, equal]

end findings

end Coefficients

variable {K : Type}

namespace SectorVector

def image (v : SectorVector K) (f : String → K → K) : SectorVector (Extended K) :=
  ⟨v.entries.map fun entry => (entry.1, .number (f entry.1 entry.2))⟩

variable (v : SectorVector K) (f : String → K → K)

theorem image_get (code : String) :
    (v.image f).get? code = (v.get? code).map fun x => .number (f code x) := by
  simp only [image, get?, List.find?_map, Option.map_map]
  change (v.entries.find? (·.1 == code)).map _ = (v.entries.find? (·.1 == code)).map _
  refine Option.map_congr fun entry found => ?_
  have same := List.find?_some found
  rw [Function.comp_apply, Function.comp_apply, eq_of_beq same]

theorem map_codes {β : Type} (g : K → β) : (v.map g).codes.toList = v.entries.map (·.1) := by
  rw [codes_to_list, map, List.map_map]
  rfl

variable {v f} in
theorem of_aligned_image {w : Vector (Extended K) (v.map Extended.number).size}
    (each : ∀ i code x, (v.map Extended.number).codes.get i = code →
      (v.map Extended.number).values.get i = .number x → w.get i = .number (f code x)) :
    ofAligned (v.map Extended.number).codes w = v.image f := by
  have entries : (ofAligned (v.map Extended.number).codes w).entries = (v.image f).entries := by
    rw [entries_of_aligned]
    refine List.ext_getElem (by simp [size, map, image]) fun i inCodes inEntries => ?_
    have inside : i < v.entries.length := by simpa [image] using inEntries
    have place : i < (v.map Extended.number).size := by simpa using inCodes
    have entry : (v.map Extended.number).entries[i] =
        (v.entries[i].1, .number v.entries[i].2) := List.getElem_map _
    have code : (v.map Extended.number).codes.get ⟨i, place⟩ = v.entries[i].1 :=
      (codes_get _ _).trans (congrArg Prod.fst entry)
    have value : (v.map Extended.number).values.get ⟨i, place⟩ = .number v.entries[i].2 :=
      (values_get _ _).trans (congrArg Prod.snd entry)
    rw [List.getElem_ofFn, each _ _ _ code value, code]
    simp only [image, List.getElem_map]
  exact congrArg SectorVector.mk entries

end SectorVector

variable [Field K] [LinearOrder K]

namespace Extended

def counted : Extended K → K
  | number a => a
  | infinite _ | undefined => 0

theorem sanitize_eq (value : Extended K) :
    Coefficients.sanitize value = number value.counted := by
  cases value <;> rfl

theorem odd_share_iff (value : Extended K) :
    (Scalar.isFinite value = true ∧ (value < 0 ∨ 1 < value)) ↔
      ∃ share, value = number share ∧ (share < 0 ∨ 1 < share) := by
  rw [finite_iff]
  constructor
  · rintro ⟨⟨share, rfl⟩, odd⟩
    exact ⟨share, rfl, odd.imp (number_lt_number share 0).mp (number_lt_number 1 share).mp⟩
  · rintro ⟨share, rfl, odd⟩
    exact ⟨⟨share, rfl⟩, odd.imp (number_lt_number share 0).mpr (number_lt_number 1 share).mpr⟩

theorem total_numbers (numbers : List K) :
    Scalar.total (numbers.map number) = number numbers.sum := by
  have fold : ∀ start : K, (numbers.map number).foldl (· + ·) (number start) =
      number (start + numbers.sum) := by
    induction numbers with
    | nil => simp
    | cons a rest ih =>
        intro start
        rw [List.map_cons, List.foldl_cons, number_add_number, ih, List.sum_cons, add_assoc]
  exact (fold 0).trans (by rw [zero_add])

end Extended

theorem SectorVector.image_total (v : SectorVector K) (f : String → K → K) :
    (v.image f).total = .number (v.entries.map fun entry => f entry.1 entry.2).sum := by
  rw [← Extended.total_numbers, total, image, List.map_map, List.map_map]
  rfl

def Coefficients.rate (c : Coefficients (Extended K)) (ratio : Ratio) (code : String) : K :=
  (((c.ratio ratio).get? code).map Extended.counted).getD 0

structure SatelliteAccounts.AccountFor (a : SatelliteAccounts (Extended K))
    (c : Coefficients (Extended K)) (deltaX : SectorVector K) : Prop where
  version : a.coefficientsVersionId = c.versionId
  employment : a.employment = deltaX.image fun code x => x * c.rate .jobs code
  imports : a.importLeakage = deltaX.image fun code x => x * c.rate .imports code
  valueAdded : a.valueAdded = deltaX.image fun code x => x * c.rate .valueAdded code
  domestic : a.domesticOutput = deltaX.image fun code x => x - x * c.rate .imports code
  totals : a.totals =
    ⟨a.employment.total, a.importLeakage.total, a.domesticOutput.total, a.valueAdded.total⟩
  per_sector : ∀ code, Option.map₂ (· + ·) (a.domesticOutput.get? code)
    (a.importLeakage.get? code) = (deltaX.get? code).map .number
  in_total : a.totals.domesticOutput + a.totals.importLeakage = .number deltaX.total
  non_finite_iff : ∀ ratio code value, .nonFinite ratio code value ∈ a.findings ↔
    (c.ratio ratio).get? code = some value ∧ Scalar.isFinite value = false
  out_of_range_iff : ∀ ratio code value, .outOfRange ratio code value ∈ a.findings ↔
    (c.ratio ratio).get? code = some value ∧ ratio ≠ .jobs ∧
      ∃ share, value = .number share ∧ (share < 0 ∨ 1 < share)
  in_order : (a.findings.map (·.place)).Sublist (Ratio.all ×ˢ deltaX.entries.map (·.1))
  once : (a.findings.map (·.place)).Nodup

section accounts

variable {c : Coefficients (Extended K)} {deltaX : SectorVector K}

theorem Coefficients.product_get {ratio : Ratio} {n : Nat} {order : Vector String n}
    {changes rates : Vector (Extended K) n}
    (found : ∀ i, (c.ratio ratio).get? (order.get i) = some (rates.get i)) {i : Fin n}
    {code : String} {x : K} (here : order.get i = code) (change : changes.get i = .number x) :
    (changes.zipWith (· * ·) (rates.map sanitize)).get i = .number (x * c.rate ratio code) := by
  have rate : c.rate ratio code = (rates.get i).counted := by
    rw [Coefficients.rate, ← here, found, Option.map_some, Option.getD_some]
  have sanitized : (rates.map sanitize).get i = .number (c.rate ratio code) := by
    rw [rate, ← Extended.sanitize_eq]
    simp [Vector.get_eq_getElem]
  rw [get_zip_with, change, sanitized]
  rfl

theorem Coefficients.accounts_of_values
    {values : Ratio → Vector (Extended K) (deltaX.map Extended.number).size}
    (given : ∀ ratio i, (c.ratio ratio).get? ((deltaX.map Extended.number).codes.get i) =
      some ((values ratio).get i))
    (aligned : c.align (deltaX.map Extended.number).codes =
      .ok (.ofValues (deltaX.map Extended.number).codes values)) :
    c.accounts (deltaX.map Extended.number) = .ok {
      employment := deltaX.image fun code x => x * c.rate .jobs code
      importLeakage := deltaX.image fun code x => x * c.rate .imports code
      domesticOutput := deltaX.image fun code x => x - x * c.rate .imports code
      valueAdded := deltaX.image fun code x => x * c.rate .valueAdded code
      totals := {
        employment := (deltaX.image fun code x => x * c.rate .jobs code).total
        importLeakage := (deltaX.image fun code x => x * c.rate .imports code).total
        domesticOutput := (deltaX.image fun code x => x - x * c.rate .imports code).total
        valueAdded := (deltaX.image fun code x => x * c.rate .valueAdded code).total }
      coefficientsVersionId := c.versionId
      findings := (AlignedCoefficients.ofValues (deltaX.map Extended.number).codes
        values).findings } := by
  have product (ratio : Ratio) : SectorVector.ofAligned (deltaX.map Extended.number).codes
      ((deltaX.map Extended.number).values.zipWith (· * ·) ((values ratio).map sanitize)) =
        deltaX.image fun code x => x * c.rate ratio code :=
    SectorVector.of_aligned_image fun i code x here change =>
      Coefficients.product_get (given ratio) here change
  have domestic : SectorVector.ofAligned (deltaX.map Extended.number).codes
      ((deltaX.map Extended.number).values.zipWith (· - ·)
        ((deltaX.map Extended.number).values.zipWith (· * ·) ((values .imports).map sanitize))) =
        deltaX.image fun code x => x - x * c.rate .imports code := by
    refine SectorVector.of_aligned_image fun i code x here change => ?_
    rw [get_zip_with, change, Coefficients.product_get (given .imports) here change]
    exact Extended.number_sub_number _ _
  unfold accounts
  rw [aligned, ← product .jobs, ← product .imports, ← product .valueAdded, ← domestic]
  simp only [SectorVector.total, SectorVector.values_of_aligned]
  rfl

theorem Coefficients.Covers.accounts (distinct : (deltaX.entries.map (·.1)).Nodup)
    (covers : c.Covers (deltaX.entries.map (·.1))) :
    ∃ a, c.accounts (deltaX.map Extended.number) = .ok a ∧ a.AccountFor c deltaX := by
  have codes := deltaX.map_codes Extended.number
  rw [← codes] at distinct covers
  obtain ⟨values, given, aligned⟩ := covers.align_values distinct
  refine ⟨_, Coefficients.accounts_of_values given aligned, {
    version := rfl
    employment := rfl
    imports := rfl
    valueAdded := rfl
    domestic := rfl
    totals := rfl
    per_sector := fun code => ?_
    in_total := ?_
    non_finite_iff := non_finite_found_iff covers given
    out_of_range_iff := fun ratio code value => ?_
    in_order := ?_
    once := ?_ }⟩
  · rw [SectorVector.image_get, SectorVector.image_get]
    cases deltaX.get? code with
    | none => rfl
    | some x => exact congrArg (some ∘ Extended.number) (sub_add_cancel x _)
  · dsimp only
    rw [SectorVector.image_total, SectorVector.image_total, Extended.number_add_number,
      ← List.sum_map_add]
    simp only [sub_add_cancel]
    rw [SectorVector.total, Scalar.total_eq_sum]
  · rw [out_of_range_found_iff covers given, ← Extended.odd_share_iff]
    tauto
  · rw [← codes]
    exact findings_of_values_in_order _ _
  · exact (findings_of_values_in_order _ _).nodup (List.Nodup.product (by decide) distinct)

theorem Coefficients.accounts_of_align {α : Type} [Scalar α] {c d : Coefficients α}
    {change : SectorVector α} (same : d.align change.codes = c.align change.codes)
    {a : SatelliteAccounts α} (accounted : c.accounts change = .ok a) :
    d.accounts change = .ok { a with coefficientsVersionId := d.versionId } := by
  unfold accounts at accounted ⊢
  rw [same]
  cases aligned : c.align change.codes with
  | error fault =>
      rw [aligned] at accounted
      cases accounted
  | ok values =>
      rw [aligned] at accounted
      cases accounted
      rfl

theorem accounts_by_code (distinct : (deltaX.entries.map (·.1)).Nodup)
    (covers : c.Covers (deltaX.entries.map (·.1))) :
    ∃ a, c.accounts (deltaX.map Extended.number) = .ok a ∧ a.AccountFor c deltaX ∧
      ∀ d : Coefficients (Extended K), c.Shuffled d →
        d.accounts (deltaX.map Extended.number) =
          .ok { a with coefficientsVersionId := d.versionId } := by
  obtain ⟨a, accounted, accountFor⟩ := covers.accounts distinct
  refine ⟨a, accounted, accountFor, fun d shuffled => ?_⟩
  rw [← deltaX.map_codes Extended.number] at distinct covers
  exact Coefficients.accounts_of_align (covers.align_shuffled distinct shuffled) accounted

end accounts

def northSouth : SectorVector ℚ := ⟨[("North", 10), ("South", 20)]⟩

def oddCoefficients : Coefficients (Extended ℚ) where
  versionId := .nil
  jobs := ⟨[("South", .undefined), ("North", .number 2)]⟩
  imports := ⟨[("North", .number (6 / 5)), ("South", .infinite true)]⟩
  valueAdded := ⟨[("South", .number (-1 / 10)), ("North", .number (1 / 2))]⟩

theorem odd_coefficients_accounted :
    (northSouth.entries.map (·.1)).Nodup ∧ oddCoefficients.Covers (northSouth.entries.map (·.1)) ∧
      ∃ a, oddCoefficients.accounts (northSouth.map Extended.number) = .ok a ∧
        a.totals = ⟨.number 20, .number 12, .number 18, .number 3⟩ ∧
        a.findings = [.nonFinite .jobs "South" .undefined,
          .outOfRange .imports "North" (.number (6 / 5)),
          .nonFinite .imports "South" (.infinite true),
          .outOfRange .valueAdded "South" (.number (-1 / 10))] ∧
        a.AccountFor oddCoefficients northSouth ∧
        { oddCoefficients with
          imports := ⟨[("South", .infinite true), ("North", .number (6 / 5))]⟩ }.accounts
          (northSouth.map Extended.number) = .ok { a with coefficientsVersionId := .nil } := by
  have distinct : (northSouth.entries.map (·.1)).Nodup := by decide
  have covers : oddCoefficients.Covers (northSouth.entries.map (·.1)) := by decide
  obtain ⟨a, accounted, accountFor, shuffled⟩ := accounts_by_code distinct covers
  have facts : (oddCoefficients.accounts (northSouth.map Extended.number)).toOption.any
      (fun a => decide (a.totals = ⟨.number 20, .number 12, .number 18, .number 3⟩ ∧
        a.findings = [.nonFinite .jobs "South" .undefined,
          .outOfRange .imports "North" (.number (6 / 5)),
          .nonFinite .imports "South" (.infinite true),
          .outOfRange .valueAdded "South" (.number (-1 / 10))])) = true := by decide +kernel
  obtain ⟨other, same, reported⟩ := (Outcome.any_ok_iff _ _).mp facts
  cases accounted.symm.trans same
  obtain ⟨totals, findings⟩ := of_decide_eq_true reported
  refine ⟨distinct, covers, a, accounted, totals, findings, accountFor, shuffled _ fun ratio => ?_⟩
  cases ratio with
  | jobs => exact .refl _
  | imports => exact .swap _ _ _
  | valueAdded => exact .refl _

end EconomicImpact
