import Mathlib
import EconomicImpact.Proofs.Reordering.Vector
import EconomicImpact.Satellite

set_option autoImplicit false

namespace EconomicImpact

variable {α : Type} {n m : Nat} {order : Vector String n} {other : Vector String m}

structure Coefficients.Alike (c d : Coefficients α) : Prop where
  version : c.versionId = d.versionId
  jobs : c.jobs.Alike d.jobs
  imports : c.imports.Alike d.imports
  valueAdded : c.valueAdded.Alike d.valueAdded

structure AlignedCoefficients.Carried (r : Reordering order other) (c : AlignedCoefficients α n)
    (d : AlignedCoefficients α m) : Prop where
  jobs : r.Carries c.jobs d.jobs
  imports : r.Carries c.imports d.imports
  valueAdded : r.Carries c.valueAdded d.valueAdded
  findings : c.findings.Perm d.findings

structure SatelliteAccounts.Alike (a b : SatelliteAccounts α) : Prop where
  employment : a.employment.Alike b.employment
  importLeakage : a.importLeakage.Alike b.importLeakage
  domesticOutput : a.domesticOutput.Alike b.domesticOutput
  valueAdded : a.valueAdded.Alike b.valueAdded
  totals : a.totals = b.totals
  version : a.coefficientsVersionId = b.coefficientsVersionId
  findings : a.findings.Perm b.findings

variable {r : Reordering order other}

theorem findings_perm [Scalar α] (ratio : Ratio) {v : Vector α n} {w : Vector α m}
    (carries : r.Carries v w) :
    (Coefficients.findings ratio order v).Perm (Coefficients.findings ratio other w) :=
  (SectorVector.of_aligned_alike r carries).perm.filterMap _

theorem Coefficients.Alike.align [Scalar α] {c d : Coefficients α} (alike : c.Alike d)
    (r : Reordering order other) :
    Outcome.Matched (AlignedCoefficients.Carried r) (c.align order) (d.align other) := by
  refine (alike.jobs.align_exact r _).bind fun jobs _ carriesJobs => ?_
  refine (alike.imports.align_exact r _).bind fun imports _ carriesImports => ?_
  refine (alike.valueAdded.align_exact r _).bind fun valueAdded _ carriesValue => .ok ?_
  exact ⟨carriesJobs.map _, carriesImports.map _, carriesValue.map _,
    ((findings_perm .jobs carriesJobs).append (findings_perm .imports carriesImports)).append
      (findings_perm .valueAdded carriesValue)⟩

theorem accounts_alike {K : Type} [Field K] [LinearOrder K] {c d : Coefficients K}
    (alike : c.Alike d) {deltaX other : SectorVector K} (change : deltaX.Alike other) :
    Outcome.Matched SatelliteAccounts.Alike (c.accounts deltaX) (d.accounts other) := by
  obtain ⟨r, values⟩ := change.reordering
  refine (alike.align r).bind fun first second carried => .ok ?_
  have employment := values.zipWith (· * ·) carried.jobs
  have imports := values.zipWith (· * ·) carried.imports
  have valueAdded := values.zipWith (· * ·) carried.valueAdded
  have domestic := values.zipWith (· - ·) imports
  refine ⟨SectorVector.of_aligned_alike r employment, SectorVector.of_aligned_alike r imports,
    SectorVector.of_aligned_alike r domestic, SectorVector.of_aligned_alike r valueAdded, ?_,
    alike.version, carried.findings⟩
  simp only [employment.total_eq, imports.total_eq, domestic.total_eq, valueAdded.total_eq]

end EconomicImpact
