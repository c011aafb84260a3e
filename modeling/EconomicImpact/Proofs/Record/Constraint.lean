import Mathlib
import EconomicImpact.Proofs.Json.Decode
import EconomicImpact.Proofs.Json.Text
import EconomicImpact.Record.Constraint

set_option autoImplicit false

namespace EconomicImpact

open Json

theorem ConstraintKind.of_json_name (kind : ConstraintKind) : ofJson (.str kind.name) = .ok kind := by
  cases kind <;> rfl

theorem Confidence.of_json_name (confidence : Confidence) :
    ofJson (.str confidence.name) = .ok confidence := by
  cases confidence <;> rfl

theorem BoundScope.of_json_name (scope : BoundScope) : ofJson (.str scope.name) = .ok scope := by
  cases scope <;> rfl

namespace Scope

def reread : Scope → Scope
  | sector code => if code = allSectors then all else sector code
  | scope => scope

theorem reread_eq_iff (scope : Scope) : scope.reread = scope ↔ scope ≠ .sector allSectors := by
  cases scope with
  | sector code =>
      by_cases star : code = allSectors <;> simp [reread, star]
  | group codes => simp [reread]
  | all => simp [reread]

theorem of_json_to_json {scope : Scope} (several : ∀ code, scope ≠ .group [code]) :
    ofJson scope.toJson = .ok scope.reread := by
  cases scope with
  | sector code => rfl
  | all => rfl
  | group codes =>
      match codes with
      | [] => rfl
      | [code] => exact absurd rfl (several code)
      | first :: second :: rest =>
          exact congrArg (Except.map group) (as_strings (first :: second :: rest))

theorem of_json_several {j : Json} {scope : Scope} (read : ofJson j = .ok scope) (code : String) :
    scope ≠ .group [code] := by
  rintro rfl
  unfold ofJson at read
  split at read
  · rename_i text
    by_cases star : text = allSectors <;> simp [star] at read
  · cases read
  · rename_i unlike
    obtain ⟨codes, listed, same⟩ := (Outcome.map_ok_iff _ _ _).mp read
    cases same
    obtain ⟨items, rfl, each⟩ := as_list_ok_iff.mp listed
    cases each with
    | cons head rest =>
        cases rest
        exact unlike code (by rw [as_string_iff.mp head])

end Scope

theorem window_of_json_years {j : Json} {first last : Int}
    (read : windowOfJson j = .ok (first, last)) :
    (Json.int first).asYear = .ok first ∧ (Json.int last).asYear = .ok last := by
  unfold windowOfJson at read
  split at read
  · obtain ⟨start, early, read⟩ := (Outcome.bind_ok_iff _ _ _).mp read
    obtain ⟨finish, late, read⟩ := (Outcome.bind_ok_iff _ _ _).mp read
    cases read
    exact ⟨as_year_again early, as_year_again late⟩
  · cases read

theorem year_writable {year : Int} (read : (Json.int year).asYear = .ok year) (depth : Nat) :
    Writable depth (.int year) := by
  obtain ⟨-, least, greatest⟩ := as_int_within_iff.mp read
  have lower : -(Nat.pow 2 63 : Int) ≤ -(Nat.pow 2 31 : Int) := by decide
  have upper : (Nat.pow 2 31 : Int) - 1 < Nat.pow 2 64 := by decide
  exact .int depth (lower.trans least) (greatest.trans_lt upper)

namespace Constraint

def reread (c : Constraint Float) : Constraint Float := { c with scope := c.scope.reread }

theorem reread_eq_iff (c : Constraint Float) : c.reread = c ↔ c.scope ≠ .sector allSectors := by
  rw [← Scope.reread_eq_iff]
  exact ⟨congrArg scope, fun same => congrArg (fun scope => { c with scope := scope }) same⟩

structure Readable (c : Constraint Float) : Prop where
  several : ∀ code, c.scope ≠ .group [code]
  window : ∀ first last, c.window = some (first, last) →
    (Json.int first).asYear = .ok first ∧ (Json.int last).asYear = .ok last
  value : ReadsBack c.value

def members (c : Constraint Float) : List (String × Json) :=
  [("id", .str c.id.toText), ("constraint_type", .str c.kind.name), ("applies_to", c.scope.toJson),
    ("value", .float c.value), ("unit", .str c.unit), ("confidence", .str c.confidence.name),
    ("bound_scope", .str c.boundScope.name), ("time_window", windowToJson c.window),
    ("description", .ofOption .str c.description)]

theorem window_read {c : Constraint Float} (readable : c.Readable) :
    asOption windowOfJson (windowToJson c.window) = .ok c.window := by
  cases given : c.window with
  | none => rfl
  | some window =>
      obtain ⟨first, last⟩ := readable.window window.1 window.2 given
      simp only [windowToJson, asOption, windowOfJson, first, last]
      rfl

theorem of_json_to_json {c : Constraint Float} (readable : c.Readable) :
    ofJson c.toJson = .ok c.reread := by
  have written : c.toJson.asRecord fields = .ok ⟨c.members⟩ := rfl
  have id : Fields.optional ⟨c.members⟩ "id" asUuid = .ok (some c.id) :=
    as_option_uuid_text c.id
  have description : Fields.optional ⟨c.members⟩ "description" asString = .ok c.description := by
    change asOption asString (.ofOption .str c.description) = _
    cases c.description <;> rfl
  refine (Outcome.bind_ok_iff _ _ _).mpr ⟨_, written, ?_⟩
  refine (Outcome.bind_ok_iff _ _ _).mpr ⟨_, id, ?_⟩
  refine (Outcome.bind_ok_iff _ _ _).mpr ⟨_, c.kind.of_json_name, ?_⟩
  refine (Outcome.bind_ok_iff _ _ _).mpr ⟨_, Scope.of_json_to_json readable.several, ?_⟩
  refine (Outcome.bind_ok_iff _ _ _).mpr ⟨c.value, rfl, ?_⟩
  refine (Outcome.bind_ok_iff _ _ _).mpr ⟨some c.unit, rfl, ?_⟩
  refine (Outcome.bind_ok_iff _ _ _).mpr ⟨_, c.confidence.of_json_name, ?_⟩
  refine (Outcome.bind_ok_iff _ _ _).mpr ⟨_, c.boundScope.of_json_name, ?_⟩
  refine (Outcome.bind_ok_iff _ _ _).mpr ⟨_, window_read readable, ?_⟩
  exact (Outcome.bind_ok_iff _ _ _).mpr ⟨_, description, rfl⟩

theorem of_json_readable {j : Json} {c : Constraint Float} (read : ofJson j = .ok c)
    (value : ReadsBack c.value) : c.Readable := by
  obtain ⟨fields, -, read⟩ := (Outcome.bind_ok_iff _ _ _).mp read
  obtain ⟨id, -, read⟩ := (Outcome.bind_ok_iff _ _ _).mp read
  obtain ⟨kind, -, read⟩ := (Outcome.bind_ok_iff _ _ _).mp read
  obtain ⟨scope, covered, read⟩ := (Outcome.bind_ok_iff _ _ _).mp read
  obtain ⟨number, -, read⟩ := (Outcome.bind_ok_iff _ _ _).mp read
  obtain ⟨unit, -, read⟩ := (Outcome.bind_ok_iff _ _ _).mp read
  obtain ⟨confidence, -, read⟩ := (Outcome.bind_ok_iff _ _ _).mp read
  obtain ⟨boundScope, -, read⟩ := (Outcome.bind_ok_iff _ _ _).mp read
  obtain ⟨window, windowed, read⟩ := (Outcome.bind_ok_iff _ _ _).mp read
  obtain ⟨description, -, read⟩ := (Outcome.bind_ok_iff _ _ _).mp read
  -- The constraint is taken as the value of the record: its own identifier would be worked out otherwise.
  have parts : c.scope = scope ∧ c.window = window := by
    cases id with
    | some id =>
        rw [← Except.ok.inj read]
        exact ⟨rfl, rfl⟩
    | none =>
        rw [← Except.ok.inj read]
        exact ⟨rfl, rfl⟩
  obtain ⟨places, -, covered⟩ := Fields.required_ok covered
  refine ⟨fun code => parts.1 ▸ Scope.of_json_several covered code, ?_, value⟩
  intro first last given
  rw [parts.2] at given
  subst given
  obtain ⟨years, bounds⟩ := Fields.optional_some windowed
  exact window_of_json_years bounds

theorem to_json_writable {c : Constraint Float} (readable : c.Readable) (depth : Nat) :
    Writable (depth + 2) c.toJson := by
  have scope : Writable (depth + 1) c.scope.toJson := by
    cases c.scope with
    | sector code => exact .str _ code
    | all => exact .str _ allSectors
    | group codes =>
        refine .arr fun item member => ?_
        obtain ⟨code, -, rfl⟩ := List.mem_map.mp member
        exact .str depth code
  have window : Writable (depth + 1) (windowToJson c.window) := by
    cases given : c.window with
    | none => exact .null _
    | some window =>
        obtain ⟨first, last⟩ := readable.window window.1 window.2 given
        refine .arr fun item member => ?_
        simp only [List.mem_cons, List.not_mem_nil, or_false] at member
        rcases member with rfl | rfl
        · exact year_writable first depth
        · exact year_writable last depth
  have description : Writable (depth + 1) (.ofOption .str c.description) := by
    cases c.description with
    | none => exact .null _
    | some text => exact .str _ text
  refine .obj fun member listed => ?_
  simp only [List.mem_cons, List.not_mem_nil, or_false] at listed
  rcases listed with rfl | rfl | rfl | rfl | rfl | rfl | rfl | rfl | rfl
  · exact .str _ _
  · exact .str _ _
  · exact scope
  · exact .float _ readable.value
  · exact .str _ _
  · exact .str _ _
  · exact .str _ _
  · exact window
  · exact description

end Constraint

namespace ConstraintSet

def reload (set : ConstraintSet Float) : Option (Decoded (ConstraintSet Float)) :=
  (parse? set.toJson.compact).map ofJson

def reread (set : ConstraintSet Float) : ConstraintSet Float :=
  { set with constraints := set.constraints.map Constraint.reread }

theorem reread_eq_iff (set : ConstraintSet Float) :
    set.reread = set ↔ ∀ c ∈ set.constraints, c.scope ≠ .sector allSectors := by
  have fields : set.reread = set ↔ set.constraints.map Constraint.reread =
      set.constraints.map fun c => c := by
    rw [List.map_id']
    exact ⟨congrArg constraints, fun same => congrArg (fun cs => { set with constraints := cs }) same⟩
  rw [fields, List.map_inj_left]
  exact forall₂_congr fun c _ => c.reread_eq_iff

structure Readable (set : ConstraintSet Float) : Prop where
  version : set.version < Nat.pow 2 32
  constraints : ∀ c ∈ set.constraints, c.Readable

def members (set : ConstraintSet Float) : List (String × Json) :=
  [("id", .str set.id.toText), ("version", .ofNat set.version), ("name", .str set.name),
    ("constraints", .ofList Constraint.toJson set.constraints)]

theorem of_json_to_json {set : ConstraintSet Float} (readable : set.Readable) :
    ofJson set.toJson = .ok set.reread := by
  have written : set.toJson.asObject ["id", "version", "name", "constraints"] =
    .ok ⟨set.members⟩ := rfl
  have id : Fields.optional ⟨set.members⟩ "id" asUuid = .ok (some set.id) :=
    as_option_uuid_text set.id
  have constraints : (Json.ofList Constraint.toJson set.constraints).asList Constraint.ofJson =
      .ok (set.constraints.map Constraint.reread) :=
    as_list_of_list fun c member => Constraint.of_json_to_json (readable.constraints c member)
  have record : recordOfJson set.toJson = .ok set.reread := by
    refine (Outcome.bind_ok_iff _ _ _).mpr ⟨_, written, ?_⟩
    refine (Outcome.bind_ok_iff _ _ _).mpr ⟨_, id, ?_⟩
    refine (Outcome.bind_ok_iff _ _ _).mpr ⟨_, as_nat_below_int readable.version, ?_⟩
    refine (Outcome.bind_ok_iff _ _ _).mpr ⟨set.name, rfl, ?_⟩
    exact (Outcome.bind_ok_iff _ _ _).mpr ⟨_, constraints, rfl⟩
  have single : set.toJson.asList Constraint.ofJson = .error .malformed := rfl
  rw [ofJson, single, record]

section read

variable {j : Json} {set : ConstraintSet Float} (values : ∀ c ∈ set.constraints, ReadsBack c.value)

include values

theorem as_list_readable (listed : j.asList Constraint.ofJson = .ok set.constraints) :
    ∀ c ∈ set.constraints, c.Readable := by
  obtain ⟨items, -, decoded⟩ := as_list_ok_iff.mp listed
  intro c member
  obtain ⟨item, -, read⟩ := Outcome.mapM_ok_output _ _ _
    ((Outcome.mapM_ok_iff _ _ _).mpr decoded) c member
  exact Constraint.of_json_readable read (values c member)

theorem record_readable (record : recordOfJson j = .ok set) : set.Readable := by
  obtain ⟨fields, -, record⟩ := (Outcome.bind_ok_iff _ _ _).mp record
  obtain ⟨id, -, record⟩ := (Outcome.bind_ok_iff _ _ _).mp record
  obtain ⟨version, numbered, record⟩ := (Outcome.bind_ok_iff _ _ _).mp record
  obtain ⟨name, -, record⟩ := (Outcome.bind_ok_iff _ _ _).mp record
  obtain ⟨constraints, listed, record⟩ := (Outcome.bind_ok_iff _ _ _).mp record
  have parts : set.version = version ∧ set.constraints = constraints := by
    cases id with
    | some id =>
        rw [← Except.ok.inj record]
        exact ⟨rfl, rfl⟩
    | none =>
        rw [← Except.ok.inj record]
        exact ⟨rfl, rfl⟩
  obtain ⟨rfl, rfl⟩ := parts
  obtain ⟨item, -, listed⟩ := Fields.required_ok listed
  refine ⟨?_, as_list_readable values listed⟩
  rcases Fields.with_default_ok numbered with initial | ⟨written, below⟩
  · rw [initial]
    decide
  · exact as_nat_below_bound below

theorem of_json_readable (read : ofJson j = .ok set) : set.Readable := by
  unfold ofJson at read
  split at read
  · rename_i constraints _ listed
    obtain rfl := Except.ok.inj read
    exact ⟨(by decide : defaultVersion < Nat.pow 2 32), as_list_readable values listed⟩
  · cases read
    exact record_readable values ‹_›
  · cases read

end read

theorem to_json_writable {set : ConstraintSet Float} (readable : set.Readable) (depth : Nat) :
    Writable (depth + 4) set.toJson := by
  refine .obj fun member listed => ?_
  simp only [List.mem_cons, List.not_mem_nil, or_false] at listed
  rcases listed with rfl | rfl | rfl | rfl
  · exact .str _ _
  · have small : Nat.pow 2 32 ≤ Nat.pow 2 64 := by decide
    have version := readable.version
    exact .int _ (by omega) (by omega)
  · exact .str _ _
  · refine .arr fun item member => ?_
    obtain ⟨c, given, rfl⟩ := List.mem_map.mp member
    exact Constraint.to_json_writable (readable.constraints c given) depth

theorem reload_eq {set : ConstraintSet Float} (readable : set.Readable) :
    set.reload = some (.ok set.reread) := by
  rw [reload, parse_compact (to_json_writable readable 123), Option.map_some,
    of_json_to_json readable]

-- A set that was read comes back from its text with every scope as it is read again; so it comes back as it was
-- exactly if no scope is a sector that is named like all sectors.
theorem reload_keeps_set_iff (j : Json) (set : ConstraintSet Float) (read : ofJson j = .ok set)
    (values : ∀ c ∈ set.constraints, ReadsBack c.value) :
    set.reload = some (.ok set.reread) ∧
      (set.reload = some (.ok set) ↔ ∀ c ∈ set.constraints, c.scope ≠ .sector allSectors) := by
  have reloaded := reload_eq (of_json_readable values read)
  refine ⟨reloaded, ?_⟩
  rw [reloaded, ← reread_eq_iff]
  simp

def starredList : Json :=
  .arr [.obj [("constraint_type", .str "CAPACITY_CAP"), ("applies_to", .arr [.str "*"]),
    ("value", .int 40)]]

theorem starred_list_widens :
    ∃ set later, ofJson starredList = .ok set ∧ set.constraints.map (·.scope) = [.sector "*"] ∧
      set.reload = some (.ok later) ∧ later.constraints.map (·.scope) = [.all] ∧ later ≠ set := by
  let cap : Constraint Float := Constraint.keyed {
    id := .nil
    kind := .capacityCap
    scope := .sector "*"
    value := 40
    unit := "SAR_MILLIONS"
    confidence := .hard
    boundScope := .deltaOnly
    window := none
    description := none }
  have read : ofJson starredList = .ok (ofList [cap]) := rfl
  have values : ∀ c ∈ (ofList [cap]).constraints, ReadsBack c.value := by
    intro c member
    rw [List.mem_singleton.mp member]
    exact (rfl : parse? (floatText 40) = some (.float 40))
  have reloaded := reload_eq (of_json_readable values read)
  refine ⟨ofList [cap], _, read, rfl, reloaded, rfl, ?_⟩
  rw [Ne, reread_eq_iff]
  exact fun none => none cap List.mem_cons_self rfl

def windowedRecord : Json :=
  .obj [("constraints", .arr [
      .obj [("id", .str "67e55044-10b1-426f-9247-bb680e5fe0c8"), ("constraint_type", .str "FLOOR"),
        ("applies_to", .arr [.str "S1", .str "S2"]), ("value", .float 12.5),
        ("confidence", .str "SOFT"), ("time_window", .arr [.int 2020, .int 2030])],
      .obj [("constraint_type", .str "LABOR"), ("applies_to", .str "*"), ("value", .int 500)]]),
    ("version", .int 3)]

theorem windowed_record_kept :
    ∃ set, ofJson windowedRecord = .ok set ∧ set.version = 3 ∧
      set.constraints.map (·.scope) = [.group ["S1", "S2"], .all] ∧
      set.reload = some (.ok set) := by
  obtain ⟨set, read, version, scopes, values⟩ :
      ∃ set, ofJson windowedRecord = .ok set ∧ set.version = 3 ∧
        set.constraints.map (·.scope) = [.group ["S1", "S2"], .all] ∧
        set.constraints.map (·.value) = [12.5, 500] := ⟨_, rfl, rfl, rfl, rfl⟩
  have readable : ∀ c ∈ set.constraints, ReadsBack c.value := by
    intro c member
    have listed : c.value ∈ [12.5, 500] := values ▸ List.mem_map_of_mem member
    simp only [List.mem_cons, List.not_mem_nil, or_false] at listed
    rcases listed with same | same <;> rw [same]
    · exact (rfl : parse? (floatText 12.5) = some (.float 12.5))
    · exact (rfl : parse? (floatText 500) = some (.float 500))
  refine ⟨set, read, version, scopes, ?_⟩
  refine (reload_keeps_set_iff windowedRecord set read readable).2.mpr fun c member star => ?_
  have listed : c.scope ∈ [.group ["S1", "S2"], .all] := scopes ▸ List.mem_map_of_mem member
  rw [star] at listed
  simp at listed

end ConstraintSet

end EconomicImpact
