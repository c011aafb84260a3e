import Mathlib
import EconomicImpact.Proofs.Json.Decode
import EconomicImpact.Record.Constraint

set_option autoImplicit false

namespace EconomicImpact

namespace Json

def identifier? : Json → Option Json
  | arr items => items.head?
  | j => j.member? "id"

def Unidentified (given : Option Json) : Prop := given = none ∨ given = some .null

def Identified (given : Option Json) (id : Uuid) : Prop :=
  ∃ text, given = some (.str text) ∧ Uuid.ofText? text = some id

section optional

variable {fields : Fields} {name : String}

theorem Fields.optional_unidentified (absent : Unidentified (fields.get? name)) :
    fields.optional name asUuid = .ok none := by
  unfold optional
  rcases absent with absent | absent
  · rw [absent]
  · rw [absent]
    rfl

theorem Fields.optional_identified {id : Uuid} (carried : Identified (fields.get? name) id) :
    fields.optional name asUuid = .ok (some id) := by
  obtain ⟨text, given, read⟩ := carried
  have uuid : asUuid (.str text) = .ok id := by rw [asUuid, read]
  rw [optional, given]
  dsimp only
  rw [asOption, uuid]
  · rfl
  · intro same
    cases same

end optional

theorem as_record_identifier {j : Json} {names : List String} {fields : Fields}
    (read : j.asRecord ("id" :: names) = .ok fields) : fields.get? "id" = j.identifier? := by
  cases j with
  | arr items =>
      by_cases inside : items.length ≤ ("id" :: names).length
      · rw [asRecord, if_pos inside] at read
        cases read
        cases items <;> rfl
      · rw [asRecord, if_neg inside] at read
        cases read
  | obj members =>
      have object : (obj members).asObject ("id" :: names) = .ok fields := read
      exact as_object_member object "id"
  | _ => cases read

def Fields.Blind {β : Type} (read : Fields → Decoded β) : Prop :=
  ∀ fields others, (∀ name, "id" ≠ name → Fields.get? fields name = others.get? name) →
    read fields = read others

namespace Fields.Blind

variable {β γ : Type} {name : String}

theorem required (other : "id" ≠ name) (decode : Json → Decoded β) :
    Blind (·.required name decode) := fun _ _ same => by
  dsimp only [Fields.required]
  rw [same name other]

theorem optional (other : "id" ≠ name) (decode : Json → Decoded β) :
    Blind (·.optional name decode) := fun _ _ same => by
  dsimp only [Fields.optional]
  rw [same name other]

theorem withDefault (other : "id" ≠ name) (value : β) (decode : Json → Decoded β) :
    Blind (·.withDefault name value decode) := fun _ _ same => by
  dsimp only [Fields.withDefault]
  rw [same name other]

theorem pure (value : β) : Blind fun _ => .ok value := fun _ _ _ => rfl

theorem bind {read : Fields → Decoded β} (blind : Blind read) {next : β → Fields → Decoded γ}
    (each : ∀ value, Blind (next value)) : Blind fun fields => read fields >>= (next · fields) :=
  fun fields others same => by
    dsimp only
    rw [blind fields others same]
    exact congrArg (read others >>= ·) (funext fun value => each value fields others same)

end Fields.Blind

class Identifiable (ρ : Type) where
  id : ρ → Uuid
  withId : ρ → Uuid → ρ
  derive : ρ → Uuid
  id_with_id : ∀ r own, id (withId r own) = own
  with_id_with_id : ∀ r first second, withId (withId r first) second = withId r second

namespace Identifiable

variable {ρ : Type} [Identifiable ρ]

def keyed (r : ρ) : ρ := withId r (derive (withId r .nil))

theorem keyed_with_id (r : ρ) (own : Uuid) : withId (keyed r) own = withId r own :=
  with_id_with_id r _ own

theorem with_id_keyed (r : ρ) (own : Uuid) : keyed (withId r own) = keyed r := by
  simp only [keyed, with_id_with_id]

theorem keyed_id (r : ρ) : id (keyed r) = derive (withId r .nil) := id_with_id r _

theorem keyed_keyed (r : ρ) : keyed (keyed r) = keyed r := by
  rw [← with_id_keyed (keyed r) .nil, keyed_with_id, with_id_keyed]

def identified (r : ρ) : Option Uuid → ρ
  | some own => withId r own
  | none => keyed r

end Identifiable

open Identifiable (keyed identified)

def identify {ρ : Type} [Identifiable ρ] (content : Fields → Decoded ρ) (fields : Fields) :
    Decoded ρ := do
  let own ← fields.optional "id" asUuid
  let record ← content fields
  return identified record own

section identify

variable {ρ : Type} [Identifiable ρ] {content : Fields → Decoded ρ}

theorem identify_eq {fields : Fields} {own : Option Uuid}
    (given : fields.optional "id" asUuid = .ok own) :
    identify content fields = (content fields).map (identified · own) := by
  rw [identify, given]
  rfl

theorem identify_inserted {front back : List (String × Json)} {text : String} {own : Uuid}
    (names : List String) (blind : Fields.Blind content) (absent : "id" ∉ (front ++ back).map (·.1))
    (read : Uuid.ofText? text = some own) :
    (obj (front ++ ("id", .str text) :: back)).asObject names >>= identify content =
      ((obj (front ++ back)).asObject names >>= identify content).map
        (Identifiable.withId · own) := by
  rw [as_object_inserted absent]
  cases object : (obj (front ++ back)).asObject names with
  | error fault => rfl
  | ok fields =>
      obtain rfl := as_object_ok object
      have without : Fields.optional ⟨front ++ back⟩ "id" asUuid = .ok none :=
        Fields.optional_unidentified (.inl (Fields.get_absent absent))
      have within : Fields.optional ⟨front ++ ("id", .str text) :: back⟩ "id" asUuid = .ok (some own) :=
        Fields.optional_identified ⟨text, Fields.get_inserted absent, read⟩
      change identify content _ = (identify content _).map _
      rw [identify_eq within, identify_eq without, blind _ _ fun _ => Fields.get_inserted_of_ne]
      cases content ⟨front ++ back⟩ with
      | error fault => rfl
      | ok r => exact congrArg Except.ok (Identifiable.keyed_with_id r own).symm

theorem identify_ok {fields : Fields} {r : ρ} (read : identify content fields = .ok r) :
    (Unidentified (fields.get? "id") → ∃ record, keyed record = r) ∧
      ∀ own, Identified (fields.get? "id") own → Identifiable.id r = own := by
  have image {own : Option Uuid} (given : fields.optional "id" asUuid = .ok own) :
      ∃ record, identified record own = r := by
    rw [identify_eq given] at read
    obtain ⟨record, -, same⟩ := (Outcome.map_ok_iff _ _ _).mp read
    exact ⟨record, same⟩
  refine ⟨fun absent => image (Fields.optional_unidentified absent), fun own carried => ?_⟩
  obtain ⟨record, rfl⟩ := image (Fields.optional_identified carried)
  exact Identifiable.id_with_id record own

end identify

-- How the records of a kind come by their identifiers.
structure Identifies {ρ : Type} (made : ρ → Prop) (id : ρ → Uuid) (withId : ρ → Uuid → ρ)
    (derive : ρ → Uuid) (read : Json → Decoded ρ) (given : Json → Option Json) : Prop where
  derived : ∀ r, made r → id r = derive (withId r .nil)
  -- Numbers are the same if they are the same double: the two zeros differ.
  agreed : ∀ r s, made r → made s → withId r .nil = withId s .nil → id r = id s
  -- An identifier on the wire is kept, and nothing else depends on it.
  kept : ∀ j r own, read j = .ok r → Identified (given j) own → id r = own
  inserted : ∀ front back text own, "id" ∉ (front ++ back).map Prod.fst →
    Uuid.ofText? text = some own →
    read (.obj (front ++ ("id", .str text) :: back)) = (read (.obj (front ++ back))).map (withId · own)

theorem Identifies.of_keyed {ρ : Type} [Identifiable ρ] {made : ρ → Prop}
    {read : Json → Decoded ρ} {given : Json → Option Json} (made_keyed : ∀ r, made r → keyed r = r)
    (kept : ∀ j r own, read j = .ok r → Identified (given j) own → Identifiable.id r = own)
    (inserted : ∀ front back text own, "id" ∉ (front ++ back).map Prod.fst →
      Uuid.ofText? text = some own →
      read (.obj (front ++ ("id", .str text) :: back)) =
        (read (.obj (front ++ back))).map (Identifiable.withId · own)) :
    Identifies made Identifiable.id Identifiable.withId Identifiable.derive read given := by
  have derived (r : ρ) (given : made r) :
      Identifiable.id r = Identifiable.derive (Identifiable.withId r .nil) := by
    rw [← Identifiable.keyed_id, made_keyed r given]
  refine ⟨derived, fun r s first second same => ?_, kept, inserted⟩
  rw [derived r first, derived s second, same]

end Json

open Json

namespace Constraint

def withId (c : Constraint Float) (id : Uuid) : Constraint Float := { c with id }

instance : Identifiable (Constraint Float) where
  id := Constraint.id
  withId := withId
  derive c := contentId recordSpace c.toJson
  id_with_id _ _ := rfl
  with_id_with_id _ _ _ := rfl

def contentOfFields (fields : Fields) : Decoded (Constraint Float) := do
  let kind ← fields.required "constraint_type" ConstraintKind.ofJson
  let scope ← fields.required "applies_to" Scope.ofJson
  let value ← fields.required "value" Json.asFloat
  let unit ← fields.optional "unit" Json.asString
  let confidence ← fields.withDefault "confidence" .hard Confidence.ofJson
  let boundScope ← fields.withDefault "bound_scope" .deltaOnly BoundScope.ofJson
  let window ← fields.optional "time_window" windowOfJson
  let description ← fields.optional "description" Json.asString
  return {
    id := .nil
    kind
    scope
    value
    unit := unit.getD kind.defaultUnit
    confidence
    boundScope
    window
    description }

theorem content_of_fields_blind : Fields.Blind contentOfFields :=
  .bind (.required (by decide) _) fun _ => .bind (.required (by decide) _) fun _ =>
  .bind (.required (by decide) _) fun _ => .bind (.optional (by decide) _) fun _ =>
  .bind (.withDefault (by decide) _ _) fun _ => .bind (.withDefault (by decide) _ _) fun _ =>
  .bind (.optional (by decide) _) fun _ => .bind (.optional (by decide) _) fun _ => .pure _

-- The decoder in two parts, so that what depends on the identifier stands apart from the rest.
theorem of_json_eq (j : Json) :
    ofJson j = j.asRecord fields >>= identify contentOfFields := by
  unfold ofJson contentOfFields
  refine bind_congr fun fields => ?_
  unfold identify
  refine bind_congr fun id => ?_
  simp only [bind_assoc, pure_bind]
  cases id <;> rfl

theorem of_json_inserted {front back : List (String × Json)} {text : String} {id : Uuid}
    (absent : "id" ∉ (front ++ back).map (·.1)) (read : Uuid.ofText? text = some id) :
    ofJson (.obj (front ++ ("id", .str text) :: back)) =
      (ofJson (.obj (front ++ back))).map (·.withId id) := by
  rw [of_json_eq, of_json_eq]
  exact identify_inserted fields content_of_fields_blind absent read

theorem of_json_identified {j : Json} {c : Constraint Float} (read : ofJson j = .ok c) :
    (Unidentified j.identifier? → ∃ d, Identifiable.keyed d = c) ∧
      ∀ id, Identified j.identifier? id → c.id = id := by
  rw [of_json_eq] at read
  obtain ⟨fields, given, read⟩ := (Outcome.bind_ok_iff _ _ _).mp read
  rw [← as_record_identifier given]
  exact identify_ok read

inductive Revision
  | confidence (level : Confidence)
  | boundScope (scope : BoundScope)
  | window (first last : Int)
  | description (text : String)

namespace Revision

def confidence? : Revision → Option Confidence
  | confidence level => some level
  | _ => none

def boundScope? : Revision → Option BoundScope
  | boundScope scope => some scope
  | _ => none

def window? : Revision → Option (Option (Int × Int))
  | window first last => some (some (first, last))
  | _ => none

def description? : Revision → Option (Option String)
  | description text => some (some text)
  | _ => none

end Revision

def revise (c : Constraint Float) : Revision → Constraint Float
  | .confidence level => c.withConfidence level
  | .boundScope scope => c.withBoundScope scope
  | .window first last => c.withWindow first last
  | .description text => c.withDescription text

def reviseAll (c : Constraint Float) (revisions : List Revision) : Constraint Float :=
  revisions.foldl revise c

def revised (c : Constraint Float) (revisions : List Revision) : Constraint Float :=
  { c with
    confidence := (revisions.filterMap Revision.confidence?).getLastD c.confidence
    boundScope := (revisions.filterMap Revision.boundScope?).getLastD c.boundScope
    window := (revisions.filterMap Revision.window?).getLastD c.window
    description := (revisions.filterMap Revision.description?).getLastD c.description }

theorem revised_cons (c : Constraint Float) (revision : Revision) (rest : List Revision) :
    ((c.revise revision).revised rest).withId .nil =
      (c.revised (revision :: rest)).withId .nil := by
  cases revision <;>
    simp only [revise, withConfidence, withBoundScope, withWindow, withDescription, keyed, revised,
      withId, List.filterMap_cons, Revision.confidence?, Revision.boundScope?, Revision.window?,
      Revision.description?, List.getLastD_cons]

theorem revise_all_content (c : Constraint Float) (revisions : List Revision) :
    (c.reviseAll revisions).withId .nil = (c.revised revisions).withId .nil := by
  induction revisions generalizing c with
  | nil => rfl
  | cons revision rest ih => exact (ih (c.revise revision)).trans (revised_cons c revision rest)

inductive Made : Constraint Float → Prop
  | ofKind (kind : ConstraintKind) (scope : Scope) (value : Float) : Made (ofKind kind scope value)
  | cap (sector : String) (value : Float) : Made (cap sector value)
  | floor (sector : String) (value : Float) : Made (floor sector value)
  | groupCap (sectors : List String) (value : Float) : Made (groupCap sectors value)
  | ramp (sector : String) (rate : Float) : Made (ramp sector rate)
  | labor (scope : Scope) (jobs : Float) : Made (labor scope jobs)
  | imports (scope : Scope) (value : Float) : Made (imports scope value)
  | saudization (scope : Scope) (share : Float) : Made (saudization scope share)
  | revised (c : Constraint Float) (revision : Revision) : Made (c.revise revision)
  | read {j : Json} {c : Constraint Float} (absent : Unidentified j.identifier?)
      (read : ofJson j = .ok c) : Made c

theorem Made.keyed_eq {c : Constraint Float} (made : Made c) : Identifiable.keyed c = c := by
  cases made with
  | revised c revision => cases revision <;> exact Identifiable.keyed_keyed _
  | read absent read =>
      obtain ⟨d, rfl⟩ := (of_json_identified read).1 absent
      exact Identifiable.keyed_keyed d
  | _ => exact Identifiable.keyed_keyed _

theorem revise_all_made (c : Constraint Float) {revisions : List Revision} (some : revisions ≠ []) :
    (c.reviseAll revisions).Made := by
  rw [reviseAll, ← List.dropLast_append_getLast some, List.foldl_concat]
  exact .revised _ _

end Constraint

namespace ConstraintSet

def withId (set : ConstraintSet Float) (id : Uuid) : ConstraintSet Float := { set with id }

instance : Identifiable (ConstraintSet Float) where
  id := ConstraintSet.id
  withId := withId
  derive set := contentId recordSpace set.toJson
  id_with_id _ _ := rfl
  with_id_with_id _ _ _ := rfl

def contentOfFields (fields : Fields) : Decoded (ConstraintSet Float) := do
  let version ← fields.withDefault "version" defaultVersion (Json.asNatBelow (Nat.pow 2 32))
  let name ← fields.withDefault "name" "" Json.asString
  let constraints ← fields.required "constraints" (Json.asList Constraint.ofJson)
  return { id := .nil, version, name, constraints }

theorem content_of_fields_blind : Fields.Blind contentOfFields :=
  .bind (.withDefault (by decide) _ _) fun _ => .bind (.withDefault (by decide) _ _) fun _ =>
  .bind (.required (by decide) _) fun _ => .pure _

theorem record_of_json_eq (j : Json) :
    recordOfJson j = j.asObject ["id", "version", "name", "constraints"] >>=
      identify contentOfFields := by
  unfold recordOfJson contentOfFields
  refine bind_congr fun fields => ?_
  unfold identify
  refine bind_congr fun id => ?_
  simp only [bind_assoc, pure_bind]
  cases id <;> rfl

theorem of_json_object (members : List (String × Json)) :
    ofJson (.obj members) = (recordOfJson (.obj members)).mapError fun _ => .malformed := by
  have single : (Json.obj members).asList Constraint.ofJson = .error .malformed := rfl
  rw [ofJson, single]
  cases recordOfJson (.obj members) <;> rfl

theorem of_json_inserted {front back : List (String × Json)} {text : String} {id : Uuid}
    (absent : "id" ∉ (front ++ back).map (·.1)) (read : Uuid.ofText? text = some id) :
    ofJson (.obj (front ++ ("id", .str text) :: back)) =
      (ofJson (.obj (front ++ back))).map (·.withId id) := by
  have record : recordOfJson (.obj (front ++ ("id", .str text) :: back)) =
      (recordOfJson (.obj (front ++ back))).map (·.withId id) := by
    rw [record_of_json_eq, record_of_json_eq]
    exact identify_inserted _ content_of_fields_blind absent read
  rw [of_json_object, of_json_object, record]
  cases recordOfJson (.obj (front ++ back)) <;> rfl

theorem record_of_json_identified {j : Json} {set : ConstraintSet Float}
    (read : recordOfJson j = .ok set) :
    (Unidentified (j.member? "id") → ∃ other, Identifiable.keyed other = set) ∧
      ∀ id, Identified (j.member? "id") id → set.id = id := by
  rw [record_of_json_eq] at read
  obtain ⟨fields, given, read⟩ := (Outcome.bind_ok_iff _ _ _).mp read
  rw [← as_object_member given]
  exact identify_ok read

-- A list of constraints has no place for an identifier; it is tried first, so only records can carry one.
theorem of_json_identified {j : Json} {set : ConstraintSet Float} (read : ofJson j = .ok set) :
    (Unidentified (j.member? "id") → ∃ other, Identifiable.keyed other = set) ∧
      ∀ id, Identified (j.member? "id") id → set.id = id := by
  unfold ofJson at read
  split at read
  · rename_i constraints _ listed
    obtain rfl := Except.ok.inj read
    obtain ⟨items, rfl, -⟩ := as_list_ok_iff.mp listed
    refine ⟨fun _ => ⟨_, rfl⟩, fun id carried => ?_⟩
    obtain ⟨text, given, -⟩ := carried
    cases given
  · obtain rfl := Except.ok.inj read
    exact record_of_json_identified ‹_›
  · cases read

theorem record_of_json_constraints {j : Json} {set : ConstraintSet Float}
    (read : recordOfJson j = .ok set) : ∃ items, j.member? "constraints" = some items ∧
      items.asList Constraint.ofJson = .ok set.constraints := by
  rw [record_of_json_eq] at read
  obtain ⟨fields, given, read⟩ := (Outcome.bind_ok_iff _ _ _).mp read
  obtain ⟨id, -, read⟩ := (Outcome.bind_ok_iff _ _ _).mp read
  obtain ⟨content, read, same⟩ := (Outcome.bind_ok_iff _ _ _).mp read
  obtain ⟨version, -, read⟩ := (Outcome.bind_ok_iff _ _ _).mp read
  obtain ⟨name, -, read⟩ := (Outcome.bind_ok_iff _ _ _).mp read
  obtain ⟨constraints, listed, read⟩ := (Outcome.bind_ok_iff _ _ _).mp read
  obtain rfl := Except.ok.inj read
  have kept : set.constraints = constraints := by
    obtain rfl := Except.ok.inj same
    cases id <;> rfl
  rw [kept, ← as_object_member given]
  exact Fields.required_ok listed

theorem of_json_constraints {j : Json} {set : ConstraintSet Float} (read : ofJson j = .ok set) :
    ∃ items, (items = j ∨ j.member? "constraints" = some items) ∧
      items.asList Constraint.ofJson = .ok set.constraints := by
  unfold ofJson at read
  split at read
  · rename_i constraints _ listed
    obtain rfl := Except.ok.inj read
    exact ⟨j, .inl rfl, listed⟩
  · obtain rfl := Except.ok.inj read
    obtain ⟨items, named, listed⟩ := record_of_json_constraints ‹_›
    exact ⟨items, .inr named, listed⟩
  · cases read

inductive Made : ConstraintSet Float → Prop
  | ofList (constraints : List (Constraint Float)) : Made (ofList constraints)
  | named (set : ConstraintSet Float) (name : String) : Made (set.withName name)
  | read {j : Json} {set : ConstraintSet Float} (absent : Unidentified (j.member? "id"))
      (read : ofJson j = .ok set) : Made set

theorem Made.keyed_eq {set : ConstraintSet Float} (made : Made set) :
    Identifiable.keyed set = set := by
  cases made with
  | read absent read =>
      obtain ⟨d, rfl⟩ := (of_json_identified read).1 absent
      exact Identifiable.keyed_keyed d
  | _ => exact Identifiable.keyed_keyed _

end ConstraintSet

-- Constraints and sets follow one rule. Then what revisions leave, in any number and order, and that the constraints
-- of a set were each read from a record of their own.
theorem identifiers_follow_content :
    Identifies Constraint.Made Constraint.id Constraint.withId
      (fun c => contentId "constraint" c.toJson) Constraint.ofJson Json.identifier? ∧
    Identifies ConstraintSet.Made ConstraintSet.id ConstraintSet.withId
      (fun set => contentId "constraint_set" set.toJson) ConstraintSet.ofJson (·.member? "id") ∧
    (∀ (c : Constraint Float) (revisions : List Constraint.Revision), revisions ≠ [] →
      (c.reviseAll revisions).Made ∧
        (c.reviseAll revisions).withId .nil = (c.revised revisions).withId .nil) ∧
    ∀ j set, ConstraintSet.ofJson j = .ok set → ∃ items,
      (items = j ∨ j.member? "constraints" = some items) ∧
        items.asList Constraint.ofJson = .ok set.constraints := by
  refine ⟨.of_keyed (fun _ => Constraint.Made.keyed_eq) ?_ ?_,
    .of_keyed (fun _ => ConstraintSet.Made.keyed_eq) ?_ ?_, ?_, ?_⟩
  · exact fun j c id read carried => (Constraint.of_json_identified read).2 id carried
  · exact fun front back text id => Constraint.of_json_inserted
  · exact fun j set id read carried => (ConstraintSet.of_json_identified read).2 id carried
  · exact fun front back text id => ConstraintSet.of_json_inserted
  · exact fun c revisions some => ⟨c.revise_all_made some, c.revise_all_content revisions⟩
  · exact fun j set read => ConstraintSet.of_json_constraints read

def assumedCap : Constraint Float where
  id := .nil
  kind := .capacityCap
  scope := .sector "S1"
  value := 40
  unit := "SAR_MILLIONS"
  confidence := .assumed
  boundScope := .deltaOnly
  window := none
  description := none

def assumedCapMembers : List (String × Json) :=
  [("constraint_type", .str "CAPACITY_CAP"), ("applies_to", .str "S1"), ("value", .int 40),
    ("confidence", .str "ASSUMED")]

theorem assumed_cap_by_each_route :
    ∃ read kept listed recorded,
      Constraint.ofJson (.obj assumedCapMembers) = .ok read ∧
      read.id.toText = "a6220d05-ade2-50c6-adbd-6ca048471b3b" ∧
      ((Constraint.cap "S1" 40).reviseAll [.confidence .estimated, .boundScope .absoluteTotal,
        .confidence .assumed, .boundScope .deltaOnly]).id = read.id ∧
      Constraint.ofJson (.obj (assumedCapMembers ++
        [("id", .str "67e55044-10b1-426f-9247-bb680e5fe0c8")])) = .ok kept ∧
      kept.id.toText = "67e55044-10b1-426f-9247-bb680e5fe0c8" ∧
      ConstraintSet.ofJson (.arr [.obj assumedCapMembers]) = .ok listed ∧
      ConstraintSet.ofJson (.obj [("name", .str ""),
        ("constraints", .arr [.obj assumedCapMembers])]) = .ok recorded ∧
      listed.id = recorded.id := by
  obtain ⟨ofConstraints, ofSets, revisions, -⟩ := identifiers_follow_content
  have read : Constraint.ofJson (.obj assumedCapMembers) = .ok assumedCap.keyed := rfl
  have made : assumedCap.keyed.Made := .read (.inl rfl) read
  have digested : assumedCap.keyed.id.toText = "a6220d05-ade2-50c6-adbd-6ca048471b3b" := by
    rw [ofConstraints.derived _ made]
    decide +kernel
  obtain ⟨revised, fields⟩ := revisions (.cap "S1" 40) [.confidence .estimated,
    .boundScope .absoluteTotal, .confidence .assumed, .boundScope .deltaOnly] (List.cons_ne_nil _ _)
  have settled : assumedCap.keyed.withId .nil = assumedCap := Identifiable.keyed_with_id assumedCap .nil
  have agreed := ofConstraints.agreed _ _ revised made (fields.trans settled.symm)
  obtain ⟨own, text, written⟩ : ∃ own, Uuid.ofText? "67e55044-10b1-426f-9247-bb680e5fe0c8" = some own ∧
      own.toText = "67e55044-10b1-426f-9247-bb680e5fe0c8" :=
    Option.map_eq_some_iff.mp (by decide +kernel)
  have inserted := ofConstraints.inserted assumedCapMembers [] _ own (by decide) text
  rw [List.append_nil, read] at inserted
  have kept := ofConstraints.kept _ _ own inserted ⟨_, rfl, text⟩
  have listed : ConstraintSet.ofJson (.arr [.obj assumedCapMembers]) =
    .ok (.ofList [assumedCap.keyed]) := rfl
  have recorded : ConstraintSet.ofJson (.obj [("name", .str ""),
    ("constraints", .arr [.obj assumedCapMembers])]) = .ok (.ofList [assumedCap.keyed]) := rfl
  have sets := ofSets.agreed _ _ (.ofList [assumedCap.keyed]) (.read (.inl rfl) recorded) rfl
  exact ⟨_, _, _, _, read, digested, agreed, inserted, kept ▸ written, listed, recorded, sets⟩

end EconomicImpact
