import Mathlib
import EconomicImpact.Proofs.Json.Decode
import EconomicImpact.Proofs.Json.Text
import EconomicImpact.Proofs.OrderedMap
import EconomicImpact.Proofs.SectorVector
import EconomicImpact.Record.Shock

set_option autoImplicit false

namespace EconomicImpact

open Json

section years

theorem digit_of_nat {n : Nat} {c : Char} (written : c ∈ Nat.toDigits 10 n) :
    Text.isDigit c = true ∧ Text.isBlank c = false := by
  have bounds := Reader.digit_bounds n written
  have least : 48 ≤ c.toNat := bounds.1
  have greatest : c.toNat ≤ 57 := bounds.2
  refine ⟨by simpa [Text.isDigit] using bounds, ?_⟩
  simp [Text.isBlank]
  omega

theorem nat_of_digits_nat (n : Nat) : Text.natOfDigits? (Nat.toDigits 10 n) = some n := by
  have digits : (Nat.toDigits 10 n).all Text.isDigit = true :=
    List.all_eq_true.mpr fun c written => (digit_of_nat written).1
  have nonempty : (Nat.toDigits 10 n).isEmpty = false := by simp
  rw [Text.natOfDigits?, digits, nonempty]
  exact congrArg some Nat.ofDigitChars_ten_toDigits

theorem trim_visible {cs : List Char} (visible : ∀ c ∈ cs, Text.isBlank c = false) :
    Text.trim cs = cs := by
  have front {cs : List Char} (visible : ∀ c ∈ cs, Text.isBlank c = false) :
      cs.dropWhile Text.isBlank = cs := by
    cases cs with
    | nil => rfl
    | cons c cs => simp [visible c List.mem_cons_self]
  rw [Text.trim, front visible, front (by simpa using visible), List.reverse_reverse]

theorem int_of_text (i : Int) : Text.intOfText? (toString i).toList = some i := by
  rw [int_text_eq]
  split
  · rename_i nonneg
    have digits := nat_of_digits_nat i.toNat
    unfold Text.intOfText?
    split
    · rename_i rest shape
      have sign := (digit_of_nat (shape ▸ List.mem_cons_self : '+' ∈ Nat.toDigits 10 i.toNat)).1
      cases sign
    · rename_i rest shape
      have sign := (digit_of_nat (shape ▸ List.mem_cons_self : '-' ∈ Nat.toDigits 10 i.toNat)).1
      cases sign
    · rw [digits]
      simp [Int.toNat_of_nonneg nonneg]
  · rename_i negative
    rw [Text.intOfText?, nat_of_digits_nat]
    simp
    omega

theorem year_of_text {year : Int} (least : -(Nat.pow 2 31 : Int) ≤ year)
    (greatest : year < Nat.pow 2 31) : Text.year? (toString year) = some year := by
  have visible : ∀ c ∈ (toString year).toList, Text.isBlank c = false := by
    intro c written
    rw [int_text_eq] at written
    split at written
    · exact (digit_of_nat written).2
    · rcases List.mem_cons.mp written with rfl | written
      · rfl
      · exact (digit_of_nat written).2
  rw [Text.year?, trim_visible visible, int_of_text]
  simpa using ⟨least, greatest⟩

end years

namespace OrderedMap

variable {β : Type}

def yearStep (years : OrderedMap Int β) (entry : String × β) : Decoded (OrderedMap Int β) :=
  match Text.year? entry.1 with
  | some year => .ok (years.insert year entry.2)
  | none => .error (.notAYear entry.1)

theorem years_of_texts_fold (m : OrderedMap String β) :
    m.yearsOfTexts = m.entries.foldlM yearStep empty := rfl

def yearPair (entry : String × β) : Int × β := ((Text.year? entry.1).getD 0, entry.2)

theorem years_of_texts_eq {m : OrderedMap String β}
    (named : ∀ key ∈ m.keys, (Text.year? key).isSome = true) :
    m.yearsOfTexts = .ok (ofList (m.entries.map yearPair)) := by
  have fold (entries : List (String × β)) (start : OrderedMap Int β)
      (named : ∀ entry ∈ entries, (Text.year? entry.1).isSome = true) :
      entries.foldlM yearStep start =
        .ok ((entries.map yearPair).foldl (fun m pair => m.insert pair.1 pair.2) start) := by
    induction entries generalizing start with
    | nil => rfl
    | cons entry rest ih =>
        obtain ⟨year, read⟩ := Option.isSome_iff_exists.mp (named entry List.mem_cons_self)
        have step : yearStep start entry = .ok (start.insert year entry.2) := by
          rw [yearStep, read]
        have pair : yearPair entry = (year, entry.2) := by
          rw [yearPair, read]
          rfl
        rw [List.foldlM_cons, step, List.map_cons, List.foldl_cons, pair]
        exact ih _ fun later member => named later (List.mem_cons_of_mem _ member)
  rw [years_of_texts_fold]
  exact fold m.entries empty fun entry member => named _ (List.mem_map_of_mem member)

theorem years_of_texts_named {m : OrderedMap String β} {years : OrderedMap Int β}
    (read : m.yearsOfTexts = .ok years) : ∀ key ∈ m.keys, (Text.year? key).isSome = true := by
  have fold (entries : List (String × β)) (start : OrderedMap Int β)
      (read : entries.foldlM yearStep start = .ok years) :
      ∀ entry ∈ entries, (Text.year? entry.1).isSome = true := by
    induction entries generalizing start with
    | nil => simp
    | cons entry rest ih =>
        rw [List.foldlM_cons] at read
        obtain ⟨next, step, later⟩ := (Outcome.bind_ok_iff _ _ _).mp read
        intro other member
        rcases List.mem_cons.mp member with rfl | member
        · unfold yearStep at step
          split at step
          · rename_i year given
            rw [given]
            rfl
          · cases step
        · exact ih next later other member
  rw [years_of_texts_fold] at read
  intro key member
  obtain ⟨entry, listed, rfl⟩ := List.mem_map.mp member
  exact fold m.entries empty read entry listed

theorem years_of_texts_ok_iff (m : OrderedMap String β) :
    (∃ years, m.yearsOfTexts = .ok years) ↔ ∀ key ∈ m.keys, (Text.year? key).isSome = true :=
  ⟨fun ⟨_, read⟩ => years_of_texts_named read, fun named => ⟨_, years_of_texts_eq named⟩⟩

-- In ascending order the last entry with a property is the one with the greatest key.
theorem find_last_iff {κ : Type} [LinearOrder κ] {entries : List (κ × β)}
    (ascending : (entries.map (·.1)).Pairwise (· < ·)) (p : κ × β → Bool) (entry : κ × β) :
    entries.reverse.find? p = some entry ↔
      entry ∈ entries ∧ p entry = true ∧ ∀ other ∈ entries, p other = true → other.1 ≤ entry.1 := by
  induction entries using List.reverseRecOn with
  | nil => simp
  | append_singleton front last ih =>
      rw [List.map_append, List.pairwise_append] at ascending
      obtain ⟨early, -, below⟩ := ascending
      have below (other : κ × β) (member : other ∈ front) : other.1 < last.1 :=
        below _ (List.mem_map_of_mem member) _ (by simp)
      rw [List.reverse_append, List.reverse_singleton, List.singleton_append, List.find?_cons]
      cases holds : p last with
      | true =>
          constructor
          · intro same
            cases same
            refine ⟨by simp, holds, fun other member _ => ?_⟩
            rcases List.mem_append.mp member with member | member
            · exact (below other member).le
            · exact (List.mem_singleton.mp member ▸ le_refl _)
          · rintro ⟨member, -, greatest⟩
            rcases List.mem_append.mp member with member | member
            · exact absurd (greatest last (by simp) holds) (not_le.mpr (below entry member))
            · rw [List.mem_singleton.mp member]
      | false =>
          have skip (other : κ × β) (other_holds : p other = true) :
              other ∈ front ++ [last] ↔ other ∈ front := by
            rw [List.mem_append, List.mem_singleton, or_iff_left]
            rintro rfl
            rw [holds] at other_holds
            cases other_holds
          rw [ih early]
          constructor
          · rintro ⟨member, found, greatest⟩
            exact ⟨(skip entry found).mpr member, found, fun other listed other_holds =>
              greatest other ((skip other other_holds).mp listed) other_holds⟩
          · rintro ⟨member, found, greatest⟩
            exact ⟨(skip entry found).mp member, found, fun other listed other_holds =>
              greatest other ((skip other other_holds).mpr listed) other_holds⟩

-- The value under the greatest of the texts that name a year.
theorem get_of_years {m : OrderedMap String β} {years : OrderedMap Int β}
    (read : m.yearsOfTexts = .ok years) (year : Int) (value : β) :
    years.get? year = some value ↔ ∃ key, (key, value) ∈ m.entries ∧ Text.year? key = some year ∧
      ∀ other ∈ m.keys, Text.year? other = some year → other ≤ key := by
  have named := years_of_texts_named read
  rw [years_of_texts_eq named] at read
  cases read
  have names {entry : String × β} (member : entry ∈ m.entries) :
      ((yearPair entry).1 == year) = true ↔ Text.year? entry.1 = some year := by
    obtain ⟨own, given⟩ := Option.isSome_iff_exists.mp (named _ (List.mem_map_of_mem member))
    simp [yearPair, given]
  rw [get_of_list, ← List.map_reverse, List.find?_map, Option.map_map, Option.map_eq_some_iff]
  simp only [find_last_iff m.ascending, Function.comp_apply]
  constructor
  · rintro ⟨⟨key, _⟩, ⟨member, own, greatest⟩, rfl⟩
    refine ⟨key, member, (names member).mp own, fun other listed given => ?_⟩
    obtain ⟨entry, inside, rfl⟩ := List.mem_map.mp listed
    exact greatest entry inside ((names inside).mpr given)
  · rintro ⟨key, member, own, greatest⟩
    refine ⟨(key, value), ⟨member, (names member).mpr own, fun other listed given => ?_⟩, rfl⟩
    exact greatest other.1 (List.mem_map_of_mem listed) ((names listed).mp given)

end OrderedMap

namespace Shock

def Readable : Shock Float → Prop
  | positional values => ∀ x ∈ values, ReadsBack x
  | keyed vector => (vector.entries.map (·.1)).Nodup ∧ ∀ entry ∈ vector.entries, ReadsBack entry.2

theorem vector_of_json_to_json {vector : SectorVector Float}
    (distinct : (vector.entries.map (·.1)).Nodup) :
    SectorVector.ofJson vector.toJson = .ok vector := by
  have floats : ∀ entry ∈ vector.entries, asFloat (.float entry.2) = .ok entry.2 := fun _ _ => rfl
  have entries := members_kept id floats
  simp only [id_eq, Prod.mk.eta, List.map_id'] at entries
  refine (Outcome.bind_ok_iff _ _ _).mpr ⟨_, rfl, ?_⟩
  refine (Outcome.bind_ok_iff _ _ _).mpr ⟨_, entries, ?_⟩
  rw [(first_repeat_none_iff _).mpr distinct]
  rfl

theorem of_json_to_json {shock : Shock Float} (readable : shock.Readable) :
    ofJson shock.toJson = .ok shock := by
  cases shock with
  | positional values =>
      have read : (Json.arr (values.map .float)).asList asFloat = .ok values := as_floats values
      rw [toJson, ofJson, read]
  | keyed vector =>
      have single : vector.toJson.asList asFloat = .error .malformed := rfl
      rw [toJson, ofJson, single, vector_of_json_to_json readable.1]

theorem to_json_writable {shock : Shock Float} (readable : shock.Readable) (depth : Nat) :
    Writable (depth + 1) shock.toJson := by
  cases shock with
  | positional values =>
      refine .arr fun item member => ?_
      obtain ⟨x, given, rfl⟩ := List.mem_map.mp member
      exact .float depth (readable x given)
  | keyed vector =>
      refine .obj fun item member => ?_
      obtain ⟨entry, given, rfl⟩ := List.mem_map.mp member
      exact .float depth (readable.2 entry given)

end Shock

namespace OrderedMap

variable {β : Type}

def yearTexts (m : OrderedMap Int β) : OrderedMap String β :=
  ofList (m.entries.map fun entry => (toString entry.1, entry.2))

theorem texts_of_years_json {m : OrderedMap Int β} {encode : β → Json} {decode : Json → Decoded β}
    (each : ∀ entry ∈ m.entries, decode (encode entry.2) = .ok entry.2) :
    textsOfJson decode (m.yearsToJson encode) = .ok m.yearTexts := by
  have pairs := members_kept toString each
  refine (Outcome.bind_ok_iff _ _ _).mpr ⟨_, rfl, ?_⟩
  exact (Outcome.bind_ok_iff _ _ _).mpr ⟨_, pairs, rfl⟩

def Within (m : OrderedMap Int β) : Prop :=
  ∀ year ∈ m.keys, -(Nat.pow 2 31 : Int) ≤ year ∧ year < Nat.pow 2 31

section within

variable {m : OrderedMap Int β} (within : m.Within)

include within

theorem Within.year_of_text {year : Int} (listed : year ∈ m.keys) :
    Text.year? (toString year) = some year :=
  EconomicImpact.year_of_text (within year listed).1 (within year listed).2

theorem Within.texts_distinct :
    ((m.entries.map fun entry => (toString entry.1, entry.2)).map (·.1)).Nodup := by
  have texts : (m.keys.map toString).Nodup := by
    refine List.Nodup.map_on (fun a first b second same => ?_) m.keys_nodup
    have years := within.year_of_text first
    rw [same, within.year_of_text second] at years
    exact (Option.some.inj years).symm
  rw [keys, List.map_map] at texts
  rw [List.map_map]
  exact texts

theorem Within.mem_year_texts (key : String) (value : β) :
    (key, value) ∈ m.yearTexts.entries ↔ ∃ year, (year, value) ∈ m.entries ∧ toString year = key := by
  rw [yearTexts, ← get_eq_some_iff, get_of_list_distinct within.texts_distinct, List.mem_map]
  constructor
  · rintro ⟨⟨year, _⟩, member, same⟩
    cases same
    exact ⟨year, member, rfl⟩
  · rintro ⟨year, member, rfl⟩
    exact ⟨(year, value), member, rfl⟩

theorem years_of_year_texts : m.yearTexts.yearsOfTexts = .ok m := by
  have keys (key : String) : key ∈ m.yearTexts.keys ↔ ∃ year ∈ m.keys, toString year = key := by
    rw [yearTexts, mem_of_list_keys]
    simp only [keys, List.map_map, List.mem_map, Function.comp_apply, exists_exists_and_eq_and]
  have named : ∀ key ∈ m.yearTexts.keys, (Text.year? key).isSome = true := by
    intro key listed
    obtain ⟨year, member, rfl⟩ := (keys key).mp listed
    rw [within.year_of_text member]
    rfl
  obtain ⟨years, read⟩ := (years_of_texts_ok_iff _).mpr named
  have same (year : Int) : years.get? year = m.get? year := by
    refine Option.ext fun value => ?_
    rw [get_of_years read, get_eq_some_iff]
    constructor
    · rintro ⟨key, member, own, -⟩
      obtain ⟨other, given, rfl⟩ := (within.mem_year_texts key value).mp member
      have again : Text.year? (toString other) = some other :=
        within.year_of_text (List.mem_map_of_mem given)
      rw [again] at own
      cases own
      exact given
    · intro member
      have own : Text.year? (toString year) = some year :=
        within.year_of_text (List.mem_map_of_mem member)
      refine ⟨toString year, (within.mem_year_texts _ _).mpr ⟨year, member, rfl⟩, own, ?_⟩
      intro text listed given
      obtain ⟨other, inside, rfl⟩ := (keys text).mp listed
      rw [within.year_of_text inside] at given
      cases given
      exact le_refl _
  rw [read, ext_get same]

end within

end OrderedMap

section decoded

variable {β : Type} {decode : Json → Decoded β} {members : List (String × Json)}

def decodedMembers (decode : Json → Decoded β) (members : List (String × Json)) :
    List (String × β) :=
  members.filterMap fun member => (decode member.2).toOption.map (member.1, ·)

theorem mem_decoded_iff (key : String) (value : β) :
    (key, value) ∈ decodedMembers decode members ↔
      ∃ json, (key, json) ∈ members ∧ decode json = .ok value := by
  rw [decodedMembers, List.mem_filterMap]
  constructor
  · rintro ⟨⟨name, json⟩, member, image⟩
    obtain ⟨found, read, same⟩ := Option.map_eq_some_iff.mp image
    cases same
    refine ⟨json, member, ?_⟩
    cases outcome : decode json with
    | ok a =>
        rw [outcome] at read
        cases read
        rfl
    | error fault =>
        rw [outcome] at read
        cases read
  · rintro ⟨json, member, read⟩
    exact ⟨(key, json), member, by rw [read]; rfl⟩

theorem decoded_cons {member : String × Json} {value : β} (read : decode member.2 = .ok value)
    (rest : List (String × Json)) :
    decodedMembers decode (member :: rest) = (member.1, value) :: decodedMembers decode rest := by
  rw [decodedMembers, List.filterMap_cons, read]
  rfl

section valid

variable (valid : ∀ member ∈ members, ∃ value, decode member.2 = .ok value)

include valid

theorem decoded_names : (decodedMembers decode members).map (·.1) = members.map (·.1) := by
  induction members with
  | nil => rfl
  | cons member rest ih =>
      obtain ⟨value, read⟩ := valid member List.mem_cons_self
      rw [decoded_cons read, List.map_cons, List.map_cons,
        ih fun other listed => valid other (List.mem_cons_of_mem _ listed)]

theorem texts_of_members :
    OrderedMap.textsOfJson decode (.obj members) = .ok (.ofList (decodedMembers decode members)) := by
  have pairs : (members.mapM fun member => do return (member.1, ← decode member.2)) =
      .ok (decodedMembers decode members) := by
    induction members with
    | nil => rfl
    | cons member rest ih =>
        obtain ⟨value, read⟩ := valid member List.mem_cons_self
        rw [List.mapM_cons, ih fun other listed => valid other (List.mem_cons_of_mem _ listed),
          decoded_cons read, read]
        rfl
  refine (Outcome.bind_ok_iff _ _ _).mpr ⟨_, rfl, ?_⟩
  exact (Outcome.bind_ok_iff _ _ _).mpr ⟨_, pairs, rfl⟩

end valid

theorem texts_of_json_iff {j : Json} {m : OrderedMap String β} :
    OrderedMap.textsOfJson decode j = .ok m ↔ ∃ members, j = .obj members ∧
      (∀ member ∈ members, ∃ value, decode member.2 = .ok value) ∧
      m = .ofList (decodedMembers decode members) := by
  constructor
  · intro read
    obtain ⟨members, given, pairs⟩ := (Outcome.bind_ok_iff _ _ _).mp read
    obtain ⟨entries, each, -⟩ := (Outcome.bind_ok_iff _ _ _).mp pairs
    have object : j = .obj members := by
      cases j <;> cases given
      rfl
    subst object
    have valid : ∀ member ∈ members, ∃ value, decode member.2 = .ok value := by
      intro member listed
      obtain ⟨entry, -, own⟩ := Outcome.mapM_ok_input _ _ _ each member listed
      obtain ⟨value, own, -⟩ := (Outcome.bind_ok_iff _ _ _).mp own
      exact ⟨value, own⟩
    rw [texts_of_members valid] at read
    cases read
    exact ⟨members, rfl, valid, rfl⟩
  · rintro ⟨members, rfl, valid, rfl⟩
    exact texts_of_members valid

theorem decoded_keys_iff (valid : ∀ member ∈ members, ∃ value, decode member.2 = .ok value)
    (p : String → Prop) :
    (∀ key ∈ (OrderedMap.ofList (decodedMembers decode members)).keys, p key) ↔
      ∀ member ∈ members, p member.1 := by
  simp only [OrderedMap.mem_of_list_keys, decoded_names valid, List.forall_mem_map]

end decoded

namespace Schedule

def reload (s : Schedule Float) : Option (Decoded (Schedule Float)) :=
  (parse? s.toJson.compact).map ofJson

structure Readable (s : Schedule Float) : Prop where
  shockYears : s.shocks.Within
  deflatorYears : s.deflators.Within
  shocks : ∀ entry ∈ s.shocks.entries, entry.2.Readable
  deflators : ∀ entry ∈ s.deflators.entries, ReadsBack entry.2

theorem of_json_to_json {s : Schedule Float} (readable : s.Readable) : ofJson s.toJson = .ok s := by
  have shocks : OrderedMap.textsOfJson Shock.ofJson (s.shocks.yearsToJson Shock.toJson) =
      .ok s.shocks.yearTexts :=
    OrderedMap.texts_of_years_json fun entry member =>
      Shock.of_json_to_json (readable.shocks entry member)
  have deflators : OrderedMap.textsOfJson asFloat (s.deflators.yearsToJson .float) =
      .ok s.deflators.yearTexts :=
    OrderedMap.texts_of_years_json fun _ _ => rfl
  have record : recordOfJson s.toJson = .ok ⟨s.shocks.yearTexts, s.deflators.yearTexts⟩ := by
    refine (Outcome.bind_ok_iff _ _ _).mpr ⟨_, rfl, ?_⟩
    refine (Outcome.bind_ok_iff _ _ _).mpr ⟨_, shocks, ?_⟩
    exact (Outcome.bind_ok_iff _ _ _).mpr ⟨_, deflators, rfl⟩
  have texts : textsOfJson s.toJson = .ok ⟨s.shocks.yearTexts, s.deflators.yearTexts⟩ := by
    rw [textsOfJson, record]
  refine (Outcome.bind_ok_iff _ _ _).mpr ⟨_, texts, ?_⟩
  refine (Outcome.bind_ok_iff _ _ _).mpr
    ⟨_, OrderedMap.years_of_year_texts readable.shockYears, ?_⟩
  exact (Outcome.bind_ok_iff _ _ _).mpr
    ⟨_, OrderedMap.years_of_year_texts readable.deflatorYears, rfl⟩

theorem to_json_writable {s : Schedule Float} (readable : s.Readable) (depth : Nat) :
    Writable (depth + 3) s.toJson := by
  refine .obj fun member listed => ?_
  simp only [List.mem_cons, List.not_mem_nil, or_false] at listed
  rcases listed with rfl | rfl
  · refine .obj fun item member => ?_
    obtain ⟨entry, given, rfl⟩ := List.mem_map.mp member
    exact Shock.to_json_writable (readable.shocks entry given) depth
  · refine .obj fun item member => ?_
    obtain ⟨entry, given, rfl⟩ := List.mem_map.mp member
    exact .float _ (readable.deflators entry given)

theorem reload_eq {s : Schedule Float} (readable : s.Readable) : s.reload = some (.ok s) := by
  rw [reload, parse_compact (to_json_writable readable 124), Option.map_some,
    of_json_to_json readable]

theorem of_json_texts {j : Json} {shocks : OrderedMap String (Shock Float)}
    (read : textsOfJson j = .ok ⟨shocks, .empty⟩) :
    ofJson j = shocks.yearsOfTexts.map (⟨·, .empty⟩) := by
  rw [ofJson, read]
  change (shocks.yearsOfTexts >>= fun years =>
    (OrderedMap.empty : OrderedMap String Float).yearsOfTexts >>= fun deflators =>
      (.ok (Schedule.mk years deflators) : Decoded (Schedule Float))) = _
  cases shocks.yearsOfTexts <;> rfl

theorem number_is_no_shock {j : Json} {x : Float} (number : j.asFloat = .ok x) (shock : Shock Float) :
    Shock.ofJson j ≠ .ok shock := by
  cases j with
  | int n => exact fun read => nomatch read
  | float y => exact fun read => nomatch read
  | _ => cases number

theorem numbers_of_shock {members : List (String × Json)} {shock : Shock Float}
    (read : Shock.ofJson (.obj members) = .ok shock) :
    ∀ member ∈ members, ∃ x, member.2.asFloat = .ok x := by
  have single : (Json.obj members).asList asFloat = .error .malformed := rfl
  rw [Shock.ofJson, single] at read
  cases keyed : SectorVector.ofJson (.obj members) with
  | error fault =>
      rw [keyed] at read
      cases read
  | ok vector =>
      obtain ⟨given, same, keyed⟩ := (Outcome.bind_ok_iff _ _ _).mp keyed
      cases same
      obtain ⟨entries, numbers, -⟩ := (Outcome.bind_ok_iff _ _ _).mp keyed
      intro member listed
      obtain ⟨entry, -, number⟩ := Outcome.mapM_ok_input _ _ _ numbers member listed
      obtain ⟨x, number, -⟩ := (Outcome.bind_ok_iff _ _ _).mp number
      exact ⟨x, number⟩

-- A shock is no number, so what is both a shock and an object of shocks is empty.
theorem shocks_of_shock {j : Json} {shocks : OrderedMap String (Shock Float)}
    (single : ∃ shock, Shock.ofJson j = .ok shock)
    (several : OrderedMap.textsOfJson Shock.ofJson j = .ok shocks) : j = .obj [] ∧ shocks = .empty := by
  obtain ⟨members, rfl, each, rfl⟩ := texts_of_json_iff.mp several
  cases members with
  | nil => exact ⟨rfl, rfl⟩
  | cons member rest =>
      obtain ⟨shock, single⟩ := single
      obtain ⟨x, number⟩ := numbers_of_shock single member List.mem_cons_self
      obtain ⟨value, own⟩ := each member List.mem_cons_self
      exact absurd own (number_is_no_shock number value)

section shapes

variable {members : List (String × Json)}
  (valid : ∀ member ∈ members, ∃ shock, Shock.ofJson member.2 = .ok shock)

include valid

theorem of_json_field :
    ofJson (.obj [("shocks", .obj members)]) =
      (OrderedMap.ofList (decodedMembers Shock.ofJson members)).yearsOfTexts.map (⟨·, .empty⟩) := by
  have record : recordOfJson (.obj [("shocks", .obj members)]) =
      .ok ⟨.ofList (decodedMembers Shock.ofJson members), .empty⟩ := by
    refine (Outcome.bind_ok_iff _ _ _).mpr ⟨_, rfl, ?_⟩
    refine (Outcome.bind_ok_iff _ _ _).mpr ⟨_, texts_of_members valid, ?_⟩
    exact (Outcome.bind_ok_iff _ _ _).mpr ⟨_, rfl, rfl⟩
  exact of_json_texts (by rw [textsOfJson, record])

theorem record_of_shocks {texts : Texts} (read : recordOfJson (.obj members) = .ok texts) :
    ("shocks", .obj []) ∈ members ∧ texts.shocks = .empty := by
  obtain ⟨fields, named, read⟩ := (Outcome.bind_ok_iff _ _ _).mp read
  obtain ⟨shocks, listed, read⟩ := (Outcome.bind_ok_iff _ _ _).mp read
  obtain ⟨deflators, -, read⟩ := (Outcome.bind_ok_iff _ _ _).mp read
  cases read
  cases as_object_ok named
  unfold Fields.required at listed
  split at listed
  · rename_i j given
    obtain ⟨entry, found, rfl⟩ := Option.map_eq_some_iff.mp given
    have member := List.mem_of_find?_eq_some found
    have named := List.find?_some found
    have name : entry.1 = "shocks" := eq_of_beq named
    obtain ⟨empty, none⟩ := shocks_of_shock (valid entry member) listed
    exact ⟨name ▸ empty ▸ member, none⟩
  · cases listed

theorem of_json_bare (other : ("shocks", .obj []) ∉ members) :
    ofJson (.obj members) = ofJson (.obj [("shocks", .obj members)]) := by
  have bare : bareOfJson (.obj members) =
      .ok ⟨.ofList (decodedMembers Shock.ofJson members), .empty⟩ :=
    (Outcome.bind_ok_iff _ _ _).mpr ⟨_, texts_of_members valid, rfl⟩
  have texts : textsOfJson (.obj members) =
      .ok ⟨.ofList (decodedMembers Shock.ofJson members), .empty⟩ := by
    rw [textsOfJson, bare]
    cases read : recordOfJson (.obj members) with
    | ok texts => exact absurd (record_of_shocks valid read).1 other
    | error fault => rfl
  rw [of_json_field valid, of_json_texts texts]

section given

variable (given : ("shocks", .obj []) ∈ members)

include given

-- The name is no year, so only the record is left to read.
theorem record_of_empty_field {s : Schedule Float} (read : ofJson (.obj members) = .ok s) :
    ∃ texts, recordOfJson (.obj members) = .ok texts ∧ texts.shocks.yearsOfTexts = .ok s.shocks ∧
      texts.deflators.yearsOfTexts = .ok s.deflators := by
  obtain ⟨texts, found, read⟩ := (Outcome.bind_ok_iff _ _ _).mp read
  obtain ⟨years, named, read⟩ := (Outcome.bind_ok_iff _ _ _).mp read
  obtain ⟨deflators, rated, read⟩ := (Outcome.bind_ok_iff _ _ _).mp read
  cases read
  unfold textsOfJson at found
  split at found
  · rename_i record
    cases found
    exact ⟨texts, record, named, rated⟩
  · cases found
    obtain ⟨shocks, listed, same⟩ := (Outcome.bind_ok_iff _ _ _).mp
      (‹_› : bareOfJson (.obj members) = .ok texts)
    rw [texts_of_members valid] at listed
    cases listed
    cases same
    have keys := (decoded_keys_iff valid _).mp (OrderedMap.years_of_texts_named named)
    exact absurd (keys _ given) (by decide)
  · cases found

theorem of_json_empty_field (s : Schedule Float) (read : ofJson (.obj members) = .ok s) :
    s.shocks = .empty := by
  obtain ⟨texts, record, named, -⟩ := record_of_empty_field valid given read
  rw [(record_of_shocks valid record).2] at named
  exact (Except.ok.inj named).symm

theorem empty_field_accepted_iff (distinct : (members.map (·.1)).Nodup) :
    (∃ s, ofJson (.obj members) = .ok s) ↔
      ∀ json, ("deflators", json) ∈ members → ∃ rates, json = .obj rates ∧
        ∀ rate ∈ rates, (Text.year? rate.1).isSome = true := by
  constructor
  · rintro ⟨s, read⟩ json member
    obtain ⟨texts, record, -, named⟩ := record_of_empty_field valid given read
    obtain ⟨fields, own, record⟩ := (Outcome.bind_ok_iff _ _ _).mp record
    obtain ⟨shocks, -, record⟩ := (Outcome.bind_ok_iff _ _ _).mp record
    obtain ⟨deflators, rated, record⟩ := (Outcome.bind_ok_iff _ _ _).mp record
    cases record
    cases as_object_ok own
    rw [Fields.withDefault, (Fields.get_iff distinct _ _).mpr member] at rated
    obtain ⟨rates, rfl, numbers, rfl⟩ := texts_of_json_iff.mp rated
    exact ⟨rates, rfl, (decoded_keys_iff numbers _).mp (OrderedMap.years_of_texts_named named)⟩
  · intro rated
    have shocks : Fields.required ⟨members⟩ "shocks" (OrderedMap.textsOfJson Shock.ofJson) =
        .ok .empty := by
      rw [Fields.required, (Fields.get_iff distinct _ _).mpr given]
      rfl
    have deflators : ∃ deflators,
        Fields.withDefault ⟨members⟩ "deflators" .empty (OrderedMap.textsOfJson asFloat) =
          .ok deflators ∧ ∀ key ∈ deflators.keys, (Text.year? key).isSome = true := by
      unfold Fields.withDefault
      cases found : Fields.get? ⟨members⟩ "deflators" with
      | none => exact ⟨.empty, rfl, fun key listed => nomatch listed⟩
      | some json =>
          have member := (Fields.get_iff distinct _ _).mp found
          obtain ⟨rates, rfl, years⟩ := rated json member
          obtain ⟨shock, single⟩ := valid _ member
          have numbers := numbers_of_shock single
          exact ⟨_, texts_of_members numbers, (decoded_keys_iff numbers _).mpr years⟩
    obtain ⟨deflators, rates, named⟩ := deflators
    obtain ⟨years, read⟩ := (OrderedMap.years_of_texts_ok_iff _).mpr named
    have record : recordOfJson (.obj members) = .ok ⟨.empty, deflators⟩ := by
      refine (Outcome.bind_ok_iff _ _ _).mpr ⟨_, as_object_distinct distinct _, ?_⟩
      refine (Outcome.bind_ok_iff _ _ _).mpr ⟨_, shocks, ?_⟩
      exact (Outcome.bind_ok_iff _ _ _).mpr ⟨_, rates, rfl⟩
    have texts : textsOfJson (.obj members) = .ok ⟨.empty, deflators⟩ := by
      rw [textsOfJson, record]
    refine ⟨⟨.empty, years⟩, (Outcome.bind_ok_iff _ _ _).mpr ⟨_, texts, ?_⟩⟩
    refine (Outcome.bind_ok_iff _ _ _).mpr ⟨.empty, rfl, ?_⟩
    exact (Outcome.bind_ok_iff _ _ _).mpr ⟨_, read, rfl⟩

end given

theorem field_accepted_iff :
    (∃ s, ofJson (.obj [("shocks", .obj members)]) = .ok s) ↔
      ∀ member ∈ members, (Text.year? member.1).isSome = true := by
  rw [of_json_field valid, ← decoded_keys_iff valid fun key => (Text.year? key).isSome = true,
    ← OrderedMap.years_of_texts_ok_iff]
  simp [Outcome.map_ok_iff]

variable (distinct : (members.map (·.1)).Nodup)

include distinct

theorem field_shocks {s : Schedule Float}
    (read : ofJson (.obj [("shocks", .obj members)]) = .ok s) (year : Int) (shock : Shock Float) :
    s.shocks.get? year = some shock ↔ ∃ key json, (key, json) ∈ members ∧
      Shock.ofJson json = .ok shock ∧ Text.year? key = some year ∧
      ∀ other ∈ members, Text.year? other.1 = some year → other.1 ≤ key := by
  have names : ((decodedMembers Shock.ofJson members).map (·.1)).Nodup := by
    rw [decoded_names valid]
    exact distinct
  have entry (key : String) (value : Shock Float) :
      (key, value) ∈ (OrderedMap.ofList (decodedMembers Shock.ofJson members)).entries ↔
        ∃ json, (key, json) ∈ members ∧ Shock.ofJson json = .ok value := by
    rw [← OrderedMap.get_eq_some_iff, OrderedMap.get_of_list_distinct names, mem_decoded_iff]
  rw [of_json_field valid] at read
  obtain ⟨years, named, rfl⟩ := (Outcome.map_ok_iff _ _ _).mp read
  rw [OrderedMap.get_of_years named]
  simp only [entry, decoded_keys_iff valid]
  constructor
  · rintro ⟨key, ⟨json, member, shocked⟩, own, greatest⟩
    exact ⟨key, json, member, shocked, own, greatest⟩
  · rintro ⟨key, json, member, shocked, own, greatest⟩
    exact ⟨key, ⟨json, member, shocked⟩, own, greatest⟩

theorem field_order_immaterial {others : List (String × Json)} (perm : others.Perm members) :
    ofJson (.obj [("shocks", .obj others)]) = ofJson (.obj [("shocks", .obj members)]) := by
  have names : ((decodedMembers Shock.ofJson members).map (·.1)).Nodup := by
    rw [decoded_names valid]
    exact distinct
  have alike : (decodedMembers Shock.ofJson members).Perm (decodedMembers Shock.ofJson others) :=
    perm.symm.filterMap _
  rw [of_json_field valid, of_json_field fun member listed => valid member (perm.subset listed),
    OrderedMap.of_list_perm names alike]

end shapes

-- How an object of shocks is read, as the shocks of a record and by itself. By itself it is taken as a record if it
-- can be one, and it can be one only with an empty object under the name of the shocks.
structure ReadAlike (members : List (String × Json)) : Prop where
  accepted : (∃ s, ofJson (.obj [("shocks", .obj members)]) = .ok s) ↔
    ∀ member ∈ members, (Text.year? member.1).isSome = true
  bare : ("shocks", .obj []) ∉ members →
    ofJson (.obj members) = ofJson (.obj [("shocks", .obj members)])
  record : ("shocks", .obj []) ∈ members →
    ∀ s, ofJson (.obj members) = .ok s → s.shocks = .empty
  rates : (members.map (·.1)).Nodup → ("shocks", .obj []) ∈ members →
    ((∃ s, ofJson (.obj members) = .ok s) ↔
      ∀ json, ("deflators", json) ∈ members → ∃ rates, json = .obj rates ∧
        ∀ rate ∈ rates, (Text.year? rate.1).isSome = true)
  nominal : ∀ s, ofJson (.obj [("shocks", .obj members)]) = .ok s → s.deflators = .empty
  greatest : (members.map (·.1)).Nodup → ∀ s, ofJson (.obj [("shocks", .obj members)]) = .ok s →
    ∀ year shock, s.shocks.get? year = some shock ↔ ∃ key json, (key, json) ∈ members ∧
      Shock.ofJson json = .ok shock ∧ Text.year? key = some year ∧
      ∀ other ∈ members, Text.year? other.1 = some year → other.1 ≤ key
  order : (members.map (·.1)).Nodup → ∀ others : List (String × Json), others.Perm members →
    ofJson (.obj [("shocks", .obj others)]) = ofJson (.obj [("shocks", .obj members)])

theorem schedules_read_back :
    (∀ s : Schedule Float, s.Readable → s.reload = some (.ok s)) ∧
    ∀ members : List (String × Json),
      (∀ member ∈ members, ∃ shock, Shock.ofJson member.2 = .ok shock) → ReadAlike members := by
  refine ⟨fun s readable => reload_eq readable, fun members valid => ?_⟩
  exact {
    accepted := field_accepted_iff valid
    bare := of_json_bare valid
    record := of_json_empty_field valid
    rates := fun distinct given => empty_field_accepted_iff valid given distinct
    nominal := fun s read => by
      rw [of_json_field valid] at read
      obtain ⟨years, -, rfl⟩ := (Outcome.map_ok_iff _ _ _).mp read
      rfl
    greatest := fun distinct s read => field_shocks valid distinct read
    order := fun distinct others perm => field_order_immaterial valid distinct perm }

theorem empty_field_read_as_record :
    ∃ members s, (∀ member ∈ members, ∃ shock, Shock.ofJson member.2 = .ok shock) ∧
      ofJson (.obj members) = .ok s ∧ ¬∀ member ∈ members, (Text.year? member.1).isSome = true := by
  refine ⟨[("shocks", .obj [])], ⟨.empty, .empty⟩, ?_, rfl, ?_⟩
  · intro member listed
    rw [List.mem_singleton.mp listed]
    exact ⟨.keyed ⟨[]⟩, rfl⟩
  · intro years
    exact absurd (years _ List.mem_cons_self) (by decide)

def mixedShocks : Schedule Float where
  shocks := ⟨[(-3, .keyed ⟨[("S1", 4), ("S2", -0.5)]⟩), (2026, .positional [1.5, 0]),
    (2030, .positional [])], by decide⟩
  deflators := ⟨[(2026, 1.25)], by decide⟩

def collidingYears : List (String × Json) :=
  [("+2026", .arr [.float 2]), (" 2030 ", .obj []), ("2026", .arr [.float 1.5])]

theorem mixed_shocks_readable : mixedShocks.Readable where
  shockYears := (by decide : ∀ year ∈ ([-3, 2026, 2030] : List Int),
    -(Nat.pow 2 31 : Int) ≤ year ∧ year < Nat.pow 2 31)
  deflatorYears := (by decide : ∀ year ∈ ([2026] : List Int),
    -(Nat.pow 2 31 : Int) ≤ year ∧ year < Nat.pow 2 31)
  shocks := by
    intro entry listed
    simp only [mixedShocks, List.mem_cons, List.not_mem_nil, or_false] at listed
    rcases listed with rfl | rfl | rfl
    · refine ⟨by decide, fun entry listed => ?_⟩
      simp only [List.mem_cons, List.not_mem_nil, or_false] at listed
      rcases listed with rfl | rfl
      · exact (rfl : parse? (floatText 4) = some (.float 4))
      · exact (rfl : parse? (floatText (-0.5)) = some (.float (-0.5)))
    · intro x listed
      simp only [List.mem_cons, List.not_mem_nil, or_false] at listed
      rcases listed with rfl | rfl
      · exact (rfl : parse? (floatText 1.5) = some (.float 1.5))
      · exact (rfl : parse? (floatText 0) = some (.float 0))
    · exact List.forall_mem_nil _
  deflators := by
    intro entry listed
    rw [List.mem_singleton.mp listed]
    exact (rfl : parse? (floatText 1.25) = some (.float 1.25))

theorem colliding_years_read :
    mixedShocks.reload = some (.ok mixedShocks) ∧
      ∃ s, ofJson (.obj collidingYears) = .ok s ∧
        s.shocks.get? 2026 = some (.positional [1.5]) := by
  refine ⟨schedules_read_back.1 mixedShocks mixed_shocks_readable, ?_⟩
  have valid : ∀ member ∈ collidingYears, ∃ shock, Shock.ofJson member.2 = .ok shock := by
    intro member listed
    simp only [collidingYears, List.mem_cons, List.not_mem_nil, or_false] at listed
    rcases listed with rfl | rfl | rfl
    · exact ⟨.positional [2], rfl⟩
    · exact ⟨.keyed ⟨[]⟩, rfl⟩
    · exact ⟨.positional [1.5], rfl⟩
  have alike := schedules_read_back.2 collidingYears valid
  have years : ∀ key ∈ collidingYears.map (·.1), (Text.year? key).isSome = true := by decide
  obtain ⟨s, read⟩ := alike.accepted.mpr (List.forall_mem_map.mp years)
  have other : ("shocks", .obj []) ∉ collidingYears := by
    simp [collidingYears]
  refine ⟨s, (alike.bare other).trans read, ?_⟩
  have greatest : ∀ key ∈ collidingYears.map (·.1), Text.year? key = some 2026 → key ≤ "2026" := by
    decide
  refine (alike.greatest (by decide) s read 2026 _).mpr
    ⟨"2026", .arr [.float 1.5], ?_, rfl, by decide, List.forall_mem_map.mp greatest⟩
  simp [collidingYears]

end Schedule

end EconomicImpact
