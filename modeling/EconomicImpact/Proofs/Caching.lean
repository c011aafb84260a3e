import Mathlib
import EconomicImpact.Caching

set_option autoImplicit false

namespace EconomicImpact

section cache

variable {κ ν : Type} [BEq κ] [Hashable κ]

namespace LruCache

def Faithful (valid : κ → ν → Prop) (c : LruCache κ ν) : Prop :=
  ∀ key value, c.entries[key]? = some value → valid key value

variable {valid : κ → ν → Prop}

theorem empty_faithful (capacity : Nat) : (empty capacity : LruCache κ ν).Faithful valid := by
  intro key value kept
  simp [empty] at kept

theorem lookup_value (c : LruCache κ ν) (key : κ) : (c.lookup key).1 = c.entries[key]? := by
  unfold lookup get
  cases kept : c.entries[key]? <;> rfl

theorem lookup_entries (c : LruCache κ ν) (key : κ) : (c.lookup key).2.entries = c.entries := by
  unfold lookup get
  cases kept : c.entries[key]? <;> rfl

variable [LawfulBEq κ] [LawfulHashable κ]

theorem erase_all_entries (excess : List κ) (entries : Std.HashMap κ ν) (key : κ) (value : ν)
    (kept : (excess.foldl (fun entries key => entries.erase key) entries)[key]? = some value) :
    entries[key]? = some value := by
  induction excess generalizing entries with
  | nil => exact kept
  | cons given rest ih =>
      have before := ih (entries.erase given) kept
      rw [Std.HashMap.getElem?_erase] at before
      by_cases same : (given == key) = true
      · rw [if_pos same] at before
        cases before
      · rwa [if_neg same] at before

theorem insert_faithful (c : LruCache κ ν) (faithful : c.Faithful valid) (key : κ) (value : ν)
    (fits : valid key value) : (c.insert key value).Faithful valid := by
  have written : ∀ other found, (c.entries.insert key value)[other]? = some found →
      valid other found := by
    intro other found kept
    rw [Std.HashMap.getElem?_insert] at kept
    by_cases same : (key == other) = true
    · rw [if_pos same] at kept
      cases kept
      rwa [← eq_of_beq same]
    · rw [if_neg same] at kept
      exact faithful other found kept
  unfold insert
  by_cases closed : c.capacity = 0
  · rwa [if_pos closed]
  · rw [if_neg closed]
    by_cases present : c.entries.contains key = true
    · rw [if_pos present]
      exact written
    · rw [if_neg present]
      intro other found kept
      exact written other found (erase_all_entries _ _ other found kept)

end LruCache

end cache

namespace Caching

variable {κ ν β γ : Type}

def alone : Caching κ ν β → β
  | done result => result
  | lookup _ next => (next none).alone
  | insert _ _ next => next.alone

-- The result is the same whatever valid values are found, and only valid values are kept.
def Yields (valid : κ → ν → Prop) (result : β) : Caching κ ν β → Prop
  | done other => other = result
  | lookup key next =>
    (∀ value, valid key value → Yields valid result (next (some value))) ∧
      Yields valid result (next none)
  | insert key value next => valid key value ∧ Yields valid result next

def Transparent (valid : κ → ν → Prop) (computation : Caching κ ν β) : Prop :=
  Yields valid computation.alone computation

variable {valid : κ → ν → Prop}

theorem alone_bind (computation : Caching κ ν β) (next : β → Caching κ ν γ) :
    (computation.bind next).alone = (next computation.alone).alone := by
  induction computation with
  | done result => rfl
  | lookup key found ih => exact ih none
  | insert key value rest ih => exact ih

theorem yields_bind (computation : Caching κ ν β) (next : β → Caching κ ν γ) (first : β)
    (second : γ) (yields : Yields valid first computation)
    (continued : Yields valid second (next first)) :
    Yields valid second (computation.bind next) := by
  induction computation with
  | done result =>
      cases yields
      exact continued
  | lookup key found ih =>
      exact ⟨fun value fits => ih (some value) (yields.1 value fits), ih none yields.2⟩
  | insert key value rest ih => exact ⟨yields.1, ih yields.2⟩

theorem transparent_bind (computation : Caching κ ν β) (next : β → Caching κ ν γ)
    (first : Transparent valid computation)
    (later : Transparent valid (next computation.alone)) :
    Transparent valid (computation.bind next) := by
  rw [Transparent, alone_bind]
  exact yields_bind computation next _ _ first later

theorem load_alone {ε : Type} (key : κ) (compute : Unit → Except ε ν) :
    alone (load key compute) = compute () := by
  unfold load
  simp only [alone]
  cases compute () <;> rfl

-- A load is blind to the cache if nothing but its own value is valid for the key.
theorem load_transparent {ε : Type} (key : κ) (compute : Unit → Except ε ν)
    (own : ∀ value, valid key value ↔ compute () = .ok value) :
    Transparent valid (load key compute : Caching κ ν (Except ε ν)) := by
  rw [Transparent, load_alone]
  refine ⟨fun value fits => ((own value).mp fits).symm, ?_⟩
  cases computed : compute () with
  | ok value => exact ⟨(own value).mpr computed, rfl⟩
  | error fault => exact rfl

section run

variable [BEq κ] [Hashable κ]

theorem run_lookup (c : LruCache κ ν) (key : κ) (next : Option ν → Caching κ ν β) :
    (lookup key next).run c = (next (c.lookup key).1).run (c.lookup key).2 := rfl

theorem run_of_yields [LawfulBEq κ] [LawfulHashable κ] (computation : Caching κ ν β) (result : β)
    (c : LruCache κ ν) (faithful : c.Faithful valid) (yields : Yields valid result computation) :
    (computation.run c).1 = result ∧ (computation.run c).2.Faithful valid := by
  induction computation generalizing c with
  | done other =>
      cases yields
      exact ⟨rfl, faithful⟩
  | lookup key next ih =>
      have found := c.lookup_value key
      have kept : (c.lookup key).2.Faithful valid := by
        rw [LruCache.Faithful, c.lookup_entries key]
        exact faithful
      rw [run_lookup]
      cases value : (c.lookup key).1 with
      | none => exact ih none _ kept yields.2
      | some v =>
          have fits := faithful key v (found ▸ value)
          exact ih (some v) _ kept (yields.1 v fits)
  | insert key value next ih =>
      exact ih _ (c.insert_faithful faithful key value yields.1) yields.2

theorem run_all_alone [LawfulBEq κ] [LawfulHashable κ] (tasks : List (Caching κ ν β))
    (c : LruCache κ ν) (faithful : c.Faithful valid)
    (transparent : ∀ task ∈ tasks, task.Transparent valid) :
    (runAll c tasks).1 = tasks.map alone := by
  induction tasks generalizing c with
  | nil => rfl
  | cons task rest ih =>
      obtain ⟨own, others⟩ := List.forall_mem_cons.mp transparent
      obtain ⟨result, kept⟩ := run_of_yields task _ c faithful own
      exact congrArg₂ List.cons result (ih _ kept others)

end run

theorem bind_done (computation : Caching κ ν β) : computation.bind done = computation := by
  induction computation with
  | done result => rfl
  | lookup key next ih => exact congrArg (lookup key) (funext ih)
  | insert key value next ih => exact congrArg (insert key value) ih

theorem bind_assoc {δ : Type} (computation : Caching κ ν β) (f : β → Caching κ ν γ)
    (g : γ → Caching κ ν δ) :
    (computation.bind f).bind g = computation.bind fun b => (f b).bind g := by
  induction computation with
  | done result => rfl
  | lookup key next ih => exact congrArg (lookup key) (funext ih)
  | insert key value next ih => exact congrArg (insert key value) ih

instance : LawfulMonad (Caching κ ν) :=
  LawfulMonad.mk' (Caching κ ν) bind_done (fun _ _ => rfl) bind_assoc

end Caching

end EconomicImpact
